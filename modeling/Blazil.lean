import Blazil.Transport.RetryProperties
import Blazil.Sharding.ConcurrentExecute
import Blazil.Transport.TransportAgreement
import Blazil.Payments.AccountResolution
import Blazil.Payments.ProcessorProperties
import Blazil.Payments.TransferClient
import Blazil.Crypto.Deposits
import Blazil.Crypto.WithdrawalAtomicity
import Blazil.Crypto.InternalTransfers
import Blazil.Crypto.EngineClient
import Blazil.Crypto.PlatformProperties
import Blazil.Banking.ClosingProperties
import Blazil.Trading.OrderService
import Blazil.Audit.Log
import Blazil.Gateway.Invoices
import Blazil.Gateway.Shutdown
import Blazil.Ledger.TwoPhaseTransfers
import Blazil.Trading.CancellationProperties
import Blazil.Engine.Backpressure
import Blazil.Engine.GenericRingBufferProperties
import Blazil.Engine.LedgerRetries
import Blazil.Engine.PublishHandler
import Blazil.Inference.ModelRegistryProperties
import Blazil.Engine.ResultRing
import Blazil.Ledger.LedgerBalance
import Blazil.Ledger.Convert
import Blazil.Transport.AeronResponseIds
import Blazil.Transport.UdpServer
import Blazil.Common.Timestamp
import Blazil.Transport.AfXdp
import Blazil.Transport.Framing
import Blazil.Transport.TokenBucket
import Blazil.Sharding.JumpHash
import Blazil.Payments.RailsProperties
import Blazil.Trading.ProcessRestarts
import Blazil.Risk.Engine
import Blazil.Trading.AverageCostProperties
import Blazil.Metering.Recording
import Blazil.Inference.ActivationFeed
import Blazil.Inference.DecodePosition
import Blazil.Dataloader.Shards
import Blazil.Media.EndpointLoop
import Blazil.Media.LanguagePolicy
import Blazil.Screening.Sar

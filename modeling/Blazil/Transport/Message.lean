import Blazil.Foundation.NamedFields
import Blazil.Transport.Connection

/-! Requests and responses as messages (`core/transport/src/protocol.rs`), with MessagePack
taken to carry named fields. Every field of a request is required. -/

set_option autoImplicit false

namespace Blazil.Transport

open Blazil.Common Foundation

def TransactionRequest.fields : List (String × Kind) :=
  [("request_id", .text), ("debit_account_id", .text), ("credit_account_id", .text),
    ("amount", .text), ("currency", .text), ("ledger_id", .unsigned 32), ("code", .unsigned 16),
    ("flags", .unsigned 8), ("pending_transfer_id", .text)]

def requestOf (message : Message) : TransactionRequest where
  requestId := Message.textOf message "request_id"
  debitAccountId := Message.textOf message "debit_account_id"
  creditAccountId := Message.textOf message "credit_account_id"
  amount := Message.textOf message "amount"
  currency := Message.textOf message "currency"
  ledgerId := .ofNat (Message.numberOf message "ledger_id")
  code := .ofNat (Message.numberOf message "code")
  flags := .ofNat (Message.numberOf message "flags")
  pendingTransferId := Message.textOf message "pending_transfer_id"

def deserializeRequest (message : Message) : BlazerResult TransactionRequest :=
  match Message.check TransactionRequest.fields message with
  | .error cause =>
    .error (.transport ("request deserialization failed: " ++ cause.message))
  | .ok () => .ok (requestOf message)

def optionalText : Option String → Datum
  | none => .null
  | some text => .text text

def serializeResponse (response : TransactionResponse) (timestampNs : UInt64) : Message :=
  [("request_id", .text response.requestId), ("committed", .bool response.committed),
    ("transfer_id", optionalText response.transferId), ("error", optionalText response.error),
    ("timestamp_ns", .int timestampNs.toNat)]

/-- How a connection answers one frame; what it does with a request is left open. -/
def answer (process : TransactionRequest → TransactionResponse) (timestampNs : UInt64) (message : Message) : Message :=
  match deserializeRequest message with
  | .error cause => serializeResponse (errorResponse "" cause) timestampNs
  | .ok request => serializeResponse (process request) timestampNs

theorem answer_refused {process timestampNs message cause} (refused : deserializeRequest message = .error cause) :
    answer process timestampNs message = serializeResponse (errorResponse "" cause) timestampNs := by
  unfold answer
  rw [refused]

end Blazil.Transport

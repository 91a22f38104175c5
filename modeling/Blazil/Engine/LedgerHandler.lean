import Blazil.Common.Ids
import Blazil.Ledger.Convert
import Blazil.Ledger.Transfer

/-! Events of the pipeline and their outcomes (`core/engine/src/event.rs`), and the ledger stage of
the handler chain (`core/engine/src/handlers/ledger.rs`). The ingestion and commit timestamps of an
event are read by no modelled function and are left out. Transfer ids and clock readings come from
outside; the batch that a flush hands to the ledger client is part of the result, since its task
runs on its own. The handler chain of the engine: validation and risk screening
(`core/engine/src/handlers/validation.rs` and `risk.rs`) in front of the ledger stage. All three
share the map of results by sequence. -/

set_option autoImplicit false

namespace Blazil.Engine

open Blazil.Common

structure EventFlags where
  raw : UInt8 := 0
deriving DecidableEq

namespace EventFlags

def has (flags : EventFlags) (bit : UInt8) : Bool := flags.raw &&& bit != 0

def requiresRiskCheck (flags : EventFlags) : Bool := flags.has 0b00000001

def isPending (flags : EventFlags) : Bool := flags.has 0b00000010

def skipPublish (flags : EventFlags) : Bool := flags.has 0b00000100

def isPosted (flags : EventFlags) : Bool := flags.has 0b00001000

def isVoided (flags : EventFlags) : Bool := flags.has 0b00010000

end EventFlags

structure TransactionEvent where
  sequence : Int
  transactionId : TransactionId
  debitAccountId : AccountId
  creditAccountId : AccountId
  amountUnits : UInt64
  ledgerId : LedgerId
  code : UInt16
  flags : EventFlags
  pendingTransferId : TransferId
deriving DecidableEq

def TransactionEvent.new (transactionId : TransactionId) (debitAccountId creditAccountId : AccountId)
    (amountUnits : UInt64) (ledgerId : LedgerId) (code : UInt16) : TransactionEvent :=
  ⟨-1, transactionId, debitAccountId, creditAccountId, amountUnits, ledgerId, code, {}, .nil⟩

inductive TransactionResult where
  | committed (transferId : TransferId)
  | rejected (reason : BlazerError)
deriving DecidableEq

def TransactionResult.isRejected : TransactionResult → Bool
  | .committed _ => false
  | .rejected _ => true

open Blazil.Common Blazil.Ledger

variable {event : TransactionEvent}

def maxTbBatchSize : Nat := 8190

def batchFlushTimeoutUs : Nat := 3000

def maxTransientRetries : Nat := 5

def maxConcurrentBatches : Nat := 8

section Transfers

variable [ExternalCrates]

def reconstructAmount (event : TransactionEvent) : BlazerResult Amount := do
  let currency ← ledgerIdToCurrency event.ledgerId
  minorUnitsToAmount event.amountUnits.toNat currency

/-- The transfer of an event. Exactly one two-phase flag selects its kind; any other
combination is an immediate transfer. -/
def buildTransfer (transferId : TransferId) (event : TransactionEvent) : BlazerResult Transfer := do
  let amount ← reconstructAmount event
  match event.flags.isPending, event.flags.isPosted, event.flags.isVoided with
  | true, false, false =>
    Transfer.newWithFlags transferId event.debitAccountId event.creditAccountId amount
      event.ledgerId event.code { pending := true } none
  | false, true, false =>
    Transfer.newWithFlags transferId event.debitAccountId event.creditAccountId amount
      event.ledgerId event.code { postPendingTransfer := true } (some event.pendingTransferId)
  | false, false, true =>
    Transfer.newWithFlags transferId event.debitAccountId event.creditAccountId amount
      event.ledgerId event.code { voidPendingTransfer := true } (some event.pendingTransferId)
  | _, _, _ =>
    Transfer.new transferId event.debitAccountId event.creditAccountId amount event.ledgerId event.code

variable {transferId : TransferId} {transfer : Transfer}

theorem buildTransfer_spec (built : buildTransfer transferId event = .ok transfer) :
    reconstructAmount event = .ok transfer.amount ∧ transfer.id = transferId ∧ transfer.validate = .ok () := by
  obtain ⟨_, reconstructed, built⟩ := bind_eq_ok_iff.mp built
  split at built <;> obtain ⟨rfl, valid⟩ := Transfer.newWithFlags_spec built <;>
    exact ⟨reconstructed, rfl, valid⟩

theorem buildTransfer_ok (identified : transferId ≠ .nil) (different : event.debitAccountId ≠ event.creditAccountId)
    (positive : event.amountUnits ≠ 0) (low : 1 ≤ event.ledgerId.value.toNat) (high : event.ledgerId.value.toNat ≤ 5) :
    ∃ transfer, buildTransfer transferId event = .ok transfer := by
  obtain ⟨code, listed, fiat⟩ := ledgerCode_fiat low high
  have places : ∃ places ≤ 8, (currencyScale ⟨code⟩).toNat = 10 ^ places := by
    simp only [List.mem_cons, List.not_mem_nil, or_false] at fiat
    rcases fiat with rfl | rfl | rfl | rfl | rfl
    · exact ⟨2, by decide, by decide⟩
    · exact ⟨2, by decide, by decide⟩
    · exact ⟨2, by decide, by decide⟩
    · exact ⟨0, by decide, by decide⟩
    · exact ⟨0, by decide, by decide⟩
  obtain ⟨_, short, power⟩ := places
  obtain ⟨amount, converted, scale, value⟩ :=
    minorUnitsToAmount_ok event.amountUnits.toNat_lt power short
  have nonzero : amount.value.isZero = false := by
    by_contra zero
    rw [Bool.not_eq_false, ← Decimal.value_eq_zero_iff, value] at zero
    have units : (event.amountUnits.toNat : ℚ) ≠ 0 := by
      exact_mod_cast fun none => positive (UInt64.toNat_inj.mp none)
    have scalePos : ((currencyScale ⟨code⟩).toNat : ℚ) ≠ 0 := by
      exact_mod_cast (currencyScale_pos ⟨code⟩).ne'
    exact div_ne_zero units scalePos zero
  have reconstructed : reconstructAmount event = .ok amount :=
    bind_eq_ok_iff.mpr ⟨_, ledgerIdToCurrency_fiat listed fiat, converted⟩
  have created := fun flags pendingId => Transfer.newWithFlags_ok event.ledgerId event.code flags
    pendingId identified different nonzero scale
  unfold buildTransfer
  simp only [bind_eq_ok_iff]
  split
  · exact ⟨_, amount, reconstructed, created _ _⟩
  · exact ⟨_, amount, reconstructed, created _ _⟩
  · exact ⟨_, amount, reconstructed, created _ _⟩
  · exact ⟨_, amount, reconstructed, created _ _⟩

theorem buildTransfer_ok_bounds (built : buildTransfer transferId event = .ok transfer) :
    1 ≤ event.ledgerId.value.toNat ∧ event.ledgerId.value.toNat ≤ 5 := by
  obtain ⟨reconstructed, _⟩ := buildTransfer_spec built
  obtain ⟨_, resolved, _⟩ := bind_eq_ok_iff.mp reconstructed
  exact ledgerIdToCurrency_ok_bounds resolved

end Transfers

/-- The state a worker's ledger stage keeps between events: the transfers waiting for
a flush, each with the sequence it came from, and when the first of them was queued. -/
structure LedgerHandler where
  batchStartedAt : Option Nat := none
  deferred : List (Int × Transfer) := []
deriving DecidableEq

inductive LedgerOutcome where
  | skipped
  | rejected (reason : BlazerError)
  | deferred
  | dispatched (batch : List (Int × Transfer))
deriving DecidableEq

namespace LedgerHandler

def batchAgeExceeded (handler : LedgerHandler) (now : Nat) : Bool :=
  match handler.batchStartedAt with
  | some started => now - started ≥ batchFlushTimeoutUs
  | none => false

def shouldFlush (handler : LedgerHandler) (endOfBatch : Bool) (now : Nat) : Bool :=
  endOfBatch || handler.deferred.length + 1 ≥ maxTbBatchSize || handler.batchAgeExceeded now

def enqueue (handler : LedgerHandler) (sequence : Int) (endOfBatch : Bool) (now : Nat)
    (transfer : Transfer) : LedgerHandler × LedgerOutcome :=
  if handler.shouldFlush endOfBatch now then
    (⟨none, []⟩, .dispatched (handler.deferred ++ [(sequence, transfer)]))
  else
    (⟨if handler.deferred.isEmpty then some now else handler.batchStartedAt,
      handler.deferred ++ [(sequence, transfer)]⟩, .deferred)

/-- `decided` tells whether the results map already has an entry for the sequence. -/
def onEvent [ExternalCrates] (handler : LedgerHandler) (decided : Bool) (event : TransactionEvent) (sequence : Int)
    (endOfBatch : Bool) (transferId : TransferId) (now : Nat) : LedgerHandler × LedgerOutcome :=
  if decided then (handler, .skipped)
  else
    match buildTransfer transferId event with
    | .error reason => (handler, .rejected reason)
    | .ok transfer => handler.enqueue sequence endOfBatch now transfer

end LedgerHandler

abbrev Results := Int → Option TransactionResult

def Results.insert (results : Results) (sequence : Int) (result : TransactionResult) : Results :=
  fun other => if other = sequence then some result else results other

theorem Results.insert_same (results : Results) (sequence : Int) (result : TransactionResult) :
    results.insert sequence result sequence = some result :=
  if_pos rfl

theorem Results.insert_other {results : Results} {sequence other : Int} (result : TransactionResult)
    (different : other ≠ sequence) : results.insert sequence result other = results other :=
  if_neg different

def validate (event : TransactionEvent) : BlazerResult Unit :=
  if event.transactionId.isZero then
    .error (.validationError "transaction_id must not be zero")
  else if event.debitAccountId.isZero then
    .error (.validationError "debit_account_id must not be zero")
  else if event.creditAccountId.isZero then
    .error (.validationError "credit_account_id must not be zero")
  else if event.debitAccountId = event.creditAccountId then
    .error (.validationError "debit_account_id must not equal credit_account_id")
  else if event.amountUnits = 0 then
    .error (.validationError "amount_units must be greater than zero")
  else .ok ()

/-- The fraud scorer is injected; here it gives the reason when its score for a debit
account and an amount reaches the threshold. -/
structure RiskHandler where
  maxAmountUnits : UInt64
  fraudReason : AccountId → UInt64 → Option String

def RiskHandler.check (risk : RiskHandler) (event : TransactionEvent) : BlazerResult Unit :=
  if !event.flags.requiresRiskCheck then .ok ()
  else if risk.maxAmountUnits < event.amountUnits then
    .error (.validationError "transaction exceeds maximum amount limit")
  else
    match risk.fraudReason event.debitAccountId event.amountUnits with
    | some reason => .error (.validationError reason)
    | none => .ok ()

/-- A screening stage skips an event that has a result and records a rejection. -/
def screen (results : Results) (sequence : Int) (checked : BlazerResult Unit) : Results :=
  if (results sequence).isSome then results
  else
    match checked with
    | .ok _ => results
    | .error reason => results.insert sequence (.rejected reason)

structure ChainEffect where
  handler : LedgerHandler
  results : Results
  dispatched : Option (List (Int × Transfer))

section Chain

variable [ExternalCrates]

def runHandlers (risk : RiskHandler) (handler : LedgerHandler) (results : Results) (event : TransactionEvent)
    (sequence : Int) (endOfBatch : Bool) (transferId : TransferId) (now : Nat) : ChainEffect :=
  let validated := screen results sequence (validate event)
  let screened := screen validated sequence (risk.check event)
  let (next, outcome) :=
    handler.onEvent (screened sequence).isSome event sequence endOfBatch transferId now
  match outcome with
  | .rejected reason => ⟨next, screened.insert sequence (.rejected reason), none⟩
  | .dispatched batch => ⟨next, screened, some batch⟩
  | .skipped | .deferred => ⟨next, screened, none⟩

def chainVerdict (risk : RiskHandler) (transferId : TransferId) (event : TransactionEvent) : BlazerResult Transfer := do
  validate event
  risk.check event
  buildTransfer transferId event

variable {risk : RiskHandler} {handler : LedgerHandler} {results : Results} {sequence : Int} {endOfBatch : Bool}
  {transferId : TransferId} {now : Nat}

theorem runHandlers_rejected {reason} (undecided : results sequence = none)
    (refused : chainVerdict risk transferId event = .error reason) :
    runHandlers risk handler results event sequence endOfBatch transferId now =
      ⟨handler, results.insert sequence (.rejected reason), none⟩ := by
  unfold chainVerdict at refused
  cases valid : validate event with rw [valid] at refused
  | error =>
    cases refused
    simp [runHandlers, screen, undecided, valid, Results.insert, LedgerHandler.onEvent]
  | ok =>
    cases safe : risk.check event with rw [safe] at refused
    | error =>
      cases refused
      simp [runHandlers, screen, undecided, valid, safe, Results.insert, LedgerHandler.onEvent]
    | ok =>
      have refused : buildTransfer transferId event = .error reason := refused
      simp [runHandlers, screen, undecided, valid, safe, LedgerHandler.onEvent, refused]

theorem runHandlers_admitted {transfer : Transfer} (undecided : results sequence = none)
    (admitted : chainVerdict risk transferId event = .ok transfer) :
    runHandlers risk handler results event sequence endOfBatch transferId now =
      if handler.shouldFlush endOfBatch now then
        ⟨⟨none, []⟩, results, some (handler.deferred ++ [(sequence, transfer)])⟩ else
        ⟨⟨if handler.deferred.isEmpty then some now else handler.batchStartedAt,
          handler.deferred ++ [(sequence, transfer)]⟩, results, none⟩ := by
  obtain ⟨_, valid, rest⟩ := bind_eq_ok_iff.mp admitted
  obtain ⟨_, safe, built⟩ := bind_eq_ok_iff.mp rest
  by_cases flush : handler.shouldFlush endOfBatch now <;>
    simp [runHandlers, screen, undecided, valid, safe, LedgerHandler.onEvent, built, LedgerHandler.enqueue, flush]

end Chain

def Admissible (risk : RiskHandler) (event : TransactionEvent) : Prop :=
  (event.transactionId.value ≠ 0 ∧ event.debitAccountId.value ≠ 0 ∧
      event.creditAccountId.value ≠ 0 ∧ event.debitAccountId ≠ event.creditAccountId ∧
      event.amountUnits ≠ 0) ∧
    (event.flags.requiresRiskCheck = true → event.amountUnits ≤ risk.maxAmountUnits ∧
      risk.fraudReason event.debitAccountId event.amountUnits = none) ∧
    1 ≤ event.ledgerId.value.toNat ∧ event.ledgerId.value.toNat ≤ 5

instance (risk : RiskHandler) (event : TransactionEvent) : Decidable (Admissible risk event) :=
  inferInstanceAs (Decidable (_ ∧ _))

theorem validate_ok_iff : validate event = .ok () ↔ event.transactionId.value ≠ 0 ∧ event.debitAccountId.value ≠ 0 ∧
      event.creditAccountId.value ≠ 0 ∧ event.debitAccountId ≠ event.creditAccountId ∧ event.amountUnits ≠ 0 := by
  unfold validate TransactionId.isZero AccountId.isZero
  split_ifs <;> simp_all

theorem RiskHandler.check_ok_iff {risk : RiskHandler} :
    risk.check event = .ok () ↔ (event.flags.requiresRiskCheck = true → event.amountUnits ≤ risk.maxAmountUnits ∧
        risk.fraudReason event.debitAccountId event.amountUnits = none) := by
  unfold RiskHandler.check
  cases event.flags.requiresRiskCheck with
  | false => simp
  | true =>
    by_cases large : risk.maxAmountUnits < event.amountUnits
    · simp [large, UInt64.not_le.mpr large]
    · cases risk.fraudReason event.debitAccountId event.amountUnits <;>
        simp [large, UInt64.not_lt.mp large]

theorem chainVerdict_ok_iff [ExternalCrates] {risk : RiskHandler} {transferId : TransferId} (identified : transferId ≠ .nil) :
    (∃ transfer, chainVerdict risk transferId event = .ok transfer) ↔ Admissible risk event := by
  unfold chainVerdict Admissible
  simp only [bind_eq_ok_iff]
  constructor
  · intro accepted
    obtain ⟨_, _, valid, _, safe, built⟩ := accepted
    exact ⟨validate_ok_iff.mp valid, RiskHandler.check_ok_iff.mp safe, buildTransfer_ok_bounds built⟩
  · intro admissible
    obtain ⟨valid, safe, low, high⟩ := admissible
    obtain ⟨transfer, built⟩ :=
      buildTransfer_ok identified valid.2.2.2.1 valid.2.2.2.2 low high
    exact ⟨transfer, (), validate_ok_iff.mpr valid, (), RiskHandler.check_ok_iff.mpr safe, built⟩

end Blazil.Engine

import Blazil.Foundation.Scatter
import Blazil.Ledger.Convert
import Blazil.Ledger.Transfer

/-! Batches of transfers in the TigerBeetle client (`core/ledger/src/tigerbeetle.rs`). Only the
transfers that convert are submitted, and the reply speaks of positions among those. The
metrics and the log are left out. -/

set_option autoImplicit false

namespace Blazil.Ledger

open Blazil.Common Foundation

/-- The numeric codes of `iso_currency`. -/
class CurrencyNumbers where
  numeric : Currency → UInt16

structure TbTransfer where
  id : BitVec 128
  debitAccountId : BitVec 128
  creditAccountId : BitVec 128
  ledger : UInt32
  code : UInt16
  amount : Nat
  flags : TransferFlags
  userData32 : UInt32
  pendingId : BitVec 128
deriving DecidableEq

/-- An entry of the error slice: a submitted position and the `Debug` text of its kind. -/
structure TbTransferError where
  index : Nat
  kind : String
deriving DecidableEq

inductive CreateTransfersReply where
  | ok
  | api (errors : List TbTransferError)
  | transport (text : String)
deriving DecidableEq

namespace CreateTransfersReply

/-- The errors that the API reports, unless the call itself failed. -/
def reported : CreateTransfersReply → Option (List TbTransferError)
  | .ok => some []
  | .api errors => some errors
  | .transport _ => none

end CreateTransfersReply

/-- The map from positions to kinds; a later entry for a position replaces an earlier one. -/
def errorMap (errors : List TbTransferError) : Nat → Option String :=
  errors.foldl (fun found error position => if position = error.index then some error.kind else found position)
    fun _ => none

def alreadyExists (kind : String) : Bool :=
  kind.toList.tails.any fun rest => "Exist".toList.isPrefixOf rest

/-- The result of a submitted transfer, by the reply to the whole submission. -/
def submittedResult (reply : CreateTransfersReply) (id : TransferId) (position : Nat) : BlazerResult TransferId :=
  match reply with
  | .ok => .ok id
  | .api errors =>
    match errorMap errors position with
    | some kind =>
      if alreadyExists kind then .ok id
      else .error (.ledger
        ("TB transfer error " ++ kind ++ " at batch index " ++ toString position))
    | none => .ok id
  | .transport text =>
    .error (.ledgerTransient ("create_transfers transport error (retryable): " ++ text))

variable {reply : CreateTransfersReply} {errors : List TbTransferError}

theorem submittedResult_cases (answered : reply.reported = some errors) (id : TransferId) (position : Nat) :
    submittedResult reply id position = .ok id ∨ ∃ kind, errorMap errors position = some kind ∧ alreadyExists kind = false ∧
        submittedResult reply id position = .error (.ledger
          ("TB transfer error " ++ kind ++ " at batch index " ++ toString position)) := by
  cases reply with
  | transport => cases answered
  | ok => exact .inl rfl
  | api =>
    cases answered
    unfold submittedResult
    dsimp only
    cases failed : errorMap errors position with
    | none => exact .inl rfl
    | some kind =>
      cases final : alreadyExists kind with
      | true => exact .inl (by simp [final])
      | false => exact .inr ⟨kind, rfl, final, by simp [final]⟩

theorem submittedResult_ok_iff (answered : reply.reported = some errors) {id position} :
    submittedResult reply id position = .ok id ↔ ∀ kind, errorMap errors position = some kind → alreadyExists kind = true := by
  cases reply with
  | transport => cases answered
  | ok =>
    cases answered
    simp [submittedResult, errorMap]
  | api =>
    cases answered
    cases failed : errorMap errors position <;> simp [submittedResult, failed]

section Client

variable [ExternalCrates] [CurrencyNumbers]

def domainTransferToTb (transfer : Transfer) : BlazerResult TbTransfer :=
  (amountToMinorUnits transfer.amount).map fun amount =>
    { id := transferIdToU128 transfer.id
      debitAccountId := accountIdToU128 transfer.debitAccountId
      creditAccountId := accountIdToU128 transfer.creditAccountId
      ledger := ledgerIdToU32 transfer.ledgerId
      code := transfer.code
      amount := amount
      flags := transfer.flags
      userData32 := (CurrencyNumbers.numeric transfer.amount.currency).toUInt32
      pendingId := (transfer.pendingId.map transferIdToU128).getD 0 }

def gatherTransfers (transfers : List Transfer) : Gathered TbTransfer (BlazerResult TransferId) :=
  gather domainTransferToTb .error transfers

/-- What a batch submits to the API; an empty list is not sent at all. -/
def submittedTransfers (transfers : List Transfer) : List TbTransfer :=
  (gatherTransfers transfers).submitted

/-- The result of the transfer at `origin`, submitted at `position`. -/
def replyResult (transfers : List Transfer) (reply : CreateTransfersReply) (position origin : Nat) :
    Option (BlazerResult TransferId) :=
  transfers[origin]?.map fun transfer => submittedResult reply transfer.id position

/-- `create_transfers_batch` when the API answers the submitted transfers with `reply`. -/
def createTransfersBatch (transfers : List Transfer) (reply : CreateTransfersReply) : List (BlazerResult TransferId) :=
  if transfers.isEmpty then []
  else
    let gathered := gatherTransfers transfers
    let results :=
      if gathered.submitted.isEmpty then gathered.results
      else scatter (replyResult transfers reply) gathered.origins gathered.results
    results.map fun result =>
      result.getD (.error (.ledger "internal error: transfer result not set"))

def tbPosition (transfers : List Transfer) (index : Nat) : Nat :=
  submittedPosition domainTransferToTb transfers index

/-- An error that speaks of the transfer at `index`: why it does not convert, or what was
reported at the position where it was submitted. -/
inductive ErrorAbout (transfers : List Transfer) (errors : List TbTransferError) (index : Nat)
    (transfer : Transfer) : BlazerError → Prop where
  | unconvertible {reason} (refused : domainTransferToTb transfer = .error reason) :
      ErrorAbout transfers errors index transfer reason
  | reported {converted kind} (submitted : (submittedTransfers transfers)[tbPosition transfers index]? = some converted)
      (same : domainTransferToTb transfer = .ok converted)
      (failed : errorMap errors (tbPosition transfers index) = some kind)
      (final : alreadyExists kind = false) :
      ErrorAbout transfers errors index transfer (.ledger
        ("TB transfer error " ++ kind ++ " at batch index " ++ toString (tbPosition transfers index)))

section

variable (transfers : List Transfer)
include transfers

theorem submittedTransfers_eq : submittedTransfers transfers =
      transfers.filterMap fun transfer => (domainTransferToTb transfer).toOption := by
  rw [submittedTransfers, gatherTransfers, gather_eq]

theorem createTransfersBatch_eq (reply : CreateTransfersReply) :
    createTransfersBatch transfers reply = (spread domainTransferToTb .error (replyResult transfers reply) transfers 0 0).map
        fun result => result.getD (.error (.ledger "internal error: transfer result not set")) := by
  unfold createTransfersBatch
  cases transfers with
  | nil => rfl
  | cons =>
    simp only [List.isEmpty_cons, Bool.false_eq_true, ↓reduceIte]
    congr 1
    split
    · next nothing =>
      rw [← scatter_gather]
      exact (scatter_of_submitted_nil _ (List.isEmpty_iff.mp nothing)).symm
    · exact scatter_gather _ _

theorem createTransfersBatch_length (reply : CreateTransfersReply) :
    (createTransfersBatch transfers reply).length = transfers.length := by
  rw [createTransfersBatch_eq, List.length_map, spread_length]

end

variable {transfers : List Transfer} {index : Nat} {transfer : Transfer}

theorem createTransfersBatch_entry (reply : CreateTransfersReply) (present : transfers[index]? = some transfer) :
    (createTransfersBatch transfers reply)[index]? = some ( match domainTransferToTb transfer with
      | .error reason => .error reason
      | .ok _ => submittedResult reply transfer.id (tbPosition transfers index)) := by
  rw [createTransfersBatch_eq, List.getElem?_map, spread_entry present, Option.map_some]
  cases converted : domainTransferToTb transfer with
  | error => rfl
  | ok =>
    simp only [replyResult, Nat.zero_add, present, Option.map_some, Option.getD_some]
    rfl

theorem submittedTransfers_entry {converted}
    (present : transfers[index]? = some transfer) (same : domainTransferToTb transfer = .ok converted) :
    (submittedTransfers transfers)[tbPosition transfers index]? = some converted := by
  rw [submittedTransfers_eq]
  exact submitted_entry present same

/-- Whatever errors the API reports for the submitted transfers: the batch has one result for
each transfer; the result is the transfer's own id if and only if the transfer converts and
nothing but an already-exists error is reported at the position where it was submitted; and
any other result is an error about this transfer. -/
theorem createTransfersBatch_results (transfers : List Transfer) {reply : CreateTransfersReply}
    {errors : List TbTransferError} (answered : reply.reported = some errors) :
    (createTransfersBatch transfers reply).length = transfers.length ∧ ∀ index transfer, transfers[index]? = some transfer →
        ∃ result, (createTransfersBatch transfers reply)[index]? = some result ∧ (result = .ok transfer.id ↔
            (∃ converted, domainTransferToTb transfer = .ok converted ∧
              (submittedTransfers transfers)[tbPosition transfers index]? = some converted) ∧
            ∀ kind, errorMap errors (tbPosition transfers index) = some kind → alreadyExists kind = true) ∧
          (result = .ok transfer.id ∨ ∃ reason, result = .error reason ∧ ErrorAbout transfers errors index transfer reason) := by
  refine ⟨createTransfersBatch_length transfers reply, ?_⟩
  intro index transfer present
  refine ⟨_, createTransfersBatch_entry reply present, ?_⟩
  cases converted : domainTransferToTb transfer with
  | error reason => exact ⟨by simp, .inr ⟨reason, rfl, .unconvertible converted⟩⟩
  | ok tb =>
    have submitted := submittedTransfers_entry present converted
    refine ⟨?_, ?_⟩
    · rw [submittedResult_ok_iff answered]
      exact ⟨fun none => ⟨⟨tb, rfl, submitted⟩, none⟩, fun both => both.2⟩
    · rcases submittedResult_cases answered transfer.id (tbPosition transfers index) with
        committed | ⟨kind, failed, final, rejected⟩
      · exact .inl committed
      · exact .inr ⟨_, rejected, .reported submitted converted failed final⟩

end Client

def wholeTransfer (id : BitVec 128) (units : UInt64) (code : String) : Transfer :=
  ⟨⟨id⟩, ⟨1⟩, ⟨2⟩, ⟨.ofUInt64 units, ⟨code⟩⟩, .usd, 1, {}, none⟩

def mixedBatch : List Transfer :=
  [wholeTransfer 7 5 "USD", wholeTransfer 8 0xFFFFFFFFFFFFFFFF "ETH", wholeTransfer 9 5 "USD"]

@[reducible] def dollarNumbers : CurrencyNumbers := ⟨fun _ => 840⟩

attribute [local instance] referenceCrates dollarNumbers

theorem mixedBatch_results : ∃ results, createTransfersBatch mixedBatch
        (.api [⟨1, "ExceedsCredits"⟩]) = results ∧ results = [.ok ⟨7⟩, .error .amountOverflow,
        .error (.ledger "TB transfer error ExceedsCredits at batch index 1")] ∧ results.length = mixedBatch.length ∧
      ∀ index transfer, mixedBatch[index]? = some transfer → ∃ result, results[index]? = some result ∧
          (result = .ok transfer.id ↔ (∃ converted, domainTransferToTb transfer = .ok converted ∧
              (submittedTransfers mixedBatch)[
                tbPosition mixedBatch index]? = some converted) ∧
            ∀ kind, errorMap [⟨1, "ExceedsCredits"⟩] (tbPosition mixedBatch index) = some kind →
              alreadyExists kind = true) ∧
          (result = .ok transfer.id ∨ ∃ reason, result = .error reason ∧ ErrorAbout mixedBatch
              [⟨1, "ExceedsCredits"⟩] index transfer reason) :=
  ⟨_, rfl, by decide, @createTransfersBatch_results referenceCrates dollarNumbers mixedBatch
    (.api [⟨1, "ExceedsCredits"⟩]) _ rfl⟩

end Blazil.Ledger

import Blazil.Engine.LedgerStageProperties
import Blazil.Ledger.TigerBeetle

/-! The retries of a batch task against TigerBeetle. A transfer that the ledger stage built
always converts, so the whole batch is submitted, and a reply is either a transport failure
for all of it or a final outcome for each transfer. -/

set_option autoImplicit false

namespace Blazil.Engine

open Blazil.Common Blazil.Ledger Foundation Foundation.System

def TransientReply {Value : Type} (reply : BlazerResult Value) : Prop :=
  ∃ reason, reply = .error reason ∧ reason.isTransient = true

variable {replies : List (BlazerResult TransferId)}

theorem allTransient_iff : allTransient replies = true ↔ ∀ reply ∈ replies, TransientReply reply := by
  unfold allTransient
  rw [List.all_eq_true]
  refine forall₂_congr fun reply _ => ?_
  cases reply with
  | ok | error => simp [TransientReply]

theorem SettledCalls.summary {transfers calls} (settled : SettledCalls transfers replies calls)
    (uniform : ∀ call ∈ calls, (∀ reply ∈ call.replies, TransientReply reply) ∨ ∀ reply ∈ call.replies, ¬TransientReply reply) :
    calls.length ≤ 6 ∧ ((∃ reply ∈ replies, TransientReply reply) → calls.length = 6 ∧
        ∀ call ∈ calls, ∀ reply ∈ call.replies, TransientReply reply) ∧
      ∀ call ∈ calls, (∃ reply ∈ call.replies, ¬TransientReply reply) →
        calls.getLast? = some call ∧ call.replies = replies ∧ ∀ reply ∈ call.replies, ¬TransientReply reply := by
  cases settled with
  | intro earlier failed within exhausted =>
    have within : earlier.length ≤ 5 := within
    have last := uniform ⟨transfers, replies⟩ (List.mem_append_right _ (List.mem_singleton_self _))
    have count : (earlier ++ [(⟨transfers, replies⟩ : BatchCall)]).length = earlier.length + 1 :=
      List.length_append
    refine ⟨by omega, ?_, ?_⟩
    · rintro ⟨reply, member, transient⟩
      have all : ∀ reply ∈ replies, TransientReply reply :=
        last.resolve_right fun none => none reply member transient
      have spent : earlier.length = 5 := exhausted (allTransient_iff.mpr all)
      exact ⟨by omega, holds_after_concat (fun call before => allTransient_iff.mp (failed call before)) all⟩
    · rintro call listed ⟨reply, member, final⟩
      rcases mem_concat.mp listed with before | rfl
      · exact absurd (allTransient_iff.mp (failed call before) reply member) final
      · exact ⟨List.getLast?_concat, rfl, last.resolve_left fun all => final (all reply member)⟩

theorem submittedResult_transient_iff {reply id position} :
    TransientReply (submittedResult reply id position) ↔ reply.reported = none := by
  cases reply with
  | ok => simp [TransientReply, submittedResult, CreateTransfersReply.reported]
  | transport =>
    simp [TransientReply, submittedResult, CreateTransfersReply.reported, BlazerError.isTransient]
  | api errors =>
    simp only [CreateTransfersReply.reported, reduceCtorEq, iff_false]
    rintro ⟨_, same, transient⟩
    have answered : (CreateTransfersReply.api errors).reported = some errors := rfl
    rcases submittedResult_cases answered id position with
      committed | ⟨kind, _, _, rejected⟩
    · rw [committed] at same
      cases same
    · rw [rejected] at same
      cases same
      cases transient

theorem not_transient_bind {Value Result : Type} {first : BlazerResult Value} {second : Value → BlazerResult Result}
    (head : ¬TransientReply first) (rest : ∀ value, ¬TransientReply (second value)) : ¬TransientReply (first >>= second) := by
  rintro ⟨reason, failed, transient⟩
  cases first with
  | error =>
    cases failed
    exact head ⟨_, rfl, transient⟩
  | ok value => exact rest value ⟨reason, failed, transient⟩

theorem not_transient_newWithFlags (id : TransferId) (debitAccountId creditAccountId : AccountId) (amount : Amount)
    (ledgerId : LedgerId) (code : UInt16) (flags : TransferFlags) (pendingId : Option TransferId) :
    ¬TransientReply (Transfer.newWithFlags id debitAccountId creditAccountId amount ledgerId code flags pendingId) := by
  rintro ⟨reason, failed, transient⟩
  unfold Transfer.newWithFlags Transfer.validate at failed
  dsimp only at failed
  split_ifs at failed <;> cases failed <;> cases transient

theorem not_transient_buildTransfer [ExternalCrates] (transferId : TransferId) (event : TransactionEvent) :
    ¬TransientReply (buildTransfer transferId event) := by
  refine not_transient_bind (not_transient_bind ?_ fun currency => ?_) fun amount => ?_
  · rintro ⟨reason, failed, transient⟩
    unfold ledgerIdToCurrency at failed
    split at failed
    · cases failed
      cases transient
    · split at failed <;> cases failed
      cases transient
  · rintro ⟨reason, failed, transient⟩
    unfold minorUnitsToAmount at failed
    split at failed
    · cases failed
      cases transient
    · split at failed
      · cases failed
        cases transient
      · unfold Amount.new at failed
        split_ifs at failed <;> cases failed <;> cases transient
  · split <;> exact not_transient_newWithFlags _ _ _ _ _ _ _ _

section Client

variable [ExternalCrates] [CurrencyNumbers]

theorem domainTransferToTb_of_built {transferId event transfer} (built : buildTransfer transferId event = .ok transfer) :
    ∃ converted, domainTransferToTb transfer = .ok converted ∧ converted.id = transferIdToU128 transfer.id := by
  obtain ⟨reconstructed, _⟩ := buildTransfer_spec built
  obtain ⟨_, _, converted⟩ := bind_eq_ok_iff.mp reconstructed
  have units := amountToMinorUnits_minorUnitsToAmount (Nat.lt_trans event.amountUnits.toNat_lt (by decide)) converted
  unfold domainTransferToTb
  rw [units]
  exact ⟨_, rfl, rfl⟩

variable {transfers : List Transfer}

theorem submittedTransfers_ids (convertible : ∀ transfer ∈ transfers, ∃ converted,
      domainTransferToTb transfer = .ok converted ∧ converted.id = transferIdToU128 transfer.id) :
    (submittedTransfers transfers).map (fun submitted => submitted.id) =
      transfers.map fun transfer => transferIdToU128 transfer.id := by
  rw [submittedTransfers_eq]
  induction transfers with
  | nil => rfl
  | cons first _ ih =>
    obtain ⟨converted, same, id⟩ := convertible first List.mem_cons_self
    have submitted : (domainTransferToTb first).toOption = some converted := by
      rw [same]
      rfl
    simp only [List.filterMap_cons, submitted, List.map_cons, id]
    rw [ih fun transfer listed => convertible transfer (List.mem_cons_of_mem _ listed)]

theorem createTransfersBatch_uniform (reply : CreateTransfersReply)
    (convertible : ∀ transfer ∈ transfers, ∃ converted, domainTransferToTb transfer = .ok converted) :
    (∀ result ∈ createTransfersBatch transfers reply, TransientReply result) ∨
      ∀ result ∈ createTransfersBatch transfers reply, ¬TransientReply result := by
  have entries : ∀ result ∈ createTransfersBatch transfers reply, TransientReply result ↔ reply.reported = none := by
    intro result member
    obtain ⟨_, found⟩ := List.mem_iff_getElem?.mp member
    have bound := entry_lt found
    rw [createTransfersBatch_length] at bound
    have present := List.getElem?_eq_getElem bound
    obtain ⟨_, same⟩ := convertible _ (List.getElem_mem bound)
    rw [createTransfersBatch_entry reply present, same] at found
    cases found
    exact submittedResult_transient_iff
  by_cases failed : reply.reported = none
  · exact .inl fun result member => (entries result member).mpr failed
  · exact .inr fun result member transient => failed ((entries result member).mp transient)

end Client

namespace LedgerStage

section Runs

variable [ExternalCrates] [CurrencyNumbers]

/-- The client is TigerBeetle's; its API may reply anything. -/
def TigerBeetle (stage : LedgerStage) : StageLabel → Prop
  | .call index replies => ∀ task ∈ stage.tasks[index]?, ∃ reply, replies = createTransfersBatch task.batch.allTransfers reply
  | _ => True

variable {stage : LedgerStage} {task : TaskRun}

omit [CurrencyNumbers] in
theorem Invariant.built (invariant : stage.Invariant) (member : task ∈ stage.tasks) {transfer : Transfer}
    (listed : transfer ∈ task.batch.allTransfers) : ∃ transferId event, buildTransfer transferId event = .ok transfer := by
  have wellformed := (invariant.sound task member).wellformed
  obtain ⟨position, found⟩ := List.mem_iff_getElem?.mp listed
  have bound := entry_lt found
  have within : position < task.batch.sequences.length := by
    rw [SpawnedBatch.sequences_length, ← wellformed.aligned]
    exact bound
  have paired : (task.batch.sequences[position], transfer) ∈ task.batch.paired :=
    List.mem_iff_getElem?.mpr ⟨position, List.getElem?_zip_eq_some.mpr ⟨List.getElem?_eq_getElem within, found⟩⟩
  obtain ⟨fed, _, _, built⟩ := invariant.fed_of_paired member paired
  exact ⟨fed.transferId, fed.event, built⟩

/-- Every call of a task got only transient failures or none. -/
def Uniform (stage : LedgerStage) : Prop :=
  ∀ task ∈ stage.tasks, ∀ call ∈ task.calls, (∀ reply ∈ call.replies, TransientReply reply) ∨
      ∀ reply ∈ call.replies, ¬TransientReply reply

theorem Uniform.step {next label} (uniform : stage.Uniform) (invariant : stage.Invariant)
    (permitted : stage.TigerBeetle label) (stepped : stage.step label = some next) : next.Uniform := by
  cases step_moves stepped with
  | skipped | rejected | deferred | inserted | removed | taken => exact uniform
  | spawned =>
    exact holds_after_concat uniform (List.forall_mem_nil _)
  | called found =>
    have member := List.mem_of_getElem? found
    obtain ⟨reply, rfl⟩ := permitted _ found
    refine holds_after_set uniform ?_
    refine holds_after_concat (uniform _ member) ?_
    refine createTransfersBatch_uniform reply fun transfer listed => ?_
    obtain ⟨_, _, built⟩ := invariant.built member listed
    obtain ⟨converted, same, _⟩ := domainTransferToTb_of_built built
    exact ⟨converted, same⟩
  | recorded found =>
    have kept := uniform _ (List.mem_of_getElem? found)
    unfold Uniform
    rw [store_tasks]
    exact holds_after_set uniform kept
  | finished found =>
    have kept := uniform _ (List.mem_of_getElem? found)
    exact holds_after_set uniform kept

theorem uniform_of_reaches {ring} (reached : system.Reaches TigerBeetle (started ring) stage) : stage.Uniform := by
  have together : stage.Uniform ∧ stage.Invariant := by
    refine reached.invariant (fun stage => stage.Uniform ∧ stage.Invariant) ⟨List.forall_mem_nil _, invariant_started ring⟩ ?_
    intro before label after permitted stepped both
    obtain ⟨uniform, invariant⟩ := both
    exact ⟨uniform.step invariant permitted stepped, invariant.step stepped⟩
  exact together.1

omit [CurrencyNumbers] in
theorem record_enabled {index next replies}
    (found : stage.tasks[index]? = some task) (sound : task.Sound) (recording : task.phase = .recording replies next) :
    ∃ later, system.step stage (.record index) = some later := by
  obtain ⟨batch, _⟩ := task
  cases recording
  have wellformed := sound.wellformed
  simp only [system, step, found]
  cases turn : batch.slot next with
  | none => exact ⟨_, rfl⟩
  | some =>
    rw [wellformed.slot_eq] at turn
    obtain ⟨_, present, rfl⟩ := Option.map_eq_some_iff.mp turn
    have bound := entry_lt present
    cases sound.progress with
    | recording _ answered =>
      have enough : next < replies.length := by
        rw [answered, wellformed.aligned, ← SpawnedBatch.sequences_length]
        exact bound
      dsimp only
      rw [List.getElem?_eq_getElem enough]
      exact ⟨_, rfl⟩

omit [ExternalCrates] [CurrencyNumbers] in
theorem calls_summary (sound : task.Sound) (uniform : ∀ call ∈ task.calls,
      (∀ reply ∈ call.replies, TransientReply reply) ∨ ∀ reply ∈ call.replies, ¬TransientReply reply) :
    task.calls.length ≤ 6 ∧ ((∃ reply ∈ task.phase.replies, TransientReply reply) → task.calls.length = 6 ∧
        ∀ call ∈ task.calls, ∀ reply ∈ call.replies, TransientReply reply) ∧
      ∀ call ∈ task.calls, (∃ reply ∈ call.replies, ¬TransientReply reply) → task.calls.getLast? = some call ∧
        ((∃ next, task.phase = .recording call.replies next) ∨ task.phase = .finished call.replies) ∧
        ∀ reply ∈ call.replies, ¬TransientReply reply := by
  cases sound.progress with
  | @running _ _ calls count within failed =>
    have within : calls.length ≤ 5 := count.trans_le within
    refine ⟨Nat.le_succ_of_le within, ?_, ?_⟩
    · rintro ⟨_, none, _⟩
      cases none
    · rintro call listed ⟨reply, replied, final⟩
      exact absurd (allTransient_iff.mp (failed call listed) reply replied) final
  | @recording _ _ next _ settled =>
    obtain ⟨count, exhausted, last⟩ := settled.summary uniform
    refine ⟨count, exhausted, ?_⟩
    intro call listed final
    obtain ⟨isLast, rfl, final⟩ := last call listed final
    exact ⟨isLast, .inl ⟨next, rfl⟩, final⟩
  | finished settled =>
    obtain ⟨count, exhausted, last⟩ := settled.summary uniform
    refine ⟨count, exhausted, ?_⟩
    intro call listed final
    obtain ⟨isLast, rfl, final⟩ := last call listed final
    exact ⟨isLast, .inr rfl, final⟩

/-- Whatever the TigerBeetle API does: a batch makes at most 6 calls, and each submits the same
transfers under the same ids; a call with a final outcome for some transfer is the last one,
has a final outcome for every transfer, and each of them is stored; and a rejection for a
transient error is in the map only if all 6 calls failed transiently for the whole batch. -/
theorem retries_until_final {ring : Option ResultRing} {labels : List StageLabel} {stage : LedgerStage}
    (ran : system.run (started ring) labels = some stage)
    (permitted : system.Along (fun before label _ => before.TigerBeetle label) (started ring) labels) :
    (∀ index task, stage.tasks[index]? = some task → task.calls.length ≤ 6 ∧
        (∀ call ∈ task.calls, call.transfers = task.batch.allTransfers ∧
          (submittedTransfers call.transfers).map (fun submitted => submitted.id) =
            task.batch.allTransfers.map fun transfer => transferIdToU128 transfer.id) ∧
        ∀ call ∈ task.calls, (∃ reply ∈ call.replies, ¬TransientReply reply) →
          task.calls.getLast? = some call ∧ (∀ reply ∈ call.replies, ¬TransientReply reply) ∧
          ((∃ next, task.phase = .recording call.replies next ∧ ∃ later, system.step stage (.record index) = some later) ∨
            task.phase = .finished call.replies) ∧
          ∀ (position : Nat) sequence reply, task.phase.Passed position → task.batch.sequences[position]? = some sequence →
            call.replies[position]? = some reply →
            ∃ before after, system.Takes (started ring) labels before (.record index) after ∧
              Records before after sequence reply) ∧
      ∀ sequence reason, stage.results sequence = some (.rejected reason) → reason.isTransient = true →
        .insert sequence (.rejected reason) ∈ labels ∨
          ∃ before index after task, system.Takes (started ring) labels before (.record index) after ∧
            before.tasks[index]? = some task ∧ sequence ∈ task.batch.sequences ∧ task.calls.length = 6 ∧
            ∀ call ∈ task.calls, ∀ reply ∈ call.replies, TransientReply reply := by
  have reached := reaches_of_run ran permitted
  have invariant := invariant_of_reaches reached
  refine ⟨fun index task found => ?_, fun sequence reason mapped transient => ?_⟩
  · have member := List.mem_of_getElem? found
    have sound := invariant.sound task member
    obtain ⟨count, _, last⟩ := calls_summary sound (uniform_of_reaches reached task member)
    refine ⟨count, fun call listed => ?_, fun call listed final => ?_⟩
    · rw [sound.submitted call listed]
      refine ⟨rfl, submittedTransfers_ids fun transfer transferListed => ?_⟩
      obtain ⟨_, _, built⟩ := invariant.built member transferListed
      exact domainTransferToTb_of_built built
    · obtain ⟨isLast, phase, final⟩ := last call listed final
      have replies : task.phase.replies = call.replies := by
        rcases phase with ⟨_, phase⟩ | phase <;> rw [phase] <;> rfl
      refine ⟨isLast, final, ?_, fun position sequence reply passed placed read => ?_⟩
      · exact phase.imp_left fun ⟨next, recording⟩ => ⟨next, recording, record_enabled found sound recording⟩
      · exact exists_records ran found passed placed (replies ▸ read)
  · generalize refused : TransactionResult.rejected reason = result at mapped
    cases written_of_mapped ran mapped with
    | inserted listed => exact .inl (refused ▸ listed)
    | refused _ failed =>
      cases refused
      exact absurd ⟨reason, failed, transient⟩ (not_transient_buildTransfer _ _)
    | @recorded before reply recorded =>
      obtain ⟨index, after, task, taken, found, fed, _, rfl, _, position, _, _, placed, _, read⟩ := recorded
      have reached := taken.reaches permitted
      have member := List.mem_of_getElem? found
      have failed : TransientReply reply := by
        cases reply with
        | ok => cases refused
        | error =>
          cases refused
          exact ⟨reason, rfl, transient⟩
      obtain ⟨_, exhausted, _⟩ :=
        calls_summary ((invariant_of_reaches reached).sound task member) (uniform_of_reaches reached task member)
      obtain ⟨six, all⟩ := exhausted ⟨reply, List.mem_of_getElem? read, failed⟩
      exact .inr ⟨before, index, after, task, taken, found, List.mem_of_getElem? placed, six, all⟩

def AnsweredFrom (choices : List CreateTransfersReply) (stage : LedgerStage) : StageLabel → Prop
  | .call index replies => ∀ task ∈ stage.tasks[index]?, ∃ reply ∈ choices,
      replies = createTransfersBatch task.batch.allTransfers reply
  | _ => True

instance (choices : List CreateTransfersReply) (stage : LedgerStage) (label : StageLabel) :
    Decidable (AnsweredFrom choices stage label) :=
  match label with
  | .call index replies => inferInstanceAs (Decidable (∀ task ∈ stage.tasks[index]?,
      ∃ reply ∈ choices, replies = createTransfersBatch task.batch.allTransfers reply))
  | .feed _ _ _ _ _ | .record _ | .insert _ _ | .remove _ | .tryRemove _ => .isTrue trivial

theorem AnsweredFrom.tigerBeetle {choices} (stage : LedgerStage) (label : StageLabel)
    (answered : AnsweredFrom choices stage label) : stage.TigerBeetle label := by
  cases label with
  | call =>
    intro task found
    obtain ⟨reply, _, same⟩ := answered task found
    exact ⟨reply, same⟩
  | feed | record | insert | remove | tryRemove => trivial

end Runs

def connectionReset : BlazerError :=
  .ledgerTransient "create_transfers transport error (retryable): connection reset"

def exceedsCredits : BlazerError := .ledger "TB transfer error ExceedsCredits at batch index 1"

def retriedLabels : List StageLabel :=
  [.feed (dollarEvent 100) 0 false ⟨7⟩ 0, .feed (dollarEvent 200) 1 true ⟨8⟩ 0,
    .call 0 [.error connectionReset, .error connectionReset], .call 0 [.ok ⟨7⟩, .error exceedsCredits],
    .record 0, .record 0, .record 0]

theorem retriedLabels_answered :
    (@system referenceCrates).Along (fun before label _ => @AnsweredFrom referenceCrates dollarNumbers
      [.transport "connection reset", .api [⟨1, "ExceedsCredits"⟩]] before label) (started none) retriedLabels := by
  decide +kernel

/-- The first call fails for the whole batch, the second rejects one transfer, and the other
transfer is stored as committed. -/
theorem transportFailure_then_final : ∃ stage task, (@system referenceCrates).run (started none) retriedLabels = some stage ∧
      stage.tasks[0]? = some task ∧ task.calls.length = 2 ∧ task.phase = .finished [.ok ⟨7⟩, .error exceedsCredits] ∧
      ∃ before after, (@system referenceCrates).Takes (started none) retriedLabels before (.record 0) after ∧
        Records before after 0 (.ok ⟨7⟩) := by
  obtain ⟨stage, ran, sequences, replies, done⟩ := exists_of_run (@system referenceCrates) (started none) retriedLabels
    (fun stage => stage.tasks.map (fun task => task.batch.sequences) = [[0, 1]] ∧
      stage.tasks.map (fun task => task.calls.map fun call => call.replies) =
        [[[.error connectionReset, .error connectionReset], [.ok ⟨7⟩, .error exceedsCredits]]] ∧
      stage.tasks.map (fun task => task.phase.isActive) = [false]) (by decide)
  obtain ⟨task, rest, tasks, sequences, _⟩ := List.map_eq_cons_iff.mp sequences
  have found : stage.tasks[0]? = some task := by
    rw [tasks]
    rfl
  rw [tasks, List.map_cons] at replies done
  obtain ⟨replies, _⟩ := List.cons.inj replies
  obtain ⟨done, _⟩ := List.cons.inj done
  obtain ⟨call, listed, last⟩ := List.mem_map.mp
    (show [.ok ⟨7⟩, .error exceedsCredits] ∈ task.calls.map (fun call => call.replies) by rw [replies]; decide)
  have count : task.calls.length = 2 := by simpa using congrArg List.length replies
  have permitted := retriedLabels_answered.mono fun before label _ =>
    @AnsweredFrom.tigerBeetle referenceCrates dollarNumbers _ before label
  obtain ⟨_, _, final⟩ := (@retries_until_final referenceCrates dollarNumbers none _ stage ran permitted).1 0 task found
  obtain ⟨_, _, phase, stored⟩ := final call listed ⟨.ok ⟨7⟩, by rw [last]; decide, nofun⟩
  have finished : task.phase = .finished call.replies := by
    refine phase.resolve_left ?_
    rintro ⟨_, recording, _⟩
    rw [recording] at done
    cases done
  refine ⟨stage, task, ran, found, count, last ▸ finished, stored 0 0 _ ?_ ?_ ?_⟩
  · rw [finished]
    trivial
  · rw [sequences]
    rfl
  · rw [last]
    rfl

end LedgerStage

end Blazil.Engine

import Blazil.Engine.LedgerStage

/-! The vectors of the ledger stage stay in step: through the deferred queue, the batch tasks,
their retries and the recording of the results. -/

set_option autoImplicit false

namespace Blazil.Engine

open Blazil.Common Blazil.Ledger Foundation Foundation.System

variable {batch : SpawnedBatch}

structure SpawnedBatch.Wellformed (batch : SpawnedBatch) : Prop where
  counted : batch.prevN = batch.prevSequences.length
  aligned : batch.allTransfers.length = batch.prevSequences.length + 1
  bounded : batch.allTransfers.length ≤ maxTbBatchSize

namespace SpawnedBatch

theorem sequences_length : batch.sequences.length = batch.prevSequences.length + 1 := by
  simp [sequences]

theorem Wellformed.slot_eq (wellformed : batch.Wellformed) (next : Nat) :
    batch.slot next = batch.sequences[next]?.map fun sequence => (sequence, next) := by
  unfold slot sequences
  cases found : batch.prevSequences[next]? with
  | some =>
    have within := entry_lt found
    rw [List.getElem?_append_left within, found]
    rfl
  | none =>
    have beyond := List.getElem?_eq_none_iff.mp found
    rw [List.getElem?_append_right beyond]
    dsimp only
    split
    · next last =>
      subst last
      simp [wellformed.counted]
    · next past =>
      have after : 1 ≤ next - batch.prevSequences.length := by omega
      rw [List.getElem?_eq_none (by simpa using after)]
      rfl

theorem Wellformed.paired_fst (wellformed : batch.Wellformed) : batch.paired.map Prod.fst = batch.sequences := by
  rw [paired, List.map_fst_zip]
  rw [sequences_length, wellformed.aligned]

end SpawnedBatch

/-- The calls of a task that has left its retry loop: all but the last failed transiently, and
so did the last only when no retry was left. -/
inductive SettledCalls (transfers : List Transfer) (replies : List (BlazerResult TransferId)) : List BatchCall → Prop where
  | intro (earlier : List BatchCall) (failed : ∀ call ∈ earlier, allTransient call.replies = true)
      (within : earlier.length ≤ maxTransientRetries)
      (exhausted : allTransient replies = true → earlier.length = maxTransientRetries) :
      SettledCalls transfers replies (earlier ++ [⟨transfers, replies⟩])

namespace TaskRun

inductive Progress : TaskRun → Prop where
  | running {batch attempt calls} (count : calls.length = attempt) (within : attempt ≤ maxTransientRetries)
      (failed : ∀ call ∈ calls, allTransient call.replies = true) :
      Progress ⟨batch, .running attempt, calls⟩
  | recording {batch replies next calls} (settled : SettledCalls batch.allTransfers replies calls)
      (answered : replies.length = batch.allTransfers.length) : Progress ⟨batch, .recording replies next, calls⟩
  | finished {batch replies calls} (settled : SettledCalls batch.allTransfers replies calls)
      (answered : replies.length = batch.allTransfers.length) : Progress ⟨batch, .finished replies, calls⟩

structure Sound (task : TaskRun) : Prop where
  wellformed : task.batch.Wellformed
  submitted : ∀ call ∈ task.calls, call.transfers = task.batch.allTransfers
  progress : task.Progress

variable {calls : List BatchCall} {replies : List (BlazerResult TransferId)}

theorem Sound.called {attempt : Nat} (sound : Sound ⟨batch, .running attempt, calls⟩)
    (answered : replies.length = batch.allTransfers.length) :
    Sound ⟨batch, .afterAttempt attempt replies, calls ++ [⟨batch.allTransfers, replies⟩]⟩ := by
  refine ⟨sound.wellformed, ?_, ?_⟩
  · exact holds_after_concat sound.submitted rfl
  · cases sound.progress with
    | running count within failed =>
      unfold TaskPhase.afterAttempt
      split
      · next leaves =>
        refine .recording (.intro calls failed (count ▸ within) ?_) answered
        intro transient
        simp only [transient, Bool.not_true, Bool.false_or, decide_eq_true_eq] at leaves
        omega
      · next again =>
        simp only [Bool.or_eq_true, Bool.not_eq_true', decide_eq_true_eq, not_or, Bool.not_eq_false] at again
        refine .running (by simp [count]) (by omega) ?_
        exact holds_after_concat failed again.1

theorem Sound.recorded {next : Nat} (sound : Sound ⟨batch, .recording replies next, calls⟩) :
    Sound ⟨batch, .recording replies (next + 1), calls⟩ := by
  refine ⟨sound.wellformed, sound.submitted, ?_⟩
  cases sound.progress with
  | recording settled answered => exact .recording settled answered

theorem Sound.finished {next : Nat} (sound : Sound ⟨batch, .recording replies next, calls⟩) :
    Sound ⟨batch, .finished replies, calls⟩ := by
  refine ⟨sound.wellformed, sound.submitted, ?_⟩
  cases sound.progress with
  | recording settled answered => exact .finished settled answered

/-- The last call of the task has this result for the transfer that was built from the event. -/
def Answers [ExternalCrates] (task : TaskRun) (fed : FedEvent) (reply : BlazerResult TransferId) : Prop :=
  ∃ transfer, ∃ position : Nat, buildTransfer fed.transferId fed.event = .ok transfer ∧
    task.calls.getLast? = some ⟨task.batch.allTransfers, task.phase.replies⟩ ∧
    task.batch.sequences[position]? = some fed.sequence ∧ task.batch.allTransfers[position]? = some transfer ∧
    task.phase.replies[position]? = some reply

end TaskRun

namespace LedgerStage

section

variable (stage : LedgerStage) (sequence : Int) (reply : BlazerResult TransferId)
include stage sequence reply

@[simp] theorem store_tasks : (stage.store sequence reply).tasks = stage.tasks := by
  unfold store
  split <;> rfl

@[simp] theorem store_vectors : (stage.store sequence reply).vectors = stage.vectors := by
  unfold store
  split <;> rfl

@[simp] theorem store_fed : (stage.store sequence reply).fed = stage.fed := by
  unfold store
  split <;> rfl

end

section

variable {stage : LedgerStage}

theorem get_set_ring {ring} (present : stage.ring = some ring) (sequence other : Int) (value : Option TransferId) :
    SlotTable.get (SlotTable.set ring other value) sequence =
      if stage.sameSlot sequence other then value else stage.inRing sequence := by
  simp [SlotTable.get, SlotTable.set, sameSlot, inRing, present]

theorem store_records (index : Nat) (task : TaskRun) (sequence : Int) (reply : BlazerResult TransferId) :
    Records stage ((stage.setTask index task).store sequence reply) sequence reply := by
  cases reply with
  | error => exact ⟨Results.insert_same _ _ _, fun _ different => Results.insert_other _ different, fun _ _ => rfl⟩
  | ok transferId =>
    cases present : stage.ring with
    | none =>
      simp only [store, setTask, present]
      refine ⟨?_, fun _ different => Results.insert_other _ different, fun _ _ => ?_⟩
      · simp only [Holds, Option.isSome_none, Bool.false_eq_true, if_false]
        exact Results.insert_same _ _ _
      · simp [inRing, present]
    | some ring =>
      simp only [store, setTask, present]
      refine ⟨?_, fun _ _ => rfl, fun other apart => ?_⟩
      · simp [Holds, inRing, ResultRing.insert]
      · refine (get_set_ring present other sequence _).trans ?_
        rw [apart]
        rfl

end

section Runs

variable [ExternalCrates]

/-- The vectors are in step, and every accepted transfer is in a batch or deferred, in the
order in which the events came. -/
structure Invariant (stage : LedgerStage) : Prop where
  aligned : stage.vectors.deferredTransfers.length = stage.vectors.deferredSequences.length
  short : stage.vectors.deferredTransfers.length < maxTbBatchSize
  sound : ∀ task ∈ stage.tasks, task.Sound
  conserved : (stage.tasks.flatMap fun task => task.batch.paired) ++ stage.vectors.paired.deferred = stage.accepted

theorem invariant_started (ring : Option ResultRing) : (started ring).Invariant where
  aligned := rfl
  short := Nat.zero_lt_succ _
  sound _ member := by cases member
  conserved := rfl

theorem accepted_of_fed (stage : LedgerStage) {next : LedgerStage} {last : FedEvent}
    (fed : next.fed = stage.fed ++ [last]) : next.accepted = stage.accepted ++ last.accepted.toList := by
  unfold accepted
  rw [fed, List.filterMap_append]
  cases outcome : last.accepted <;> simp [outcome]

theorem accepted_undecided {sequence event transferId transfer} (built : buildTransfer transferId event = .ok transfer) :
    FedEvent.accepted ⟨sequence, event, transferId, false⟩ = some (sequence, transfer) := by
  simp [FedEvent.accepted, built, Except.toOption]

variable {stage : LedgerStage}

theorem Invariant.setTask {index : Nat} {before after : TaskRun} (invariant : stage.Invariant)
    (found : stage.tasks[index]? = some before) (sound : after.Sound) (same : after.batch = before.batch) :
    (stage.setTask index after).Invariant where
  aligned := invariant.aligned
  short := invariant.short
  sound := holds_after_set invariant.sound sound
  conserved := by
    rw [← show stage.accepted = (stage.setTask index after).accepted from rfl, ← invariant.conserved]
    congr 1
    exact flatMap_set_same found (by rw [same])

theorem Invariant.step {next : LedgerStage} {label : StageLabel} (invariant : stage.Invariant)
    (stepped : stage.step label = some next) : next.Invariant := by
  cases step_moves stepped with
  | skipped =>
    refine { invariant with conserved := ?_ }
    rw [accepted_of_fed stage rfl]
    simpa [FedEvent.accepted] using invariant.conserved
  | rejected refused =>
    refine { invariant with conserved := ?_ }
    rw [accepted_of_fed stage rfl]
    simpa [FedEvent.accepted, refused, Except.toOption] using invariant.conserved
  | deferred built room =>
    refine
      { aligned := by simp [invariant.aligned]
        short := by simpa using room
        sound := invariant.sound
        conserved := ?_ }
    rw [accepted_of_fed stage rfl, accepted_undecided built, ← invariant.conserved]
    simp [LedgerVectors.paired, List.zip_append invariant.aligned.symm]
  | @spawned _ _ _ _ _ _ built =>
    have aligned := invariant.aligned
    refine
      { aligned := rfl
        short := Nat.zero_lt_succ _
        sound := ?_
        conserved := ?_ }
    · refine holds_after_concat invariant.sound ?_
      refine ⟨⟨aligned, by simp [aligned], ?_⟩, List.forall_mem_nil _, ?_⟩
      · have short := invariant.short
        simp only [List.length_append, List.length_singleton]
        omega
      · exact .running rfl (Nat.zero_le _) (List.forall_mem_nil _)
    · rw [accepted_of_fed stage rfl, accepted_undecided built, ← invariant.conserved]
      simp [LedgerVectors.paired, SpawnedBatch.paired, SpawnedBatch.sequences, List.zip_append aligned.symm]
  | called found answered =>
    have sound := invariant.sound _ (List.mem_of_getElem? found)
    exact invariant.setTask found (sound.called answered) rfl
  | recorded found =>
    have sound := invariant.sound _ (List.mem_of_getElem? found)
    have kept := invariant.setTask found sound.recorded rfl
    exact
      { aligned := by simpa using kept.aligned
        short := by simpa using kept.short
        sound := by simpa using kept.sound
        conserved := by simpa [accepted] using kept.conserved }
  | finished found =>
    have sound := invariant.sound _ (List.mem_of_getElem? found)
    exact invariant.setTask found sound.finished rfl
  | inserted | removed | taken => exact { invariant with }

theorem invariant_of_reaches {ring allowed}
    (reached : system.Reaches allowed (started ring) stage) : stage.Invariant :=
  reached.invariant Invariant (invariant_started ring) fun _ _ _ _ stepped invariant =>
    invariant.step stepped

theorem Invariant.dispatched_sublist (invariant : stage.Invariant) :
    stage.dispatched.Sublist (stage.fed.map fun fed => fed.sequence) := by
  have pairs : stage.dispatched = (stage.tasks.flatMap fun task => task.batch.paired).map Prod.fst := by
    rw [List.map_flatMap]
    refine List.flatMap_congr fun task member => ?_
    exact (invariant.sound task member).wellformed.paired_fst.symm
  have acceptedFrom : (stage.accepted.map Prod.fst).Sublist (stage.fed.map fun fed => fed.sequence) := by
    unfold accepted
    induction stage.fed with
    | nil => exact .slnil
    | cons fed _ ih =>
      cases outcome : fed.accepted with
      | none =>
        rw [List.filterMap_cons_none outcome]
        exact ih.cons _
      | some pair =>
        have same : pair.1 = fed.sequence := by
          unfold FedEvent.accepted at outcome
          split at outcome
          · cases outcome
          · obtain ⟨_, _, rfl⟩ := Option.map_eq_some_iff.mp outcome
            rfl
        rw [List.filterMap_cons_some outcome, List.map_cons, List.map_cons, same]
        exact ih.cons_cons _
  rw [pairs]
  refine List.Sublist.trans ?_ acceptedFrom
  rw [← invariant.conserved, List.map_append]
  exact List.sublist_append_left _ _

theorem Invariant.fed_of_paired (invariant : stage.Invariant) {task pair} (member : task ∈ stage.tasks)
    (listed : pair ∈ task.batch.paired) :
    ∃ fed ∈ stage.fed, fed.sequence = pair.1 ∧ buildTransfer fed.transferId fed.event = .ok pair.2 := by
  have inAccepted : pair ∈ stage.accepted := by
    rw [← invariant.conserved]
    exact List.mem_append_left _ (List.mem_flatMap.mpr ⟨task, member, listed⟩)
  obtain ⟨fed, fedMember, outcome⟩ := List.mem_filterMap.mp inAccepted
  refine ⟨fed, fedMember, ?_⟩
  unfold FedEvent.accepted at outcome
  split at outcome
  · cases outcome
  · obtain ⟨_, built, rfl⟩ := Option.map_eq_some_iff.mp outcome
    cases result : buildTransfer fed.transferId fed.event with
    | error => simp [result, Except.toOption] at built
    | ok =>
      rw [result] at built
      cases built
      exact ⟨rfl, rfl⟩

section Histories

variable {ring : Option ResultRing} {labels : List StageLabel} {index position : Nat} {task : TaskRun} {sequence : Int}
  {reply : BlazerResult TransferId}

theorem Invariant.answers (invariant : stage.Invariant) (found : stage.tasks[index]? = some task)
    (listed : task.batch.sequences[position]? = some sequence) (read : task.phase.replies[position]? = some reply) :
    ∃ fed ∈ stage.fed, fed.sequence = sequence ∧ task.Answers fed reply := by
  have member := List.mem_of_getElem? found
  have sound := invariant.sound task member
  have within : position < task.batch.allTransfers.length := by
    rw [sound.wellformed.aligned, ← SpawnedBatch.sequences_length]
    exact entry_lt listed
  have transfer := List.getElem?_eq_getElem within
  have paired : (sequence, _) ∈ task.batch.paired :=
    List.mem_iff_getElem?.mpr ⟨position, List.getElem?_zip_eq_some.mpr ⟨listed, transfer⟩⟩
  obtain ⟨fed, fedMember, rfl, built⟩ := invariant.fed_of_paired member paired
  refine ⟨fed, fedMember, rfl, _, position, built, ?_, listed, transfer, read⟩
  cases sound.progress with
  | running => cases read
  | recording settled | finished settled =>
    cases settled
    exact List.getLast?_concat

theorem exists_records (ran : system.run (started ring) labels = some stage) (found : stage.tasks[index]? = some task)
    (passed : task.phase.Passed position) (listed : task.batch.sequences[position]? = some sequence)
    (read : task.phase.replies[position]? = some reply) :
    ∃ before after, system.Takes (started ring) labels before (.record index) after ∧ Records before after sequence reply := by
  -- the step in which the task comes to have passed the position
  obtain ⟨before, label, after, taken, notYet, own, present, sameBatch, sameReplies, now⟩ :=
    exists_takes (fun stage => ∃ own, stage.tasks[index]? = some own ∧ own.batch = task.batch ∧
      own.phase.replies = task.phase.replies ∧ own.phase.Passed position) ran
      (fun ⟨_, absent, _⟩ => nomatch absent) ⟨task, found, rfl, rfl, passed⟩
  have earlier : before.tasks[index]? ≠ some own :=
    fun kept => notYet ⟨own, kept, sameBatch, sameReplies, now⟩
  obtain ⟨_, _, _, reached, stepped⟩ := id taken
  cases step_moves stepped with
  | skipped | rejected | deferred | inserted | removed | taken => exact absurd present earlier
  | spawned =>
    rcases entry_of_concat present with ⟨_, kept⟩ | ⟨_, rfl⟩
    · exact absurd kept earlier
    · exact now.elim
  | called =>
    rcases entry_of_set present with ⟨_, rfl⟩ | kept
    · unfold TaskPhase.afterAttempt at now
      split at now
      · exact absurd now (Nat.not_lt_zero _)
      · exact now.elim
    · exact absurd kept earlier
  | recorded foundBefore turn readBefore =>
    rw [store_tasks] at present
    rcases entry_of_set present with ⟨rfl, rfl⟩ | kept
    · refine ⟨before, _, taken, ?_⟩
      have sound := (invariant_of_reaches (reachable_of_run reached)).sound _ (List.mem_of_getElem? foundBefore)
      rw [sound.wellformed.slot_eq] at turn
      obtain ⟨_, listedBefore, same⟩ := Option.map_eq_some_iff.mp turn
      cases same
      obtain rfl : position = _ := by
        refine Nat.le_antisymm (Nat.lt_succ_iff.mp now) (Nat.not_lt.mp fun past => notYet ?_)
        exact ⟨_, foundBefore, sameBatch, sameReplies, past⟩
      rw [← sameBatch] at listed
      rw [← sameReplies] at read
      obtain rfl := entry_unique listedBefore listed
      obtain rfl := entry_unique readBefore read
      exact store_records _ _ _ _
    · exact absurd kept earlier
  | finished foundBefore done =>
    rcases entry_of_set present with ⟨rfl, rfl⟩ | kept
    · have sound := (invariant_of_reaches (reachable_of_run reached)).sound _ (List.mem_of_getElem? foundBefore)
      rw [sound.wellformed.slot_eq, Option.map_eq_none_iff, List.getElem?_eq_none_iff] at done
      rw [← sameBatch] at listed
      exact absurd ⟨_, foundBefore, sameBatch, sameReplies, (entry_lt listed).trans_le done⟩ notYet
    · exact absurd kept earlier

/-- A step of the run in which a task stores a result that the last call has for the transfer of this sequence. -/
def Recorded (ring : Option ResultRing) (labels : List StageLabel) (before : LedgerStage) (sequence : Int)
    (reply : BlazerResult TransferId) : Prop :=
  ∃ index after task, system.Takes (started ring) labels before (.record index) after ∧ before.tasks[index]? = some task ∧
    ∃ fed ∈ before.fed, fed.sequence = sequence ∧ task.Answers fed reply

/-- Where a result in the map comes from. -/
inductive Written (ring : Option ResultRing) (labels : List StageLabel) (sequence : Int) : TransactionResult → Prop where
  | inserted {result} (listed : .insert sequence result ∈ labels) : Written ring labels sequence result
  | refused {event endOfBatch transferId now reason} (listed : .feed event sequence endOfBatch transferId now ∈ labels)
      (refused : buildTransfer transferId event = .error reason) : Written ring labels sequence (.rejected reason)
  | recorded {before reply}
      (recorded : Recorded ring labels before sequence reply) : Written ring labels sequence (resultOf reply)

theorem recorded_of_turn {before after next batch calls replies}
    (taken : system.Takes (started ring) labels before (.record index) after)
    (found : before.tasks[index]? = some ⟨batch, .recording replies next, calls⟩)
    (turn : batch.slot next = some (sequence, position)) (read : replies[position]? = some reply) :
    Recorded ring labels before sequence reply := by
  obtain ⟨_, _, _, reached, _⟩ := id taken
  have invariant := invariant_of_reaches (reachable_of_run reached)
  rw [(invariant.sound _ (List.mem_of_getElem? found)).wellformed.slot_eq] at turn
  obtain ⟨_, listed, same⟩ := Option.map_eq_some_iff.mp turn
  cases same
  exact ⟨index, after, _, taken, found, invariant.answers found listed read⟩

theorem written_of_mapped {result} (ran : system.run (started ring) labels = some stage)
    (mapped : stage.results sequence = some result) : Written ring labels sequence result := by
  obtain ⟨before, label, after, taken, notYet, now⟩ :=
    exists_takes (fun stage => stage.results sequence = some result) ran nofun mapped
  obtain ⟨_, _, listed, _, stepped⟩ := id taken
  have listed : label ∈ labels := by simp [listed]
  have inserted : ∀ {other : Int} {new : TransactionResult},
      before.results.insert other new sequence = some result → other = sequence ∧ new = result := by
    intro other new written
    unfold Results.insert at written
    split at written
    · next same => exact ⟨same.symm, Option.some.inj written⟩
    · exact absurd written notYet
  cases step_moves stepped with
  | skipped | deferred | spawned | called | finished | taken => exact absurd now notYet
  | rejected refused =>
    obtain ⟨rfl, rfl⟩ := inserted now
    exact .refused listed refused
  | recorded found turn read =>
    unfold store at now
    split at now
    · exact absurd now notYet
    · obtain ⟨rfl, rfl⟩ := inserted now
      exact .recorded (recorded_of_turn taken found turn read)
  | inserted =>
    obtain ⟨rfl, rfl⟩ := inserted now
    exact .inserted listed
  | removed =>
    simp only [Results.remove] at now
    split at now
    · cases now
    · exact absurd now notYet

theorem recorded_of_slotted {transferId} (ran : system.run (started ring) labels = some stage)
    (slotted : stage.inRing sequence = some transferId) : (started ring).inRing sequence = some transferId ∨
      ∃ before other, before.sameSlot sequence other = true ∧ Recorded ring labels before other (.ok transferId) := by
  by_cases initially : (started ring).inRing sequence = some transferId
  · exact .inl initially
  · obtain ⟨before, label, after, taken, notYet, now⟩ :=
      exists_takes (fun stage => stage.inRing sequence = some transferId) ran initially slotted
    obtain ⟨_, _, _, _, stepped⟩ := id taken
    cases step_moves stepped with
    | skipped | rejected | deferred | spawned | called | finished | inserted | removed => exact absurd now notYet
    | recorded found turn read =>
      unfold store at now
      split at now
      · next present =>
        have now := (get_set_ring present _ _ _).symm.trans now
        split at now
        · next shared =>
          cases now
          exact .inr ⟨before, _, shared, recorded_of_turn taken found turn read⟩
        · exact absurd now notYet
      · exact absurd now notYet
    | taken present =>
      have now := (get_set_ring present _ _ _).symm.trans now
      split at now
      · cases now
      · exact absurd now notYet

/-- However the events are fed and whatever a client answers that returns one result for each
transfer: a batch has between 1 and 8190 transfers; no sequence is dispatched more often
than it was fed; and what the ledger stage has put into the map or into the ring for a
sequence is the client's last result for the transfer built from an event of that sequence. -/
theorem batches_aligned {ring : Option ResultRing} {labels : List StageLabel} {stage : LedgerStage}
    (ran : system.run (started ring) labels = some stage) :
    (∀ task ∈ stage.tasks, 1 ≤ task.batch.allTransfers.length ∧ task.batch.allTransfers.length ≤ 8190 ∧
        ∀ call ∈ task.calls, call.transfers = task.batch.allTransfers) ∧
      (∀ sequence, stage.dispatched.count sequence ≤ (stage.fed.map fun fed => fed.sequence).count sequence) ∧
      ((stage.fed.map fun fed => fed.sequence).Nodup → stage.dispatched.Nodup) ∧
      (∀ sequence result, stage.results sequence = some result → Written ring labels sequence result) ∧
      ∀ sequence transferId, stage.inRing sequence = some transferId → (started ring).inRing sequence = some transferId ∨
        ∃ before other, before.sameSlot sequence other = true ∧ Recorded ring labels before other (.ok transferId) := by
  have invariant := invariant_of_reaches (reachable_of_run ran)
  have sublist := invariant.dispatched_sublist
  refine ⟨?_, fun sequence => sublist.count_le sequence, fun distinct => distinct.sublist sublist,
    fun _ _ => written_of_mapped ran, fun _ _ => recorded_of_slotted ran⟩
  intro task member
  have sound := invariant.sound task member
  have aligned := sound.wellformed.aligned
  exact ⟨by omega, sound.wellformed.bounded, sound.submitted⟩

/-- No accepted transfer is lost, doubled or overtaken: the batches and then the vectors hold
the accepted ones in the order of their events. A task that has finished has stored one
result for each of its sequences, and has not retried its call more often than it may. -/
theorem accepted_batched_or_deferred {ring : Option ResultRing} {labels : List StageLabel} {stage : LedgerStage}
    (ran : system.run (started ring) labels = some stage) :
    (stage.tasks.flatMap fun task => task.batch.paired) ++ stage.vectors.paired.deferred = stage.accepted ∧
      ∀ index task replies, stage.tasks[index]? = some task → task.phase = .finished replies →
        replies.length = task.batch.sequences.length ∧ task.calls.length ≤ maxTransientRetries + 1 ∧
        ∀ (position : Nat) sequence reply, task.batch.sequences[position]? = some sequence → replies[position]? = some reply →
          ∃ before after, system.Takes (started ring) labels before (.record index) after ∧
            Records before after sequence reply := by
  have invariant := invariant_of_reaches (reachable_of_run ran)
  refine ⟨invariant.conserved, ?_⟩
  rintro index ⟨batch, _, calls⟩ replies found rfl
  have sound := invariant.sound _ (List.mem_of_getElem? found)
  have aligned := sound.wellformed.aligned
  cases sound.progress with
  | finished settled answered =>
    obtain ⟨earlier, _, within⟩ := settled
    refine ⟨?_, ?_, fun position sequence reply listed read => exists_records ran found trivial listed read⟩
    · rw [answered, aligned, SpawnedBatch.sequences_length]
    · rw [List.length_append]
      exact Nat.succ_le_succ within

end Histories

/-- In every state of the stage, an event does to the two vectors what it does to the pairs
of `LedgerHandler`. -/
theorem onEvent_refines {ring : Option ResultRing} {stage : LedgerStage} (reached : system.Reachable (started ring) stage)
    (decided : Bool) (event : TransactionEvent) (sequence : Int) (endOfBatch : Bool) (transferId : TransferId) (now : Nat) :
    Prod.map LedgerVectors.paired VectorOutcome.paired
        (stage.vectors.onEvent decided event sequence endOfBatch transferId now) =
      stage.vectors.paired.onEvent decided event sequence endOfBatch transferId now :=
  LedgerVectors.onEvent_paired (invariant_of_reaches reached).aligned decided event sequence endOfBatch transferId now

end Runs

def dollarEvent (units : UInt64) : TransactionEvent := .new ⟨1⟩ ⟨2⟩ ⟨3⟩ units .usd 1

def twoEventLabels : List StageLabel :=
  [.feed (dollarEvent 100) 0 false ⟨7⟩ 0, .feed (dollarEvent 200) 1 true ⟨8⟩ 0, .feed (dollarEvent 300) 2 false ⟨9⟩ 0,
    .call 0 [.ok ⟨7⟩, .error (.ledger "no")], .record 0, .record 0, .record 0]

attribute [local instance] referenceCrates

/-- A committed transfer is in the ring and a rejected one in the map, each as the client's result. -/
theorem twoEvents_batches_aligned : ∃ stage,
    system.run (started (some (.new isPowerOfTwo_four))) twoEventLabels = some stage ∧
      stage.dispatched = [0, 1] ∧ stage.inRing 0 = some ⟨7⟩ ∧ stage.results 1 = some (.rejected (.ledger "no")) ∧
      Written (some (.new isPowerOfTwo_four)) twoEventLabels 1 (.rejected (.ledger "no")) ∧
      ∃ before other, before.sameSlot 0 other = true ∧
        Recorded (some (.new isPowerOfTwo_four)) twoEventLabels before other (.ok ⟨7⟩) := by
  obtain ⟨stage, ran, dispatched, slotted, mapped⟩ := exists_of_run system
    (started (some (.new isPowerOfTwo_four))) twoEventLabels (fun stage => stage.dispatched = [0, 1] ∧
      stage.inRing 0 = some ⟨7⟩ ∧ stage.results 1 = some (.rejected (.ledger "no"))) (by decide)
  obtain ⟨_, _, _, written, recorded⟩ := @batches_aligned referenceCrates _ _ stage ran
  exact ⟨stage, ran, dispatched, slotted, mapped, written 1 _ mapped, (recorded 0 _ slotted).resolve_left nofun⟩

theorem twoEvents_stored : ∃ stage, system.run (started none) twoEventLabels = some stage ∧
      stage.dispatched = [0, 1] ∧ stage.vectors.deferredSequences = [2] ∧
      (stage.tasks.flatMap fun task => task.batch.paired) ++ stage.vectors.paired.deferred = accepted stage ∧
      ∃ before after, system.Takes (started none) twoEventLabels before (.record 0) after ∧
        Records before after 1 (.error (.ledger "no")) := by
  obtain ⟨stage, ran, dispatched, deferred, finished⟩ := exists_of_run system (started none)
    twoEventLabels (fun stage => stage.dispatched = [0, 1] ∧ stage.vectors.deferredSequences = [2] ∧
      (stage.tasks[0]?).map (fun task => (task.batch.sequences, task.phase.replies, task.phase.isActive)) =
        some ([0, 1], [.ok ⟨7⟩, .error (.ledger "no")], false)) (by decide)
  obtain ⟨conserved, stored⟩ := @accepted_batched_or_deferred referenceCrates none _ stage ran
  obtain ⟨task, found, parts⟩ := Option.map_eq_some_iff.mp finished
  obtain ⟨sequences, rest⟩ := Prod.mk.inj parts
  obtain ⟨replies, done⟩ := Prod.mk.inj rest
  cases phase : task.phase with rw [phase] at replies done
  | running | recording => cases done
  | finished =>
    obtain ⟨_, _, each⟩ := stored 0 task _ found phase
    refine ⟨stage, ran, dispatched, deferred, conserved, each 1 1 _ ?_ ?_⟩
    · rw [sequences]
      rfl
    · exact congrArg (·[1]?) replies

theorem secondEvent_refines : ∃ stage, system.Reachable (started none) stage ∧
    stage.vectors.deferredSequences = [0] ∧ Prod.map LedgerVectors.paired VectorOutcome.paired
        (LedgerVectors.onEvent stage.vectors false (dollarEvent 200) 1 true ⟨8⟩ 0) =
      LedgerHandler.onEvent stage.vectors.paired false (dollarEvent 200) 1 true ⟨8⟩ 0 := by
  obtain ⟨stage, reached, deferred⟩ := exists_reachable_of_run system (started none)
    [.feed (dollarEvent 100) 0 false ⟨7⟩ 0] (fun stage => stage.vectors.deferredSequences = [0]) (by decide)
  exact ⟨stage, reached, deferred, @onEvent_refines referenceCrates none stage reached _ _ _ _ _ _⟩

end LedgerStage

end Blazil.Engine

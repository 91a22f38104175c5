import Blazil.Engine.LedgerHandler

/-! The last stage of the pipeline (`core/engine/src/handlers/publish.rs`). Its lookups race with
the batch tasks that record results and with the transport that removes them, so what each of
them finds comes with the call.

The counters are compared with the results that the sequences obtain at any time. -/

set_option autoImplicit false

namespace Blazil.Engine

structure PublishHandler where
  publishedCount : Nat
  rejectedCount : Nat
  deferred : List Int
deriving DecidableEq

/-- A call of `on_event`, the map at its own lookup, and the map as the lookups of its flush find it. -/
structure PublishCall where
  event : TransactionEvent
  sequence : Int
  endOfBatch : Bool
  results : Results
  late : Results

namespace PublishHandler

def new : PublishHandler := ⟨0, 0, []⟩

def count (handler : PublishHandler) : TransactionResult → PublishHandler
  | .committed _ => { handler with publishedCount := handler.publishedCount + 1 }
  | .rejected _ => { handler with rejectedCount := handler.rejectedCount + 1 }

/-- A deferred sequence without a result is dropped. -/
def flushDeferred (handler : PublishHandler) (results : Results) : PublishHandler :=
  handler.deferred.foldl (fun handler sequence => ((results sequence).map handler.count).getD handler)
    { handler with deferred := [] }

def onEvent (handler : PublishHandler) (call : PublishCall) : PublishHandler :=
  if call.event.flags.skipPublish then
    if call.endOfBatch then handler.flushDeferred call.late else handler
  else
    match call.results call.sequence with
    | none => { handler with deferred := handler.deferred ++ [call.sequence] }
    | some result =>
      if call.endOfBatch then (handler.count result).flushDeferred call.late else handler.count result

def run (calls : List PublishCall) : PublishHandler := calls.foldl onEvent new

end PublishHandler

namespace PublishCall

/-- A sequence has one result, and a lookup finds it or nothing. -/
def Sees (outcome : Results) (call : PublishCall) : Prop :=
  ∀ sequence, (call.results sequence = none ∨ call.results sequence = outcome sequence) ∧
    (call.late sequence = none ∨ call.late sequence = outcome sequence)

def found (call : PublishCall) : Bool := (call.results call.sequence).isSome

def skipped (call : PublishCall) : Bool := call.event.flags.skipPublish

def flushes (call : PublishCall) : Bool := call.endOfBatch && (call.skipped || call.found)

end PublishCall

def caughtLater (sequence : Int) : List PublishCall → Bool
  | [] => false
  | call :: rest => if call.flushes then (call.late sequence).isSome else caughtLater sequence rest

def PublishCall.caught (call : PublishCall) (rest : List PublishCall) : Bool :=
  !call.skipped && (call.found || caughtLater call.sequence rest)

/-- Every sequence that obtains a result is published and looked up in time. -/
def InTime (outcome : Results) : List PublishCall → Prop
  | [] => True
  | call :: rest => ((outcome call.sequence).isSome → call.caught rest = true) ∧ InTime outcome rest

def TransactionResult.counts (rejected : Bool) (result : TransactionResult) : Bool := result.isRejected = rejected

def obtained (outcome : Results) (rejected : Bool) (calls : List PublishCall) : Nat :=
  calls.countP fun call => (outcome call.sequence).any (TransactionResult.counts rejected)

def obtainedInTime (outcome : Results) (rejected : Bool) : List PublishCall → Nat
  | [] => 0
  | call :: rest => obtainedInTime outcome rejected rest +
      if call.caught rest && (outcome call.sequence).any (TransactionResult.counts rejected) then 1 else 0

namespace PublishHandler

def tally (handler : PublishHandler) (rejected : Bool) : Nat :=
  if rejected then handler.rejectedCount else handler.publishedCount

variable {outcome : Results} {calls : List PublishCall} {last : PublishCall}

theorem tally_count (handler : PublishHandler) (result : TransactionResult) (rejected : Bool) :
    (handler.count result).tally rejected = handler.tally rejected + if result.counts rejected then 1 else 0 := by
  cases result <;> cases rejected <;> rfl

theorem count_deferred (handler : PublishHandler) (result : TransactionResult) :
    (handler.count result).deferred = handler.deferred := by
  cases result <;> rfl

theorem flushDeferred_spec (handler : PublishHandler) (results : Results) (rejected : Bool) :
    (handler.flushDeferred results).deferred = [] ∧ (handler.flushDeferred results).tally rejected = handler.tally rejected +
        handler.deferred.countP fun sequence => (results sequence).any (TransactionResult.counts rejected) := by
  suffices drained : ∀ (sequences : List Int) (start : PublishHandler), start.deferred = [] →
      (sequences.foldl (fun handler sequence => ((results sequence).map handler.count).getD handler) start).deferred = [] ∧
      (sequences.foldl (fun handler sequence => ((results sequence).map handler.count).getD handler) start).tally rejected =
        start.tally rejected + sequences.countP fun sequence => (results sequence).any (TransactionResult.counts rejected) from
    drained handler.deferred { handler with deferred := [] } rfl
  intro sequences
  induction sequences with
  | nil => exact fun start empty => ⟨empty, rfl⟩
  | cons sequence rest ih =>
    intro start empty
    cases lookup : results sequence with
    | none => simpa [lookup] using ih start empty
    | some result =>
      obtain ⟨drained, counted⟩ := ih (start.count result) ((count_deferred start result).trans empty)
      simp only [List.foldl_cons, lookup, Option.map_some, Option.getD_some, List.countP_cons, Option.any_some]
      refine ⟨drained, counted.trans ?_⟩
      rw [tally_count]
      omega

theorem tally_flushDeferred {call} (sees : call.Sees outcome) (flushes : call.flushes = true)
    (handler : PublishHandler) (rest : List PublishCall) (rejected : Bool) :
    (handler.flushDeferred call.late).tally rejected = handler.tally rejected + handler.deferred.countP fun sequence =>
      caughtLater sequence (call :: rest) && (outcome sequence).any (TransactionResult.counts rejected) := by
  rw [(flushDeferred_spec handler call.late rejected).2]
  congr 1
  refine List.countP_congr fun sequence _ => ?_
  simp only [caughtLater, flushes, if_true]
  rcases (sees sequence).2 with missing | same
  · simp [missing]
  · rw [same]
    cases outcome sequence <;> simp

theorem tally_onEvent {call} (sees : call.Sees outcome) (handler : PublishHandler) (rest : List PublishCall) (rejected : Bool) :
    ((handler.onEvent call).tally rejected + (handler.onEvent call).deferred.countP fun sequence =>
        caughtLater sequence rest && (outcome sequence).any (TransactionResult.counts rejected)) =
      handler.tally rejected +
        (if call.caught rest && (outcome call.sequence).any (TransactionResult.counts rejected) then 1 else 0) +
        handler.deferred.countP fun sequence =>
          caughtLater sequence (call :: rest) && (outcome sequence).any (TransactionResult.counts rejected) := by
  unfold onEvent
  split
  · next skip =>
    have uncaught : call.caught rest = false := by simp [PublishCall.caught, PublishCall.skipped, skip]
    split
    · next closing =>
      have flushes : call.flushes = true := by simp [PublishCall.flushes, PublishCall.skipped, skip, closing]
      rw [tally_flushDeferred sees flushes handler rest, (flushDeferred_spec handler call.late rejected).1]
      simp [uncaught]
    · next closing =>
      have waits : call.flushes = false := by simp [PublishCall.flushes, closing]
      simp [uncaught, caughtLater, waits]
  · next published =>
    cases lookup : call.results call.sequence with
    | none =>
      have waits : call.flushes = false := by
        simp [PublishCall.flushes, PublishCall.skipped, PublishCall.found, published, lookup]
      have deferred : call.caught rest = caughtLater call.sequence rest := by
        simp [PublishCall.caught, PublishCall.skipped, PublishCall.found, published, lookup]
      simp only [deferred, caughtLater, waits, tally, List.countP_append, List.countP_cons, List.countP_nil,
        zero_add, Bool.false_eq_true, if_false]
      omega
    | some result =>
      have caught : call.caught rest = true := by
        simp [PublishCall.caught, PublishCall.skipped, PublishCall.found, published, lookup]
      have same : outcome call.sequence = some result := by
        have found := (sees call.sequence).1
        rw [lookup] at found
        exact (found.resolve_left nofun).symm
      dsimp only
      split
      · next closing =>
        have flushes : call.flushes = true := by simp [PublishCall.flushes, PublishCall.found, closing, lookup]
        rw [tally_flushDeferred sees flushes (handler.count result) rest,
          (flushDeferred_spec (handler.count result) call.late rejected).1, tally_count, count_deferred]
        simp [caught, same]
      · next closing =>
        have waits : call.flushes = false := by simp [PublishCall.flushes, closing]
        rw [tally_count, count_deferred]
        simp [caught, same, caughtLater, waits]

theorem tally_foldl (seen : ∀ call ∈ calls, call.Sees outcome) (handler : PublishHandler) (rejected : Bool) :
    (calls.foldl onEvent handler).tally rejected = handler.tally rejected + obtainedInTime outcome rejected calls +
      handler.deferred.countP fun sequence =>
        caughtLater sequence calls && (outcome sequence).any (TransactionResult.counts rejected) := by
  induction calls generalizing handler with
  | nil => simp [obtainedInTime, caughtLater]
  | cons call rest ih =>
    obtain ⟨sees, seen⟩ := List.forall_mem_cons.mp seen
    have one := tally_onEvent sees handler rest rejected
    rw [List.foldl_cons, ih seen, obtainedInTime]
    omega

theorem obtainedInTime_le (outcome : Results) (rejected : Bool) (calls : List PublishCall) :
    obtainedInTime outcome rejected calls ≤ obtained outcome rejected calls := by
  induction calls with
  | nil => exact Nat.le_refl _
  | cons call rest ih =>
    unfold obtained at ih ⊢
    rw [List.countP_cons, obtainedInTime]
    refine Nat.add_le_add ih ?_
    cases call.caught rest <;> simp

theorem inTime_iff (outcome : Results) (calls : List PublishCall) :
    (∀ rejected, obtainedInTime outcome rejected calls = obtained outcome rejected calls) ↔ InTime outcome calls := by
  induction calls with
  | nil => exact iff_of_true (fun _ => rfl) trivial
  | cons call rest ih =>
    rw [InTime, ← ih]
    have grown : ∀ rejected, obtained outcome rejected (call :: rest) = obtained outcome rejected rest +
        if (outcome call.sequence).any (TransactionResult.counts rejected) then 1 else 0 :=
      fun rejected => List.countP_cons
    cases caught : call.caught rest with
    | true => simp [obtainedInTime, grown, caught]
    | false =>
      cases known : outcome call.sequence with
      | none => simp [obtainedInTime, grown, known]
      | some result =>
        refine iff_of_false ?_ fun inTime => nomatch inTime.1 rfl
        intro same
        have short := same result.isRejected
        have bound := obtainedInTime_le outcome result.isRejected rest
        simp only [obtainedInTime, grown, caught, known, TransactionResult.counts, Option.any_some, decide_true, if_true,
          Bool.false_and, Bool.false_eq_true, if_false] at short
        omega

/-- After a call that closes a batch, the deferred list is empty exactly if the closing event is
not published or has its result. The counters are right exactly if every event with a result
is published and has it at its own lookup or at the next flush, and they are never too high. -/
theorem closed_batch_counted_iff {outcome : Results} {calls : List PublishCall} {last : PublishCall}
    (seen : ∀ call ∈ calls ++ [last], call.Sees outcome) (closing : last.endOfBatch = true) :
    ((run (calls ++ [last])).deferred = [] ↔ last.event.flags.skipPublish = true ∨ (last.results last.sequence).isSome) ∧
      ((run (calls ++ [last])).publishedCount = obtained outcome false (calls ++ [last]) ∧
        (run (calls ++ [last])).rejectedCount = obtained outcome true (calls ++ [last]) ↔ InTime outcome (calls ++ [last])) ∧
      (run (calls ++ [last])).publishedCount ≤ obtained outcome false (calls ++ [last]) ∧
      (run (calls ++ [last])).rejectedCount ≤ obtained outcome true (calls ++ [last]) := by
  have counted : ∀ rejected, (run (calls ++ [last])).tally rejected = obtainedInTime outcome rejected (calls ++ [last]) := by
    intro rejected
    rw [run, tally_foldl seen new rejected]
    cases rejected <;> simp [new, tally]
  have published : (run (calls ++ [last])).publishedCount = _ := counted false
  have refused : (run (calls ++ [last])).rejectedCount = _ := counted true
  rw [published, refused]
  refine ⟨?_, ?_, obtainedInTime_le _ _ _, obtainedInTime_le _ _ _⟩
  · rw [run, List.foldl_concat, onEvent]
    split
    · next skip => simp [skip, (flushDeferred_spec _ last.late false).1]
    · next publish =>
      cases lookup : last.results last.sequence with
      | none => simp [publish]
      | some result => simp [(flushDeferred_spec _ last.late false).1]
  · rw [← inTime_iff, Bool.forall_bool]

def publishCall (sequence : Int) (endOfBatch : Bool) (results late : List Int) : PublishCall :=
  ⟨.new ⟨1⟩ ⟨2⟩ ⟨3⟩ 1 .usd 1, sequence, endOfBatch, fun other => if other ∈ results then some (.committed .nil) else none,
    fun other => if other ∈ late then some (.committed .nil) else none⟩

def bothCommitted : Results := fun sequence => if sequence ∈ [0, 1] then some (.committed .nil) else none

theorem publishCall_sees {results late : List Int} (known : results ⊆ [0, 1]) (knownLate : late ⊆ [0, 1])
    (sequence : Int) (endOfBatch : Bool) : (publishCall sequence endOfBatch results late).Sees bothCommitted := by
  intro other
  simp only [publishCall, bothCommitted]
  constructor
  · by_cases member : other ∈ results
    · exact .inr (by rw [if_pos member, if_pos (known member)])
    · exact .inl (if_neg member)
  · by_cases member : other ∈ late
    · exact .inr (by rw [if_pos member, if_pos (knownLate member)])
    · exact .inl (if_neg member)

def caughtInFlush : List PublishCall := [publishCall 0 false [] [], publishCall 1 true [1] [0, 1]]

theorem caughtInFlush_counted : (run caughtInFlush).deferred = [] ∧
    (run caughtInFlush).publishedCount = obtained bothCommitted false caughtInFlush := by
  have seen : ∀ call ∈ [publishCall 0 false [] []] ++ [publishCall 1 true [1] [0, 1]], call.Sees bothCommitted := by
    simp [publishCall_sees]
  have inTime : InTime bothCommitted caughtInFlush := ⟨fun _ => by decide, fun _ => by decide, trivial⟩
  obtain ⟨closed, counted, _⟩ := closed_batch_counted_iff seen rfl
  exact ⟨closed.mpr (.inr rfl), (counted.mpr inTime).1⟩

/-- A closing event whose result is still to come is deferred and nothing is flushed. And a
sequence whose result comes after the flush of its batch is dropped uncounted. -/
theorem closing_without_results : (run [publishCall 0 true [] []]).deferred = [0] ∧
    run [publishCall 0 false [] [], publishCall 1 true [1] [1], publishCall 2 true [0, 1, 2] [0, 1, 2]] = ⟨2, 0, []⟩ := by
  decide

end PublishHandler

end Blazil.Engine

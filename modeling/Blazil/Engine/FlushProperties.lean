import Blazil.Engine.Accounting

/-! When the ledger stage's queue is empty. The flush sits on the path of an accepted
event, so a batch that is closed by a refused event leaves its transfers waiting. -/

set_option autoImplicit false

namespace Blazil.Engine.Runtime

open Blazil.Common Foundation.System

variable {Task Tag : Type} {numShards : Nat}

def upcoming (runtime : Runtime Task Tag numShards) (worker : Fin numShards) : Option (Handled (Job Tag) numShards) :=
  match (runtime.pipeline.workers worker).phase with
  | .draining cursor => runtime.pipeline.nextHandled worker cursor
  | _ => none

/-- An event that closes a batch finds the queue empty or passes the whole chain. -/
def ClosesCleanly (risk : RiskHandler) (runtime : Runtime Task Tag numShards) : RuntimeLabel Task Tag numShards → Prop
  | .drain worker _ _ => ∀ entry ∈ runtime.upcoming worker, entry.endOfBatch = true →
      (runtime.handlers worker).deferred = [] ∨ Admissible risk entry.event.event
  | _ => True

instance (risk : RiskHandler) (runtime : Runtime Task Tag numShards)
    (label : RuntimeLabel Task Tag numShards) : Decidable (runtime.ClosesCleanly risk label) :=
  match label with
  | .drain worker _ _ => inferInstanceAs (Decidable (∀ entry ∈ runtime.upcoming worker, _ → _ ∨ _))
  | .pipeline _ | .attempt _ _ _ | .record _ => .isTrue trivial

variable {runtime : Runtime Task Tag numShards}

theorem upcoming_eq {worker cursor} (draining : (runtime.pipeline.workers worker).phase = .draining cursor) :
    runtime.upcoming worker = runtime.pipeline.nextHandled worker cursor := by
  rw [upcoming, draining]

/-- Transfers wait only while their worker still has events to take up. -/
def WaitsWhileDraining (runtime : Runtime Task Tag numShards) : Prop :=
  ∀ worker, (runtime.handlers worker).deferred ≠ [] → ∃ cursor, (runtime.pipeline.workers worker).phase = .draining cursor ∧
      (runtime.pipeline.workers worker).consumerSeq + numShards ≤ cursor

theorem closing_deferred_iff [ExternalCrates] {risk entry transferId now}
    (undecided : runtime.results entry.sequence = none) (identified : transferId ≠ .nil) (closing : entry.endOfBatch = true) :
    (runtime.chainEffect risk entry transferId now).handler.deferred = [] ↔
      (runtime.handlers entry.worker).deferred = [] ∨ Admissible risk entry.event.event := by
  rw [← chainVerdict_ok_iff identified]
  cases @chainCase _ _ _ runtime entry _ risk transferId now undecided with
  | rejected refused effect => simp [effect, refused]
  | deferred _ unclosed =>
    rw [closing] at unclosed
    cases unclosed
  | flushed admitted effect => simp [effect, admitted]

section Runs

variable [ExternalCrates] [DecidableEq Task] {risk : RiskHandler}

theorem WaitsWhileDraining.step {runtime next : Runtime Task Tag numShards} {label : RuntimeLabel Task Tag numShards}
    (waits : runtime.WaitsWhileDraining) (onStride : runtime.pipeline.OnStride) (accounting : runtime.Accounting)
    (permitted : runtime.ClosesCleanly risk label) (stepped : runtime.step risk label = some next) : next.WaitsWhileDraining := by
  cases step_moves stepped with
  | @pipeline _ _ other moved =>
    intro worker waiting
    obtain ⟨cursor, draining, ahead⟩ := waits worker waiting
    have same := Pipeline.draining_of_step other moved draining
    exact ⟨cursor, same ▸ draining, same ▸ ahead⟩
  | @drained actor _ _ _ _ draining done moved =>
    cases Pipeline.step_drain_none draining done moved
    intro worker waiting
    obtain ⟨seen, seenDraining, ahead⟩ := waits worker waiting
    by_cases own : worker = actor
    · subst own
      have positive := worker.pos
      have beyond := Pipeline.nextHandled_none positive done
      rw [draining] at seenDraining
      cases seenDraining
      omega
    · exact ⟨seen, by simpa [own] using seenDraining, by simpa [own] using ahead⟩
  | @handled _ cursor _ _ _ entry draining taken identified moved =>
    cases Pipeline.step_drain_some draining taken moved
    obtain ⟨rfl, _, _, _, closing⟩ := Pipeline.nextHandled_some taken
    intro worker waiting
    by_cases own : worker = entry.worker
    · subst own
      refine ⟨cursor, by simp [afterChain], ?_⟩
      have open_ : ¬entry.endOfBatch = true := by
        intro closed
        apply waiting
        simp only [afterChain, ↓reduceIte]
        have untouched := untouched_of_taken onStride accounting taken
        exact (closing_deferred_iff untouched.undecided identified closed).mpr
          (permitted entry ((upcoming_eq draining).trans taken) closed)
      rw [closing] at open_
      simp only [afterChain, Pipeline.setWorker_workers, ↓reduceIte]
      omega
    · have before : (runtime.handlers worker).deferred ≠ [] := by
        simpa [afterChain, own] using waiting
      obtain ⟨seen, seenDraining, ahead⟩ := waits worker before
      exact ⟨seen, by simpa [afterChain, own] using seenDraining,
        by simpa [afterChain, own] using ahead⟩
  | attempted | recorded | finished => exact waits

theorem waits_of_reaches {capacity : Nat} {blank : Nat → Job Tag} {pipeline : Pipeline Task (Job Tag) numShards}
    {state : Runtime Task Tag numShards} (built : Pipeline.build Task numShards capacity blank = .ok pipeline)
    (reached : (system risk).Reaches (ClosesCleanly risk) (started pipeline) state) : state.WaitsWhileDraining := by
  have strengthened := reached.invariant
    (fun runtime => (system risk).Reachable (started pipeline) runtime ∧ runtime.WaitsWhileDraining)
    ⟨.refl, fun worker waiting => absurd rfl waiting⟩ ?_
  · exact strengthened.2
  · intro before label after permitted stepped invariant
    obtain ⟨reachable, waits⟩ := invariant
    obtain ⟨onStride, accounting⟩ := accounting_of_reachable built reachable
    exact ⟨.step reachable trivial stepped, waits.step onStride accounting permitted stepped⟩

/-- A closing event empties the queue exactly when the queue was empty or the event
passes the chain. In runs where every closing event does so, each sequence that an
exited worker handled was dispatched in one batch or was rejected without one. -/
theorem ledgerHandler_flushes {risk : RiskHandler} {capacity : Nat} {blank : Nat → Job Tag}
    {pipeline : Pipeline Task (Job Tag) numShards} (built : Pipeline.build Task numShards capacity blank = .ok pipeline) :
    (∀ state next worker entry transferId now, (system risk).Reachable (started pipeline) state →
      state.upcoming worker = some entry → entry.endOfBatch = true →
      (system risk).step state (.drain worker transferId now) = some next →
      ((next.handlers worker).deferred = [] ↔ (state.handlers worker).deferred = [] ∨ Admissible risk entry.event.event)) ∧
    (∀ state, (system risk).Reaches (ClosesCleanly risk) (started pipeline) state →
      ∀ worker, (state.pipeline.workers worker).phase = .exited →
      ∀ entry ∈ state.pipeline.handled, entry.worker = worker → state.timesDispatched entry.sequence = 1 ∨
          state.timesDispatched entry.sequence = 0 ∧ ∃ reason, state.results entry.sequence = some (.rejected reason)) := by
  constructor
  · intro state next worker entry transferId now reached coming closing stepped
    obtain ⟨onStride, accounting⟩ := accounting_of_reachable built reached
    have stepped : state.step risk (.drain worker transferId now) = some next := stepped
    cases step_moves stepped with
    | drained draining done =>
      rw [upcoming_eq draining, done] at coming
      cases coming
    | handled draining taken identified =>
      rw [upcoming_eq draining, taken] at coming
      cases coming
      obtain ⟨rfl, _⟩ := Pipeline.nextHandled_some taken
      simp only [afterChain, ↓reduceIte]
      have untouched := untouched_of_taken onStride accounting taken
      exact closing_deferred_iff untouched.undecided identified closing
  · intro state reached worker exited entry member owner
    obtain ⟨_, accounting⟩ := accounting_of_reachable built reached.reachable
    have waits := waits_of_reaches built reached
    have empty : (state.handlers worker).deferred = [] := by
      by_contra waiting
      obtain ⟨_, draining, _⟩ := waits worker waiting
      rw [exited] at draining
      cases draining
    cases accounting.handled entry member with
    | dispatched once => exact .inl once
    | deferred _ once =>
      rw [owner, timesDeferred, empty] at once
      cases once
    | rejected never _ refused => exact .inr ⟨never, refused⟩

end Runs

def centsJob (cents : UInt64) : Job Unit :=
  ⟨(), .new ⟨7⟩ ⟨1⟩ ⟨2⟩ cents .usd 1⟩

def singleWorker : Pipeline Unit (Job Unit) 1 :=
  Pipeline.started Unit (RingBuffer.fresh 1 isPowerOfTwo_four fun _ => centsJob 0)

def unlimited : RiskHandler := ⟨100000000000000, fun _ _ => none⟩

def twoThenStop (first second : UInt64) : List (RuntimeLabel Unit Unit 1) :=
  (Pipeline.publishing () (centsJob first) ++ Pipeline.publishing () (centsJob second)).map .pipeline ++
    [.pipeline (.poll 0), .drain 0 ⟨11⟩ 0, .drain 0 ⟨12⟩ 0, .drain 0 ⟨13⟩ 0, .pipeline (.gate 0),
      .pipeline .stop, .pipeline (.poll 0), .pipeline (.checkShutdown 0)]

/-- The second event is refused, so the first one stays in the queue: the worker has
exited, and the first sequence is neither rejected nor dispatched. -/
theorem refusedClosing_transfer_stranded : ∃ state, (@system Unit Unit 1 referenceCrates _ unlimited).Reachable
        (started singleWorker) state ∧ (state.pipeline.workers 0).phase = .exited ∧
      state.pipeline.handled.map (fun entry => (entry.sequence, entry.endOfBatch)) = [(0, false), (1, true)] ∧
      state.timesDeferred 0 0 = 1 ∧ state.timesDispatched 0 = 0 ∧ state.results 0 = none :=
  exists_reachable_of_run _ _ (twoThenStop 500 0) _ (by decide)

theorem acceptedClosing_dispatched : ∃ state, (@system Unit Unit 1 referenceCrates _ unlimited).Reaches
        (ClosesCleanly unlimited) (started singleWorker) state ∧ state.pipeline.handled.length = 2 ∧
      ∀ entry ∈ state.pipeline.handled, entry.worker = 0 →
        state.timesDispatched entry.sequence = 1 ∨ state.timesDispatched entry.sequence = 0 ∧
          ∃ reason, state.results entry.sequence = some (.rejected reason) := by
  obtain ⟨state, reached, exited, both⟩ := exists_reaches_of_run
    (@system Unit Unit 1 referenceCrates _ unlimited) (ClosesCleanly unlimited)
    (started singleWorker) (twoThenStop 500 600)
    (fun state => (state.pipeline.workers 0).phase = .exited ∧ state.pipeline.handled.length = 2)
    (by decide) (by decide)
  have built : Pipeline.build Unit 1 4 (fun _ => centsJob 0) = .ok singleWorker := rfl
  exact ⟨state, reached, both, (@ledgerHandler_flushes _ _ _ referenceCrates _ unlimited _ _ _ built).2 state reached 0 exited⟩

end Blazil.Engine.Runtime

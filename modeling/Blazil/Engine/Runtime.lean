import Blazil.Engine.LedgerHandler
import Blazil.Engine.SoloPublishing

/-! The running engine: the pipeline, the ledger stage of each worker, the shared
results and the batch tasks that the ledger stages spawn. The ledger client answers a
batch as the environment chooses: a label says which transfers an attempt commits and
what it replies, so an attempt may take effect and still report a failure. -/

set_option autoImplicit false

namespace Blazil.Engine

open Blazil.Common Blazil.Ledger Foundation

/-- An event in a slot, together with a mark that says where it came from. -/
structure Job (Tag : Type) where
  tag : Tag
  event : TransactionEvent
deriving DecidableEq

/-- A batch task first calls the ledger, again after transient failures, and then
records the replies one sequence after the other. -/
inductive TaskPhase where
  | running (attempt : Nat)
  | recording (replies : List (BlazerResult TransferId)) (next : Nat)
  | finished (replies : List (BlazerResult TransferId))

structure BatchTask where
  batch : List (Int × Transfer)
  phase : TaskPhase

def allTransient (replies : List (BlazerResult TransferId)) : Bool :=
  replies.all fun reply =>
    match reply with
    | .ok _ => false
    | .error reason => reason.isTransient

/-- The retry loop leaves with these replies, unless all failed transiently and an
attempt is left. -/
def TaskPhase.afterAttempt (attempt : Nat) (replies : List (BlazerResult TransferId)) : TaskPhase :=
  if !allTransient replies || maxTransientRetries ≤ attempt then .recording replies 0
  else .running (attempt + 1)

def TaskPhase.replies : TaskPhase → List (BlazerResult TransferId)
  | .running _ => []
  | .recording replies _ => replies
  | .finished replies => replies

def TaskPhase.isActive : TaskPhase → Bool
  | .finished _ => false
  | _ => true

def resultOf : BlazerResult TransferId → TransactionResult
  | .ok transferId => .committed transferId
  | .error reason => .rejected reason

structure Runtime (Task Tag : Type) (numShards : Nat) where
  pipeline : Pipeline Task (Job Tag) numShards
  handlers : Fin numShards → LedgerHandler
  results : Results
  tasks : List BatchTask
  committed : List (Int × Transfer)

inductive RuntimeLabel (Task Tag : Type) (numShards : Nat) where
  | pipeline (label : PipelineLabel Task (Job Tag) numShards)
  | drain (worker : Fin numShards) (transferId : TransferId) (now : Nat)
  | attempt (task : Nat) (applied : List (Int × Transfer)) (replies : List (BlazerResult TransferId))
  | record (task : Nat)

namespace Runtime

variable {Task Tag : Type} {numShards : Nat}

def started (pipeline : Pipeline Task (Job Tag) numShards) : Runtime Task Tag numShards :=
  ⟨pipeline, fun _ => {}, fun _ => none, [], []⟩

def activeTasks (runtime : Runtime Task Tag numShards) : Nat :=
  runtime.tasks.countP fun task => task.phase.isActive

@[simps]
def setTask (runtime : Runtime Task Tag numShards) (index : Nat) (task : BatchTask) : Runtime Task Tag numShards :=
  { runtime with tasks := runtime.tasks.set index task }

def afterChain (runtime : Runtime Task Tag numShards) (pipeline : Pipeline Task (Job Tag) numShards)
    (worker : Fin numShards) (effect : ChainEffect) : Runtime Task Tag numShards where
  pipeline := pipeline
  handlers := fun other => if other = worker then effect.handler else runtime.handlers other
  results := effect.results
  tasks := runtime.tasks ++ effect.dispatched.toList.map fun batch => ⟨batch, .running 0⟩
  committed := runtime.committed

section Steps

variable [ExternalCrates] [DecidableEq Task]

def chainEffect (risk : RiskHandler) (runtime : Runtime Task Tag numShards)
    (entry : Handled (Job Tag) numShards) (transferId : TransferId) (now : Nat) : ChainEffect :=
  runHandlers risk (runtime.handlers entry.worker) runtime.results entry.event.event entry.sequence
    entry.endOfBatch transferId now

/-- A generated transfer id is never nil. A worker that has a batch to dispatch waits
while too many tasks are active. -/
def step (risk : RiskHandler) (runtime : Runtime Task Tag numShards) :
    RuntimeLabel Task Tag numShards → Option (Runtime Task Tag numShards)
  | .pipeline (.drain _) => none
  | .pipeline label =>
    (runtime.pipeline.step label).map fun next => { runtime with pipeline := next }
  | .drain worker transferId now =>
    match (runtime.pipeline.workers worker).phase with
    | .draining cursor =>
      match runtime.pipeline.nextHandled worker cursor with
      | none =>
        (runtime.pipeline.step (.drain worker)).map fun next =>
          { runtime with pipeline := next }
      | some entry =>
        let effect := runtime.chainEffect risk entry transferId now
        if transferId = .nil ∨
            effect.dispatched.isSome ∧ maxConcurrentBatches ≤ runtime.activeTasks then none
        else
          (runtime.pipeline.step (.drain worker)).map fun next =>
            runtime.afterChain next worker effect
    | _ => none
  | .attempt index applied replies =>
    match runtime.tasks[index]? with
    | some ⟨batch, .running attempt⟩ =>
      if replies.length = batch.length ∧ ∀ item ∈ applied, item ∈ batch then
        some { runtime.setTask index ⟨batch, .afterAttempt attempt replies⟩ with
          committed := runtime.committed ++ applied }
      else none
    | _ => none
  | .record index =>
    match runtime.tasks[index]? with
    | some ⟨batch, .recording replies next⟩ =>
      match (batch.zip replies)[next]? with
      | some ((sequence, _), reply) =>
        some { runtime.setTask index ⟨batch, .recording replies (next + 1)⟩ with
          results := runtime.results.insert sequence (resultOf reply) }
      | none => some (runtime.setTask index ⟨batch, .finished replies⟩)
    | _ => none

def system (risk : RiskHandler) : System (Runtime Task Tag numShards) (RuntimeLabel Task Tag numShards) :=
  ⟨step risk⟩

inductive Moves (risk : RiskHandler) (runtime : Runtime Task Tag numShards) :
    RuntimeLabel Task Tag numShards → Runtime Task Tag numShards → Prop where
  | pipeline {label next} (other : ∀ worker, label ≠ .drain worker)
      (stepped : runtime.pipeline.step label = some next) :
      Moves risk runtime (.pipeline label) { runtime with pipeline := next }
  | drained {worker cursor transferId now next} (draining : (runtime.pipeline.workers worker).phase = .draining cursor)
      (done : runtime.pipeline.nextHandled worker cursor = none)
      (stepped : runtime.pipeline.step (.drain worker) = some next) :
      Moves risk runtime (.drain worker transferId now) { runtime with pipeline := next }
  | handled {worker cursor transferId now next entry}
      (draining : (runtime.pipeline.workers worker).phase = .draining cursor)
      (taken : runtime.pipeline.nextHandled worker cursor = some entry)
      (identified : transferId ≠ .nil)
      (stepped : runtime.pipeline.step (.drain worker) = some next) :
      Moves risk runtime (.drain worker transferId now)
        (runtime.afterChain next worker (runtime.chainEffect risk entry transferId now))
  | attempted {index attempt applied batch replies} (found : runtime.tasks[index]? = some ⟨batch, .running attempt⟩)
      (answered : replies.length = batch.length) (within : ∀ item ∈ applied, item ∈ batch) :
      Moves risk runtime (.attempt index applied replies)
        { runtime.setTask index ⟨batch, .afterAttempt attempt replies⟩ with
          committed := runtime.committed ++ applied }
  | recorded {index next batch replies sequence transfer reply}
      (found : runtime.tasks[index]? = some ⟨batch, .recording replies next⟩)
      (entry : (batch.zip replies)[next]? = some ((sequence, transfer), reply)) :
      Moves risk runtime (.record index)
        { runtime.setTask index ⟨batch, .recording replies (next + 1)⟩ with
          results := runtime.results.insert sequence (resultOf reply) }
  | finished {index next batch replies} (found : runtime.tasks[index]? = some ⟨batch, .recording replies next⟩)
      (done : (batch.zip replies)[next]? = none) :
      Moves risk runtime (.record index) (runtime.setTask index ⟨batch, .finished replies⟩)

variable {risk : RiskHandler} {runtime next : Runtime Task Tag numShards} {label : RuntimeLabel Task Tag numShards}

theorem step_moves (stepped : runtime.step risk label = some next) : Moves risk runtime label next := by
  cases label with simp only [step] at stepped
  | pipeline label =>
    cases label with
    | drain => simp at stepped
    | _ =>
      simp only [Option.map_eq_some_iff] at stepped
      obtain ⟨_, moved, rfl⟩ := stepped
      exact .pipeline (fun worker => by simp) moved
  | drain =>
    split at stepped
    · next draining =>
      split at stepped
      · next taken =>
        obtain ⟨_, moved, rfl⟩ := Option.map_eq_some_iff.mp stepped
        exact .drained draining taken moved
      · next taken =>
        split at stepped
        · cases stepped
        · next ready =>
          obtain ⟨_, moved, rfl⟩ := Option.map_eq_some_iff.mp stepped
          exact .handled draining taken (fun nil => ready (.inl nil)) moved
    · cases stepped
  | attempt =>
    split at stepped
    · next found =>
      split at stepped
      · next valid =>
        cases stepped
        exact .attempted found valid.1 valid.2
      · cases stepped
    · cases stepped
  | record =>
    split at stepped
    · next found =>
      split at stepped
      · next entry =>
        cases stepped
        exact .recorded found entry
      · next entry =>
        cases stepped
        exact .finished found entry
    · cases stepped

variable {task : Task} {job : Job Tag}

theorem step_check (room : runtime.pipeline.ring.hasAvailableCapacity = true)
    (stepped : runtime.step risk (.pipeline (.check task job)) = some next) :
    next = { runtime with pipeline := runtime.pipeline.setPublisher task (.checked job) } := by
  cases step_moves stepped with
  | pipeline _ moved =>
    cases Pipeline.step_moves moved with
    | full _ full => exact absurd room full
    | check => rfl

theorem step_publish {sequence : Int} (written : runtime.pipeline.publishers task = .written job sequence)
    (stepped : runtime.step risk (.pipeline (.publish task)) = some next) : next = { runtime with
      pipeline := ((runtime.pipeline.setRing (runtime.pipeline.ring.publish sequence)).recordPublished
          ⟨task, sequence, job⟩).setPublisher task .idle } := by
  cases step_moves stepped with
  | pipeline _ moved =>
    cases Pipeline.step_moves moved with
    | publish seen =>
      rw [written] at seen
      cases seen
      rfl

theorem publishers_of_step (begins : ∀ task job, label ≠ .pipeline (.check task job))
    (ends : ∀ task, label ≠ .pipeline (.publish task)) (stepped : runtime.step risk label = some next) :
    next.pipeline.published = runtime.pipeline.published ∧ ∀ task, (next.pipeline.publishers task).event? =
        (runtime.pipeline.publishers task).event? := by
  cases step_moves stepped with
  | pipeline _ moved =>
    refine Pipeline.publishers_of_step ?_ ?_ moved
    · exact fun task job same => begins task job (congrArg _ same)
    · exact fun task same => ends task (congrArg _ same)
  | drained _ _ moved | handled _ _ _ moved =>
    exact Pipeline.publishers_of_step (by simp) (by simp) moved
  | attempted | recorded | finished => exact ⟨rfl, fun _ => rfl⟩

/-- Calls of `publish_event` do not overlap. -/
def Solo (runtime : Runtime Task Tag numShards) : RuntimeLabel Task Tag numShards → Prop
  | .pipeline label => runtime.pipeline.Solo label
  | _ => True

theorem Moves.project (moved : Moves risk runtime label next) :
    next.pipeline = runtime.pipeline ∨ ∃ inner, (runtime.Solo label → runtime.pipeline.Solo inner) ∧
        runtime.pipeline.step inner = some next.pipeline := by
  cases moved with
  | @pipeline label _ _ stepped => exact .inr ⟨label, id, stepped⟩
  | @drained worker _ _ _ _ _ _ stepped => exact .inr ⟨.drain worker, fun _ => trivial, stepped⟩
  | @handled worker _ _ _ _ _ _ _ _ stepped => exact .inr ⟨.drain worker, fun _ => trivial, stepped⟩
  | attempted | recorded | finished => exact .inl rfl

end Steps

end Runtime

end Blazil.Engine

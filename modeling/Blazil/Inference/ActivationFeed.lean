import Mathlib.Data.List.ReduceOption

/-! The second and the third stage of a distributed model (`services/inference/src/aeron_server.rs`).
All fragments of a poll are added to one buffer, at most one activation is taken from it, and then
the buffer is cleared.

Each activation gets a thread. The threads race for the lock of the model and then for the channel
to the next stage, and a thread ends without a message if the layers fail. -/

set_option autoImplicit false

namespace Blazil.Inference

/-- What is assumed of `serialize_activation` and `deserialize_activation`: one value is decoded
from the front of the buffer, what follows it is ignored, and a part of a value is refused. -/
structure ActivationCodec (Activation : Type) where
  serialize : Activation → List UInt8
  deserialize : List UInt8 → Option Activation
  complete : ∀ activation rest, deserialize (serialize activation ++ rest) = some activation
  incomplete : ∀ activation part rest, serialize activation = part ++ rest → rest ≠ [] → deserialize part = none
  refuses_empty : deserialize [] = none

abbrev Fragment := List UInt8

/-- The buffer of a receive loop, the threads that wait for the model, the model, the threads that
have an output, and what they have sent to the channel. -/
structure PipelineStage (Model Activation Output : Type) where
  pendingActivation : List UInt8
  waiting : List Activation
  model : Model
  computed : List Output
  sent : List Output

/-- A turn of the loop with the fragments of its poll, or the next step of a thread. -/
inductive StageEvent where
  | poll (fragments : List Fragment)
  | lock (thread : Nat)
  | send (thread : Nat)
deriving DecidableEq

variable {Model Activation Token Output : Type} (codec : ActivationCodec Activation)

def takeActivation (pending : List UInt8) (fragments : List Fragment) : List UInt8 × Option Activation :=
  if fragments = [] then (pending, none)
  else
    match codec.deserialize (pending ++ fragments.flatten) with
    | none => (pending ++ fragments.flatten, none)
    | some activation => ([], some activation)

namespace PipelineStage

section

variable (generate : Model → Activation → Model × Except String (Activation ⊕ Token))
  (keep : Except String (Activation ⊕ Token) → Option Output)

def step (stage : PipelineStage Model Activation Output) : StageEvent → PipelineStage Model Activation Output
  | .poll fragments =>
    let (pending, activation) := takeActivation codec stage.pendingActivation fragments
    { stage with pendingActivation := pending, waiting := stage.waiting ++ activation.toList }
  | .lock thread =>
    match stage.waiting[thread]? with
    | none => stage
    | some activation =>
      let (model, result) := generate stage.model activation
      { stage with
        waiting := stage.waiting.eraseIdx thread
        model := model
        computed := stage.computed ++ (keep result).toList }
  | .send thread =>
    { stage with computed := stage.computed.eraseIdx thread, sent := stage.sent ++ (stage.computed[thread]?).toList }

def run (model : Model) (events : List StageEvent) : PipelineStage Model Activation Output :=
  events.foldl (step codec generate keep) ⟨[], [], model, [], []⟩

def processInOrder : Model → List Activation → Model × List (Option Output)
  | model, [] => (model, [])
  | model, activation :: rest =>
    let (next, result) := generate model activation
    let (last, outputs) := processInOrder next rest
    (last, keep result :: outputs)

end

end PipelineStage

section Stages

variable (generate : Model → Activation → Model × Except String (Activation ⊕ Token))

def middleOutput : Except String (Activation ⊕ Token) → Option Activation
  | .ok (.inl state) => some state
  | .ok (.inr _) => none
  | .error _ => none

def finalOutput : Except String (Activation ⊕ Token) → Option Token
  | .ok (.inr token) => some token
  | .ok (.inl _) => none
  | .error _ => none

def runStage2Pipeline (model : Model) (events : List StageEvent) : PipelineStage Model Activation Activation :=
  .run codec generate middleOutput model events

def runStage3Pipeline (model : Model) (events : List StageEvent) : PipelineStage Model Activation Token :=
  .run codec generate finalOutput model events

end Stages

/-- The polls bring the activations one after another, and none brings fragments of two. -/
inductive Separate : List Activation → List (List Fragment) → Prop where
  | none {polls} (silent : polls.flatten.flatten = []) : Separate [] polls
  | next {activation rest own polls}
      (bytes : own.flatten.flatten = codec.serialize activation) (later : Separate rest polls) :
      Separate (activation :: rest) (own ++ polls)

namespace StageEvent

def fragments : StageEvent → Option (List Fragment)
  | .poll fragments => some fragments
  | _ => none

/-- The lock goes to the thread that has waited longest, and so does the channel. -/
def InOrder : StageEvent → Prop
  | .poll _ => True
  | .lock thread => thread = 0
  | .send thread => thread = 0

end StageEvent

def takenBy : List UInt8 → List (List Fragment) → List Activation
  | _, [] => []
  | pending, fragments :: rest =>
    (takeActivation codec pending fragments).2.toList ++ takenBy (takeActivation codec pending fragments).1 rest

variable {codec} {polls : List (List Fragment)}

theorem takenBy_silent {own} (silent : own.flatten.flatten = []) :
    takenBy codec [] (own ++ polls) = takenBy codec [] polls := by
  induction own with
  | nil => rfl
  | cons fragments _ ih =>
    rw [List.flatten_cons, List.flatten_append, List.append_eq_nil_iff] at silent
    have same : takeActivation codec [] fragments = ([], none) := by
      unfold takeActivation
      split
      · rfl
      · simp [silent.1, codec.refuses_empty]
    rw [List.cons_append, takenBy, same]
    exact ih silent.2

theorem takenBy_activation {activation part own}
    (bytes : part ++ own.flatten.flatten = codec.serialize activation) (missing : own.flatten.flatten ≠ []) :
    takenBy codec part (own ++ polls) = activation :: takenBy codec [] polls := by
  induction own generalizing part with
  | nil => exact absurd rfl missing
  | cons fragments own ih =>
    rw [List.flatten_cons, List.flatten_append] at bytes missing
    rw [List.cons_append, takenBy]
    by_cases empty : fragments = []
    · subst empty
      exact ih bytes missing
    · by_cases last : own.flatten.flatten = []
      · have decoded := codec.complete activation []
        rw [List.append_nil, ← bytes, last, List.append_nil] at decoded
        simp only [takeActivation, if_neg empty, decoded]
        exact congrArg (activation :: ·) (takenBy_silent last)
      · rw [← List.append_assoc] at bytes
        simp only [takeActivation, if_neg empty, codec.incomplete activation _ _ bytes.symm last]
        exact ih bytes last

theorem takenBy_separate {activations} (separate : Separate codec activations polls) :
    takenBy codec [] polls = activations := by
  induction separate with
  | @none polls silent =>
    have taken := @takenBy_silent _ codec [] polls silent
    rwa [List.append_nil] at taken
  | @next activation _ own _ bytes _ ih =>
    have missing : own.flatten.flatten ≠ [] := by
      intro empty
      have decoded := codec.complete activation []
      rw [← bytes, empty, List.append_nil, codec.refuses_empty] at decoded
      cases decoded
    rw [takenBy_activation bytes missing, ih]

namespace PipelineStage

variable {generate : Model → Activation → Model × Except String (Activation ⊕ Token)}
  {keep : Except String (Activation ⊕ Token) → Option Output} {events : List StageEvent}

theorem foldl_step (inOrder : ∀ event ∈ events, event.InOrder) (stage : PipelineStage Model Activation Output) :
    ∃ processed, stage.waiting ++ takenBy codec stage.pendingActivation (events.filterMap StageEvent.fragments) =
        processed ++ (events.foldl (step codec generate keep) stage).waiting ∧
      (events.foldl (step codec generate keep) stage).model = (processInOrder generate keep stage.model processed).1 ∧
      (events.foldl (step codec generate keep) stage).sent ++ (events.foldl (step codec generate keep) stage).computed =
        stage.sent ++ stage.computed ++ (processInOrder generate keep stage.model processed).2.reduceOption := by
  induction events generalizing stage with
  | nil => exact ⟨[], by simp [takenBy], rfl, by simp [processInOrder, List.reduceOption_nil]⟩
  | cons event rest ih =>
    obtain ⟨first, later⟩ := List.forall_mem_cons.mp inOrder
    obtain ⟨processed, received, model, outputs⟩ := ih later (step codec generate keep stage event)
    rw [List.foldl_cons]
    cases event with
    | poll fragments =>
      refine ⟨processed, ?_, model, outputs⟩
      rw [← received]
      simp [step, takenBy, StageEvent.fragments]
    | lock thread =>
      obtain rfl : thread = 0 := first
      cases waiting : stage.waiting with
      | nil =>
        have same : step codec generate keep stage (.lock 0) = stage := by simp [step, waiting]
        rw [same] at received model outputs ⊢
        exact ⟨processed, waiting ▸ received, model, outputs⟩
      | cons activation others =>
        have moved : step codec generate keep stage (.lock 0) = { stage with
            waiting := others
            model := (generate stage.model activation).1
            computed := stage.computed ++ (keep (generate stage.model activation).2).toList } := by
          simp [step, waiting]
        rw [moved] at received model outputs ⊢
        refine ⟨activation :: processed, congrArg (activation :: ·) received, model, outputs.trans ?_⟩
        cases output : keep (generate stage.model activation).2 with
        | none => simp [processInOrder, output, List.reduceOption_cons_of_none]
        | some => simp [processInOrder, output, List.reduceOption_cons_of_some]
    | send thread =>
      obtain rfl : thread = 0 := first
      refine ⟨processed, received, model, outputs.trans ?_⟩
      cases computed : stage.computed <;> simp [step, computed]

theorem processInOrder_append (model : Model) (first second : List Activation) :
    (processInOrder generate keep model (first ++ second)).2 = (processInOrder generate keep model first).2 ++
      (processInOrder generate keep (processInOrder generate keep model first).1 second).2 := by
  induction first generalizing model with
  | nil => rfl
  | cons activation _ ih => exact congrArg (keep (generate model activation).2 :: ·) (ih _)

theorem map_some_reduceOption {outputs : List (Option Output)} (all : none ∉ outputs) :
    outputs.reduceOption.map some = outputs := by
  induction outputs with
  | nil => rfl
  | cons output _ ih =>
    rw [List.mem_cons, not_or] at all
    cases output with
    | none => exact absurd rfl all.1
    | some => rw [List.reduceOption_cons_of_some, List.map_cons, ih all.2]

/-- The model has run on the activations in order, except for those that still wait for it, and
each of them has one output. -/
def ProcessesInOrder (generate : Model → Activation → Model × Except String (Activation ⊕ Token))
    (keep : Except String (Activation ⊕ Token) → Option Output) (model : Model) (activations : List Activation)
    (stage : PipelineStage Model Activation Output) : Prop :=
  ∃ processed, processed ++ stage.waiting = activations ∧ stage.model = (processInOrder generate keep model processed).1 ∧
    (stage.sent ++ stage.computed).map some = (processInOrder generate keep model processed).2

theorem run_processesInOrder {activations : List Activation} {model : Model}
    (separate : Separate codec activations (events.filterMap StageEvent.fragments))
    (inOrder : ∀ event ∈ events, event.InOrder) (succeeds : none ∉ (processInOrder generate keep model activations).2) :
    ProcessesInOrder generate keep model activations (run codec generate keep model events) := by
  obtain ⟨processed, received, final, outputs⟩ :=
    @foldl_step _ _ _ _ codec generate keep events inOrder ⟨[], [], model, [], []⟩
  rw [takenBy_separate separate] at received
  refine ⟨processed, received.symm, final, ?_⟩
  rw [show activations = processed ++ _ from received, processInOrder_append, List.mem_append, not_or] at succeeds
  unfold run
  rw [outputs]
  exact map_some_reduceOption succeeds.1

end PipelineStage

open PipelineStage

/-- If no poll brings fragments of two activations, the threads take their turns in order and no
layer fails, each stage processes every activation once and in order. -/
theorem stages_process_each_once {generate : Model → Activation → Model × Except String (Activation ⊕ Token)}
    {events : List StageEvent} {activations : List Activation} {model : Model}
    (separate : Separate codec activations (events.filterMap StageEvent.fragments))
    (inOrder : ∀ event ∈ events, event.InOrder) : (none ∉ (processInOrder generate middleOutput model activations).2 →
        ProcessesInOrder generate middleOutput model activations (runStage2Pipeline codec generate model events)) ∧
      (none ∉ (processInOrder generate finalOutput model activations).2 →
        ProcessesInOrder generate finalOutput model activations (runStage3Pipeline codec generate model events)) :=
  ⟨run_processesInOrder separate inOrder, run_processesInOrder separate inOrder⟩

theorem head_of_part (activation : UInt8) (part rest : List UInt8) (bytes : [activation] = part ++ rest)
    (missing : rest ≠ []) : part.head? = none := by
  cases part with
  | nil => rfl
  | cons =>
    rw [List.cons_append, List.cons.injEq, List.nil_eq, List.append_eq_nil_iff] at bytes
    exact absurd bytes.2.2 missing

def byteCodec : ActivationCodec UInt8 := ⟨fun activation => [activation], List.head?, fun _ _ => rfl, head_of_part, rfl⟩

def addOne (last : Bool) (calls : Nat) (activation : UInt8) : Nat × Except String (UInt8 ⊕ Nat) :=
  (calls + 1, .ok (if last then .inr calls else .inl (activation + 1)))

def twoPolls : List StageEvent := [.poll [[1]], .lock 0, .poll [[2]], .lock 0, .send 0, .send 0]

theorem stages_process_two_polls :
    ProcessesInOrder (addOne false) middleOutput 0 [1, 2] (runStage2Pipeline byteCodec (addOne false) 0 twoPolls) ∧
      ProcessesInOrder (addOne true) finalOutput 0 [1, 2] (runStage3Pipeline byteCodec (addOne true) 0 twoPolls) ∧
      (runStage2Pipeline byteCodec (addOne false) 0 twoPolls).sent = [2, 3] := by
  have separate : Separate byteCodec [1, 2] (twoPolls.filterMap StageEvent.fragments) :=
    @Separate.next _ _ _ _ [[[1]]] _ rfl (@Separate.next _ _ _ _ [[[2]]] [] rfl (.none rfl))
  have inOrder : ∀ event ∈ twoPolls, event.InOrder := by simp [twoPolls, StageEvent.InOrder]
  exact ⟨(stages_process_each_once separate inOrder).1 (by decide),
    (stages_process_each_once separate inOrder).2 (by decide), by decide⟩

/-- Two activations in one poll: the second is lost. And if the second thread gets the lock first,
the model runs on the second activation first. -/
theorem onePoll_loses_second :
    (runStage2Pipeline byteCodec (addOne false) 0 [.poll [[1], [2]], .lock 0, .lock 0]).computed = [2] ∧
      (runStage3Pipeline byteCodec (addOne true) 0 [.poll [[1], [2]], .lock 0, .lock 0]).computed = [0] ∧
      (runStage2Pipeline byteCodec (addOne false) 0 [.poll [[1]], .poll [[2]], .lock 1, .lock 0]).computed = [3, 2] := by
  decide

end Blazil.Inference

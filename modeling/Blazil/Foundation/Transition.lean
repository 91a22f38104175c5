import Mathlib.Tactic.ByContra

/-! Labelled transition systems whose steps are partial functions of a label. All nondeterminism
sits in the labels, so a finite run is a list of labels that can be executed, and a restricted
class of runs is a predicate on single steps. A run can be seen from one of its actors, whose own
steps are counted while those of the others are interleaved freely. -/

set_option autoImplicit false

namespace Foundation

structure System (State Label : Type) where
  step : State → Label → Option State

namespace System

variable {State Label : Type}

/-- Execute labels in order. A label that is not enabled ends the run without a result. -/
def run (system : System State Label) : State → List Label → Option State
  | state, [] => some state
  | state, label :: rest => (system.step state label).bind fun next => run system next rest

/-- Every step taken along the labels meets `property`, which sees the state
before the step, its label and the state after it. -/
def Along (system : System State Label) (property : State → Label → State → Prop) : State → List Label → Prop
  | _, [] => True
  | state, label :: rest =>
    match system.step state label with
    | none => True
    | some next => property state label next ∧ Along system property next rest

/-- A step that the run along the labels takes, with the states around it. -/
def Takes (system : System State Label) (start : State) (labels : List Label) (before : State) (label : Label)
    (after : State) : Prop :=
  ∃ earlier later, labels = earlier ++ label :: later ∧ system.run start earlier = some before ∧
    system.step before label = some after

/-- States reached from `start` by steps that all meet `allowed`. -/
inductive Reaches (system : System State Label) (allowed : State → Label → Prop) (start : State) : State → Prop where
  | refl : Reaches system allowed start start
  | step {state next label} : Reaches system allowed start state → allowed state label →
      system.step state label = some next → Reaches system allowed start next

def Reachable (system : System State Label) (start state : State) : Prop :=
  Reaches system (fun _ _ => True) start state

variable {system : System State Label}

@[simp] theorem run_nil (state : State) : system.run state [] = some state := rfl

theorem run_cons (state : State) (label : Label) (rest : List Label) : system.run state (label :: rest) =
      (system.step state label).bind fun next => system.run next rest := rfl

variable {state start finish : State} {allowed : State → Label → Prop} {next : State} {label : Label}

theorem exists_run_cons (stepped : system.step state label = some next)
    (onward : ∃ labels, system.run next labels = some finish) : ∃ labels, system.run state labels = some finish := by
  obtain ⟨rest, executed⟩ := onward
  exact ⟨label :: rest, by rw [run_cons, stepped, Option.bind_some, executed]⟩

variable {property : State → Label → State → Prop} {labels : List Label}

theorem along_cons_of_step {rest} (stepped : system.step state label = some next) :
    system.Along property state (label :: rest) ↔ property state label next ∧ system.Along property next rest := by
  simp only [Along, stepped]

theorem Along.mono {weaker} (along : system.Along property state labels)
    (weaken : ∀ before label after, property before label after → weaker before label after) :
    system.Along weaker state labels := by
  induction labels generalizing state with
  | nil => trivial
  | cons first _ ih =>
    cases stepped : system.step state first with
    | none => simp only [Along, stepped]
    | some =>
      obtain ⟨now, later⟩ := (along_cons_of_step stepped).mp along
      exact (along_cons_of_step stepped).mpr ⟨weaken _ _ _ now, ih later⟩

/-- A law about the labels of a run and the state that they lead to: it extends by one more
label whenever the step has the property. -/
theorem Along.history (along : system.Along property start labels) (executed : system.run start labels = some finish)
    (law : List Label → State → Prop) (initial : law [] start)
    (extended : ∀ earlier before label after, property before label after →
      system.step before label = some after → law earlier before →
      law (earlier ++ [label]) after) : law labels finish := by
  suffices further : ∀ earlier, law earlier start → law (earlier ++ labels) finish from
    further [] initial
  clear initial
  induction labels generalizing start with
  | nil =>
    intro earlier holds
    cases executed
    rw [List.append_nil]
    exact holds
  | cons label _ ih =>
    intro earlier holds
    rw [run_cons, Option.bind_eq_some_iff] at executed
    obtain ⟨next, stepped, remaining⟩ := executed
    obtain ⟨now, later⟩ := (along_cons_of_step stepped).mp along
    have onwards := ih later remaining (earlier ++ [label]) (extended earlier start label next now stepped holds)
    rwa [List.append_assoc] at onwards

section

variable (reached : system.Reaches allowed start state)
include reached

theorem Reaches.invariant (invariant : State → Prop) (initial : invariant start)
    (preserved : ∀ before label after, allowed before label →
      system.step before label = some after → invariant before → invariant after) : invariant state := by
  induction reached with
  | refl => exact initial
  | step _ permitted stepped ih => exact preserved _ _ _ permitted stepped ih

theorem Reaches.mono {weaker}
    (weaken : ∀ before label, allowed before label → weaker before label) : system.Reaches weaker start state := by
  induction reached with
  | refl => exact .refl
  | step _ permitted stepped ih => exact .step ih (weaken _ _ permitted) stepped

theorem Reaches.reachable : system.Reachable start state :=
  reached.mono fun _ _ _ => trivial

end

theorem Reaches.trans {middle : State} (first : system.Reaches allowed start middle)
    (second : system.Reaches allowed middle finish) : system.Reaches allowed start finish := by
  induction second with
  | refl => exact first
  | step _ permitted stepped ih => exact .step ih permitted stepped

theorem reaches_of_run (executed : system.run start labels = some finish)
    (permitted : system.Along (fun before label _ => allowed before label) start labels) :
    system.Reaches allowed start finish := by
  induction labels generalizing start with
  | nil =>
    simp only [run_nil, Option.some.injEq] at executed
    subst finish
    exact .refl
  | cons _ _ ih =>
    rw [run_cons, Option.bind_eq_some_iff] at executed
    obtain ⟨_, stepped, remaining⟩ := executed
    obtain ⟨now, later⟩ := (along_cons_of_step stepped).mp permitted
    exact (Reaches.step .refl now stepped).trans (ih remaining later)

/-- What holds at the end of a run and did not hold at its start came about in one of its steps. -/
theorem exists_takes (holds : State → Prop) (executed : system.run start labels = some finish)
    (initially : ¬ holds start) (eventually : holds finish) :
    ∃ before label after, system.Takes start labels before label after ∧ ¬ holds before ∧ holds after := by
  induction labels generalizing start with
  | nil =>
    cases executed
    exact absurd eventually initially
  | cons label rest ih =>
    obtain ⟨next, stepped, remaining⟩ := Option.bind_eq_some_iff.mp executed
    by_cases now : holds next
    · exact ⟨start, label, next, ⟨[], rest, rfl, rfl, stepped⟩, initially, now⟩
    · obtain ⟨before, other, after, ⟨earlier, later, rfl, ran, moved⟩, change⟩ := ih remaining now
      refine ⟨before, other, after, ⟨label :: earlier, later, rfl, ?_, moved⟩, change⟩
      rw [run_cons, stepped, Option.bind_some, ran]

theorem Takes.reaches {before after : State} (taken : system.Takes start labels before label after)
    (permitted : system.Along (fun before label _ => allowed before label) start labels) :
    system.Reaches allowed start before := by
  obtain ⟨earlier, later, rfl, ran, _⟩ := taken
  refine reaches_of_run ran ?_
  clear ran
  induction earlier generalizing start with
  | nil => trivial
  | cons first _ ih =>
    cases stepped : system.step start first with
    | none => simp only [Along, stepped]
    | some =>
      obtain ⟨now, onward⟩ := (along_cons_of_step stepped).mp permitted
      exact (along_cons_of_step stepped).mpr ⟨now, ih onward⟩

theorem reachable_of_run (executed : system.run start labels = some finish) : system.Reachable start finish := by
  apply reaches_of_run executed
  clear executed
  induction labels generalizing start with
  | nil => trivial
  | cons label _ ih =>
    cases stepped : system.step start label with
    | none => simp only [Along, stepped]
    | some => exact (along_cons_of_step stepped).mpr ⟨trivial, ih⟩

theorem exists_of_run (system : System State Label) (start : State) (labels : List Label) (holds : State → Prop)
    [DecidablePred holds] (checked : (system.run start labels).any (fun state => holds state) = true) :
    ∃ state, system.run start labels = some state ∧ holds state := by
  cases executed : system.run start labels with
  | none => simp [executed] at checked
  | some state => exact ⟨state, rfl, by simpa [executed] using checked⟩

/-- A concrete run exhibits a reachable state with a decidable property. -/
theorem exists_reachable_of_run (system : System State Label) (start : State) (labels : List Label) (holds : State → Prop)
    [DecidablePred holds] (checked : (system.run start labels).any (fun state => holds state) = true) :
    ∃ state, system.Reachable start state ∧ holds state := by
  obtain ⟨state, executed, holding⟩ := exists_of_run system start labels holds checked
  exact ⟨state, reachable_of_run executed, holding⟩

theorem exists_reaches_of_run (system : System State Label) (allowed : State → Label → Prop)
    (start : State) (labels : List Label) (holds : State → Prop) [DecidablePred holds]
    (permitted : system.Along (fun before label _ => allowed before label) start labels)
    (checked : (system.run start labels).any (fun state => holds state) = true) :
    ∃ state, system.Reaches allowed start state ∧ holds state := by
  obtain ⟨state, executed, holding⟩ := exists_of_run system start labels holds checked
  exact ⟨state, reaches_of_run executed permitted, holding⟩

instance alongDecidable (system : System State Label) (property : State → Label → State → Prop)
    [decided : ∀ before label after, Decidable (property before label after)]
    (state : State) (labels : List Label) : Decidable (system.Along property state labels) :=
  match labels with
  | [] => .isTrue trivial
  | label :: rest =>
    match stepped : system.step state label with
    | none => .isTrue (by simp only [Along, stepped])
    | some next =>
      have := alongDecidable system property next rest
      decidable_of_iff _ (along_cons_of_step stepped).symm

end System

end Foundation

namespace Foundation.System

variable {State Label : Type}

/-- Runs from `start` in which the steps with a label of its `own` are counted. -/
inductive Counted (system : System State Label) (own others : Label → Prop) (start : State) : Nat → State → Prop where
  | refl : Counted system own others start 0 start
  | own {steps state next label} : Counted system own others start steps state → own label →
      system.step state label = some next → Counted system own others start (steps + 1) next
  | other {steps state next label} : Counted system own others start steps state → others label →
      system.step state label = some next → Counted system own others start steps next

/-- The actor takes boundedly many steps, and it is able to take one until it is done. -/
structure Ends (system : System State Label) (own others : Label → Prop) (done : State → Prop) (start : State) : Prop where
  bounded : ∃ bound, ∀ steps state, system.Counted own others start steps state → steps ≤ bound
  enabled : ∀ steps state, system.Counted own others start steps state → ¬done state →
    ∃ label next, own label ∧ system.step state label = some next

variable {system : System State Label} {own others : Label → Prop} {start state : State} {steps : Nat}

theorem Counted.invariant (counted : system.Counted own others start steps state)
    (invariant : State → Prop) (initial : invariant start)
    (ownKeeps : ∀ before label after, own label → system.step before label = some after → invariant before → invariant after)
    (otherKeeps : ∀ before label after, others label → system.step before label = some after →
      invariant before → invariant after) : invariant state := by
  induction counted with
  | refl => exact initial
  | own _ mine stepped ih => exact ownKeeps _ _ _ mine stepped ih
  | other _ theirs stepped ih => exact otherKeeps _ _ _ theirs stepped ih

/-- Each own step lowers a measure that no other step raises. -/
theorem Counted.le_measure (counted : system.Counted own others start steps state)
    (invariant : State → Prop) (measure : State → Nat) (initial : invariant start)
    (ownLowers : ∀ before label after, own label → system.step before label = some after →
      invariant before → invariant after ∧ measure after < measure before)
    (otherKeeps : ∀ before label after, others label → system.step before label = some after →
      invariant before → invariant after ∧ measure after ≤ measure before) :
    invariant state ∧ steps + measure state ≤ measure start := by
  induction counted with
  | refl => exact ⟨initial, Nat.le_of_eq (Nat.zero_add _)⟩
  | own _ mine stepped ih =>
    obtain ⟨holds, _⟩ := ih
    obtain ⟨kept, _⟩ := ownLowers _ _ _ mine stepped holds
    exact ⟨kept, by omega⟩
  | other _ theirs stepped ih =>
    obtain ⟨holds, _⟩ := ih
    obtain ⟨kept, _⟩ := otherKeeps _ _ _ theirs stepped holds
    exact ⟨kept, by omega⟩

theorem Ends.exists_done {done} (ends : system.Ends own others done start) :
    ∃ steps state, system.Counted own others start steps state ∧ done state := by
  by_contra never
  push Not at never
  obtain ⟨bound, within⟩ := ends.bounded
  have longer : ∀ steps, ∃ state, system.Counted own others start steps state := by
    intro steps
    induction steps with
    | zero => exact ⟨start, .refl⟩
    | succ _ ih =>
      obtain ⟨_, counted⟩ := ih
      obtain ⟨_, next, mine, stepped⟩ := ends.enabled _ _ counted (never _ _ counted)
      exact ⟨next, .own counted mine stepped⟩
  obtain ⟨_, counted⟩ := longer (bound + 1)
  exact absurd (within _ _ counted) (Nat.not_succ_le_self bound)

end Foundation.System

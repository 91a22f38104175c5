import Mathlib.Data.List.Basic

/-! Attempts at an effect that is meant to happen at most once. An attempt passes a check
of a record, then comes to the effect and then updates the record, with any number of
other attempts in between. Only the number of attempts at each stage matters here. -/

set_option autoImplicit false

namespace Foundation

section Counting

variable {Item : Type} {items : List Item} {index other : Nat} {item : Item}

theorem countP_modify (property : Item → Bool) (change : Item → Item) (found : items[index]? = some item) :
    (items.modify index change).countP property + (if property item then 1 else 0) =
      items.countP property + if property (change item) then 1 else 0 := by
  obtain ⟨inside, same⟩ := List.getElem?_eq_some_iff.mp found
  have parts : items = items.take index ++ item :: items.drop (index + 1) := by
    rw [← same, List.getElem_cons_drop, List.take_append_drop]
  rw [List.modify_eq_take_cons_drop inside, same, List.countP_append, List.countP_cons]
  conv_rhs => rw [parts, List.countP_append, List.countP_cons]
  omega

theorem index_eq_of_countP_le_one {property second} (few : items.countP property ≤ 1)
    (found : items[index]? = some item) (foundSecond : items[other]? = some second) (first : property item = true)
    (also : property second = true) : index = other := by
  by_contra different
  -- Without the second item the first one still counts.
  have dropped : (items.eraseIdx other).countP property + 1 = items.countP property := by
    obtain ⟨_, same⟩ := List.getElem?_eq_some_iff.mp foundSecond
    have parts : items = items.take other ++ second :: items.drop (other + 1) := by
      rw [← same, List.getElem_cons_drop, List.take_append_drop]
    rw [List.eraseIdx_eq_take_drop_succ, List.countP_append]
    conv_rhs => rw [parts, List.countP_append, List.countP_cons, if_pos also]
    omega
  have remains : 0 < (items.eraseIdx other).countP property :=
    List.countP_pos_iff.mpr ⟨item, List.mem_eraseIdx_iff_getElem?.mpr ⟨index, different, found⟩, first⟩
  omega

end Counting

inductive AttemptStage where
  | outside
  | armed
  | spent
deriving DecidableEq

/-- The record turns new attempts away when it is closed. Armed attempts have passed the
check; spent ones are past the effect and have not updated the record yet. -/
structure Attempts where
  closed : Bool
  armed : Nat
  spent : Nat
  effects : Nat
deriving DecidableEq

inductive AttemptLabel where
  | enter
  | act (effect closed : Bool)
  | finish (closed : Bool)
  | abandon (closed : Bool)
  | record (closed : Bool)
deriving DecidableEq

namespace Attempts

/-- Every step after the check may also leave the record open or closed. -/
def step (attempts : Attempts) : AttemptLabel → Option Attempts
  | .enter =>
    if attempts.closed then none else some { attempts with armed := attempts.armed + 1 }
  | .act effect closed =>
    match attempts.armed with
    | 0 => none
    | armed + 1 =>
      some ⟨closed, armed, attempts.spent + 1, attempts.effects + if effect then 1 else 0⟩
  | .finish closed =>
    match attempts.spent with
    | 0 => none
    | spent + 1 => some { attempts with closed := closed, spent := spent }
  | .abandon closed =>
    match attempts.armed with
    | 0 => none
    | armed + 1 => some { attempts with closed := closed, armed := armed }
  | .record closed => some { attempts with closed := closed }

/-- An attempt is let in only when no other is on its way, and once the effect has
happened the record is left closed. -/
def Careful (attempts : Attempts) : AttemptLabel → Prop
  | .enter => attempts.armed = 0 ∧ attempts.spent = 0
  | .finish closed | .record closed => closed = true ∨ attempts.effects = 0
  | .act _ _ | .abandon _ => True

structure AtMostOnce (attempts : Attempts) : Prop where
  single : attempts.armed + attempts.spent ≤ 1
  once : attempts.effects ≤ 1
  unarmed : attempts.effects = 1 → attempts.armed = 0
  guarded : attempts.effects = 1 → attempts.spent = 1 ∨ attempts.closed = true

theorem atMostOnce_initial (closed : Bool) : AtMostOnce ⟨closed, 0, 0, 0⟩ := by
  constructor <;> simp

variable {before after : Attempts}

theorem AtMostOnce.step {label} (holds : AtMostOnce before)
    (careful : Careful before label) (stepped : before.step label = some after) : AtMostOnce after := by
  obtain ⟨closed, armed, spent, effects⟩ := before
  obtain ⟨single, once, unarmed, _⟩ := holds
  cases label with
  | enter =>
    obtain ⟨_, _⟩ := careful
    cases closed <;> simp only [Attempts.step, Bool.false_eq_true, ↓reduceIte, reduceCtorEq, Option.some.injEq] at stepped
    subst stepped
    constructor <;> simp_all
  | act effect =>
    cases armed with
    | zero => cases stepped
    | succ armed =>
      cases stepped
      -- The armed attempt is the only one, so the effect has not happened yet.
      have first : effects = 0 := by
        have := fun one => unarmed one
        simp only at once this
        omega
      simp only at single
      have alone : armed = 0 ∧ spent = 0 := by omega
      cases effect <;> constructor <;> simp [first, alone]
  | finish =>
    cases spent with
    | zero => cases stepped
    | succ =>
      cases stepped
      simp only at single once unarmed
      refine ⟨by simp only; omega, once, unarmed, fun one => .inr ?_⟩
      rcases careful with shut | nothing
      · exact shut
      · simp only at nothing one
        omega
  | abandon =>
    cases armed with
    | zero => cases stepped
    | succ =>
      cases stepped
      simp only at single once unarmed
      have first : effects ≠ 1 := by
        intro one
        omega
      exact ⟨by simp only; omega, once, fun one => absurd one first,
        fun one => absurd one first⟩
  | record =>
    cases stepped
    refine ⟨single, once, unarmed, fun one => .inr ?_⟩
    rcases careful with shut | nothing
    · exact shut
    · simp only at nothing one
      omega

def Follows (before after : Attempts) : Prop :=
  after = before ∨ ∃ label, before.Careful label ∧ before.step label = some after

theorem AtMostOnce.follows (holds : AtMostOnce before) (follows : before.Follows after) : AtMostOnce after := by
  rcases follows with same | ⟨_, careful, stepped⟩
  · exact same ▸ holds
  · exact holds.step careful stepped

section Census

variable {Call : Type} (stage : Call → AttemptStage) {calls : List Call} {index : Nat} {call : Call} {change : Call → Call}

def census (calls : List Call) (closed : Bool) (effects : Nat) : Attempts where
  closed := closed
  armed := calls.countP fun call => stage call = .armed
  spent := calls.countP fun call => stage call = .spent
  effects := effects

theorem census_append (out : stage call = .outside) (calls : List Call) (closed : Bool) (effects : Nat) :
    census stage (calls ++ [call]) closed effects = census stage calls closed effects := by
  simp [census, List.countP_append, out]

variable {stage}

theorem census_modify (found : calls[index]? = some call) (same : stage (change call) = stage call) (closed : Bool)
    (effects : Nat) : census stage (calls.modify index change) closed effects = census stage calls closed effects := by
  have armed := countP_modify (fun call => stage call = .armed) change found
  have spent := countP_modify (fun call => stage call = .spent) change found
  simp only [same, Nat.add_right_cancel_iff] at armed spent
  simp only [census, armed, spent]

theorem countP_active (calls : List Call) : (calls.countP fun call => stage call ≠ .outside) =
      (calls.countP fun call => stage call = .armed) + calls.countP fun call => stage call = .spent := by
  induction calls with
  | nil => rfl
  | cons call _ ih =>
    simp only [List.countP_cons, ih]
    cases stage call <;> simp <;> omega

variable {closed : Bool} {effects : Nat}

theorem AtMostOnce.same_call {other : Nat} {second : Call} (once : (census stage calls closed effects).AtMostOnce)
    (found : calls[index]? = some call) (foundSecond : calls[other]? = some second) (active : stage call ≠ .outside)
    (also : stage second ≠ .outside) : index = other := by
  have few : (calls.countP fun call => stage call ≠ .outside) ≤ 1 := by
    rw [countP_active]
    exact once.single
  exact index_eq_of_countP_le_one few found foundSecond (decide_eq_true active) (decide_eq_true also)

theorem AtMostOnce.unspent (once : (census stage calls closed effects).AtMostOnce)
    (found : calls[index]? = some call) (was : stage call = .armed) : effects = 0 := by
  have present : 0 < calls.countP fun call => stage call = .armed :=
    List.countP_pos_iff.mpr ⟨call, List.mem_of_getElem? found, decide_eq_true was⟩
  rcases Nat.le_one_iff_eq_zero_or_eq_one.mp once.once with none | one
  · exact none
  · exact absurd (once.unarmed one) (Nat.ne_of_gt present)

section

variable (found : calls[index]? = some call)
include found

theorem follows_enter (nobody : ∀ call ∈ calls, stage call = .outside) (now : stage (change call) = .armed) (effects : Nat) :
    (census stage calls false effects).Follows (census stage (calls.modify index change) false effects) := by
  have out := nobody call (List.mem_of_getElem? found)
  have armed := countP_modify (fun call => stage call = .armed) change found
  have spent := countP_modify (fun call => stage call = .spent) change found
  simp only [out, now, decide_true, decide_false, reduceCtorEq, if_true, Bool.false_eq_true,
    if_false, Nat.add_zero] at armed spent
  refine .inr ⟨.enter, ⟨?_, ?_⟩, ?_⟩
  · exact List.countP_eq_zero.mpr fun other member => by simp [nobody other member]
  · exact List.countP_eq_zero.mpr fun other member => by simp [nobody other member]
  · simp only [census, step, Bool.false_eq_true, if_false, armed, spent]

theorem follows_act (was : stage call = .armed) (now : stage (change call) = .spent)
    (effect closed closing : Bool) (effects : Nat) : (census stage calls closed effects).Follows
      (census stage (calls.modify index change) closing (effects + if effect then 1 else 0)) := by
  have armed := countP_modify (fun call => stage call = .armed) change found
  have spent := countP_modify (fun call => stage call = .spent) change found
  simp only [was, now, decide_true, decide_false, reduceCtorEq, if_true, Bool.false_eq_true,
    if_false, Nat.add_zero] at armed spent
  refine .inr ⟨.act effect closing, trivial, ?_⟩
  simp only [census, step, ← armed, spent]

theorem follows_finish (was : stage call = .spent) (now : stage (change call) = .outside)
    (closed : Bool) {closing : Bool} (shut : closing = true ∨ effects = 0) :
    (census stage calls closed effects).Follows (census stage (calls.modify index change) closing effects) := by
  have armed := countP_modify (fun call => stage call = .armed) change found
  have spent := countP_modify (fun call => stage call = .spent) change found
  simp only [was, now, decide_true, decide_false, reduceCtorEq, if_true, Bool.false_eq_true,
    if_false, Nat.add_zero] at armed spent
  refine .inr ⟨.finish closing, shut, ?_⟩
  simp only [census, step, armed, ← spent]

theorem follows_abandon (was : stage call = .armed) (now : stage (change call) = .outside)
    (closed closing : Bool) (effects : Nat) :
    (census stage calls closed effects).Follows (census stage (calls.modify index change) closing effects) := by
  have armed := countP_modify (fun call => stage call = .armed) change found
  have spent := countP_modify (fun call => stage call = .spent) change found
  simp only [was, now, decide_true, decide_false, reduceCtorEq, if_true, Bool.false_eq_true,
    if_false, Nat.add_zero] at armed spent
  refine .inr ⟨.abandon closing, trivial, ?_⟩
  simp only [census, step, ← armed, spent]

end

theorem follows_record (calls : List Call) (closed : Bool) {closing : Bool} (shut : closing = true ∨ effects = 0) :
    (census stage calls closed effects).Follows (census stage calls closing effects) :=
  .inr ⟨.record closing, shut, rfl⟩

end Census

end Attempts

end Foundation

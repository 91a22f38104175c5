import Mathlib.Logic.Basic

/-! Loops with an exit. The body gives the state after one turn, or nothing when the loop is left;
a loop that is run for a number of turns may run out of them.

One such loop is the binary search for the first position at which a monotone test succeeds. -/

set_option autoImplicit false

namespace Foundation

variable {State : Type}

/-- The state in which the loop is left, if it is left within `turns` tests of the exit. -/
def runLoop (body : State → Option State) : Nat → State → Option State
  | 0, _ => none
  | turns + 1, state =>
    match body state with
    | none => some state
    | some next => runLoop body turns next

variable {body : State → Option State} {turns : Nat} {state : State} {more : Nat} {final : State}

/-- Turns that are left over when the loop is left do not matter. -/
theorem runLoop_mono (left : runLoop body turns state = some final)
    (atLeast : turns ≤ more) : runLoop body more state = some final := by
  induction turns generalizing more state with
  | zero => cases left
  | succ _ ih =>
    cases more with
    | zero => exact absurd atLeast (Nat.not_succ_le_zero _)
    | succ =>
      cases taken : body state with simp only [runLoop, taken] at left ⊢
      | none =>
        exact left
      | some =>
        exact ih left (Nat.le_of_succ_le_succ atLeast)

/-- What every turn keeps holds of the state in which the loop is left. -/
theorem runLoop_invariant (invariant : State → Prop)
    (kept : ∀ state next, invariant state → body state = some next → invariant next)
    (holds : invariant state) (left : runLoop body turns state = some final) : invariant final := by
  induction turns generalizing state with
  | zero => cases left
  | succ _ ih =>
    cases taken : body state with
    | none =>
      simp only [runLoop, taken, Option.some.injEq] at left
      rw [← left]
      exact holds
    | some next =>
      simp only [runLoop, taken] at left
      exact ih (kept state next holds taken) left

/-- If each turn of a loop is also a turn of another one, then the other loop comes through the
state in which the first is left. -/
theorem runLoop_continues {longer}
    (covers : ∀ state next, body state = some next → longer state = some next) {middle}
    (left : runLoop body turns state = some middle) (ended : runLoop longer more state = some final) :
    ∃ rest, runLoop longer rest middle = some final := by
  induction turns generalizing more state with
  | zero => cases left
  | succ _ ih =>
    cases taken : body state with
    | none =>
      simp only [runLoop, taken, Option.some.injEq] at left
      exact ⟨more, left ▸ ended⟩
    | some next =>
      cases more with
      | zero => cases ended
      | succ =>
        simp only [runLoop, taken] at left
        simp only [runLoop, covers state next taken] at ended
        exact ih left ended

/-- A loop that refines an abstract description: every turn moves the abstract state, keeps
the two in step and lowers a measure, and what holds between a state and the one in which
the loop is left extends over one more turn in front. -/
theorem runLoop_refines {Abstract : Type} (inStep : Abstract → State → Prop)
    (measure : Abstract → Nat) (ends : Abstract → State → State → Prop)
    (leave : ∀ described state, inStep described state → body state = none → ends described state state)
    (turn : ∀ described state next, inStep described state → body state = some next →
      ∃ later, inStep later next ∧ measure later < measure described ∧
      ∀ final, ends later next final → ends described state final) {described : Abstract}
    (holds : inStep described state) (enough : measure described < turns) :
    ∃ final, runLoop body turns state = some final ∧ ends described state final := by
  induction turns generalizing described state with
  | zero => exact absurd enough (Nat.not_lt_zero _)
  | succ _ ih =>
    cases taken : body state with
    | none => exact ⟨state, by simp only [runLoop, taken], leave described state holds taken⟩
    | some next =>
      obtain ⟨_, kept, _, extend⟩ := turn described state next holds taken
      obtain ⟨final, left, reached⟩ := ih kept (by omega)
      exact ⟨final, by simp only [runLoop, taken, left], extend final reached⟩

/-- Halve the interval until it is empty; each turn makes it shorter, so as many turns as
it is long are enough. -/
def searchBetween (test : Nat → Bool) : Nat → Nat → Nat → Nat
  | 0, low, _ => low
  | turns + 1, low, high =>
    if low < high then
      let middle := (low + high) / 2
      if test middle then searchBetween test turns low middle
      else searchBetween test turns (middle + 1) high
    else low

def search (size : Nat) (test : Nat → Bool) : Nat := searchBetween test size 0 size

variable {test : Nat → Bool} {size : Nat}

section

variable (monotone : ∀ first second, first ≤ second → second < size → test first = true → test second = true)
include monotone

theorem searchBetween_spec {turns low high : Nat} (enough : high - low ≤ turns) (ordered : low ≤ high)
    (inside : high ≤ size) (below : ∀ position < low, test position = false)
    (above : ∀ position, high ≤ position → position < size → test position = true) :
    searchBetween test turns low high ≤ size ∧ (∀ position < searchBetween test turns low high, test position = false) ∧
      ∀ position, searchBetween test turns low high ≤ position → position < size → test position = true := by
  induction turns generalizing low high with
  | zero =>
    have empty : low = high := by omega
    subst empty
    exact ⟨inside, below, above⟩
  | succ _ ih =>
    unfold searchBetween
    split
    · next nonempty =>
      dsimp only
      split
      · next succeeds =>
        apply ih (by omega) (by omega) (by omega) below
        intro position later bounded
        exact monotone _ position later bounded succeeds
      · next fails =>
        apply ih (by omega) (by omega) inside
        · intro position before
          cases tested : test position with
          | false => rfl
          | true =>
            have earlier : position ≤ (low + high) / 2 := by omega
            exact absurd (monotone position _ earlier (by omega) tested) fails
        · exact above
    · next empty =>
      have closed : low = high := by omega
      subst closed
      exact ⟨inside, below, above⟩

/-- The search finds where a monotone test begins to succeed. -/
theorem search_spec : search size test ≤ size ∧ (∀ position < search size test, test position = false) ∧
      ∀ position, search size test ≤ position → position < size → test position = true :=
  searchBetween_spec monotone (by omega) (Nat.zero_le _) (Nat.le_refl _)
    (fun _ impossible => absurd impossible (Nat.not_lt_zero _))
    (fun _ outside inside => absurd inside (Nat.not_lt.mpr outside))

end

end Foundation

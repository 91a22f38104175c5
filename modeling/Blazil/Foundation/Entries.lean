import Mathlib.Data.List.Basic

/-! The entries of a list after one of them has changed or another has been added. -/

set_option autoImplicit false

namespace Foundation

variable {Item : Type} {items : List Item} {item new : Item} {index : Nat}

theorem entry_unique {entry other} (found : entry = some item) (again : entry = some other) : item = other :=
  Option.some.inj (found.symm.trans again)

theorem entry_lt (found : items[index]? = some item) : index < items.length :=
  (List.getElem?_eq_some_iff.mp found).1

theorem mem_concat : item ∈ items ++ [new] ↔ item ∈ items ∨ item = new := by
  rw [List.mem_append, List.mem_singleton]

theorem entry_of_modify {other change} (present : (items.modify index change)[other]? = some item) :
    (other = index ∧ ∃ before, items[index]? = some before ∧ item = change before) ∨
      other ≠ index ∧ items[other]? = some item := by
  rw [List.getElem?_modify] at present
  obtain ⟨before, found, changed⟩ := Option.map_eq_some_iff.mp present
  split at changed
  · next same =>
    subst same
    exact .inl ⟨rfl, before, found, changed.symm⟩
  · next different =>
    rw [← changed]
    exact .inr ⟨Ne.symm different, found⟩

theorem entry_of_set {other : Nat} (present : (items.set index new)[other]? = some item) :
    (other = index ∧ item = new) ∨ items[other]? = some item := by
  rw [List.getElem?_set] at present
  split at present
  · next same =>
    split at present
    · cases present
      exact .inl ⟨same.symm, rfl⟩
    · cases present
  · exact .inr present

theorem entry_of_concat (present : (items ++ [new])[index]? = some item) :
    (index < items.length ∧ items[index]? = some item) ∨ index = items.length ∧ item = new := by
  rw [List.getElem?_append] at present
  split at present
  · next earlier => exact .inl ⟨earlier, present⟩
  · next later =>
    obtain ⟨bound, same⟩ := List.getElem?_eq_some_iff.mp present
    simp only [List.length_singleton] at bound
    refine .inr ⟨by omega, ?_⟩
    rw [← same]
    simp

variable {holds : Item → Prop}

theorem holds_after_set (all : ∀ item ∈ items, holds item) (own : holds new) :
    ∀ item ∈ items.set index new, holds item := by
  intro item member
  rcases List.mem_or_eq_of_mem_set member with earlier | rfl
  · exact all item earlier
  · exact own

theorem holds_after_modify {change} (found : items[index]? = some item) (all : ∀ item ∈ items, holds item)
    (own : holds (change item)) : ∀ item ∈ items.modify index change, holds item := by
  intro other member
  obtain ⟨_, present⟩ := List.mem_iff_getElem?.mp member
  rcases entry_of_modify present with ⟨_, _, foundBefore, rfl⟩ | ⟨_, kept⟩
  · exact entry_unique found foundBefore ▸ own
  · exact all other (List.mem_of_getElem? kept)

theorem holds_after_concat (all : ∀ item ∈ items, holds item) (own : holds new) : ∀ item ∈ items ++ [new], holds item := by
  intro item member
  rcases mem_concat.mp member with earlier | rfl
  · exact all item earlier
  · exact own

theorem flatMap_set_same {Value : Type} {expand : Item → List Value} (present : items[index]? = some item)
    (same : expand new = expand item) : (items.set index new).flatMap expand = items.flatMap expand := by
  have mapped : (items.map expand)[index]? = some (expand item) := by
    rw [List.getElem?_map, present, Option.map_some]
  rw [List.flatMap_def, List.flatMap_def, List.map_set, same]
  obtain ⟨_, entry⟩ := List.getElem?_eq_some_iff.mp mapped
  rw [← entry, List.set_getElem_self]

section Selected

variable {Value : Type} {select : Item → Option Value} {value : Value}

theorem filterMap_set_perm (present : items[index]? = some item) (before : select item = none) (after : select new = some value) :
    ((items.set index new).filterMap select).Perm (value :: items.filterMap select) := by
  induction items generalizing index with
  | nil => cases present
  | cons first _ ih =>
    cases index with
    | zero =>
      obtain rfl := Option.some.inj present
      simp [before, after]
    | succ =>
      have moved := ih present
      cases selected : select first with
      | none => simpa [selected] using moved
      | some other =>
        simp only [List.set_cons_succ, List.filterMap_cons, selected]
        exact (moved.cons other).trans (List.Perm.swap value other _)

theorem perm_filterMap_set (present : items[index]? = some item) (before : select item = some value)
    (after : select new = none) : (items.filterMap select).Perm (value :: (items.set index new).filterMap select) := by
  obtain ⟨bound, same⟩ := List.getElem?_eq_some_iff.mp present
  have replaced : (items.set index new)[index]? = some new :=
    List.getElem?_set_self bound
  have back := filterMap_set_perm replaced after before
  rwa [List.set_set, ← same, List.set_getElem_self] at back

end Selected

end Foundation

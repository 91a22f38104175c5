import Mathlib.Data.Fintype.BigOperators
import Mathlib.Tactic.Abel
import Mathlib.Tactic.Ring

/-! Sums of a weight over the items of a list. Sums over everything that a map from finitely many
keys holds. -/

set_option autoImplicit false

namespace Foundation

variable {Item Weight : Type} [AddCommGroup Weight]

def total (weight : Item → Weight) : List Item → Weight
  | [] => 0
  | item :: rest => weight item + total weight rest

section

variable (weight : Item → Weight)
include weight

@[simp] theorem total_nil : total weight [] = 0 := rfl

@[simp] theorem total_cons (item : Item) (rest : List Item) :
    total weight (item :: rest) = weight item + total weight rest := rfl

@[simp] theorem total_append (first second : List Item) :
    total weight (first ++ second) = total weight first + total weight second := by
  induction first with
  | nil => simp
  | cons _ _ ih =>
    simp only [List.cons_append, total_cons, ih]
    abel

end

variable {weight : Item → Weight} {items : List Item}

theorem total_congr {other}
    (same : ∀ item ∈ items, weight item = other item) : total weight items = total other items := by
  induction items with
  | nil => rfl
  | cons item _ ih =>
    rw [total_cons, total_cons, same item List.mem_cons_self, ih fun later member => same later (List.mem_cons_of_mem _ member)]

theorem total_set {index : Nat} {item : Item} (found : items[index]? = some item)
    (later : Item) : total weight (items.set index later) = total weight items + (weight later - weight item) := by
  induction items generalizing index with
  | nil => cases found
  | cons _ _ ih =>
    cases index with
    | zero =>
      simp only [List.getElem?_cons_zero, Option.some.injEq] at found
      subst found
      simp only [List.set_cons_zero, total_cons]
      abel
    | succ =>
      simp only [List.set_cons_succ, total_cons, ih found]
      abel

open scoped BigOperators

variable {Key Value : Type} [Fintype Key]

def keyedSum (weight : Value → Weight) (table : Key → Option Value) : Weight :=
  ∑ key, (table key).elim 0 weight

theorem keyedSum_empty (weight : Value → Weight) : keyedSum weight (fun _ : Key => none) = 0 :=
  Finset.sum_const_zero

theorem keyedSum_insert [DecidableEq Key] (weight : Value → Weight) (table : Key → Option Value) (key : Key) (value : Value) :
    keyedSum weight (fun other => if other = key then some value else table other) =
      keyedSum weight table + (weight value - (table key).elim 0 weight) := by
  have others : ∑ other ∈ {key}ᶜ, (if other = key then some value else table other).elim 0 weight =
        ∑ other ∈ {key}ᶜ, (table other).elim 0 weight := by
    refine Finset.sum_congr rfl fun other outside => ?_
    rw [if_neg (by simpa using outside)]
  unfold keyedSum
  rw [Fintype.sum_eq_add_sum_compl key, Fintype.sum_eq_add_sum_compl key, others]
  simp only [if_true, Option.elim_some]
  abel

end Foundation

import Mathlib.Data.List.Zip

/-! A batch of which only the convertible items are handed on. The items that are refused get
their result at once; the results of the others are written back to the places the items
came from. -/

set_option autoImplicit false

namespace Foundation

variable {Item Out Error Result : Type}

structure Gathered (Out Result : Type) where
  results : List (Option Result)
  submitted : List Out
  origins : List Nat

section Definitions

variable (convert : Item → Except Error Out) (refuse : Error → Result)

def gatherStep (gathered : Gathered Out Result) (entry : Item × Nat) : Gathered Out Result :=
  match convert entry.1 with
  | .ok out => { gathered with
      submitted := gathered.submitted ++ [out]
      origins := gathered.origins ++ [entry.2] }
  | .error reason => { gathered with
      results := gathered.results.set entry.2 (some (refuse reason)) }

def gather (items : List Item) : Gathered Out Result :=
  items.zipIdx.foldl (gatherStep convert refuse) ⟨List.replicate items.length none, [], []⟩

/-- Write `value position origin` to each origin, by its position among the origins. -/
def scatter (value : Nat → Nat → Option Result) (origins : List Nat) (results : List (Option Result)) : List (Option Result) :=
  origins.zipIdx.foldl (fun results entry => results.set entry.1 (value entry.2 entry.1)) results

def submittedPosition (items : List Item) (index : Nat) : Nat :=
  (items.take index).countP fun item => (convert item).toBool

def originsFrom : List Item → Nat → List Nat
  | [], _ => []
  | item :: rest, start =>
    match convert item with
    | .ok _ => start :: originsFrom rest (start + 1)
    | .error _ => originsFrom rest (start + 1)

def refusal (item : Item) : Option Result :=
  match convert item with
  | .ok _ => none
  | .error reason => some (refuse reason)

def spread (value : Nat → Nat → Option Result) : List Item → Nat → Nat → List (Option Result)
  | [], _, _ => []
  | item :: rest, position, start =>
    match convert item with
    | .ok _ => value position start :: spread value rest (position + 1) (start + 1)
    | .error reason => some (refuse reason) :: spread value rest position (start + 1)

end Definitions

variable {convert : Item → Except Error Out} {refuse : Error → Result}

theorem gather_foldl (items : List Item) (done : List (Option Result)) (submitted : List Out) (origins : List Nat) :
    (items.zipIdx done.length).foldl (gatherStep convert refuse) ⟨done ++ List.replicate items.length none, submitted, origins⟩ =
      ⟨done ++ items.map (refusal convert refuse), submitted ++ items.filterMap (fun item => (convert item).toOption),
        origins ++ originsFrom convert items done.length⟩ := by
  induction items generalizing done submitted origins with
  | nil => simp [originsFrom]
  | cons item _ ih =>
    rw [List.zipIdx_cons, List.foldl_cons, List.length_cons, List.replicate_succ]
    cases converted : convert item with
    | ok out =>
      have next := ih (done ++ [none]) (submitted ++ [out]) (origins ++ [done.length])
      simpa [gatherStep, refusal, originsFrom, converted, Except.toOption] using next
    | error reason =>
      have next := ih (done ++ [some (refuse reason)]) submitted origins
      simpa [gatherStep, refusal, originsFrom, converted, Except.toOption] using next

theorem gather_eq (items : List Item) : gather convert refuse items = ⟨items.map (refusal convert refuse),
      items.filterMap (fun item => (convert item).toOption), originsFrom convert items 0⟩ := by
  unfold gather
  simpa using gather_foldl items [] [] []

theorem originsFrom_length (items : List Item) (start : Nat) : (originsFrom convert items start).length =
      (items.filterMap fun item => (convert item).toOption).length := by
  induction items generalizing start with
  | nil => rfl
  | cons item _ ih =>
    cases converted : convert item <;> simp [originsFrom, converted, Except.toOption, ih]

section

variable (value : Nat → Nat → Option Result)
include value

theorem scatter_of_submitted_nil {items : List Item} (nothing : (gather convert refuse items).submitted = []) :
    scatter value (gather convert refuse items).origins (gather convert refuse items).results =
      (gather convert refuse items).results := by
  have unwritten : (gather convert refuse items).origins = [] := by
    rw [gather_eq] at nothing ⊢
    exact List.eq_nil_of_length_eq_zero ((originsFrom_length items 0).trans (List.length_eq_zero_iff.mpr nothing))
  rw [unwritten]
  rfl

theorem scatter_foldl (items : List Item) (done : List (Option Result)) (position : Nat) :
    ((originsFrom convert items done.length).zipIdx position).foldl
        (fun results entry => results.set entry.1 (value entry.2 entry.1))
        (done ++ items.map (refusal convert refuse)) =
      done ++ spread convert refuse value items position done.length := by
  induction items generalizing done position with
  | nil => simp [originsFrom, spread]
  | cons item _ ih =>
    cases converted : convert item with
    | ok =>
      have next := ih (done ++ [value position done.length]) (position + 1)
      simpa [originsFrom, spread, refusal, converted] using next
    | error reason =>
      have next := ih (done ++ [some (refuse reason)]) position
      simpa [originsFrom, spread, refusal, converted] using next

theorem scatter_gather (items : List Item) :
    scatter value (gather convert refuse items).origins (gather convert refuse items).results =
      spread convert refuse value items 0 0 := by
  rw [gather_eq]
  exact scatter_foldl value items [] 0

theorem spread_length (items : List Item) (position start : Nat) :
    (spread convert refuse value items position start).length = items.length := by
  induction items generalizing position start with
  | nil => rfl
  | cons item _ ih => cases converted : convert item <;> simp [spread, converted, ih]

end

variable {first item : Item} {out : Out} {items : List Item} {index : Nat}

theorem submittedPosition_succ_ok (rest : List Item) (index : Nat) (converted : convert first = .ok out) :
    submittedPosition convert (first :: rest) (index + 1) = submittedPosition convert rest index + 1 := by
  simp [submittedPosition, converted, Except.toBool]

theorem submittedPosition_succ_error {reason : Error} (rest : List Item) (index : Nat) (refused : convert first = .error reason) :
    submittedPosition convert (first :: rest) (index + 1) = submittedPosition convert rest index := by
  simp [submittedPosition, refused, Except.toBool]

theorem spread_entry {value position start} (present : items[index]? = some item) :
    (spread convert refuse value items position start)[index]? = some (match convert item with
        | .ok _ => value (position + submittedPosition convert items index) (start + index)
        | .error reason => some (refuse reason)) := by
  induction items generalizing position start index with
  | nil => cases present
  | cons first rest ih =>
    cases index with
    | zero =>
      cases present
      cases converted : convert item <;> simp [spread, submittedPosition, converted]
    | succ index =>
      cases converted : convert first with
      | ok =>
        rw [submittedPosition_succ_ok rest index converted]
        simp only [spread, converted, List.getElem?_cons_succ, ih present]
        simp only [Nat.add_assoc, Nat.add_comm 1]
      | error =>
        rw [submittedPosition_succ_error rest index converted]
        simp only [spread, converted, List.getElem?_cons_succ, ih present]
        simp only [Nat.add_assoc, Nat.add_comm 1]

theorem submitted_entry (present : items[index]? = some item) (converted : convert item = .ok out) :
    (items.filterMap fun item => (convert item).toOption)[submittedPosition convert items index]? = some out := by
  induction items generalizing index with
  | nil => cases present
  | cons first rest ih =>
    cases index with
    | zero =>
      cases present
      simp [submittedPosition, converted, Except.toOption]
    | succ index =>
      have next := @ih index present
      cases firstConverted : convert first with
      | ok =>
        rw [submittedPosition_succ_ok rest index firstConverted]
        simpa [firstConverted, Except.toOption] using next
      | error =>
        rw [submittedPosition_succ_error rest index firstConverted]
        simpa [firstConverted, Except.toOption] using next

end Foundation

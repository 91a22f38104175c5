import Mathlib.Data.List.Basic

/-! Paths of a file system, resolved component by component. A path is joined to another by
appending its components, unless it starts at the root. -/

set_option autoImplicit false

namespace Foundation

inductive PathPart (Name : Type) where
  | parent
  | named (name : Name)
deriving DecidableEq

structure Path (Name : Type) where
  rooted : Bool
  parts : List (PathPart Name)
deriving DecidableEq

namespace Path

variable {Name : Type}

def join (base path : Path Name) : Path Name :=
  if path.rooted then path else ⟨base.rooted, base.parts ++ path.parts⟩

def single (name : Name) : Path Name := ⟨false, [.named name]⟩

/-- One component up. The root is its own parent; above the start of a relative path the
parents are kept. The last component comes first. -/
def ascend (rooted : Bool) : List (PathPart Name) → List (PathPart Name)
  | .named _ :: rest => rest
  | .parent :: rest => .parent :: .parent :: rest
  | [] => if rooted then [] else [.parent]

/-- Follow the components from a place, which is given with its last component first. -/
def walk (rooted : Bool) : List (PathPart Name) → List (PathPart Name) → List (PathPart Name)
  | place, [] => place
  | place, .parent :: rest => walk rooted (ascend rooted place) rest
  | place, .named name :: rest => walk rooted (.named name :: place) rest

def resolve (path : Path Name) : Path Name :=
  ⟨path.rooted, (walk path.rooted [] path.parts).reverse⟩

/-- The place of a file lies in a directory or is the directory. -/
def Under (directory file : Path Name) : Prop :=
  directory.resolve.rooted = file.resolve.rooted ∧ directory.resolve.parts <+: file.resolve.parts

instance [DecidableEq Name] (directory file : Path Name) : Decidable (Under directory file) :=
  inferInstanceAs (Decidable (_ ∧ _))

/-- Whether the components never lead above the place they start from, when `depth` of them
have been descended already. -/
def staysInside : Nat → List (PathPart Name) → Bool
  | _, [] => true
  | 0, .parent :: _ => false
  | depth + 1, .parent :: rest => staysInside depth rest
  | depth, .named _ :: rest => staysInside (depth + 1) rest

def Inside (path : Path Name) : Prop := path.rooted = false ∧ staysInside 0 path.parts = true

instance (path : Path Name) : Decidable path.Inside := inferInstanceAs (Decidable (_ ∧ _))

variable {base path : Path Name}

/-- Two lists of one length that begin the same list are the same, so they end alike. -/
theorem last_unique_of_common_start {Part : Type} {front whole : List Part} {first second : Part}
    (left : front ++ [first] <+: whole) (right : front ++ [second] <+: whole) : first = second := by
  have same := List.prefix_of_prefix_length_le left right (by simp)
  simpa using List.IsPrefix.eq_of_length same (by simp)

theorem walk_append (rooted : Bool) (place first second : List (PathPart Name)) :
    walk rooted place (first ++ second) = walk rooted (walk rooted place first) second := by
  induction first generalizing place with
  | nil => rfl
  | cons part _ ih =>
    cases part with
    | parent => exact ih _
    | named => exact ih _

variable {rooted : Bool} {parts : List (PathPart Name)} {descended : List Name}

/-- Components that stay inside leave the place they start from where it is. -/
theorem walk_inside (place : List (PathPart Name)) (inside : staysInside descended.length parts = true) :
    ∃ final : List Name, walk rooted (descended.map .named ++ place) parts = final.map .named ++ place := by
  induction parts generalizing descended with
  | nil => exact ⟨descended, rfl⟩
  | cons part _ ih =>
    cases part with
    | named name => exact @ih (name :: descended) inside
    | parent =>
      cases descended with
      | nil => cases inside
      | cons _ earlier => exact @ih earlier inside

@[simp] theorem rooted_resolve (path : Path Name) : path.resolve.rooted = path.rooted := rfl

@[simp] theorem rooted_join_single (base : Path Name) (name : Name) : (base.join (single name)).rooted = base.rooted := rfl

@[simp] theorem parts_resolve_join_single (base : Path Name) (name : Name) :
    (base.join (single name)).resolve.parts = base.resolve.parts ++ [.named name] := by
  simp [resolve, join, single, walk_append, walk]

/-- What is reached from a directory by a path that stays inside lies in the directory. -/
theorem resolve_join_inside (inside : path.Inside) : ∃ final : List Name, (base.join path).resolve =
      ⟨base.rooted, base.resolve.parts ++ final.map .named⟩ := by
  obtain ⟨unrooted, stays⟩ := inside
  obtain ⟨final, walked⟩ := @walk_inside _ base.rooted path.parts [] (walk base.rooted [] base.parts) stays
  refine ⟨final.reverse, ?_⟩
  have walked : walk base.rooted (walk base.rooted [] base.parts) path.parts =
    final.map .named ++ walk base.rooted [] base.parts := walked
  simp [resolve, join, unrooted, walk_append, walked]

theorem walk_outside (place : List (PathPart Name)) (start other : Name) (outside : staysInside descended.length parts = false) :
    walk rooted (descended.map .named ++ .named start :: place) parts =
      walk rooted (descended.map .named ++ .named other :: place) parts := by
  induction parts generalizing descended with
  | nil => cases outside
  | cons part _ ih =>
    cases part with
    | named name => exact @ih (name :: descended) outside
    | parent =>
      cases descended with
      | nil => rfl
      | cons _ earlier => exact @ih earlier outside

theorem staysInside_append_named (depth : Nat) (parts : List (PathPart Name)) (name : Name) :
    staysInside depth (parts ++ [.named name]) = staysInside depth parts := by
  induction parts generalizing depth with
  | nil => rfl
  | cons part _ ih =>
    cases part with
    | named => exact ih (depth + 1)
    | parent =>
      cases depth with
      | zero => rfl
      | succ depth => exact ih depth

theorem inside_join_single_iff {name : Name} : (path.join (single name)).Inside ↔ path.Inside := by
  simp [Inside, join, single, staysInside_append_named]

theorem join_join {first second : Path Name} (unrooted : second.rooted = false) :
    (base.join first).join second = base.join (first.join second) := by
  cases rooted : first.rooted <;> simp [join, unrooted, rooted]

/-- From two directories beside each other, a path that does not stay inside leads to the same
place. -/
theorem resolve_join_outside (start other : Name) (outside : ¬path.Inside) :
    ((base.join (single start)).join path).resolve = ((base.join (single other)).join path).resolve := by
  cases rooted : path.rooted with
  | true => simp [join, rooted]
  | false =>
    have strays : staysInside 0 path.parts = false := by simpa [Inside, rooted] using outside
    have same := @walk_outside _ base.rooted path.parts [] (walk base.rooted [] base.parts) start other strays
    simpa [resolve, join, single, rooted, walk_append, walk] using same

theorem inside_of_under_both {start other : Name} (distinct : start ≠ other)
    (first : Under (base.join (single start)) ((base.join (single start)).join path))
    (second : Under (base.join (single other)) ((base.join (single other)).join path)) : path.Inside := by
  by_contra outside
  obtain ⟨-, first⟩ := first
  obtain ⟨-, second⟩ := second
  rw [resolve_join_outside start other outside] at first
  rw [parts_resolve_join_single] at first second
  exact distinct (PathPart.named.inj (last_unique_of_common_start first second))

/-! ### Paths as text -/

/-- A component of a text. Nothing between two separators, and a single dot, name no place. -/
def componentOf (component : List Char) : List (PathPart String) :=
  if component = [] ∨ component = ['.'] then []
  else if component = ['.', '.'] then [.parent]
  else [.named (String.ofList component)]

/-- The components of the rest of a text, when `current` has been read of the next one. -/
def componentsFrom (current : List Char) : List Char → List (PathPart String)
  | [] => componentOf current
  | letter :: rest =>
    if letter = '/' then componentOf current ++ componentsFrom [] rest
    else componentsFrom (current ++ [letter]) rest

def ofText (text : String) : Path String :=
  ⟨decide (text.toList.head? = some '/'), componentsFrom [] text.toList⟩

/-- A text that starts at the root replaces the base. Otherwise a separator comes between,
unless the base is empty or ends with one. -/
def joinText (base path : String) : String :=
  if path.toList.head? = some '/' then path
  else if base.toList.getLast?.all (· == '/') then base ++ path
  else base ++ "/" ++ path

theorem componentsFrom_append (current first second : List Char) : componentsFrom current (first ++ '/' :: second) =
      componentsFrom current first ++ componentsFrom [] second := by
  induction first generalizing current with
  | nil => simp [componentsFrom]
  | cons letter _ ih =>
    by_cases separator : letter = '/' <;> simp [componentsFrom, separator, ih]

theorem componentsFrom_of_no_separator {current letters : List Char} (plain : '/' ∉ letters) :
    componentsFrom current letters = componentOf (current ++ letters) := by
  induction letters generalizing current with
  | nil => simp [componentsFrom]
  | cons _ _ ih =>
    rw [List.mem_cons, not_or] at plain
    rw [componentsFrom, if_neg (Ne.symm plain.1), ih plain.2, List.append_assoc]
    rfl

theorem joinText_toList {base path : String} {earlier : List Char} {last : Char}
    (relative : path.toList.head? ≠ some '/') (ending : base.toList = earlier ++ [last]) :
    (joinText base path).toList =
      if last = '/' then earlier ++ '/' :: path.toList else base.toList ++ '/' :: path.toList := by
  have final : base.toList.getLast? = some last := by simp [ending]
  by_cases separator : last = '/'
  · simp [joinText, relative, separator, ending]
  · simp [joinText, relative, final, separator]

theorem ofText_joinText (base path : String) : ofText (joinText base path) = (ofText base).join (ofText path) := by
  by_cases rooted : path.toList.head? = some '/'
  · simp [joinText, ofText, join, rooted]
  · rcases List.eq_nil_or_concat base.toList with empty | ⟨earlier, last, ending⟩
    · simp [joinText, ofText, join, rooted, empty, componentsFrom, componentOf]
    · rw [List.concat_eq_append] at ending
      have text := joinText_toList rooted ending
      have closed : componentsFrom [] (earlier ++ ['/']) = componentsFrom [] earlier := by
        simpa [componentsFrom, componentOf] using componentsFrom_append [] earlier []
      by_cases separator : last = '/'
      · subst last
        simp [ofText, join, rooted, text, ending, closed, componentsFrom_append, List.head?_append]
      · rw [if_neg separator] at text
        have start : (base.toList ++ '/' :: path.toList).head? = base.toList.head? := by
          simp [ending, List.head?_append]
        simp [ofText, join, rooted, text, start, componentsFrom_append]

end Path

end Foundation

import Mathlib.Tactic.Simps.Basic

/-! A store of keyed records behind two kinds of persistence. A table of objects holds
references, so that a change of an object is seen by everyone who has loaded it. A table
of rows holds copies: loading makes an object of its own, and saving writes it back. -/

set_option autoImplicit false

namespace Foundation

inductive Backing where
  | objects
  | rows
deriving DecidableEq

/-- Which key a record is saved under, and what a row becomes when a record is saved
over it. -/
structure Schema (Key Record : Type) where
  key : Record → Key
  merge : Record → Record → Record
  key_merge : ∀ row record, key (merge row record) = key row

def Schema.written {Key Record : Type} (schema : Schema Key Record) (backing : Backing)
    (row : Option Record) (record : Record) : Record :=
  match backing, row with
  | .rows, some row => schema.merge row record
  | _, _ => record

inductive Slot (Record : Type) where
  | object (ref : Nat)
  | row (record : Record)

def Slot.backing {Record : Type} : Slot Record → Backing
  | .object _ => .objects
  | .row _ => .rows

structure ObjectStore (Key Record : Type) where
  objects : List Record
  table : Key → Option (Slot Record)

namespace ObjectStore

variable {Key Record : Type}

def empty : ObjectStore Key Record := ⟨[], fun _ => none⟩

def resolve (store : ObjectStore Key Record) : Slot Record → Option Record
  | .object ref => store.objects[ref]?
  | .row record => some record

def current (store : ObjectStore Key Record) (key : Key) : Option Record :=
  (store.table key).bind store.resolve

@[simps]
def alloc (store : ObjectStore Key Record) (record : Record) : ObjectStore Key Record :=
  { store with objects := store.objects ++ [record] }

/-- A loaded record, as an object of the store. -/
structure Loaded (Key Record : Type) where
  ref : Nat
  record : Record
  store : ObjectStore Key Record

def load (store : ObjectStore Key Record) (key : Key) : Option (Loaded Key Record) :=
  match store.table key with
  | none => none
  | some (.object ref) => (store.objects[ref]?).map fun record => ⟨ref, record, store⟩
  | some (.row record) => some ⟨store.objects.length, record, store.alloc record⟩

@[simps]
def assign (store : ObjectStore Key Record) (ref : Nat) (change : Record → Record) : ObjectStore Key Record :=
  { store with objects := store.objects.modify ref change }

theorem assign_id (store : ObjectStore Key Record) (ref : Nat) : store.assign ref id = store := by
  simp [assign]

def saved (schema : Schema Key Record) (backing : Backing) (store : ObjectStore Key Record)
    (ref : Nat) (record : Record) : Slot Record :=
  match backing with
  | .objects => .object ref
  | .rows => .row (schema.written .rows (store.current (schema.key record)) record)

def save [DecidableEq Key] (schema : Schema Key Record) (backing : Backing)
    (store : ObjectStore Key Record) (ref : Nat) : ObjectStore Key Record :=
  match store.objects[ref]? with
  | none => store
  | some record =>
    { store with
      table := fun key =>
        if key = schema.key record then some (saved schema backing store ref record)
        else store.table key }

/-- Every entry of the table leads to a record with the key of the entry. -/
def Keyed (schema : Schema Key Record) (store : ObjectStore Key Record) : Prop :=
  ∀ key, ∀ slot ∈ store.table key, ∃ record, store.resolve slot = some record ∧ schema.key record = key

/-- The objects that exist stay, with their keys. -/
def Extends (schema : Schema Key Record) (store next : ObjectStore Key Record) : Prop :=
  ∀ (ref : Nat) (record : Record), store.objects[ref]? = some record →
    ∃ changed, next.objects[ref]? = some changed ∧ schema.key changed = schema.key record

def Backed (backing : Backing) (store : ObjectStore Key Record) : Prop :=
  ∀ key, ∀ slot ∈ store.table key, slot.backing = backing

variable {schema : Schema Key Record} {store : ObjectStore Key Record}

theorem keyed_empty : (empty : ObjectStore Key Record).Keyed schema := by
  intro key slot entry
  cases entry

variable {key : Key} {loaded : Loaded Key Record}

/-- A step that keeps the table is seen under a key only through the object there. -/
theorem current_congr {next : ObjectStore Key Record} (table : next.table = store.table)
    (same : ∀ slot ∈ store.table key, next.resolve slot = store.resolve slot) : next.current key = store.current key := by
  unfold current
  rw [table]
  cases entry : store.table key with
  | none => rfl
  | some slot => exact same slot entry

section Alloc

variable {ref : Nat} {record : Record}

theorem objects_alloc_old (new : Record) (found : store.objects[ref]? = some record) :
    (store.alloc new).objects[ref]? = some record := by
  rw [alloc_objects, List.getElem?_append_left (List.getElem?_eq_some_iff.mp found).1, found]

theorem objects_alloc_new (new : Record) : (store.alloc new).objects[store.objects.length]? = some new := by
  rw [alloc_objects, List.getElem?_concat_length]

theorem resolve_alloc {slot} (new : Record) (found : store.resolve slot = some record) :
    (store.alloc new).resolve slot = some record := by
  cases slot with
  | object => exact objects_alloc_old new found
  | row => exact found

theorem current_alloc (keyed : store.Keyed schema) (new : Record) (key : Key) :
    (store.alloc new).current key = store.current key := by
  refine current_congr rfl ?_
  intro slot entry
  obtain ⟨_, found, _⟩ := keyed key slot entry
  rw [resolve_alloc new found, found]

theorem keyed_alloc (keyed : store.Keyed schema) (new : Record) : (store.alloc new).Keyed schema := by
  intro key slot entry
  obtain ⟨record, found, own⟩ := keyed key slot entry
  exact ⟨record, resolve_alloc new found, own⟩

end Alloc

/-- A loaded record is the stored one, as an object beside those that were there. -/
theorem load_object (success : store.load key = some loaded) :
    store.current key = some loaded.record ∧ loaded.store.objects[loaded.ref]? = some loaded.record ∧
      ∀ (ref : Nat) (record : Record), store.objects[ref]? = some record → loaded.store.objects[ref]? = some record := by
  unfold load at success
  cases entry : store.table key with rw [entry] at success
  | none =>
    cases success
  | some slot =>
    rw [current, entry]
    cases slot with
    | object =>
      obtain ⟨_, found, made⟩ := Option.map_eq_some_iff.mp success
      subst made
      exact ⟨found, found, fun _ _ present => present⟩
    | row row =>
      cases success
      exact ⟨rfl, objects_alloc_new row, fun _ _ present => objects_alloc_old row present⟩

/-- What a load leads to: the stored record as an object, and nothing else changed. -/
structure Loads (schema : Schema Key Record) (store : ObjectStore Key Record) (key : Key)
    (loaded : Loaded Key Record) : Prop where
  current : store.current key = some loaded.record
  own : schema.key loaded.record = key
  object : loaded.store.objects[loaded.ref]? = some loaded.record
  keyed : loaded.store.Keyed schema
  same : ∀ other, loaded.store.current other = store.current other
  kept : ∀ (other : Nat) (found : Record), store.objects[other]? = some found → loaded.store.objects[other]? = some found
  table : loaded.store.table = store.table

theorem load_spec (keyed : store.Keyed schema) (success : store.load key = some loaded) : Loads schema store key loaded := by
  obtain ⟨stored, object, kept⟩ := load_object success
  obtain ⟨slot, entry, found⟩ := Option.bind_eq_some_iff.mp stored
  obtain ⟨_, resolved, own⟩ := keyed key slot entry
  cases found.symm.trans resolved
  unfold load at success
  rw [entry] at success
  cases slot with
  | object =>
    obtain ⟨_, _, made⟩ := Option.map_eq_some_iff.mp success
    subst made
    exact ⟨stored, own, object, keyed, fun _ => rfl, kept, rfl⟩
  | row row =>
    cases success
    exact ⟨stored, own, object, keyed_alloc keyed row, current_alloc keyed row, kept, rfl⟩

theorem load_of_current {record : Record} (stored : store.current key = some record) :
    ∃ loaded, store.load key = some loaded := by
  obtain ⟨slot, entry, found⟩ := Option.bind_eq_some_iff.mp stored
  unfold load
  rw [entry]
  cases slot with
  | object ref => exact ⟨⟨ref, record, store⟩, by rw [resolve] at found; simp [found]⟩
  | row => exact ⟨_, rfl⟩

section Assign

variable {ref : Nat} {record : Record} {change : Record → Record}

theorem objects_assign (found : store.objects[ref]? = some record) :
    (store.assign ref change).objects[ref]? = some (change record) := by
  rw [assign_objects, List.getElem?_modify, found]
  simp

theorem objects_assign_other {other : Nat} (different : other ≠ ref) :
    (store.assign ref change).objects[other]? = store.objects[other]? := by
  simp [Ne.symm different]

theorem extends_assign (keeps : ∀ record, schema.key (change record) = schema.key record) :
    store.Extends schema (store.assign ref change) := by
  intro other record found
  by_cases same : other = ref
  · subst same
    exact ⟨change record, objects_assign found, keeps record⟩
  · exact ⟨record, (objects_assign_other same).trans found, rfl⟩

theorem keyed_assign (keyed : store.Keyed schema) (keeps : ∀ record, schema.key (change record) = schema.key record) :
    (store.assign ref change).Keyed schema := by
  intro key slot entry
  obtain ⟨record, found, own⟩ := keyed key slot entry
  cases slot with
  | object stored =>
    obtain ⟨changed, present, same⟩ := extends_assign keeps stored record found
    exact ⟨changed, present, same.trans own⟩
  | row => exact ⟨record, found, own⟩

theorem current_assign_other (keyed : store.Keyed schema) (found : store.objects[ref]? = some record)
    (different : schema.key record ≠ key) : (store.assign ref change).current key = store.current key := by
  refine current_congr rfl ?_
  intro slot entry
  obtain ⟨_, present, own⟩ := keyed key slot entry
  cases slot with
  | object =>
    refine objects_assign_other ?_
    intro same
    subst same
    cases found.symm.trans present
    exact different own
  | row => rfl

theorem current_assign_rows (backed : store.Backed .rows) (key : Key) :
    (store.assign ref change).current key = store.current key := by
  refine current_congr rfl ?_
  intro slot entry
  cases slot with
  | object => cases backed key _ entry
  | row => rfl

end Assign

theorem key_written (keyed : store.Keyed schema) (backing : Backing) (record : Record) :
    schema.key (schema.written backing (store.current (schema.key record)) record) = schema.key record := by
  cases backing with
  | objects => rfl
  | rows =>
    unfold current
    cases entry : store.table (schema.key record) with
    | none => rfl
    | some slot =>
      obtain ⟨row, stored, own⟩ := keyed _ slot entry
      rw [Option.bind_some, stored]
      exact (schema.key_merge row record).trans own

section Save

variable [DecidableEq Key] {backing : Backing} {ref : Nat} {record : Record}

theorem save_objects (schema : Schema Key Record) (backing : Backing) (store : ObjectStore Key Record) (ref : Nat) :
    (save schema backing store ref).objects = store.objects := by
  unfold save
  split <;> rfl

theorem current_save (found : store.objects[ref]? = some record) : (save schema backing store ref).current (schema.key record) =
      some (schema.written backing (store.current (schema.key record)) record) := by
  simp only [save, found, current, if_true, Option.bind_some]
  cases backing with
  | objects => exact found
  | rows => rfl

theorem current_save_other (found : store.objects[ref]? = some record) (different : key ≠ schema.key record) :
    (save schema backing store ref).current key = store.current key := by
  simp only [save, found, current, if_neg different]
  rfl

theorem keyed_save (keyed : store.Keyed schema) : (save schema backing store ref).Keyed schema := by
  cases found : store.objects[ref]? with
  | none =>
    rw [save, found]
    exact keyed
  | some record =>
    intro key slot entry
    simp only [save, found] at entry ⊢
    split at entry
    · next same =>
      subst same
      cases entry
      cases backing with
      | objects => exact ⟨record, found, rfl⟩
      | rows => exact ⟨_, rfl, key_written keyed .rows record⟩
    · exact keyed key slot entry

theorem backed_save (backed : store.Backed backing) : (save schema backing store ref).Backed backing := by
  cases found : store.objects[ref]? with
  | none =>
    rw [save, found]
    exact backed
  | some =>
    intro key slot entry
    simp only [save, found] at entry
    split at entry
    · cases entry
      cases backing <;> rfl
    · exact backed key slot entry

end Save

end ObjectStore

end Foundation

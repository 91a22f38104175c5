import Mathlib.Data.List.Nodup
import Mathlib.Tactic.Abel

/-! Tables of values that are stored under distinct keys, as an update of one entry and a
sum over all entries see them. -/

set_option autoImplicit false

namespace Foundation

variable {Key Value Weight : Type}

def sumEntries [AddCommGroup Weight] (weight : Key → Value → Weight) : List (Key × Value) → Weight
  | [] => 0
  | entry :: rest => weight entry.1 entry.2 + sumEntries weight rest

variable [DecidableEq Key]

def findValue (key : Key) : List (Key × Value) → Option Value
  | [] => none
  | entry :: rest => if entry.1 = key then some entry.2 else findValue key rest

def upsertEntry (key : Key) (change : Option Value → Value) : List (Key × Value) → List (Key × Value)
  | [] => [(key, change none)]
  | entry :: rest =>
    if entry.1 = key then (key, change (some entry.2)) :: rest
    else entry :: upsertEntry key change rest

variable {key other : Key} {change : Option Value → Value} {entries : List (Key × Value)}

theorem findValue_upsertEntry : findValue other (upsertEntry key change entries) =
    if other = key then some (change (findValue key entries)) else findValue other entries := by
  induction entries with
  | nil => simp [upsertEntry, findValue, eq_comm]
  | cons entry _ ih =>
    by_cases own : entry.1 = key
    · by_cases same : other = key
      · simp [upsertEntry, findValue, own, same]
      · have outside : key ≠ other := fun equal => same equal.symm
        simp [upsertEntry, findValue, own, same, outside]
    · by_cases hit : entry.1 = other
      · have same : other ≠ key := fun equal => own (hit.trans equal)
        simp [upsertEntry, findValue, hit, same]
      · simp [upsertEntry, findValue, own, hit, ih]

theorem findValue_eq_none (absent : key ∉ entries.map Prod.fst) : findValue key entries = none := by
  induction entries with
  | nil => rfl
  | cons _ _ ih =>
    rw [List.map_cons, List.mem_cons, not_or] at absent
    rw [findValue, if_neg (Ne.symm absent.1), ih absent.2]

theorem findValue_of_mem {value : Value} (distinct : (entries.map Prod.fst).Nodup)
    (member : (key, value) ∈ entries) : findValue key entries = some value := by
  induction entries with
  | nil => cases member
  | cons _ _ ih =>
    obtain ⟨fresh, restDistinct⟩ := List.nodup_cons.mp distinct
    rw [findValue]
    rcases List.mem_cons.mp member with rfl | later
    · exact if_pos rfl
    · rw [if_neg, ih restDistinct later]
      intro same
      rw [same] at fresh
      exact fresh (List.mem_map.mpr ⟨_, later, rfl⟩)

theorem mem_keys_upsertEntry : other ∈ (upsertEntry key change entries).map Prod.fst ↔
    other = key ∨ other ∈ entries.map Prod.fst := by
  induction entries with
  | nil => simp [upsertEntry]
  | cons _ _ ih =>
    unfold upsertEntry
    split
    · next own => simp [own]
    · simp only [List.map_cons, List.mem_cons, ih]
      tauto

theorem nodup_upsertEntry (distinct : (entries.map Prod.fst).Nodup) : ((upsertEntry key change entries).map Prod.fst).Nodup := by
  induction entries with
  | nil => exact List.nodup_singleton _
  | cons _ _ ih =>
    obtain ⟨fresh, restDistinct⟩ := List.nodup_cons.mp distinct
    unfold upsertEntry
    split
    · next own =>
      rw [own] at fresh
      exact List.nodup_cons.mpr ⟨fresh, restDistinct⟩
    · next different =>
      refine List.nodup_cons.mpr ⟨?_, ih restDistinct⟩
      rw [mem_keys_upsertEntry]
      exact fun either => either.elim different fresh

theorem sumEntries_upsertEntry [AddCommGroup Weight] (weight : Key → Value → Weight) :
    sumEntries weight (upsertEntry key change entries) =
      sumEntries weight entries + (weight key (change (findValue key entries)) -
        ((findValue key entries).map (weight key)).getD 0) := by
  induction entries with
  | nil => simp [upsertEntry, sumEntries, findValue]
  | cons entry _ ih =>
    by_cases own : entry.1 = key
    · simp only [upsertEntry, findValue, own, if_true, sumEntries, Option.map_some, Option.getD_some]
      abel
    · simp only [upsertEntry, findValue, own, if_false, sumEntries, ih]
      abel

structure KeyedTable (Key Value : Type) where
  entries : List (Key × Value)
  distinct : (entries.map Prod.fst).Nodup

namespace KeyedTable

def empty : KeyedTable Key Value := ⟨[], List.nodup_nil⟩

def get (table : KeyedTable Key Value) (key : Key) : Option Value := findValue key table.entries

def upsert (table : KeyedTable Key Value) (key : Key) (change : Option Value → Value) : KeyedTable Key Value :=
  ⟨upsertEntry key change table.entries, nodup_upsertEntry table.distinct⟩

def sum [AddCommGroup Weight] (table : KeyedTable Key Value) (weight : Key → Value → Weight) : Weight :=
  sumEntries weight table.entries

theorem get_upsert (table : KeyedTable Key Value) (key other : Key)
    (change : Option Value → Value) : (table.upsert key change).get other =
      if other = key then some (change (table.get key)) else table.get other :=
  findValue_upsertEntry

theorem sum_upsert [AddCommGroup Weight] (table : KeyedTable Key Value) (key : Key)
    (change : Option Value → Value) (weight : Key → Value → Weight) :
    (table.upsert key change).sum weight = table.sum weight + (weight key (change (table.get key)) -
        ((table.get key).map (weight key)).getD 0) :=
  sumEntries_upsertEntry weight

end KeyedTable

end Foundation

import Mathlib.Tactic.Ring

/-! Circular buffers whose size is a power of two and whose positions are found by masking an
unbounded counter, and tables with a fixed number of slots, addressed by the low bits of an
unbounded key. Keys that are a whole lap apart share a slot, and a slot does not keep the key its
value was stored under, so a table stands for a function or a partial map of the keys over one lap
only. -/

set_option autoImplicit false

namespace Foundation

def isPowerOfTwo (size : Nat) : Bool := size != 0 && size &&& (size - 1) == 0

/-- The low bits of a counter; those of a negative one are the complement of the low bits
of what comes before its absolute value. -/
def maskedIndex (size : Nat) : Int → Nat
  | .ofNat count => count &&& (size - 1)
  | .negSucc count => size - 1 - (count &&& (size - 1))

variable {size : Nat}

section

variable (power : isPowerOfTwo size = true)
include power

theorem isPowerOfTwo_spec : ∃ exponent, size = 2 ^ exponent := by
  simp only [isPowerOfTwo, Bool.and_eq_true, bne_iff_ne, beq_iff_eq] at power
  obtain ⟨nonzero, disjoint⟩ := power
  have low := Nat.log2_self_le nonzero
  have high : size < 2 ^ (size.log2 + 1) := Nat.lt_log2_self
  refine ⟨size.log2, ?_⟩
  by_contra different
  have topBit := Nat.testBit_of_two_pow_le_and_two_pow_add_one_gt low high
  have topBitBelow := Nat.testBit_of_two_pow_le_and_two_pow_add_one_gt
    (show 2 ^ size.log2 ≤ size - 1 by omega) (show 2 ^ (size.log2 + 1) > size - 1 by omega)
  have shared : (size &&& (size - 1)).testBit size.log2 = true := by
    rw [Nat.testBit_and, topBit, topBitBelow]
    rfl
  rw [disjoint, Nat.zero_testBit] at shared
  cases shared

theorem isPowerOfTwo_pos : 0 < size := by
  obtain ⟨exponent, rfl⟩ := isPowerOfTwo_spec power
  exact Nat.two_pow_pos exponent

theorem maskedIndex_eq_emod (counter : Int) : (maskedIndex size counter : Int) = counter % size := by
  have positive := isPowerOfTwo_pos power
  obtain ⟨_, rfl⟩ := isPowerOfTwo_spec power
  cases counter with
  | ofNat =>
    rw [maskedIndex, Nat.and_two_pow_sub_one_eq_mod]
    rfl
  | negSucc count =>
    rw [maskedIndex, Nat.and_two_pow_sub_one_eq_mod, Int.negSucc_emod count (Int.natCast_pos.mpr positive)]
    omega

theorem maskedIndex_eq_mod {counter : Int}
    (nonneg : 0 ≤ counter) : maskedIndex size counter = counter.toNat % size := by
  obtain ⟨count, rfl⟩ := Int.eq_ofNat_of_zero_le nonneg
  have low := maskedIndex_eq_emod power count
  exact Int.natCast_inj.mp low

theorem maskedIndex_eq_iff {left right : Int} :
    maskedIndex size left = maskedIndex size right ↔ left % size = right % size := by
  rw [← maskedIndex_eq_emod power, ← maskedIndex_eq_emod power, Int.natCast_inj]

/-- Counters within one lap of each other occupy different positions. -/
theorem maskedIndex_inj {left right : Int} (lap : left < right + size)
    (lap' : right < left + size) (same : maskedIndex size left = maskedIndex size right) : left = right := by
  have divides : (size : Int) ∣ left - right :=
    Int.dvd_of_emod_eq_zero (Int.emod_eq_emod_iff_emod_sub_eq_zero.mp ((maskedIndex_eq_iff power).mp same))
  have close : |left - right| < size := abs_lt.mpr ⟨by omega, by omega⟩
  have level := Int.eq_zero_of_abs_lt_dvd divides close
  omega

end

variable {Value : Type}

structure SlotTable (Value : Type) where
  capacity : Nat
  power : isPowerOfTwo capacity = true
  slots : Nat → Value

namespace SlotTable

def filled {capacity : Nat} (power : isPowerOfTwo capacity = true) (value : Value) : SlotTable Value :=
  ⟨capacity, power, fun _ => value⟩

def get (table : SlotTable Value) (key : Int) : Value :=
  table.slots (maskedIndex table.capacity key)

def set (table : SlotTable Value) (key : Int) (value : Value) : SlotTable Value :=
  { table with
    slots := fun index =>
      if index = maskedIndex table.capacity key then value else table.slots index }

@[simp] theorem capacity_set (table : SlotTable Value) (key : Int) (value : Value) :
    (table.set key value).capacity = table.capacity := rfl

@[simp] theorem get_set_same (table : SlotTable Value) (key : Int) (value : Value) : (table.set key value).get key = value := by
  simp [get, set]

variable {table : SlotTable Value} {key low : Int}

theorem get_set_other {other : Int} (value : Value) (different : other ≠ key) (lap : other < key + table.capacity)
    (lap' : key < other + table.capacity) : (table.set key value).get other = table.get other := by
  have elsewhere : maskedIndex table.capacity other ≠ maskedIndex table.capacity key :=
    fun same => different (maskedIndex_inj table.power lap lap' same)
  simp [get, set, elsewhere]

@[simp] theorem set_get (table : SlotTable Value) (key : Int) : table.set key (table.get key) = table := by
  unfold set get
  congr 1
  funext index
  split
  · next same => rw [same]
  · rfl

theorem get_next_lap (table : SlotTable Value) (key : Int) : table.get (key + table.capacity) = table.get key := by
  have same := (maskedIndex_eq_iff table.power).mpr (Int.add_emod_right key table.capacity)
  rw [get, get, same]

/-- The table holds the values of a function for the keys of one lap from `low` on. -/
def Holds (table : SlotTable Value) (content : Int → Value) (low : Int) : Prop :=
  ∀ key, low ≤ key → key < low + table.capacity → table.get key = content key

theorem Holds.set {content} (holds : table.Holds content low) (next : Int → Value)
    (above : low ≤ key) (below : key < low + table.capacity)
    (others : ∀ other, other ≠ key → next other = content other) : (table.set key (next key)).Holds next low := by
  intro other otherAbove otherBelow
  rw [capacity_set] at otherBelow
  by_cases same : other = key
  · rw [same, get_set_same]
  · rw [get_set_other _ same (by omega) (by omega), others other same]
    exact holds other otherAbove otherBelow

/-- When the window moves on by one key, the slot it leaves is the one it gains. -/
theorem Holds.shift {content} (holds : table.Holds content low) :
    (table.set low (content (low + table.capacity))).Holds content (low + 1) := by
  intro key above below
  rw [capacity_set] at below
  by_cases last : key = low + table.capacity
  · have wrapped := (table.set low (content (low + table.capacity))).get_next_lap low
    rw [capacity_set] at wrapped
    rw [last, wrapped, get_set_same]
  · rw [get_set_other _ (by omega) (by omega) (by omega)]
    exact holds key (by omega) (by omega)

end SlotTable

/-- No other key that the map holds is congruent to `key`. -/
def Unshared (capacity : Nat) (content : Int → Option Value) (key : Int) : Prop :=
  ∀ other, (content other).isSome → other % capacity = key % capacity → other = key

/-- The keys that the map holds are pairwise distinct modulo the capacity. -/
def DistinctKeys (capacity : Nat) (content : Int → Option Value) : Prop :=
  ∀ key, (content key).isSome → Unshared capacity content key

theorem DistinctKeys.unshared_of_update {capacity : Nat} {content} {key : Int} {value : Value}
    (distinct : DistinctKeys capacity (Function.update content key (some value))) : Unshared capacity content key := by
  intro other present congruent
  by_contra different
  refine different (distinct key (by simp) other ?_ congruent)
  simpa [different] using present

namespace SlotTable

variable {table : SlotTable (Option Value)} {content : Int → Option Value} {key : Int} {Slot : Type}

theorem get_set (table : SlotTable Slot) (key other : Int) (value : Slot) : (table.set key value).get other =
      if other % table.capacity = key % table.capacity then value else table.get other := by
  simp only [get, set, maskedIndex_eq_iff table.power]

theorem get_congr {table : SlotTable Slot} {other : Int}
    (congruent : other % table.capacity = key % table.capacity) : table.get other = table.get key := by
  rw [get, get, (maskedIndex_eq_iff table.power).mpr congruent]

/-- Every present key has its value in its slot, and every value in a slot belongs to a
present key of the slot. -/
structure Represents (table : SlotTable (Option Value)) (content : Int → Option Value) : Prop where
  present : ∀ key value, content key = some value → table.get key = some value
  occupied : ∀ key value, table.get key = some value →
    ∃ owner, owner % table.capacity = key % table.capacity ∧ content owner = some value

theorem represents_filled {capacity : Nat} (power : isPowerOfTwo capacity = true) :
    (filled power (none : Option Value)).Represents fun _ => none :=
  ⟨fun _ _ absent => (by cases absent), fun _ _ empty => (by cases empty)⟩

section

variable (represents : table.Represents content)
include represents

theorem Represents.set (unshared : Unshared table.capacity content key)
    (value : Option Value) : (table.set key value).Represents (Function.update content key value) := by
  constructor
  · intro other stored found
    by_cases same : other = key
    · rw [same, Function.update_self] at found
      rw [same, get_set_same, found]
    · rw [Function.update_of_ne same] at found
      have apart : ¬other % table.capacity = key % table.capacity :=
        fun congruent => same (unshared other (by simp [found]) congruent)
      rw [get_set, if_neg apart]
      exact represents.present other stored found
  · intro other stored found
    rw [get_set] at found
    split at found
    · next congruent => exact ⟨key, congruent.symm, by rw [Function.update_self, found]⟩
    · next apart =>
      obtain ⟨owner, congruent, held⟩ := represents.occupied other stored found
      have different : owner ≠ key := by
        rintro rfl
        exact apart congruent.symm
      exact ⟨owner, congruent, by rw [Function.update_of_ne different, held]⟩

theorem Represents.get_eq (unshared : Unshared table.capacity content key) : table.get key = content key := by
  cases held : content key with
  | some value => exact represents.present key value held
  | none =>
    cases found : table.get key with
    | none => rfl
    | some value =>
      obtain ⟨owner, congruent, owned⟩ := represents.occupied key value found
      have same := unshared owner (by simp [owned]) congruent
      rw [same, held] at owned
      cases owned

/-- The slot of a key tells whether the key is present exactly if no other present key
shares it. -/
theorem Represents.isSome_get_iff (distinct : DistinctKeys table.capacity content) :
    (table.get key).isSome = (content key).isSome ↔ Unshared table.capacity content key := by
  constructor
  · intro same other present congruent
    obtain ⟨value, held⟩ := Option.isSome_iff_exists.mp present
    have found := represents.present other value held
    rw [get_congr congruent] at found
    rw [found] at same
    exact distinct key same.symm other present congruent
  · intro unshared
    rw [represents.get_eq unshared]

end

end SlotTable

end Foundation

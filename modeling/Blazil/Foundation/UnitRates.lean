import Mathlib.Algebra.Order.BigOperators.Group.Finset

/-! Charges for units that are counted in batches. A rate that falls with the number of
units is applied to each unit, or to a batch as a whole from its first unit on. -/

set_option autoImplicit false

namespace Foundation

def units : List Nat → Nat
  | [] => 0
  | batch :: rest => batch + units rest

def batchCharge (rate : Nat → Nat) : Nat → List Nat → Nat
  | _, [] => 0
  | start, batch :: rest => rate start * batch + batchCharge rate (start + batch) rest

def unitCharge (rate : Nat → Nat) (start count : Nat) : Nat :=
  ∑ i ∈ Finset.range count, rate (start + i)

def Steady (rate : Nat → Nat) : Nat → List Nat → Prop
  | _, [] => True
  | start, batch :: rest =>
    (∀ i < batch, rate (start + i) = rate start) ∧ Steady rate (start + batch) rest

variable {rate : Nat → Nat}

theorem unitCharge_add (start first second : Nat) : unitCharge rate start (first + second) =
    unitCharge rate start first + unitCharge rate (start + first) second := by
  simp only [unitCharge, Finset.sum_range_add, Nat.add_assoc]

section

variable (falls : Antitone rate)
include falls

theorem unitCharge_le (start count : Nat) : unitCharge rate start count ≤ rate start * count := by
  have bounded := Finset.sum_le_card_nsmul (Finset.range count) (fun i => rate (start + i))
    (rate start) fun i _ => falls (Nat.le_add_right start i)
  rwa [Finset.card_range, Nat.nsmul_eq_mul, Nat.mul_comm] at bounded

theorem unitCharge_eq_iff (start count : Nat) :
    unitCharge rate start count = rate start * count ↔ ∀ i < count, rate (start + i) = rate start := by
  have flat : rate start * count = ∑ _i ∈ Finset.range count, rate start := by
    rw [Finset.sum_const, Finset.card_range, Nat.nsmul_eq_mul, Nat.mul_comm]
  rw [flat, unitCharge, Finset.sum_eq_sum_iff_of_le fun i _ => falls (Nat.le_add_right start i)]
  simp only [Finset.mem_range]

theorem unitCharge_le_batchCharge (start : Nat) (batches : List Nat) :
    unitCharge rate start (units batches) ≤ batchCharge rate start batches := by
  induction batches generalizing start with
  | nil => exact Nat.le_refl 0
  | cons batch _ ih =>
    rw [units, unitCharge_add, batchCharge]
    exact Nat.add_le_add (unitCharge_le falls start batch) (ih (start + batch))

/-- Charging by batches is charging by units exactly when the rate is steady. -/
theorem batchCharge_eq_iff (start : Nat) (batches : List Nat) :
    batchCharge rate start batches = unitCharge rate start (units batches) ↔ Steady rate start batches := by
  induction batches generalizing start with
  | nil => exact ⟨fun _ => trivial, fun _ => rfl⟩
  | cons batch rest ih =>
    rw [units, unitCharge_add, batchCharge, Steady, eq_comm, add_eq_add_iff_eq_and_eq (unitCharge_le falls start batch)
        (unitCharge_le_batchCharge falls (start + batch) rest),
      unitCharge_eq_iff falls, eq_comm, ih]

end

end Foundation

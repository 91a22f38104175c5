import Blazil.Foundation.UnitRates
import Mathlib.Algebra.BigOperators.Ring.Finset

/-! The prices of metered transactions (`libs/metering/pricing.go`), in micro-USD. Start times of
windows are carried as numbers. An invoice charges a whole window at the price of its first
transaction. -/

set_option autoImplicit false

namespace Blazil.Metering

abbrev TenantId := String

inductive Tier where
  | free
  | cloudSaas
  | enterprise
deriving DecidableEq

def pricePerTxMicroUsd (tier : Tier) (cumulativeMonthly : Int64) : Int64 :=
  if tier ≠ .cloudSaas then 0
  else if cumulativeMonthly < 1000000 then 1000
  else if cumulativeMonthly < 10000000 then 500
  else if cumulativeMonthly < 100000000 then 200
  else 100

structure WindowCount where
  windowStart : Nat
  count : Int64
deriving DecidableEq

structure InvoiceLineItem where
  tenantId : TenantId
  windowStart : Nat
  txCount : Int64
  pricePerTx : Int64
  totalMicroUsd : Int64
deriving DecidableEq

def invoiceLines (tenantId : TenantId) (tier : Tier) : Int64 → List WindowCount → List InvoiceLineItem
  | _, [] => []
  | cumulative, window :: rest =>
    let pricePerTx := pricePerTxMicroUsd tier cumulative
    ⟨tenantId, window.windowStart, window.count, pricePerTx, pricePerTx * window.count⟩ ::
      invoiceLines tenantId tier (cumulative + window.count) rest

def calculateInvoice (tenantId : TenantId) (tier : Tier) (counts : List WindowCount) : List InvoiceLineItem :=
  invoiceLines tenantId tier 0 counts

def totalInvoiceMicroUsd (lines : List InvoiceLineItem) : Int64 :=
  lines.foldl (fun total line => total + line.totalMicroUsd) 0

open Foundation

def rate (cumulative : Nat) : Nat :=
  if cumulative < 1000000 then 1000
  else if cumulative < 10000000 then 500
  else if cumulative < 100000000 then 200
  else 100

theorem rate_antitone : Antitone rate := by
  intro first second ordered
  unfold rate
  split_ifs <;> omega

def WindowCount.transactions (window : WindowCount) : Nat := window.count.toInt.toNat

/-- The counts are not negative, and neither their sum nor the invoice leaves the range of
64 bits. -/
structure InRange (counts : List WindowCount) : Prop where
  nonneg : ∀ window ∈ counts, 0 ≤ window.count.toInt
  cumulative : units (counts.map WindowCount.transactions) < 2 ^ 63
  invoice : batchCharge rate 0 (counts.map WindowCount.transactions) < 2 ^ 63

variable {cumulative first second : Int64} {start left right : Nat}

theorem toInt_price (same : cumulative.toInt = start) :
    (pricePerTxMicroUsd .cloudSaas cumulative).toInt = rate start := by
  have below : ∀ {bound : Int64} {value : Nat}, bound.toInt = value → (cumulative < bound ↔ start < value) := by
    intro bound value boundIs
    rw [Int64.lt_iff_toInt_lt, same, boundIs]
    exact Int.ofNat_lt
  have million : (1000000 : Int64).toInt = (1000000 : Nat) := by decide
  have tenMillion : (10000000 : Int64).toInt = (10000000 : Nat) := by decide
  have hundredMillion : (100000000 : Int64).toInt = (100000000 : Nat) := by decide
  unfold pricePerTxMicroUsd rate
  rw [if_neg (not_not.mpr rfl)]
  simp only [below million, below tenMillion, below hundredMillion]
  split_ifs <;> decide

theorem toInt_add_of_fits (firstIs : first.toInt = left)
    (secondIs : second.toInt = right) (fits : left + right < 2 ^ 63) : (first + second).toInt = (left + right : Nat) := by
  rw [Int64.toInt_add, firstIs, secondIs, Int.bmod_eq_of_le (by omega) (by omega)]
  rfl

theorem toInt_mul_of_fits (firstIs : first.toInt = left)
    (secondIs : second.toInt = right) (fits : left * right < 2 ^ 63) : (first * second).toInt = (left * right : Nat) := by
  rw [Int64.toInt_mul, firstIs, secondIs, ← Int.natCast_mul, Int.bmod_eq_of_le (by omega) (by omega)]

/-- The loops of `CalculateInvoice` and `TotalInvoiceMicroUSD`, from a number of earlier
transactions and an earlier total on. -/
theorem toInt_total (tenantId : TenantId) (counts : List WindowCount) {total : Int64} {sum : Nat}
    (startIs : cumulative.toInt = start) (sumIs : total.toInt = sum) (nonneg : ∀ window ∈ counts, 0 ≤ window.count.toInt)
    (cumulativeFits : start + units (counts.map WindowCount.transactions) < 2 ^ 63)
    (totalFits : sum + batchCharge rate start (counts.map WindowCount.transactions) < 2 ^ 63) :
    ((invoiceLines tenantId .cloudSaas cumulative counts).foldl (fun total line => total + line.totalMicroUsd) total).toInt =
        (sum + batchCharge rate start (counts.map WindowCount.transactions) : Nat) := by
  induction counts generalizing cumulative total start sum with
  | nil => exact sumIs
  | cons window _ ih =>
    have countIs : window.count.toInt = window.transactions :=
      (Int.toNat_of_nonneg (nonneg window List.mem_cons_self)).symm
    simp only [List.map_cons, units, batchCharge] at cumulativeFits totalFits ⊢
    have lineIs := toInt_mul_of_fits (toInt_price startIs) countIs (by omega)
    have nextStart := toInt_add_of_fits startIs countIs (by omega)
    have nextSum := toInt_add_of_fits sumIs lineIs (by omega)
    rw [← Nat.add_assoc]
    exact ih nextStart nextSum (fun other member => nonneg other (List.mem_cons_of_mem _ member)) (by omega) (by omega)

theorem toInt_invoice (tenantId : TenantId) {counts} (inRange : InRange counts) :
    (totalInvoiceMicroUsd (calculateInvoice tenantId .cloudSaas counts)).toInt =
      batchCharge rate 0 (counts.map WindowCount.transactions) := by
  have total := toInt_total tenantId counts (show (0 : Int64).toInt = (0 : Nat) by decide)
    (show (0 : Int64).toInt = (0 : Nat) by decide) inRange.nonneg
    (by simpa using inRange.cumulative) (by simpa using inRange.invoice)
  rwa [Nat.zero_add] at total

theorem sum_prices {count : Nat} (fits : count < 2 ^ 63) :
    (∑ i ∈ Finset.range count, (pricePerTxMicroUsd .cloudSaas (Int64.ofNat i)).toInt) = (unitCharge rate 0 count : Int) := by
  unfold unitCharge
  rw [Nat.cast_sum]
  apply Finset.sum_congr rfl
  intro i inside
  have below := Finset.mem_range.mp inside
  rw [Nat.zero_add]
  exact toInt_price (Int64.toInt_ofNat_of_lt (by omega))

/-- The invoice is the sum of the prices of its transactions exactly when no window has
transactions of two prices. -/
theorem invoice_eq_sum_iff (tenantId : TenantId) {counts : List WindowCount} (inRange : InRange counts) :
    (totalInvoiceMicroUsd (calculateInvoice tenantId .cloudSaas counts)).toInt =
      ∑ i ∈ Finset.range (units (counts.map WindowCount.transactions)), (pricePerTxMicroUsd .cloudSaas (Int64.ofNat i)).toInt ↔
    Steady rate 0 (counts.map WindowCount.transactions) := by
  rw [toInt_invoice tenantId inRange, sum_prices inRange.cumulative, Int.ofNat_inj, batchCharge_eq_iff rate_antitone]

def cutAtMillion : List WindowCount := [⟨0, 1000000⟩, ⟨60, 1⟩]

def overMillion : List WindowCount := [⟨0, 1000001⟩]

theorem inRange_cutAtMillion : InRange cutAtMillion := ⟨by decide, by decide, by decide⟩

theorem steady_cutAtMillion : Steady rate 0 (cutAtMillion.map WindowCount.transactions) := by
  refine ⟨?_, ?_, trivial⟩
  · intro i inside
    have below : i < 1000000 := inside
    simp [rate, below]
  · intro i inside
    obtain rfl : i = 0 := Nat.lt_one_iff.mp inside
    rfl

theorem cutAtMillion_eq_sum : InRange cutAtMillion ∧
    (totalInvoiceMicroUsd (calculateInvoice "tenant" .cloudSaas cutAtMillion)).toInt =
      ∑ i ∈ Finset.range (units (cutAtMillion.map WindowCount.transactions)),
        (pricePerTxMicroUsd .cloudSaas (Int64.ofNat i)).toInt :=
  ⟨inRange_cutAtMillion,
    (invoice_eq_sum_iff "tenant" inRange_cutAtMillion).mpr steady_cutAtMillion⟩

/-- In one window the last of the transactions costs as much as the first. -/
theorem overMillion_ne_sum : InRange overMillion ∧ units (overMillion.map WindowCount.transactions) =
      units (cutAtMillion.map WindowCount.transactions) ∧
    (totalInvoiceMicroUsd (calculateInvoice "tenant" .cloudSaas overMillion)).toInt = 1000001000 ∧
    (totalInvoiceMicroUsd (calculateInvoice "tenant" .cloudSaas cutAtMillion)).toInt = 1000000500 ∧
    (∑ i ∈ Finset.range (units (overMillion.map WindowCount.transactions)),
      (pricePerTxMicroUsd .cloudSaas (Int64.ofNat i)).toInt) = 1000000500 := by
  have range : InRange overMillion := ⟨by decide, by decide, by decide⟩
  have same : units (overMillion.map WindowCount.transactions) = units (cutAtMillion.map WindowCount.transactions) := by decide
  refine ⟨range, same, by decide, by decide, ?_⟩
  rw [same, sum_prices inRange_cutAtMillion.cumulative, ← (batchCharge_eq_iff rate_antitone _ _).mpr steady_cutAtMillion]
  decide

end Blazil.Metering

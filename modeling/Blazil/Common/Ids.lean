import Blazil.Common.Crates
import Blazil.Common.Error

/-! Identifiers of `core/common/src/ids.rs`. Transaction and account ids are 64-bit
numbers that also accept the text of a UUID, of which they keep the lower half. -/

set_option autoImplicit false

namespace Blazil.Common

open Foundation

/-- `str::parse::<u64>`: decimal digits after an optional plus sign, below 2^64. -/
def parseU64 (text : String) : Option UInt64 :=
  let digits := match text.toList with
    | '+' :: rest => rest
    | chars => chars
  if digits ≠ [] ∧ digits.all Char.isDigit then
    let number := Nat.ofDigitChars 10 digits 0
    if number < 2 ^ 64 then some (UInt64.ofNat number) else none
  else none

/-- The common `from_str` of the 64-bit id types. -/
def parseU64Id [ExternalCrates] (text : String) : BlazerResult UInt64 :=
  match parseU64 text with
  | some number => .ok number
  | none =>
    match ExternalCrates.uuidParse text with
    | some uuid => .ok (UInt64.ofNat uuid.toNat)
    | none => .error (.invalidId text)

structure TransactionId where
  value : UInt64
deriving DecidableEq

structure AccountId where
  value : UInt64
deriving DecidableEq

structure TransferId where
  uuid : Uuid
deriving DecidableEq

def TransactionId.fromStr [ExternalCrates] (text : String) : BlazerResult TransactionId :=
  (parseU64Id text).map TransactionId.mk

def TransactionId.isZero (id : TransactionId) : Bool := id.value == 0

def AccountId.fromStr [ExternalCrates] (text : String) : BlazerResult AccountId :=
  (parseU64Id text).map AccountId.mk

def AccountId.isZero (id : AccountId) : Bool := id.value == 0

def TransferId.fromStr [ExternalCrates] (text : String) : BlazerResult TransferId :=
  match ExternalCrates.uuidParse text with
  | some uuid => .ok ⟨uuid⟩
  | none => .error (.invalidId text)

def TransferId.nil : TransferId := ⟨0⟩

/-- A ledger number; the constructor refuses zero. -/
structure LedgerId where
  value : UInt32
  nonzero : value ≠ 0
deriving DecidableEq

def LedgerId.new (value : UInt32) : BlazerResult LedgerId :=
  if zero : value = 0 then .error (.validationError "LedgerId must not be zero")
  else .ok ⟨value, zero⟩

def LedgerId.usd : LedgerId := ⟨1, by decide⟩

def LedgerId.eur : LedgerId := ⟨2, by decide⟩

def LedgerId.gbp : LedgerId := ⟨3, by decide⟩

theorem LedgerId.new_value {value : UInt32} {id : LedgerId} (created : LedgerId.new value = .ok id) : id.value = value := by
  unfold LedgerId.new at created
  split at created
  · cases created
  · cases created
    rfl

theorem parseU64_toString (number : UInt64) : parseU64 (toString number.toNat) = some number := by
  have allDigits : ∀ char ∈ Nat.toDigits 10 number.toNat, char.isDigit = true :=
    fun _ member => Numeral.isDigit_of_mem_toDigits member
  have unsigned : (match Nat.toDigits 10 number.toNat with
      | '+' :: rest => rest
      | chars => chars) = Nat.toDigits 10 number.toNat := by
    split
    · next rest rendered =>
      have plus := allDigits '+' (by simp [rendered])
      exact absurd plus (by decide)
    · rfl
  unfold parseU64
  rw [Numeral.toList_toString]
  rw [unsigned, if_pos ⟨Nat.toDigits_ne_nil, List.all_eq_true.mpr allDigits⟩,
    Nat.ofDigitChars_ten_toDigits, if_pos number.toNat_lt, UInt64.ofNat_toNat]

end Blazil.Common

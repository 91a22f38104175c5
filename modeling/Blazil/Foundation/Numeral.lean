import Mathlib.Tactic.Positivity

/-! Decimal numerals as they are written: an optional sign, digits with optional
separators, and at most one decimal point. Reading keeps every digit exactly; no
machine representation or rounding appears here. -/

set_option autoImplicit false

namespace Foundation

/-- A written numeral: its sign, all of its digits read as one number, and how
many of them stand after the decimal point. -/
structure Numeral where
  negative : Bool
  digits : Nat
  scale : Nat
deriving DecidableEq

namespace Numeral

def magnitude (numeral : Numeral) : ℚ := numeral.digits / 10 ^ numeral.scale

def value (numeral : Numeral) : ℚ :=
  if numeral.negative then -numeral.magnitude else numeral.magnitude

def digit? (char : Char) : Option Nat :=
  if char.isDigit then some (char.toNat - '0'.toNat) else none

/-- Read the part after the sign. `seen` records whether a digit was read, which
separators and the end of the text require; `point` whether the point was. -/
def scan (negative point seen : Bool) (digits scale : Nat) : List Char → Option Numeral
  | [] => if seen then some ⟨negative, digits, scale⟩ else none
  | '_' :: rest => if seen then scan negative point seen digits scale rest else none
  | '.' :: rest => if point then none else scan negative true seen digits scale rest
  | char :: rest =>
    match digit? char with
    | none => none
    | some digit =>
      scan negative point true (10 * digits + digit) (if point then scale + 1 else scale) rest

def parseChars : List Char → Option Numeral
  | '-' :: rest => scan true false false 0 0 rest
  | '+' :: rest => scan false false false 0 0 rest
  | chars => scan false false false 0 0 chars

def parse (text : String) : Option Numeral := parseChars text.toList

def shift (numeral : Numeral) (exponent : Int) : Numeral :=
  ⟨numeral.negative, numeral.digits * 10 ^ (exponent - numeral.scale).toNat, (numeral.scale - exponent).toNat⟩

/-- A numeral and the exponent behind its `e`, which is zero for a plain numeral. -/
def parseScientific (text : String) : Option (Numeral × Int) :=
  match parse text with
  | some numeral => some (numeral, 0)
  | none =>
    match text.toList.span fun char => char != 'e' && char != 'E' with
    | (_, []) => none
    | (base, _ :: exponent) =>
      match parseChars base, parseChars exponent with
      | some base, some ⟨negative, digits, 0⟩ => some (base, if negative then -digits else digits)
      | _, _ => none

@[simp] theorem shift_zero (numeral : Numeral) : numeral.shift 0 = numeral := by
  simp [shift]

variable {char : Char} {number width : Nat}

private theorem isDigit_ne (digit : char.isDigit = true) : char ≠ '_' ∧ char ≠ '.' ∧ char ≠ '-' ∧ char ≠ '+' := by
  refine ⟨?_, ?_, ?_, ?_⟩ <;> rintro rfl <;> revert digit <;> decide

variable {negative point seen : Bool} {digits scale : Nat} {chars : List Char}

theorem scan_digit (digit : char.isDigit = true) (rest : List Char) :
    scan negative point seen digits scale (char :: rest) =
      scan negative point true (10 * digits + (char.toNat - '0'.toNat)) (if point then scale + 1 else scale) rest := by
  obtain ⟨notSeparator, notPoint, _⟩ := isDigit_ne digit
  rw [scan]
  · simp only [digit?, digit, ↓reduceIte]
  · exact notSeparator
  · exact notPoint

theorem scan_append (allDigits : ∀ char ∈ chars, char.isDigit = true) (started : seen = true ∨ chars ≠ []) (rest : List Char) :
    scan negative point seen digits scale (chars ++ rest) =
      scan negative point true (Nat.ofDigitChars 10 chars digits) (if point then scale + chars.length else scale) rest := by
  induction chars generalizing seen digits scale with
  | nil =>
    have started : seen = true := by simpa using started
    simp [started]
  | cons char _ ih =>
    rw [List.cons_append, scan_digit (allDigits char (by simp)), Nat.ofDigitChars_cons,
      ih (fun later member => allDigits later (by simp [member])) (.inl rfl)]
    cases point with
    | false => rfl
    | true => simp only [if_true, List.length_cons, Nat.add_assoc, Nat.add_comm 1]

theorem parseChars_sign (negative : Bool) (allDigits : ∀ char ∈ chars, char.isDigit = true)
    (nonempty : chars ≠ []) (rest : List Char) : parseChars ((if negative then ['-'] else []) ++ (chars ++ rest)) =
      scan negative false true (Nat.ofDigitChars 10 chars 0) 0 rest := by
  have read : scan negative false false 0 0 (chars ++ rest) = _ :=
    scan_append allDigits (.inr nonempty) rest
  refine Eq.trans ?_ read
  cases negative with
  | true => rfl
  | false =>
    cases chars with
    | nil => exact absurd rfl nonempty
    | cons first =>
      obtain ⟨_, _, notMinus, notPlus⟩ := isDigit_ne (allDigits first List.mem_cons_self)
      simp only [Bool.false_eq_true, if_false, List.nil_append, List.cons_append]
      rw [parseChars]
      · intro _ same
        exact notMinus (List.cons.inj same).1
      · intro _ same
        exact notPlus (List.cons.inj same).1

theorem toList_toString (number : Nat) : (toString number).toList = Nat.toDigits 10 number := by
  rw [Nat.toString_eq_repr, Nat.toList_repr]

theorem isDigit_of_mem_toDigits (member : char ∈ Nat.toDigits 10 number) : char.isDigit = true :=
  Nat.isDigit_of_mem_toDigits (by decide) (by decide) member

theorem parseChars_whole (negative : Bool) (number : Nat) :
    parseChars ((if negative then ['-'] else []) ++ Nat.toDigits 10 number) = some ⟨negative, number, 0⟩ := by
  have digits : ∀ char ∈ Nat.toDigits 10 number, char.isDigit = true :=
    fun _ member => isDigit_of_mem_toDigits member
  have read := parseChars_sign negative digits Nat.toDigits_ne_nil []
  rw [List.append_nil, Nat.ofDigitChars_ten_toDigits] at read
  exact read

theorem parseChars_point (negative : Bool) (number : Nat) {places : List Char}
    (allDigits : ∀ char ∈ places, char.isDigit = true) :
    parseChars ((if negative then ['-'] else []) ++ (Nat.toDigits 10 number ++ '.' :: places)) =
      some ⟨negative, 10 ^ places.length * number + Nat.ofDigitChars 10 places 0, places.length⟩ := by
  rw [parseChars_sign negative (fun _ member => isDigit_of_mem_toDigits member)
    Nat.toDigits_ne_nil, Nat.ofDigitChars_ten_toDigits]
  have read : scan negative true true number 0 (places ++ []) = _ :=
    scan_append allDigits (.inl rfl) []
  rw [List.append_nil, Nat.ofDigitChars_eq_ofDigitChars_zero] at read
  exact read.trans (by simp [scan])

def padded (width number : Nat) : List Char :=
  List.replicate (width - (Nat.toDigits 10 number).length) '0' ++ Nat.toDigits 10 number

theorem length_padded (positive : 0 < width) (small : number < 10 ^ width) : (padded width number).length = width := by
  have short : (Nat.toDigits 10 number).length ≤ width :=
    (Nat.length_toDigits_le_iff (by decide) positive).mpr small
  simp only [padded, List.length_append, List.length_replicate]
  omega

theorem ofDigitChars_padded (width number : Nat) : Nat.ofDigitChars 10 (padded width number) 0 = number := by
  simp only [padded, Nat.ofDigitChars_append, Nat.ofDigitChars_replicate_zero, Nat.mul_zero, Nat.ofDigitChars_ten_toDigits]

theorem padded_append_inj {first second : Nat} {rest other : List Char} (positive : 0 < width)
    (small : first < 10 ^ width) (otherSmall : second < 10 ^ width)
    (same : padded width first ++ rest = padded width second ++ other) : first = second ∧ rest = other := by
  have lengths : (padded width first).length = (padded width second).length :=
    (length_padded positive small).trans (length_padded positive otherSmall).symm
  obtain ⟨fields, rests⟩ := List.append_inj same lengths
  have numbers := congrArg (fun chars => Nat.ofDigitChars 10 chars 0) fields
  simp only [ofDigitChars_padded] at numbers
  exact ⟨numbers, rests⟩

theorem isDigit_of_mem_padded (member : char ∈ padded width number) : char.isDigit = true := by
  rcases List.mem_append.mp member with zero | digit
  · rw [List.eq_of_mem_replicate zero]
    decide
  · exact isDigit_of_mem_toDigits digit

theorem parse_toString (number : Nat) : parse (toString number) = some ⟨false, number, 0⟩ := by
  rw [parse, toList_toString]
  exact parseChars_whole false number

end Numeral

end Foundation

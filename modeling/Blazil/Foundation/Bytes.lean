import Mathlib.Algebra.Ring.Nat
import Mathlib.Logic.Function.Basic

/-! Numbers and texts as bytes, bytes as hexadecimal text, and reading from a stream of bytes whose
sender has closed it. One read returns at least one byte, if one is left and asked for, and at most
as many as are asked for; how many it returns in between is not up to the reader. -/

set_option autoImplicit false

namespace Foundation

def textBytes (text : String) : List UInt8 := text.toByteArray.data.toList

theorem textBytes_injective : Function.Injective textBytes := by
  intro first second same
  apply String.toByteArray_inj.mp
  exact ByteArray.ext (Array.toList_inj.mp same)

def leBytes : Nat → Nat → List UInt8
  | 0, _ => []
  | count + 1, number => UInt8.ofNat (number % 256) :: leBytes count (number / 256)

@[simp] theorem length_leBytes (count number : Nat) : (leBytes count number).length = count := by
  induction count generalizing number with
  | zero => rfl
  | succ _ ih => simp [leBytes, ih]

variable {first second count : Nat}

theorem ofNat_inj_of_lt (firstSmall : first < 256) (secondSmall : second < 256)
    (same : UInt8.ofNat first = UInt8.ofNat second) : first = second := by
  have numbers := congrArg UInt8.toNat same
  rwa [UInt8.toNat_ofNat_of_lt' firstSmall, UInt8.toNat_ofNat_of_lt' secondSmall] at numbers

theorem leBytes_inj (firstSmall : first < 256 ^ count) (secondSmall : second < 256 ^ count)
    (same : leBytes count first = leBytes count second) : first = second := by
  induction count generalizing first second with
  | zero =>
    omega
  | succ _ ih =>
    obtain ⟨low, high⟩ := List.cons.inj same
    have lows := ofNat_inj_of_lt (Nat.mod_lt _ (by decide)) (Nat.mod_lt _ (by decide)) low
    have highs := ih (by omega) (by omega) high
    omega

def slice (bytes : List UInt8) (first next : Nat) : List UInt8 :=
  (bytes.drop first).take (next - first)

theorem le_length_of_slice {bytes part next} (ordered : first < next)
    (same : slice bytes first next = part) (full : part.length = next - first) : next ≤ bytes.length := by
  subst same
  simp only [slice, List.length_take, List.length_drop] at full
  omega

def beNat (bytes : List UInt8) : Nat :=
  bytes.foldl (fun number byte => 256 * number + byte.toNat) 0

def beBytes (count number : Nat) : List UInt8 := (leBytes count number).reverse

@[simp] theorem length_beBytes (count number : Nat) : (beBytes count number).length = count := by
  simp [beBytes]

theorem beNat_beBytes {number : Nat} (small : number < 256 ^ count) : beNat (beBytes count number) = number := by
  rw [beNat, beBytes, List.foldl_reverse]
  induction count generalizing number with
  | zero =>
    rw [leBytes, List.foldr_nil]
    omega
  | succ _ ih =>
    have low : number % 256 < 256 := Nat.mod_lt _ (by decide)
    rw [leBytes, List.foldr_cons, ih (by omega), UInt8.toNat_ofNat_of_lt' low]
    omega

def hexDigit (digit : Nat) : Char :=
  if digit < 10 then Char.ofNat (48 + digit) else Char.ofNat (87 + digit)

def hexDigits (byte : UInt8) : List Char := [hexDigit (byte.toNat / 16), hexDigit (byte.toNat % 16)]

def hexText (bytes : List UInt8) : String := String.ofList (bytes.flatMap hexDigits)

theorem hexDigit_inj : ∀ first < 16, ∀ second < 16, hexDigit first = hexDigit second → first = second := by
  decide

theorem hexDigits_inj {first second : UInt8} (same : hexDigits first = hexDigits second) : first = second := by
  have firstSmall := first.toNat_lt
  have secondSmall := second.toNat_lt
  obtain ⟨high, rest⟩ := List.cons.inj same
  have highs := hexDigit_inj _ (by omega) _ (by omega) high
  have lows := hexDigit_inj _ (by omega) _ (by omega) (List.cons.inj rest).1
  apply UInt8.toNat_inj.mp
  omega

theorem hexText_injective : Function.Injective hexText := by
  intro first second same
  have digits := String.ofList_inj.mp same
  clear same
  induction first generalizing second with
  | nil =>
    cases second with
    | nil => rfl
    | cons => simp [hexDigits] at digits
  | cons _ _ ih =>
    cases second with
    | nil => simp [hexDigits] at digits
    | cons =>
      obtain ⟨own, later⟩ := List.append_inj digits rfl
      rw [hexDigits_inj own, ih later]

theorem textBytes_ofList (chars : List Char) : textBytes (String.ofList chars) = chars.flatMap String.utf8EncodeChar := by
  simp [textBytes, List.utf8Encode]

theorem utf8Size_hexDigit : ∀ digit < 16, (hexDigit digit).utf8Size = 1 := by
  decide

theorem length_textBytes_hexText (bytes : List UInt8) : (textBytes (hexText bytes)).length = 2 * bytes.length := by
  rw [hexText, textBytes_ofList]
  induction bytes with
  | nil => rfl
  | cons byte _ ih =>
    have small := byte.toNat_lt
    have high := utf8Size_hexDigit (byte.toNat / 16) (by omega)
    have low := utf8Size_hexDigit (byte.toNat % 16) (by omega)
    rw [List.flatMap_cons, List.flatMap_append, List.length_append, ih]
    simp [hexDigits, String.length_utf8EncodeChar, high, low]
    omega

structure ByteStream where
  remaining : List UInt8
  reads : Nat
deriving DecidableEq

namespace ByteStream

/-- One read. The bound on the number of bytes that the `n`-th read returns is `cuts n`. -/
def read (cuts : Nat → Nat) (size : Nat) (stream : ByteStream) : List UInt8 × ByteStream :=
  let count := min size (max 1 (cuts stream.reads))
  (stream.remaining.take count, ⟨stream.remaining.drop count, stream.reads + 1⟩)

/-- Read until there are as many bytes as asked for. A read of nothing is the end of the
stream; each other one returns a byte, so there are no more reads than bytes. -/
def readLoop (cuts : Nat → Nat) : Nat → Nat → ByteStream → Option (List UInt8 × ByteStream)
  | _, 0, stream => some ([], stream)
  | 0, _ + 1, _ => none
  | fuel + 1, size + 1, stream =>
    let chunk := (stream.read cuts (size + 1)).1
    let rest := (stream.read cuts (size + 1)).2
    if chunk = [] then none
    else (readLoop cuts fuel (size + 1 - chunk.length) rest).map fun got =>
      (chunk ++ got.1, got.2)

def readExact (cuts : Nat → Nat) (size : Nat) (stream : ByteStream) : Option (List UInt8 × ByteStream) :=
  readLoop cuts size size stream

variable {cuts : Nat → Nat} {size fuel : Nat} {stream : ByteStream}

theorem length_read (cuts : Nat → Nat) (size : Nat) (stream : ByteStream) :
    (stream.read cuts size).1.length + (stream.read cuts size).2.remaining.length = stream.remaining.length := by
  simp only [read, List.length_take, List.length_drop]
  omega

theorem read_spec (cuts : Nat → Nat) (size : Nat) (stream : ByteStream) : ∃ count, 0 < count ∧ count ≤ size + 1 ∧
      stream.read cuts (size + 1) = (stream.remaining.take count, ⟨stream.remaining.drop count, stream.reads + 1⟩) :=
  ⟨min (size + 1) (max 1 (cuts stream.reads)), by omega, by omega, rfl⟩

theorem readLoop_enough (small : size ≤ fuel) (enough : size ≤ stream.remaining.length) :
    ∃ reads, readLoop cuts fuel size stream = some (stream.remaining.take size, ⟨stream.remaining.drop size, reads⟩) := by
  induction fuel generalizing size stream with
  | zero =>
    obtain rfl := Nat.le_zero.mp small
    exact ⟨stream.reads, rfl⟩
  | succ _ ih =>
    cases size with
    | zero => exact ⟨stream.reads, rfl⟩
    | succ size =>
      obtain ⟨count, _, _, returned⟩ := read_spec cuts size stream
      have width : (stream.remaining.take count).length = count :=
        List.length_take_of_le (by omega)
      have nonempty : stream.remaining.take count ≠ [] :=
        List.ne_nil_of_length_pos (by omega)
      have left : size + 1 - count ≤ (stream.remaining.drop count).length := by
        rw [List.length_drop]
        omega
      obtain ⟨reads, later⟩ := @ih (size + 1 - count) ⟨stream.remaining.drop count, stream.reads + 1⟩ (by omega) left
      refine ⟨reads, ?_⟩
      simp only [readLoop, returned, if_neg nonempty, width, later, Option.map_some, List.drop_drop]
      have whole : count + (size + 1 - count) = size + 1 := by omega
      rw [← List.take_add, whole]

theorem readLoop_short (short : stream.remaining.length < size) : readLoop cuts fuel size stream = none := by
  induction fuel generalizing size stream with
  | zero =>
    cases size with
    | zero => cases short
    | succ => rfl
  | succ _ ih =>
    cases size with
    | zero => cases short
    | succ size =>
      obtain ⟨_, _, _, returned⟩ := read_spec cuts size stream
      simp only [readLoop, returned]
      split
      · rfl
      · rw [ih, Option.map_none]
        simp only [List.length_drop, List.length_take]
        omega

/-- An exact read does not depend on where the stream is cut. -/
theorem readExact_enough (cuts : Nat → Nat) (enough : size ≤ stream.remaining.length) :
    ∃ reads, stream.readExact cuts size = some (stream.remaining.take size, ⟨stream.remaining.drop size, reads⟩) :=
  readLoop_enough (Nat.le_refl size) enough

end ByteStream

end Foundation

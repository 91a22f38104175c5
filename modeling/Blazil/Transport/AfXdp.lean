import Blazil.Common.Error
import Blazil.Foundation.Bytes

/-! The headers of a frame on the AF_XDP path: `process_frame` of `core/transport/src/afxdp/rx.rs`
up to the payload, and the filter in front of it, `core/transport/ebpf/blazil_xdp.bpf.c`. A frame
is a list of bytes, and an index past its end panics. The magic is looked up behind an IPv4 header
of 20 bytes, while the length of the header comes from the frame. -/

set_option autoImplicit false

namespace Blazil.Transport

open Blazil.Common Foundation

def ethHdr : Nat := 14

def ipv4Hdr : Nat := 20

def udpHdr : Nat := 8

def magicLen : Nat := 4

def payloadOffset : Nat := ethHdr + ipv4Hdr + udpHdr + magicLen

def blzlMagic : List UInt8 := [0x42, 0x4C, 0x5A, 0x4C]

def blzlUdpPort : Nat := 7878

inductive FrameStop where
  | panicked
  | rejected (cause : BlazerError)
deriving DecidableEq

structure FrameHeaders where
  srcIp : List UInt8
  srcPort : Nat
  payload : List UInt8
deriving DecidableEq

def byteAt (frame : List UInt8) (index : Nat) : Except FrameStop UInt8 :=
  match frame[index]? with
  | none => .error .panicked
  | some byte => .ok byte

def bytesBetween (frame : List UInt8) (first next : Nat) : Except FrameStop (List UInt8) :=
  if next ≤ frame.length then .ok (slice frame first next) else .error .panicked

def bytesFrom (frame : List UInt8) (first : Nat) : Except FrameStop (List UInt8) :=
  if first ≤ frame.length then .ok (frame.drop first) else .error .panicked

/-- The low half of the first byte of an IPv4 header counts words of four bytes. -/
def ipHlen (first : UInt8) : Nat := (first &&& 0x0F).toNat * 4

def processFrame (frame : List UInt8) : Except FrameStop FrameHeaders :=
  if frame.length < payloadOffset + 1 then
    .error (.rejected (.transport ("frame too short: " ++ toString frame.length ++ " bytes")))
  else do
    let magic ← bytesBetween frame (ethHdr + ipv4Hdr + udpHdr) (ethHdr + ipv4Hdr + udpHdr + magicLen)
    if magic ≠ blzlMagic then .error (.rejected (.transport "bad Blazil magic"))
    else do
      let ipStart := ethHdr
      let srcIp ← bytesBetween frame (ipStart + 12) (ipStart + 16)
      let first ← byteAt frame ipStart
      let udpStart := ipStart + ipHlen first
      let high ← byteAt frame udpStart
      let low ← byteAt frame (udpStart + 1)
      let payload ← bytesFrom frame (ethHdr + ipHlen first + udpHdr + magicLen)
      .ok ⟨srcIp, beNat [high, low], payload⟩

inductive XdpAction where
  | pass
  | redirect
deriving DecidableEq

def ethPIp : Nat := 0x0800

def ipprotoUdp : UInt8 := 17

def boundsOk (frame : List UInt8) (start size : Nat) : Bool := start + size ≤ frame.length

/-- A byte that a comparison with the end has shown to exist. -/
def checkedByte (frame : List UInt8) (index : Nat) : UInt8 := frame.getD index 0

def blazilXdpFilter (frame : List UInt8) : XdpAction :=
  if !boundsOk frame 0 ethHdr then .pass
  else if beNat (slice frame 12 14) ≠ ethPIp then .pass
  else
    let ip := ethHdr
    if !boundsOk frame ip ipv4Hdr then .pass
    else if checkedByte frame (ip + 9) ≠ ipprotoUdp then .pass
    else
      let hlen := ipHlen (checkedByte frame ip)
      if hlen < 20 then .pass
      else
        let udp := ip + hlen
        if !boundsOk frame udp udpHdr then .pass
        else if beNat (slice frame (udp + 2) (udp + 4)) ≠ blzlUdpPort then .pass
        else
          let magic := udp + udpHdr
          if !boundsOk frame magic magicLen then .pass
          else if slice frame magic (magic + magicLen) ≠ blzlMagic then .pass
          else .redirect

def hlenOf (frame : List UInt8) : Nat := ipHlen (checkedByte frame ethHdr)

/-- The bytes after the UDP header are the magic. -/
def MagicAfterUdp (frame : List UInt8) : Prop :=
  slice frame (22 + hlenOf frame) (26 + hlenOf frame) = blzlMagic

/-- The frame has an IPv4 and a UDP header, and goes to the port of the server. -/
structure IsBlazilUdp (frame : List UInt8) : Prop where
  ipv4 : beNat (slice frame 12 14) = ethPIp
  udp : checkedByte frame 23 = ipprotoUdp
  header : 20 ≤ hlenOf frame
  port : beNat (slice frame (16 + hlenOf frame) (18 + hlenOf frame)) = blzlUdpPort

theorem length_magic (hlen : Nat) : blzlMagic.length = 26 + hlen - (22 + hlen) := by
  rw [Nat.add_sub_add_right]
  rfl

section Frames

variable {frame : List UInt8} {index : Nat}

theorem byteAt_inside (inside : index < frame.length) : byteAt frame index = .ok (checkedByte frame index) := by
  have found : frame[index]? = some (frame.getD index 0) := by
    simp [List.getElem?_eq_getElem inside]
  simp only [byteAt, found, checkedByte]

theorem byteAt_outside (outside : frame.length ≤ index) : byteAt frame index = .error .panicked := by
  simp only [byteAt, List.getElem?_eq_none outside]

theorem processFrame_eq (frame : List UInt8) : processFrame frame = if frame.length < 47 then
      .error (.rejected (.transport ("frame too short: " ++ toString frame.length ++ " bytes")))
    else if slice frame 42 46 ≠ blzlMagic then .error (.rejected (.transport "bad Blazil magic"))
    else if frame.length < 26 + hlenOf frame then .error .panicked
    else .ok ⟨slice frame 26 30, beNat [checkedByte frame (14 + hlenOf frame), checkedByte frame (15 + hlenOf frame)],
      frame.drop (26 + hlenOf frame)⟩ := by
  unfold processFrame
  by_cases short : frame.length < 47
  · rw [if_pos short, if_pos (show frame.length < payloadOffset + 1 from short)]
  · have magicInside : bytesBetween frame 42 46 = .ok (slice frame 42 46) := if_pos (by omega)
    have sourceInside : bytesBetween frame 26 30 = .ok (slice frame 26 30) := if_pos (by omega)
    have firstInside : byteAt frame 14 = .ok (checkedByte frame 14) := byteAt_inside (by omega)
    rw [if_neg short, if_neg (show ¬frame.length < payloadOffset + 1 from short)]
    simp only [ethHdr, ipv4Hdr, udpHdr, magicLen, Nat.reduceAdd, magicInside, sourceInside, firstInside, bind, Except.bind]
    split
    · rfl
    · -- Every later index is behind the header, whose length only the frame knows.
      have shape : ipHlen (checkedByte frame 14) = hlenOf frame := rfl
      rw [shape]
      by_cases inside : 26 + hlenOf frame ≤ frame.length
      · rw [byteAt_inside (show 14 + hlenOf frame < frame.length by omega),
          byteAt_inside (show 14 + hlenOf frame + 1 < frame.length by omega),
          if_neg (Nat.not_lt.mpr inside)]
        have offset : 14 + hlenOf frame + 8 + 4 = 26 + hlenOf frame := by omega
        have next : 14 + hlenOf frame + 1 = 15 + hlenOf frame := by omega
        simp only [offset, next, bytesFrom, if_pos inside]
      · rw [if_pos (Nat.lt_of_not_le inside)]
        by_cases high : 14 + hlenOf frame < frame.length
        · by_cases low : 14 + hlenOf frame + 1 < frame.length
          · have beyond : ¬14 + hlenOf frame + 8 + 4 ≤ frame.length := by omega
            simp only [byteAt_inside high, byteAt_inside low, bytesFrom, if_neg beyond]
          · simp only [byteAt_inside high, byteAt_outside (Nat.le_of_not_lt low)]
        · simp only [byteAt_outside (Nat.le_of_not_lt high)]

theorem accepted_iff : (∃ headers, processFrame frame = .ok headers) ↔
    47 ≤ frame.length ∧ slice frame 42 46 = blzlMagic ∧ 26 + hlenOf frame ≤ frame.length := by
  rw [processFrame_eq]
  split
  · next short => simp [Nat.not_le.mpr short]
  · next long =>
    split
    · next other => simp [other]
    · next magic =>
      split
      · next outside => simp [Nat.not_le.mpr outside]
      · next inside =>
        exact iff_of_true ⟨_, rfl⟩ ⟨Nat.le_of_not_lt long, not_not.mp magic, Nat.le_of_not_lt inside⟩

theorem panicked_iff : processFrame frame = .error .panicked ↔
    47 ≤ frame.length ∧ slice frame 42 46 = blzlMagic ∧ frame.length < 26 + hlenOf frame := by
  rw [processFrame_eq]
  split
  · next short => simp [Nat.not_le.mpr short]
  · next long =>
    split
    · next other => simp [other]
    · next magic =>
      split
      · next outside =>
        exact iff_of_true rfl ⟨Nat.le_of_not_lt long, not_not.mp magic, outside⟩
      · next inside => simp [inside]

theorem boundsOk_iff {start size : Nat} : boundsOk frame start size = true ↔ start + size ≤ frame.length :=
  decide_eq_true_iff

theorem pass_else_iff {condition : Prop} [Decidable condition] {action : XdpAction} :
    (if condition then XdpAction.pass else action) = .redirect ↔ ¬condition ∧ action = .redirect := by
  split <;> simp [*]

/-- The comparisons with the end of the packet follow from the last one. -/
theorem redirect_iff : blazilXdpFilter frame = .redirect ↔ IsBlazilUdp frame ∧ MagicAfterUdp frame := by
  have shape : ipHlen (checkedByte frame 14) = hlenOf frame := rfl
  unfold blazilXdpFilter
  simp only [pass_else_iff, ethHdr, ipv4Hdr, udpHdr, magicLen, Nat.reduceAdd, shape,
    Bool.not_eq_true', Bool.not_eq_false, boundsOk_iff, not_not, not_lt, ne_eq, and_true]
  have portStart : 14 + hlenOf frame + 2 = 16 + hlenOf frame := by omega
  have portEnd : 14 + hlenOf frame + 4 = 18 + hlenOf frame := by omega
  have magicStart : 14 + hlenOf frame + 8 = 22 + hlenOf frame := by omega
  have magicEnd : 22 + hlenOf frame + 4 = 26 + hlenOf frame := by omega
  rw [portStart, portEnd, magicStart, magicEnd]
  constructor
  · rintro ⟨_, ipv4, _, udp, header, _, port, _, magic⟩
    exact ⟨⟨ipv4, udp, header, port⟩, magic⟩
  · rintro ⟨⟨ipv4, udp, header, port⟩, magic⟩
    have inside := le_length_of_slice (by omega) magic (length_magic _)
    exact ⟨by omega, ipv4, by omega, udp, header, by omega, port, by omega, magic⟩

end Frames

/-- What is asked of the parser: no index past the end, the magic behind the UDP header of an
accepted frame, and the verdict of the filter on frames for the port of the server that are
long enough for a payload. -/
structure SoundParse (frame : List UInt8) : Prop where
  inside : processFrame frame ≠ .error .panicked
  magic : (∃ headers, processFrame frame = .ok headers) → MagicAfterUdp frame
  agrees : IsBlazilUdp frame → 47 ≤ frame.length →
    ((∃ headers, processFrame frame = .ok headers) ↔ blazilXdpFilter frame = .redirect)

/-- A frame of 47 bytes with the magic behind 42 bytes, and a header of some words. -/
def frameWithWords (words : Nat) : List UInt8 :=
  List.replicate 14 0 ++ UInt8.ofNat (64 + words) :: List.replicate 27 0 ++ blzlMagic ++ [0]

theorem frameWithWords_bytes : ∀ words < 16, words ≠ 5 → hlenOf (frameWithWords words) = 4 * words ∧
      (frameWithWords words).length = 47 ∧ slice (frameWithWords words) 42 46 = blzlMagic ∧
      (26 + 4 * words ≤ 47 → slice (frameWithWords words) (22 + 4 * words) (26 + 4 * words) ≠ blzlMagic) := by
  decide

theorem frameWithWords_unsound {words : Nat} (small : words < 16) (other : words ≠ 5) :
    hlenOf (frameWithWords words) = 4 * words ∧ ¬SoundParse (frameWithWords words) := by
  obtain ⟨header, length, magic, elsewhere⟩ := frameWithWords_bytes words small other
  refine ⟨header, fun sound => ?_⟩
  by_cases inside : 26 + 4 * words ≤ 47
  · have accepted := accepted_iff.mpr ⟨Nat.le_of_eq length.symm, magic, by rwa [header, length]⟩
    have after := sound.magic accepted
    rw [MagicAfterUdp, header] at after
    exact elsewhere inside after
  · refine sound.inside (panicked_iff.mpr ⟨Nat.le_of_eq length.symm, magic, ?_⟩)
    rw [header, length]
    exact Nat.lt_of_not_le inside

/-- The magic stands where the parser looks for it. -/
def MagicAtFixed (frame : List UInt8) : Prop := slice frame 42 46 = blzlMagic

theorem inside_of_magic {frame} (magic : MagicAfterUdp frame) : 26 + hlenOf frame ≤ frame.length :=
  le_length_of_slice (by omega) magic (length_magic _)

theorem soundParse_iff {frame} : SoundParse frame ↔ (47 ≤ frame.length →
    (MagicAtFixed frame → MagicAfterUdp frame) ∧ (IsBlazilUdp frame → MagicAfterUdp frame → MagicAtFixed frame)) := by
  constructor
  · intro sound long
    refine ⟨fun fixed => sound.magic (accepted_iff.mpr ⟨long, fixed, ?_⟩), fun blazil after => ?_⟩
    · exact Nat.le_of_not_lt fun outside => sound.inside (panicked_iff.mpr ⟨long, fixed, outside⟩)
    · exact (accepted_iff.mp ((sound.agrees blazil long).mpr (redirect_iff.mpr ⟨blazil, after⟩))).2.1
  · intro same
    refine ⟨fun panicked => ?_, fun accepted => ?_, fun blazil long => ?_⟩
    · obtain ⟨long, fixed, outside⟩ := panicked_iff.mp panicked
      exact absurd (inside_of_magic ((same long).1 fixed)) (Nat.not_le.mpr outside)
    · obtain ⟨long, fixed, _⟩ := accepted_iff.mp accepted
      exact (same long).1 fixed
    · rw [accepted_iff, redirect_iff]
      exact ⟨fun accepted => ⟨blazil, (same long).1 accepted.2.1⟩,
        fun redirected => ⟨long, (same long).2 blazil redirected.2, inside_of_magic redirected.2⟩⟩

/-- A frame is parsed soundly exactly if the magic behind its UDP header is the one that the
parser compares. This is so for all frames of a header length exactly if it is 20 bytes. The
parser never panics on a frame that the filter redirects. -/
theorem parse_sound_iff (frame : List UInt8) (words : Fin 16) : (SoundParse frame ↔ (47 ≤ frame.length →
      (MagicAtFixed frame → MagicAfterUdp frame) ∧ (IsBlazilUdp frame → MagicAfterUdp frame → MagicAtFixed frame))) ∧
      ((∀ frame, hlenOf frame = 4 * words.val → SoundParse frame) ↔ words.val = 5) ∧
      (blazilXdpFilter frame = .redirect → processFrame frame ≠ .error .panicked) := by
  refine ⟨soundParse_iff, ⟨fun sound => ?_, fun plain frame header => ?_⟩, fun redirected panicked => ?_⟩
  · by_contra other
    obtain ⟨header, unsound⟩ := frameWithWords_unsound words.isLt other
    exact unsound (sound _ header)
  · have twenty : hlenOf frame = 20 := by rw [header, plain]
    refine soundParse_iff.mpr fun _ => ?_
    rw [MagicAfterUdp, twenty]
    exact ⟨id, fun _ => id⟩
  · exact Nat.not_le.mpr (panicked_iff.mp panicked).2.2 (inside_of_magic (redirect_iff.mp redirected).2)

def optionsFrame : List UInt8 :=
  List.replicate 12 0 ++ [0x08, 0x00] ++ [0x46, 0, 0, 0, 0, 0, 0, 0, 64, 17] ++
    List.replicate 14 0 ++ [0x10, 0x00, 0x1E, 0xC6, 0, 0, 0, 0] ++ blzlMagic ++ [0x80]

/-- The parser indexes past the end of a frame, accepts a frame without the magic behind the
UDP header, and refuses a frame that the filter redirects. -/
theorem otherHeaders_misparsed : processFrame (frameWithWords 15) = .error .panicked ∧
    (processFrame (frameWithWords 4)).toOption.isSome = true ∧ slice (frameWithWords 4) 38 42 ≠ blzlMagic ∧
    blazilXdpFilter optionsFrame = .redirect ∧
      processFrame optionsFrame = .error (.rejected (.transport "bad Blazil magic")) := by
  decide

end Blazil.Transport

import Blazil.Common.Error
import Blazil.Foundation.Bytes
import Mathlib.Data.List.TakeWhile

/-! Length-prefixed frames (`Frame` of `core/transport/src/protocol.rs`) as the two TCP handlers
read them: `handle_connection` of `connection.rs` with exact reads, and `handle_uring_connection`
of `io_uring_transport.rs` with single ones, which see how the stream is cut. Whatever a handler
does with a payload that it has read, it then reads on, so the loops are followed by the payloads
that they pass on. -/

set_option autoImplicit false

namespace Blazil.Transport

open Blazil.Common Foundation

abbrev Payload := List UInt8

def maxFrameSize : Nat := 1048576

def Frame.encode (payload : Payload) : List UInt8 :=
  beBytes 4 (payload.length % 2 ^ 32) ++ payload

def earlyEof : String := "early eof"

def Frame.readFrame (cuts : Nat → Nat) (stream : ByteStream) : BlazerResult (Payload × ByteStream) :=
  match stream.readExact cuts 4 with
  | none => .error (.transport ("failed to read frame header: " ++ earlyEof))
  | some (header, afterHeader) =>
    let len := beNat header
    if len > maxFrameSize then
      .error (.transport ("frame size " ++ toString len ++ " exceeds maximum " ++ toString maxFrameSize))
    else
      match afterHeader.readExact cuts len with
      | none => .error (.transport ("failed to read frame payload: " ++ earlyEof))
      | some (payload, rest) => .ok (payload, rest)

/-- The payloads that `handle_connection` reads before it ends. There is no result if it has
not ended after some rounds. -/
def tokioPayloads (cuts : Nat → Nat) : Nat → ByteStream → Option (List Payload)
  | 0, _ => none
  | rounds + 1, stream =>
    match Frame.readFrame cuts stream with
    | .error _ => some []
    | .ok (payload, rest) => (tokioPayloads cuts rounds rest).map (payload :: ·)

/-- One round of `handle_uring_connection`: a read for the header and one for the payload,
into a buffer of zeros. The handler ends if there is no result. -/
def uringReadPayload (cuts : Nat → Nat) (stream : ByteStream) : Option (Payload × ByteStream) :=
  let (header, afterHeader) := stream.read cuts 4
  if header.length < 4 then none
  else
    let payloadLen := beNat header
    if payloadLen > maxFrameSize then none
    else
      let (received, rest) := afterHeader.read cuts payloadLen
      if received.length = 0 then none
      else some (received ++ List.replicate (payloadLen - received.length) 0, rest)

def uringPayloads (cuts : Nat → Nat) : Nat → ByteStream → Option (List Payload)
  | 0, _ => none
  | rounds + 1, stream =>
    match uringReadPayload cuts stream with
    | none => some []
    | some (payload, rest) => (uringPayloads cuts rounds rest).map (payload :: ·)

def wire (payloads : List Payload) : List UInt8 := payloads.flatMap Frame.encode

def ValidPayloads (payloads : List Payload) : Prop :=
  ∀ payload ∈ payloads, payload.length ≤ maxFrameSize

@[simp] theorem wire_cons (payload : Payload) (payloads : List Payload) :
    wire (payload :: payloads) = Frame.encode payload ++ wire payloads := rfl

section Frames

variable {payload : Payload} {after : List UInt8} {reads : Nat}

theorem encode_split (payload : Payload) (after : List UInt8) :
    (Frame.encode payload ++ after).take 4 = beBytes 4 (payload.length % 2 ^ 32) ∧
      (Frame.encode payload ++ after).drop 4 = payload ++ after ∧ 4 ≤ (Frame.encode payload ++ after).length := by
  have header : (beBytes 4 (payload.length % 2 ^ 32)).length = 4 := length_beBytes 4 _
  unfold Frame.encode
  rw [List.append_assoc]
  refine ⟨List.take_left' header, List.drop_left' header, ?_⟩
  rw [List.length_append, header]
  omega

theorem beNat_header (small : payload.length ≤ maxFrameSize) : beNat (beBytes 4 (payload.length % 2 ^ 32)) = payload.length := by
  unfold maxFrameSize at small
  rw [beNat_beBytes (by omega), Nat.mod_eq_of_lt (by omega)]

theorem readFrame_encode (cuts : Nat → Nat) (small : payload.length ≤ maxFrameSize) :
    ∃ later, Frame.readFrame cuts ⟨Frame.encode payload ++ after, reads⟩ = .ok (payload, ⟨after, later⟩) := by
  obtain ⟨header, rest, long⟩ := encode_split payload after
  obtain ⟨middle, readHeader⟩ := @ByteStream.readExact_enough 4 ⟨Frame.encode payload ++ after, reads⟩ cuts long
  simp only [header, rest] at readHeader
  obtain ⟨later, readPayload⟩ := @ByteStream.readExact_enough payload.length ⟨payload ++ after, middle⟩ cuts (by simp)
  simp only [List.take_left, List.drop_left] at readPayload
  refine ⟨later, ?_⟩
  simp only [Frame.readFrame, readHeader, beNat_header small, readPayload]
  rw [if_neg (Nat.not_lt.mpr small)]

theorem readFrame_end (cuts : Nat → Nat) : Frame.readFrame cuts ⟨[], reads⟩ =
      .error (.transport ("failed to read frame header: " ++ earlyEof)) := by
  rw [Frame.readFrame, ByteStream.readExact, ByteStream.readLoop_short (show 0 < 4 by decide)]

variable {rounds : Nat} {cuts : Nat → Nat} {stream : ByteStream}

theorem tokioPayloads_wire (cuts : Nat → Nat) {payloads} (valid : ValidPayloads payloads)
    (enough : payloads.length < rounds) (reads : Nat) : tokioPayloads cuts rounds ⟨wire payloads, reads⟩ = some payloads := by
  induction payloads generalizing rounds reads with
  | nil =>
    cases rounds with
    | zero => cases enough
    | succ => simp only [tokioPayloads, wire, List.flatMap_nil, readFrame_end]
  | cons payload payloads ih =>
    cases rounds with
    | zero => cases enough
    | succ =>
      obtain ⟨own, others⟩ := List.forall_mem_cons.mp valid
      obtain ⟨later, read⟩ := @readFrame_encode payload (wire payloads) reads cuts own
      rw [List.length_cons, Nat.add_lt_add_iff_right] at enough
      simp only [tokioPayloads, wire_cons, read, ih others enough later, Option.map_some]

theorem readFrame_oversized (cuts : Nat → Nat) (large : maxFrameSize < payload.length) (bounded : payload.length < 2 ^ 32) :
    ∃ cause, Frame.readFrame cuts ⟨Frame.encode payload ++ after, reads⟩ = .error cause := by
  obtain ⟨header, _, long⟩ := encode_split payload after
  obtain ⟨_, readHeader⟩ := @ByteStream.readExact_enough 4 ⟨Frame.encode payload ++ after, reads⟩ cuts long
  rw [header, Nat.mod_eq_of_lt bounded] at readHeader
  rw [Frame.readFrame, readHeader]
  dsimp only
  rw [beNat_beBytes bounded, if_pos large]
  exact ⟨_, rfl⟩

/-- Wherever the stream is cut, `handle_connection` passes on the payloads before the first one
that is too large, and none after it. -/
theorem tokioPayloads_takeWhile {payloads : List Payload} (bounded : ∀ payload ∈ payloads, payload.length < 2 ^ 32)
    (enough : payloads.length < rounds) (reads : Nat) : tokioPayloads cuts rounds ⟨wire payloads, reads⟩ =
      some (payloads.takeWhile fun payload => payload.length ≤ maxFrameSize) := by
  induction payloads generalizing rounds reads with
  | nil => exact tokioPayloads_wire cuts (List.forall_mem_nil _) enough reads
  | cons payload payloads ih =>
    cases rounds with
    | zero => cases enough
    | succ =>
      obtain ⟨own, others⟩ := List.forall_mem_cons.mp bounded
      rw [List.length_cons, Nat.add_lt_add_iff_right] at enough
      by_cases small : payload.length ≤ maxFrameSize
      · obtain ⟨later, read⟩ := @readFrame_encode payload (wire payloads) reads cuts small
        simp only [tokioPayloads, wire_cons, read, ih others enough later, Option.map_some, List.takeWhile_cons, small,
          decide_true, if_true]
      · obtain ⟨_, refused⟩ := @readFrame_oversized payload (wire payloads) reads cuts (Nat.not_le.mp small) own
        simp only [tokioPayloads, wire_cons, refused, List.takeWhile_cons, small, decide_false, Bool.false_eq_true, if_false]

theorem cutFrames_read : tokioPayloads (fun _ => 3) 3 ⟨wire [[1, 2], [3]], 0⟩ = some [[1, 2], [3]] :=
  @tokioPayloads_takeWhile 3 (fun _ => 3) _ (by decide) (by decide) 0

/-- With filled reads, a round of the other handler returns the first payload, unless it is
empty: a read into an empty buffer looks like the end of the stream. -/
theorem uringReadPayload_filled (small : payload.length ≤ maxFrameSize)
    (headerFilled : 4 ≤ cuts reads) (payloadFilled : payload.length ≤ cuts (reads + 1)) :
    uringReadPayload cuts ⟨Frame.encode payload ++ after, reads⟩ =
      if payload = [] then none else some (payload, ⟨after, reads + 2⟩) := by
  obtain ⟨header, rest, _⟩ := encode_split payload after
  have headerCount : min 4 (max 1 (cuts reads)) = 4 := by omega
  have payloadCount : min payload.length (max 1 (cuts (reads + 1))) = payload.length := by omega
  simp only [uringReadPayload, ByteStream.read, headerCount, header, rest, length_beBytes,
    beNat_header small, payloadCount, List.take_left, List.drop_left, Nat.lt_irrefl, if_false,
    gt_iff_lt, Nat.not_lt.mpr small, Nat.sub_self, List.replicate_zero, List.append_nil,
    List.length_eq_zero_iff]

theorem uringReadPayload_shrinks {rest}
    (read : uringReadPayload cuts stream = some (payload, rest)) : rest.remaining.length < stream.remaining.length := by
  unfold uringReadPayload at read
  have headerLength := ByteStream.length_read cuts 4 stream
  generalize stream.read cuts 4 = first at *
  obtain ⟨header, afterHeader⟩ := first
  dsimp only at *
  have payloadLength := ByteStream.length_read cuts (beNat header) afterHeader
  generalize afterHeader.read cuts (beNat header) = second at *
  split at read
  · cases read
  · next whole =>
    split at read
    · cases read
    · split at read
      · cases read
      · cases read
        omega

theorem uringPayloads_ends (cuts : Nat → Nat)
    (enough : stream.remaining.length < rounds) : (uringPayloads cuts rounds stream).isSome = true := by
  induction rounds generalizing stream with
  | zero => cases enough
  | succ _ ih =>
    cases read : uringReadPayload cuts stream with
    | none => simp only [uringPayloads, read, Option.isSome_some]
    | some =>
      have fewer := uringReadPayload_shrinks read
      simp only [uringPayloads, read, Option.isSome_map]
      exact ih (by omega)

end Frames

/-- From some read on, the kernel fills the two reads for each frame. -/
def Fills (cuts : Nat → Nat) : Nat → List Payload → Prop
  | _, [] => True
  | reads, payload :: payloads =>
    4 ≤ cuts reads ∧ payload.length ≤ cuts (reads + 1) ∧ Fills cuts (reads + 2) payloads

variable {payloads : List Payload} {rounds : Nat}

theorem uringPayloads_filled {cuts : Nat → Nat} (valid : ValidPayloads payloads)
    (enough : payloads.length < rounds) {reads : Nat} (filled : Fills cuts reads payloads) :
    uringPayloads cuts rounds ⟨wire payloads, reads⟩ = some (payloads.takeWhile (· ≠ [])) := by
  induction payloads generalizing rounds reads with
  | nil =>
    cases rounds with
    | zero => cases enough
    | succ => simp [uringPayloads, uringReadPayload, ByteStream.read, wire]
  | cons payload _ ih =>
    cases rounds with
    | zero => cases enough
    | succ =>
      obtain ⟨own, others⟩ := List.forall_mem_cons.mp valid
      obtain ⟨headerFilled, payloadFilled, later⟩ := filled
      rw [List.length_cons, Nat.add_lt_add_iff_right] at enough
      simp only [uringPayloads, wire_cons, uringReadPayload_filled own headerFilled payloadFilled]
      by_cases empty : payload = []
      · simp [empty]
      · simp [empty, ih others enough later]

theorem uringPayloads_cut {payload : Payload} :
    uringPayloads (fun _ => 1) (rounds + 1) ⟨wire (payload :: payloads), 0⟩ = some [] := by
  have short : (List.take 1 (wire (payload :: payloads))).length < 4 := by
    rw [List.length_take]
    omega
  simp only [uringPayloads, uringReadPayload, ByteStream.read, Nat.max_self,
    Nat.min_eq_right (show 1 ≤ 4 by decide), if_pos short]

theorem length_le_wire (payloads : List Payload) : payloads.length ≤ (wire payloads).length := by
  induction payloads with
  | nil => exact Nat.zero_le _
  | cons =>
    simp only [wire_cons, List.length_append, List.length_cons, Frame.encode, length_beBytes]
    omega

/-- Wherever a stream of frames is cut, the first handler reads all payloads and the second
one ends. The second one reads the same if its reads are filled and no payload is empty; no
stream but the empty one is read alike for every cut. -/
theorem uring_reads_as_tokio_iff {payloads : List Payload} (valid : ValidPayloads payloads)
    {rounds : Nat} (enough : (wire payloads).length < rounds) :
    (∀ cuts, tokioPayloads cuts rounds ⟨wire payloads, 0⟩ = some payloads ∧
      (uringPayloads cuts rounds ⟨wire payloads, 0⟩).isSome = true ∧
      (Fills cuts 0 payloads → (uringPayloads cuts rounds ⟨wire payloads, 0⟩ =
          tokioPayloads cuts rounds ⟨wire payloads, 0⟩ ↔ [] ∉ payloads))) ∧
    ((∀ cuts, uringPayloads cuts rounds ⟨wire payloads, 0⟩ = tokioPayloads cuts rounds ⟨wire payloads, 0⟩) ↔ payloads = []) := by
  have more : payloads.length < rounds := Nat.lt_of_le_of_lt (length_le_wire payloads) enough
  have tokio := fun cuts => tokioPayloads_wire cuts valid more 0
  refine ⟨fun cuts => ⟨tokio cuts, uringPayloads_ends cuts enough, fun filled => ?_⟩, ?_⟩
  · rw [tokio cuts, uringPayloads_filled valid more filled, Option.some.injEq, List.takeWhile_eq_self_iff]
    simp only [ne_eq, decide_eq_true_eq]
    exact ⟨fun all member => all [] member rfl, fun none payload member empty =>
      none (empty ▸ member)⟩
  · cases payloads with
    | nil => exact iff_of_true (fun cuts => (uringPayloads_filled valid more trivial).trans (tokio cuts).symm) rfl
    | cons =>
      refine iff_of_false (fun same => ?_) (List.cons_ne_nil _ _)
      cases rounds with
      | zero => cases more
      | succ =>
        have cut := (uringPayloads_cut.symm.trans (same fun _ => 1)).trans (tokio _)
        cases cut

theorem filledReads_alike : uringPayloads (fun _ => 4) 20 ⟨wire [[1, 2, 3], [9]], 0⟩ =
      tokioPayloads (fun _ => 4) 20 ⟨wire [[1, 2, 3], [9]], 0⟩ := by
  have valid : ValidPayloads [[1, 2, 3], [9]] := by
    unfold ValidPayloads
    decide
  obtain ⟨each, _⟩ := uring_reads_as_tokio_iff valid (show _ < 20 by decide)
  exact ((each fun _ => 4).2.2 (by simp [Fills])).mpr (by decide)

/-- A payload that arrives in two parts is passed on with zeros in the place of the second
part, and what is left of it is taken for a header. A header that arrives in two parts ends
the connection. -/
theorem splitReads_differ : tokioPayloads (fun read => if read = 1 then 2 else 4) 20 ⟨wire [[1, 2, 3], [9]], 0⟩ =
      some [[1, 2, 3], [9]] ∧ uringPayloads (fun read => if read = 1 then 2 else 4) 20 ⟨wire [[1, 2, 3], [9]], 0⟩ =
      some [[1, 2, 0]] ∧ uringPayloads (fun _ => 2) 20 ⟨wire [[1, 2, 3], [9]], 0⟩ = some [] := by
  decide

end Blazil.Transport

import Mathlib.Data.List.Basic

/-! When the endpoint loop commits what a caller has said (`endpoint_loop` in `services/media/src/session.rs`). -/

set_option autoImplicit false

namespace Blazil.Media

def maxBuf : Nat := 8000 * 12

/-- A frame, and what Smart Turn says if it is asked then; an inference that panics counts as not complete. -/
structure Frame where
  pcm : List Int16
  isSpeech : Bool
  silenceMs : Nat
  isComplete : Bool

/-- The loop sends the same message for both. -/
inductive Commit where
  | utterance
  | keepalive

structure EndpointLoop where
  buf : List Int16
  inUtt : Bool
  checked : Bool
  keepaliveFrames : Nat

namespace EndpointLoop

variable (shortMs maxMs : Nat)

def receive (state : EndpointLoop) (frame : Frame) : EndpointLoop × Option Commit :=
  if frame.isSpeech then
    let buf := state.buf ++ frame.pcm
    (⟨if buf.length > maxBuf then buf.drop (buf.length - maxBuf) else buf, true, false, 0⟩, none)
  else if state.inUtt then
    if !state.checked && frame.silenceMs ≥ shortMs then
      if frame.isComplete then (⟨[], false, false, 0⟩, some .utterance)
      else (⟨state.buf, true, true, 0⟩, none)
    else if frame.silenceMs ≥ maxMs then (⟨[], false, false, 0⟩, some .utterance)
    else ({ state with keepaliveFrames := 0 }, none)
  else if state.keepaliveFrames + 1 ≥ 750 then ({ state with keepaliveFrames := 0 }, some .keepalive)
  else ({ state with keepaliveFrames := state.keepaliveFrames + 1 }, none)

/-- The loop after the frames so far, of which the last comes first. -/
def after : List Frame → EndpointLoop
  | [] => ⟨[], false, false, 0⟩
  | frame :: past => ((after past).receive shortMs maxMs frame).1

def commit (past : List Frame) (frame : Frame) : Option Commit := ((after shortMs maxMs past).receive shortMs maxMs frame).2

/-- A speech frame arrived since the previous commit of an utterance. -/
def Uncommitted : List Frame → Prop
  | [] => False
  | frame :: past => frame.isSpeech = true ∨ Uncommitted past ∧ commit shortMs maxMs past frame ≠ some .utterance

variable {shortMs maxMs}

theorem receive_inUtt (state : EndpointLoop) (frame : Frame) : (state.receive shortMs maxMs frame).1.inUtt = true ↔
    frame.isSpeech = true ∨ state.inUtt = true ∧ (state.receive shortMs maxMs frame).2 ≠ some .utterance := by
  unfold receive
  split_ifs <;> simp_all

theorem inUtt_iff (past : List Frame) : (after shortMs maxMs past).inUtt = true ↔ Uncommitted shortMs maxMs past := by
  induction past with
  | nil => simp [after, Uncommitted]
  | cons frame past held => rw [Uncommitted, ← held, after, commit, receive_inUtt]

theorem buf_le (past : List Frame) : (after shortMs maxMs past).buf.length ≤ maxBuf := by
  induction past with
  | nil => exact Nat.zero_le _
  | cons frame past held =>
    unfold after receive
    grind

/-- A commit of an utterance closes one that is open, long silence leaves none open, keepalives come between them, and
the buffer stays within its bound. -/
theorem commits_sound (past : List Frame) (frame second : Frame) :
    (commit shortMs maxMs past frame = some .utterance → Uncommitted shortMs maxMs past) ∧
    (frame.isSpeech = false → maxMs ≤ frame.silenceMs → second.isSpeech = false → maxMs ≤ second.silenceMs →
      ¬Uncommitted shortMs maxMs (second :: frame :: past)) ∧
    (commit shortMs maxMs past frame = some .keepalive → ¬Uncommitted shortMs maxMs past) ∧
    (after shortMs maxMs past).buf.length ≤ maxBuf := by
  refine ⟨?_, ?_, ?_, buf_le past⟩
  · rw [← inUtt_iff]
    unfold commit receive
    grind
  · intro silent long alsoSilent alsoLong
    rw [← inUtt_iff, after, after]
    unfold receive
    grind
  · rw [← inUtt_iff]
    unfold commit receive
    grind

end EndpointLoop

end Blazil.Media

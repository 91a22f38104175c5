import Blazil.Common.Error
import Blazil.Foundation.SlotTable

/-! The ring buffer of `core/engine/src/ring_buffer.rs`, over any event type. Sequence
numbers are integers that start at -1; the gates are indexed by the workers that own
them. -/

set_option autoImplicit false

namespace Blazil.Engine

open Blazil.Common Foundation

structure RingBuffer (Event : Type) (numShards : Nat) where
  capacity : Nat
  powerOfTwo : isPowerOfTwo capacity = true
  slots : Nat → Event
  claim : Int
  cursor : Int
  gatingSequences : Fin numShards → Int

theorem isPowerOfTwo_two : isPowerOfTwo 2 = true := rfl

theorem isPowerOfTwo_four : isPowerOfTwo 4 = true := rfl

namespace RingBuffer

variable {Event : Type} {numShards : Nat}

/-- A buffer before its first use; `blank` gives the events the slots are created with. -/
def fresh (numShards : Nat) {capacity : Nat} (power : isPowerOfTwo capacity = true)
    (blank : Nat → Event) : RingBuffer Event numShards :=
  ⟨capacity, power, blank, -1, -1, fun _ => -1⟩

def new (numShards capacity : Nat) (blank : Nat → Event) : BlazerResult (RingBuffer Event numShards) :=
  if power : isPowerOfTwo capacity = true then
    .ok (fresh numShards power blank)
  else
    .error (.validationError
      ("RingBuffer capacity must be a power of two, got " ++ toString capacity))

def get (ring : RingBuffer Event numShards) (sequence : Int) : Event :=
  ring.slots (maskedIndex ring.capacity sequence)

def write (ring : RingBuffer Event numShards) (sequence : Int) (event : Event) : RingBuffer Event numShards :=
  { ring with
    slots := fun index =>
      if index = maskedIndex ring.capacity sequence then event else ring.slots index }

def nextSequence (ring : RingBuffer Event numShards) : RingBuffer Event numShards :=
  { ring with claim := ring.claim + 1 }

def publish (ring : RingBuffer Event numShards) (sequence : Int) : RingBuffer Event numShards :=
  { ring with cursor := sequence }

def setGate (ring : RingBuffer Event numShards) (worker : Fin numShards) (sequence : Int) : RingBuffer Event numShards :=
  { ring with
    gatingSequences := fun other =>
      if other = worker then sequence else ring.gatingSequences other }

/-- Whether the next claim stays within one lap of the slowest gate. -/
def hasAvailableCapacity (ring : RingBuffer Event numShards) : Bool :=
  match (List.ofFn ring.gatingSequences).min? with
  | none => true
  | some minGate => ring.claim + 1 - minGate < ring.capacity

theorem get_write_same (ring : RingBuffer Event numShards) (sequence : Int) (event : Event) :
    (ring.write sequence event).get sequence = event := by
  simp [get, write]

variable {ring : RingBuffer Event numShards}

theorem get_write_other {written sequence : Int} {event : Event}
    (different : sequence ≠ written) (lap : sequence < written + ring.capacity)
    (lap' : written < sequence + ring.capacity) : (ring.write written event).get sequence = ring.get sequence := by
  have elsewhere : maskedIndex ring.capacity sequence ≠ maskedIndex ring.capacity written :=
    fun same => different (maskedIndex_inj ring.powerOfTwo lap lap' same)
  simp [get, write, elsewhere]

theorem hasAvailableCapacity_iff :
    ring.hasAvailableCapacity = true ↔ ∀ worker, ring.claim + 1 < ring.gatingSequences worker + ring.capacity := by
  unfold hasAvailableCapacity
  cases least : (List.ofFn ring.gatingSequences).min? with
  | none =>
    have empty := List.min?_eq_none_iff.mp least
    simp only [true_iff]
    intro worker
    have member : ring.gatingSequences worker ∈ List.ofFn ring.gatingSequences :=
      List.mem_ofFn.mpr ⟨worker, rfl⟩
    rw [empty] at member
    cases member
  | some =>
    obtain ⟨member, lower⟩ := List.min?_eq_some_iff.mp least
    obtain ⟨owner, _⟩ := List.mem_ofFn.mp member
    simp only [decide_eq_true_eq]
    constructor
    · intro room worker
      have above := lower _ (List.mem_ofFn.mpr ⟨worker, rfl⟩)
      omega
    · intro room
      have atOwner := room owner
      omega

end RingBuffer

end Blazil.Engine

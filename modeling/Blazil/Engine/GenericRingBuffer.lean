import Blazil.Engine.RingBuffer
import Blazil.Foundation.Transition

/-! The ring buffer of `core/engine/src/generic_ring_buffer.rs` between producers that follow
its documentation and one consumer. It shares the slots, the claim counter and the gates
with `RingBuffer`; only the constructor's message and the cursor differ. Every load and
store of a shared counter or slot is a step of its own. -/

set_option autoImplicit false

namespace Blazil.Engine

open Blazil.Common Foundation

abbrev GenericRingBuffer (Value : Type) (consumers : Nat) := RingBuffer Value consumers

namespace GenericRingBuffer

variable {Value : Type} {consumers : Nat}

/-- `new`, with one call of `add_gating_sequence` for each consumer. -/
def new [Inhabited Value] (consumers capacity : Nat) : BlazerResult (GenericRingBuffer Value consumers) :=
  if power : isPowerOfTwo capacity = true then
    .ok (RingBuffer.fresh consumers power fun _ => default)
  else
    .error (.validationError
      ("GenericRingBuffer capacity must be a power of two, got " ++ toString capacity))

/-- The cursor never goes back, whatever order the producers publish in. -/
def publish (ring : GenericRingBuffer Value consumers) (sequence : Int) : GenericRingBuffer Value consumers :=
  { ring with cursor := max ring.cursor sequence }

theorem new_eq [Inhabited Value] {capacity : Nat} {ring : GenericRingBuffer Value consumers}
    (created : new consumers capacity = .ok ring) : ∃ power : isPowerOfTwo capacity = true,
      ring = RingBuffer.fresh consumers power fun _ => default := by
  unfold new at created
  split at created
  · next power =>
    cases created
    exact ⟨power, rfl⟩
  · cases created

end GenericRingBuffer

/-- How far a producer is. `has_available_capacity` loads the claim counter first. -/
inductive Producing (Value : Type) where
  | idle
  | loaded (value : Value) (nextClaim : Int)
  | checked (value : Value)
  | claimed (value : Value) (sequence : Int)
  | written (value : Value) (sequence : Int)
deriving DecidableEq

def Producing.sequence? {Value : Type} : Producing Value → Option Int
  | .claimed _ sequence | .written _ sequence => some sequence
  | .idle | .loaded _ _ | .checked _ => none

def Producing.unwritten? {Value : Type} : Producing Value → Option Int
  | .claimed _ sequence => some sequence
  | .idle | .loaded _ _ | .checked _ | .written _ _ => none

inductive Consuming where
  | polling
  | reading (limit : Int)
  | gating
deriving DecidableEq

structure SlotWrite (Producer Value : Type) where
  producer : Producer
  sequence : Int
  value : Value
deriving DecidableEq

structure SlotRead (Value : Type) where
  sequence : Int
  value : Value
deriving DecidableEq

/-- A buffer in use. `claims` lists the producers in the order of the sequences they got;
`writes` and `reads` record the accesses to the slots. -/
structure Exchange (Producer Value : Type) where
  ring : GenericRingBuffer Value 1
  producers : Producer → Producing Value
  consumerSeq : Int
  phase : Consuming
  claims : List Producer
  writes : List (SlotWrite Producer Value)
  reads : List (SlotRead Value)

inductive ExchangeLabel (Producer Value : Type) where
  | load (producer : Producer) (value : Value)
  | test (producer : Producer)
  | claim (producer : Producer)
  | write (producer : Producer)
  | publish (producer : Producer)
  | poll
  | read
  | gate

namespace Exchange

variable {Producer Value : Type}

def started (Producer : Type) (ring : GenericRingBuffer Value 1) : Exchange Producer Value where
  ring := ring
  producers := fun _ => .idle
  consumerSeq := -1
  phase := .polling
  claims := []
  writes := []
  reads := []

def gate (exchange : Exchange Producer Value) : Int :=
  exchange.ring.gatingSequences ⟨0, Nat.one_pos⟩

@[simps]
def setProducer [DecidableEq Producer] (exchange : Exchange Producer Value) (producer : Producer)
    (producing : Producing Value) : Exchange Producer Value :=
  { exchange with
    producers := fun other => if other = producer then producing else exchange.producers other }

def step [DecidableEq Producer] (exchange : Exchange Producer Value) :
    ExchangeLabel Producer Value → Option (Exchange Producer Value)
  | .load producer value =>
    match exchange.producers producer with
    | .idle => some (exchange.setProducer producer (.loaded value (exchange.ring.claim + 1)))
    | _ => none
  | .test producer =>
    match exchange.producers producer with
    | .loaded value nextClaim =>
      some (exchange.setProducer producer (if nextClaim - exchange.gate < exchange.ring.capacity then .checked value else .idle))
    | _ => none
  | .claim producer =>
    match exchange.producers producer with
    | .checked value =>
      some (setProducer { exchange with
        ring := exchange.ring.nextSequence
        claims := exchange.claims ++ [producer] } producer (.claimed value (exchange.ring.claim + 1)))
    | _ => none
  | .write producer =>
    match exchange.producers producer with
    | .claimed value sequence =>
      some (setProducer { exchange with
        ring := exchange.ring.write sequence value
        writes := exchange.writes ++ [⟨producer, sequence, value⟩] } producer (.written value sequence))
    | _ => none
  | .publish producer =>
    match exchange.producers producer with
    | .written _ sequence =>
      some (setProducer { exchange with
        ring := GenericRingBuffer.publish exchange.ring sequence } producer .idle)
    | _ => none
  | .poll =>
    match exchange.phase with
    | .polling => some { exchange with phase := .reading exchange.ring.cursor }
    | _ => none
  | .read =>
    match exchange.phase with
    | .reading limit =>
      let sequence := exchange.consumerSeq + 1
      if sequence ≤ limit then
        some { exchange with
          consumerSeq := sequence
          reads := exchange.reads ++ [⟨sequence, exchange.ring.get sequence⟩] }
      else some { exchange with phase := .gating }
    | _ => none
  | .gate =>
    match exchange.phase with
    | .gating => some { exchange with
        ring := exchange.ring.setGate ⟨0, Nat.one_pos⟩ exchange.consumerSeq
        phase := .polling }
    | _ => none

section Steps

variable [DecidableEq Producer]

def system : System (Exchange Producer Value) (ExchangeLabel Producer Value) := ⟨step⟩

inductive Moves (exchange : Exchange Producer Value) : ExchangeLabel Producer Value → Exchange Producer Value → Prop where
  | load {producer value} (idle : exchange.producers producer = .idle) :
      Moves exchange (.load producer value) (exchange.setProducer producer (.loaded value (exchange.ring.claim + 1)))
  | test {producer value nextClaim} (loaded : exchange.producers producer = .loaded value nextClaim) :
      Moves exchange (.test producer) (exchange.setProducer producer
        (if nextClaim - exchange.gate < exchange.ring.capacity then .checked value else .idle))
  | claim {producer value} (checked : exchange.producers producer = .checked value) :
      Moves exchange (.claim producer) (setProducer { exchange with
        ring := exchange.ring.nextSequence
        claims := exchange.claims ++ [producer] } producer (.claimed value (exchange.ring.claim + 1)))
  | write {producer value sequence} (claimed : exchange.producers producer = .claimed value sequence) :
      Moves exchange (.write producer) (setProducer { exchange with
        ring := exchange.ring.write sequence value
        writes := exchange.writes ++ [⟨producer, sequence, value⟩] } producer (.written value sequence))
  | publish {producer value sequence} (written : exchange.producers producer = .written value sequence) :
      Moves exchange (.publish producer) (setProducer { exchange with
        ring := GenericRingBuffer.publish exchange.ring sequence } producer .idle)
  | poll (polling : exchange.phase = .polling) : Moves exchange .poll { exchange with phase := .reading exchange.ring.cursor }
  | read {limit} (reading : exchange.phase = .reading limit) (within : exchange.consumerSeq + 1 ≤ limit) :
      Moves exchange .read { exchange with
        phase := .reading limit
        consumerSeq := exchange.consumerSeq + 1
        reads := exchange.reads ++ [⟨exchange.consumerSeq + 1, exchange.ring.get (exchange.consumerSeq + 1)⟩] }
  | done {limit} (reading : exchange.phase = .reading limit) (beyond : ¬exchange.consumerSeq + 1 ≤ limit) :
      Moves exchange .read { exchange with phase := .gating }
  | gate (gating : exchange.phase = .gating) : Moves exchange .gate { exchange with
        ring := exchange.ring.setGate ⟨0, Nat.one_pos⟩ exchange.consumerSeq
        phase := .polling }

theorem step_moves {exchange next : Exchange Producer Value} {label : ExchangeLabel Producer Value}
    (stepped : exchange.step label = some next) : Moves exchange label next := by
  cases label with
  | load | test | claim | write | publish | poll | gate =>
    simp only [step] at stepped
    split at stepped
    · next found =>
      cases stepped
      constructor
      exact found
    · cases stepped
  | read =>
    cases phase : exchange.phase with
    | reading =>
      simp only [step, phase] at stepped
      split at stepped
      · next within =>
        cases stepped
        exact .read phase within
      · next beyond =>
        cases stepped
        exact .done phase beyond
    | _ => simp [step, phase] at stepped

end Steps

end Exchange

end Blazil.Engine

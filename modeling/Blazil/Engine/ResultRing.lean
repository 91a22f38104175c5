import Blazil.Engine.Runtime
import Blazil.Foundation.SlotTable

/-! The result ring (`core/engine/src/result_ring.rs`) and the engine that is built with one. Its
batch tasks write the committed transfers to the ring; rejections stay in the shared map, and a
reader takes a result out of whichever holds it.

The ring stands for a map from sequences to transfer ids. Its methods find the slot of a sequence
and do not see for which sequence the slot was written. -/

set_option autoImplicit false

namespace Blazil.Engine

open Blazil.Common Blazil.Ledger Foundation

/-- A slot is pending or holds the id of a committed transfer. -/
abbrev ResultRing := SlotTable (Option TransferId)

namespace ResultRing

def new {capacity : Nat} (power : isPowerOfTwo capacity = true) : ResultRing :=
  SlotTable.filled power none

/-- The slot is overwritten whether or not it is pending. -/
def insert (ring : ResultRing) (sequence : Int) (transferId : TransferId) : ResultRing :=
  SlotTable.set ring sequence (some transferId)

def tryRemove (ring : ResultRing) (sequence : Int) : Option (TransferId × ResultRing) :=
  match SlotTable.get ring sequence with
  | some transferId => some (transferId, SlotTable.set ring sequence none)
  | none => none

def contains (ring : ResultRing) (sequence : Int) : Bool := (SlotTable.get ring sequence).isSome

end ResultRing

def Results.remove (results : Results) (sequence : Int) : Results :=
  fun other => if other = sequence then none else results other

namespace Runtime

variable {Task Tag : Type} {numShards : Nat}

def withResults (runtime : Runtime Task Tag numShards) (results : Results) : Runtime Task Tag numShards :=
  { runtime with results := results }

section

variable (runtime : Runtime Task Tag numShards) (results : Results)
include runtime results

@[simp] theorem withResults_pipeline : (runtime.withResults results).pipeline = runtime.pipeline := rfl

@[simp] theorem withResults_handlers : (runtime.withResults results).handlers = runtime.handlers := rfl

@[simp] theorem withResults_results : (runtime.withResults results).results = results := rfl

@[simp] theorem withResults_tasks : (runtime.withResults results).tasks = runtime.tasks := rfl

@[simp] theorem withResults_activeTasks : (runtime.withResults results).activeTasks = runtime.activeTasks := rfl

end

end Runtime

/-- An engine with a result ring; the results of `runtime` are the shared map. -/
structure RingEngine (Task Tag : Type) (numShards : Nat) where
  runtime : Runtime Task Tag numShards
  ring : ResultRing

namespace RingEngine

variable {Task Tag : Type} {numShards : Nat}

def started (pipeline : Pipeline Task (Job Tag) numShards) : RingEngine Task Tag numShards :=
  ⟨.started pipeline, .new pipeline.ring.powerOfTwo⟩

@[simps]
def setRuntime (engine : RingEngine Task Tag numShards) (runtime : Runtime Task Tag numShards) : RingEngine Task Tag numShards :=
  { engine with runtime := runtime }

/-- Remove the result of a sequence, from the ring if it has one and else from the map. -/
def take (engine : RingEngine Task Tag numShards) (sequence : Int) : Option (TransactionResult × RingEngine Task Tag numShards) :=
  match engine.ring.tryRemove sequence with
  | some (transferId, ring) => some (.committed transferId, { engine with ring := ring })
  | none =>
    match engine.runtime.results sequence with
    | some result =>
      some (result, engine.setRuntime (engine.runtime.withResults (engine.runtime.results.remove sequence)))
    | none => none

section Steps

variable [ExternalCrates] [DecidableEq Task]

/-- Only the record of a committed transfer goes another way than in an engine without a
ring. -/
def step (risk : RiskHandler) (engine : RingEngine Task Tag numShards)
    (label : RuntimeLabel Task Tag numShards) : Option (RingEngine Task Tag numShards) :=
  match label with
  | .record index =>
    match engine.runtime.tasks[index]? with
    | some ⟨batch, .recording replies next⟩ =>
      match (batch.zip replies)[next]? with
      | some ((sequence, _), .ok transferId) =>
        some ⟨engine.runtime.setTask index ⟨batch, .recording replies (next + 1)⟩, engine.ring.insert sequence transferId⟩
      | _ => (engine.runtime.step risk label).map engine.setRuntime
    | _ => none
  | _ => (engine.runtime.step risk label).map engine.setRuntime

inductive Moves (risk : RiskHandler) (engine : RingEngine Task Tag numShards) :
    RuntimeLabel Task Tag numShards → RingEngine Task Tag numShards → Prop where
  | committed {index next batch replies sequence transfer transferId}
      (found : engine.runtime.tasks[index]? = some ⟨batch, .recording replies next⟩)
      (entry : (batch.zip replies)[next]? = some ((sequence, transfer), .ok transferId)) :
      Moves risk engine (.record index) ⟨engine.runtime.setTask index ⟨batch, .recording replies (next + 1)⟩,
          engine.ring.insert sequence transferId⟩
  | runtime {label next}
      (uncommitted : ∀ index batch replies place sequence transfer transferId, label = .record index →
        engine.runtime.tasks[index]? = some ⟨batch, .recording replies place⟩ →
        (batch.zip replies)[place]? ≠ some ((sequence, transfer), .ok transferId))
      (stepped : engine.runtime.step risk label = some next) :
      Moves risk engine label (engine.setRuntime next)

theorem step_moves {risk : RiskHandler} {engine next : RingEngine Task Tag numShards} {label : RuntimeLabel Task Tag numShards}
    (stepped : engine.step risk label = some next) : Moves risk engine label next := by
  cases label with
  | record =>
    simp only [step] at stepped
    split at stepped
    · next batch replies place found =>
      split at stepped
      · next entry =>
        cases stepped
        exact .committed found entry
      · next uncommitted =>
        obtain ⟨_, moved, rfl⟩ := Option.map_eq_some_iff.mp stepped
        refine .runtime ?_ moved
        intro other batch' replies' place' sequence transfer transferId same found' entry
        cases same
        rw [found] at found'
        cases found'
        exact uncommitted _ _ _ entry
    · cases stepped
  | pipeline | drain | attempt =>
    obtain ⟨_, moved, rfl⟩ := Option.map_eq_some_iff.mp stepped
    refine .runtime ?_ moved
    intro _ _ _ _ _ _ _ other
    cases other

end Steps

end RingEngine

open Foundation.System

inductive RingCall where
  | insert (sequence : Int) (transferId : TransferId)
  | tryRemove (sequence : Int)
  | contains (sequence : Int)
deriving DecidableEq

inductive RingReply where
  | inserted
  | removed (transferId : Option TransferId)
  | contained (ready : Bool)
deriving DecidableEq

def RingCall.asked : RingCall → Option Int
  | .insert _ _ => none
  | .tryRemove sequence | .contains sequence => some sequence

def replies {Store : Type} (answer : Store → RingCall → RingReply × Store) : Store → List RingCall → List RingReply
  | _, [] => []
  | store, call :: rest => (answer store call).1 :: replies answer (answer store call).2 rest

def ResultRing.answer (ring : ResultRing) : RingCall → RingReply × ResultRing
  | .insert sequence transferId => (.inserted, ring.insert sequence transferId)
  | .tryRemove sequence =>
    match ring.tryRemove sequence with
    | some (transferId, after) => (.removed (some transferId), after)
    | none => (.removed none, ring)
  | .contains sequence => (.contained (ring.contains sequence), ring)

abbrev TransferMap := Int → Option TransferId

namespace TransferMap

def empty : TransferMap := fun _ => none

def answer (map : TransferMap) : RingCall → RingReply × TransferMap
  | .insert sequence transferId => (.inserted, Function.update map sequence (some transferId))
  | .tryRemove sequence => (.removed (map sequence), Function.update map sequence none)
  | .contains sequence => (.contained (map sequence).isSome, map)

def system : System TransferMap RingCall := ⟨fun map call => some (map.answer call).2⟩

/-- After each call the sequences present are pairwise distinct modulo the capacity. -/
def StaysDistinct (capacity : Nat) (calls : List RingCall) : Prop :=
  system.Along (fun _ _ after => DistinctKeys capacity after) empty calls

/-- No call asks for a sequence that shares its slot with another one present. -/
def AsksUnshared (capacity : Nat) (calls : List RingCall) : Prop :=
  system.Along (fun before call _ => ∀ sequence ∈ call.asked, Unshared capacity before sequence) empty calls

end TransferMap

namespace ResultRing

theorem answer_tryRemove (ring : ResultRing) (sequence : Int) :
    ring.answer (.tryRemove sequence) = (.removed (SlotTable.get ring sequence), SlotTable.set ring sequence none) := by
  cases found : SlotTable.get ring sequence with
  | some => simp only [answer, tryRemove, found]
  | none =>
    simp only [answer, tryRemove, found]
    rw [← found, SlotTable.set_get]

@[simp] theorem capacity_answer (ring : ResultRing) (call : RingCall) : (ring.answer call).2.capacity = ring.capacity := by
  cases call with
  | insert | contains => rfl
  | tryRemove => rw [answer_tryRemove, SlotTable.capacity_set]

variable {ring : ResultRing} {map : TransferMap} {call : RingCall}

theorem answer_eq_iff (represents : SlotTable.Represents ring map) (distinct : DistinctKeys ring.capacity map) :
    (ring.answer call).1 = (map.answer call).1 ↔ ∀ sequence ∈ call.asked, Unshared ring.capacity map sequence := by
  cases call with
  | insert => simp [answer, TransferMap.answer, RingCall.asked]
  | tryRemove =>
    simp only [answer_tryRemove, TransferMap.answer, RingCall.asked, RingReply.removed.injEq,
      Option.mem_def, Option.some.injEq, forall_eq']
    constructor
    · intro same
      exact (represents.isSome_get_iff distinct).mp (congrArg Option.isSome same)
    · exact represents.get_eq
  | contains =>
    simp only [answer, contains, TransferMap.answer, RingCall.asked, RingReply.contained.injEq,
      Option.mem_def, Option.some.injEq, forall_eq']
    exact represents.isSome_get_iff distinct

theorem represents_answer (represents : SlotTable.Represents ring map) (distinct : DistinctKeys ring.capacity (map.answer call).2)
    (unshared : ∀ sequence ∈ call.asked, Unshared ring.capacity map sequence) :
    SlotTable.Represents (ring.answer call).2 (map.answer call).2 := by
  cases call with
  | insert _ transferId =>
    exact represents.set distinct.unshared_of_update (some transferId)
  | tryRemove sequence =>
    rw [answer_tryRemove]
    exact represents.set (unshared sequence rfl) none
  | contains => exact represents

end ResultRing

/-- The induction is on the calls; the ring represents the map as long as no call has asked
for a shared slot, and from the first such call on the replies differ. -/
private theorem replies_eq_iff {ring map calls}
    (represents : SlotTable.Represents ring map) (distinct : DistinctKeys ring.capacity map)
    (stays : TransferMap.system.Along (fun _ _ after => DistinctKeys ring.capacity after) map calls) :
    replies ResultRing.answer ring calls = replies TransferMap.answer map calls ↔ TransferMap.system.Along (fun before call _ =>
        ∀ sequence ∈ call.asked, Unshared ring.capacity before sequence) map calls := by
  induction calls generalizing ring map with
  | nil => simp [replies, Along]
  | cons call _ ih =>
    obtain ⟨next, later⟩ := stays
    rw [replies, replies, List.cons.injEq, ResultRing.answer_eq_iff represents distinct]
    refine and_congr_right fun unshared => ?_
    have kept := ResultRing.represents_answer represents next unshared
    rw [← ResultRing.capacity_answer ring call] at next later ⊢
    exact ih kept next later

/-- As long as the sequences present are pairwise distinct modulo the capacity, the ring
answers as the map exactly if no call asks for a sequence that shares its slot with another
one present. -/
theorem resultRing_replies_as_map_iff {capacity : Nat} (power : isPowerOfTwo capacity = true)
    {calls : List RingCall} (distinct : TransferMap.StaysDistinct capacity calls) :
    replies ResultRing.answer (.new power) calls = replies TransferMap.answer TransferMap.empty calls ↔
      TransferMap.AsksUnshared capacity calls :=
  replies_eq_iff (SlotTable.represents_filled power) (fun _ present => by cases present) distinct

def fourSlotCalls : List RingCall :=
  [.insert 3 ⟨10⟩, .insert (-2) ⟨11⟩, .contains (-2), .tryRemove 3, .insert 7 ⟨12⟩, .contains 7]

theorem fourSlots_reply_as_map : TransferMap.StaysDistinct 4 fourSlotCalls ∧
      replies ResultRing.answer (.new isPowerOfTwo_four) fourSlotCalls =
        replies TransferMap.answer TransferMap.empty fourSlotCalls := by
  have distinct : TransferMap.StaysDistinct 4 fourSlotCalls := by
    simp only [TransferMap.StaysDistinct, fourSlotCalls, Along, TransferMap.system,
      TransferMap.answer, DistinctKeys, Unshared, Function.update_apply, TransferMap.empty]
    grind
  have unshared : TransferMap.AsksUnshared 4 fourSlotCalls := by
    simp only [TransferMap.AsksUnshared, fourSlotCalls, Along, TransferMap.system,
      TransferMap.answer, RingCall.asked, Unshared, Function.update_apply, TransferMap.empty]
    grind
  exact ⟨distinct, (resultRing_replies_as_map_iff isPowerOfTwo_four distinct).mpr unshared⟩

theorem isPowerOfTwo_sixtyFour : isPowerOfTwo 64 = true := by decide

/-- A ring of 64 slots that holds only sequence 0 also answers for sequence 64. -/
theorem sharedSlot_answers_for_absent : TransferMap.StaysDistinct 64 [.insert 0 ⟨10⟩, .contains 64, .tryRemove 64] ∧
      replies ResultRing.answer (.new isPowerOfTwo_sixtyFour) [.insert 0 ⟨10⟩, .contains 64, .tryRemove 64] =
        [.inserted, .contained true, .removed (some ⟨10⟩)] ∧
      replies TransferMap.answer TransferMap.empty [.insert 0 ⟨10⟩, .contains 64, .tryRemove 64] =
        [.inserted, .contained false, .removed none] := by
  refine ⟨?_, by decide, by decide⟩
  simp only [TransferMap.StaysDistinct, Along, TransferMap.system, TransferMap.answer,
    DistinctKeys, Unshared, Function.update_apply, TransferMap.empty]
  grind

end Blazil.Engine

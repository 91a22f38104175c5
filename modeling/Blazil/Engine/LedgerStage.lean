import Blazil.Engine.ResultRing

/-! The ledger stage with its vectors (`core/engine/src/handlers/ledger.rs`): the transfers and
the sequences that wait for a flush are kept apart, a batch task takes both along, and the
results come back as a third vector. `LedgerHandler` and the batches of `Runtime` are what
one gets by pairing the vectors up. -/

set_option autoImplicit false

namespace Blazil.Engine

open Blazil.Common Blazil.Ledger Foundation

structure LedgerVectors where
  batchStartedAt : Option Nat := none
  deferredTransfers : List Transfer := []
  deferredSequences : List Int := []
deriving DecidableEq

structure SpawnedBatch where
  prevSequences : List Int
  currentSeq : Int
  allTransfers : List Transfer
  prevN : Nat
deriving DecidableEq

inductive VectorOutcome where
  | skipped
  | rejected (reason : BlazerError)
  | deferred
  | spawned (batch : SpawnedBatch)
deriving DecidableEq

namespace SpawnedBatch

def sequences (batch : SpawnedBatch) : List Int := batch.prevSequences ++ [batch.currentSeq]

def paired (batch : SpawnedBatch) : List (Int × Transfer) := batch.sequences.zip batch.allTransfers

/-- The sequence that is recorded in turn `next`, and the index its result is read from. -/
def slot (batch : SpawnedBatch) (next : Nat) : Option (Int × Nat) :=
  match batch.prevSequences[next]? with
  | some sequence => some (sequence, next)
  | none => if next = batch.prevSequences.length then some (batch.currentSeq, batch.prevN) else none

end SpawnedBatch

namespace LedgerVectors

def paired (vectors : LedgerVectors) : LedgerHandler :=
  ⟨vectors.batchStartedAt, vectors.deferredSequences.zip vectors.deferredTransfers⟩

def shouldFlush (vectors : LedgerVectors) (endOfBatch : Bool) (now : Nat) : Bool :=
  endOfBatch || vectors.deferredTransfers.length + 1 ≥ maxTbBatchSize ||
    vectors.paired.batchAgeExceeded now

def enqueue (vectors : LedgerVectors) (sequence : Int) (endOfBatch : Bool) (now : Nat)
    (transfer : Transfer) : LedgerVectors × VectorOutcome :=
  if vectors.shouldFlush endOfBatch now then
    (⟨none, [], []⟩, .spawned
      { prevSequences := vectors.deferredSequences
        currentSeq := sequence
        allTransfers := vectors.deferredTransfers ++ [transfer]
        prevN := vectors.deferredTransfers.length })
  else
    (⟨if vectors.deferredTransfers.isEmpty then some now else vectors.batchStartedAt,
      vectors.deferredTransfers ++ [transfer], vectors.deferredSequences ++ [sequence]⟩, .deferred)

def onEvent [ExternalCrates] (vectors : LedgerVectors) (decided : Bool) (event : TransactionEvent) (sequence : Int)
    (endOfBatch : Bool) (transferId : TransferId) (now : Nat) : LedgerVectors × VectorOutcome :=
  if decided then (vectors, .skipped)
  else
    match buildTransfer transferId event with
    | .error reason => (vectors, .rejected reason)
    | .ok transfer => vectors.enqueue sequence endOfBatch now transfer

end LedgerVectors

def VectorOutcome.paired : VectorOutcome → LedgerOutcome
  | .skipped => .skipped
  | .rejected reason => .rejected reason
  | .deferred => .deferred
  | .spawned batch => .dispatched batch.paired

theorem LedgerVectors.onEvent_paired [ExternalCrates] {vectors : LedgerVectors}
    (aligned : vectors.deferredTransfers.length = vectors.deferredSequences.length) (decided : Bool)
    (event : TransactionEvent) (sequence : Int) (endOfBatch : Bool) (transferId : TransferId) (now : Nat) :
    ((vectors.onEvent decided event sequence endOfBatch transferId now).1.paired,
      (vectors.onEvent decided event sequence endOfBatch transferId now).2.paired) =
      vectors.paired.onEvent decided event sequence endOfBatch transferId now := by
  have appended : ∀ transfer, (vectors.deferredSequences ++ [sequence]).zip (vectors.deferredTransfers ++ [transfer]) =
        vectors.deferredSequences.zip vectors.deferredTransfers ++ [(sequence, transfer)] := by
    intro transfer
    rw [List.zip_append aligned.symm]
    rfl
  have length : vectors.paired.deferred.length = vectors.deferredTransfers.length := by
    simp [paired, aligned]
  have flush : vectors.paired.shouldFlush endOfBatch now = vectors.shouldFlush endOfBatch now := by
    rw [LedgerHandler.shouldFlush, shouldFlush, length]
  have empty : vectors.paired.deferred.isEmpty = vectors.deferredTransfers.isEmpty := by
    rw [Bool.eq_iff_iff, List.isEmpty_iff, List.isEmpty_iff, ← List.length_eq_zero_iff, length, List.length_eq_zero_iff]
  unfold onEvent LedgerHandler.onEvent
  cases decided with
  | true => rfl
  | false =>
    simp only [Bool.false_eq_true, ↓reduceIte]
    cases buildTransfer transferId event with
    | error => rfl
    | ok =>
      simp only [enqueue, LedgerHandler.enqueue, flush, empty]
      split
      · simp [paired, VectorOutcome.paired, SpawnedBatch.paired, SpawnedBatch.sequences, appended]
      · simp [paired, VectorOutcome.paired, appended]

structure BatchCall where
  transfers : List Transfer
  replies : List (BlazerResult TransferId)
deriving DecidableEq

def TaskPhase.Passed (position : Nat) : TaskPhase → Prop
  | .running _ => False
  | .recording _ next => position < next
  | .finished _ => True

structure TaskRun where
  batch : SpawnedBatch
  phase : TaskPhase
  calls : List BatchCall

structure FedEvent where
  sequence : Int
  event : TransactionEvent
  transferId : TransferId
  decided : Bool
deriving DecidableEq

def FedEvent.accepted [ExternalCrates] (fed : FedEvent) : Option (Int × Transfer) :=
  if fed.decided then none
  else (buildTransfer fed.transferId fed.event).toOption.map fun transfer =>
    (fed.sequence, transfer)

/-- A ledger stage beside the shared map, the result ring if there is one, and the tasks. -/
structure LedgerStage where
  vectors : LedgerVectors
  results : Results
  ring : Option ResultRing
  tasks : List TaskRun
  fed : List FedEvent

inductive StageLabel where
  | feed (event : TransactionEvent) (sequence : Int) (endOfBatch : Bool) (transferId : TransferId) (now : Nat)
  | call (task : Nat) (replies : List (BlazerResult TransferId))
  | record (task : Nat)
  | insert (sequence : Int) (result : TransactionResult)
  | remove (sequence : Int)
  | tryRemove (sequence : Int)

namespace LedgerStage

def started (ring : Option ResultRing) : LedgerStage := ⟨{}, fun _ => none, ring, [], []⟩

def activeTasks (stage : LedgerStage) : Nat := stage.tasks.countP fun task => task.phase.isActive

def setTask (stage : LedgerStage) (index : Nat) (task : TaskRun) : LedgerStage :=
  { stage with tasks := stage.tasks.set index task }

/-- A committed transfer goes to the ring if there is one; everything else to the map. -/
def store (stage : LedgerStage) (sequence : Int) (reply : BlazerResult TransferId) : LedgerStage :=
  match reply, stage.ring with
  | .ok transferId, some ring => { stage with ring := some (ring.insert sequence transferId) }
  | reply, _ => { stage with results := stage.results.insert sequence (resultOf reply) }

def inRing (stage : LedgerStage) (sequence : Int) : Option TransferId := stage.ring.bind (SlotTable.get · sequence)

def sameSlot (stage : LedgerStage) (sequence other : Int) : Bool :=
  stage.ring.any fun ring => maskedIndex ring.capacity sequence = maskedIndex ring.capacity other

/-- A reader finds the reply where `store` puts such a reply. -/
def Holds (stage : LedgerStage) (sequence : Int) : BlazerResult TransferId → Prop
  | .ok transferId =>
    if stage.ring.isSome then stage.inRing sequence = some transferId
    else stage.results sequence = some (.committed transferId)
  | .error reason => stage.results sequence = some (.rejected reason)

/-- The reply is found, and nothing else is lost. -/
structure Records (before after : LedgerStage) (sequence : Int) (reply : BlazerResult TransferId) : Prop where
  held : after.Holds sequence reply
  mapped : ∀ other ≠ sequence, after.results other = before.results other
  slotted : ∀ other, before.sameSlot other sequence = false → after.inRing other = before.inRing other

def settle (stage : LedgerStage) (sequence : Int) : VectorOutcome → LedgerStage
  | .skipped | .deferred => stage
  | .rejected reason =>
    { stage with results := stage.results.insert sequence (.rejected reason) }
  | .spawned batch => { stage with tasks := stage.tasks ++ [⟨batch, .running 0, []⟩] }

section Steps

variable [ExternalCrates]

def feed (stage : LedgerStage) (event : TransactionEvent) (sequence : Int) (endOfBatch : Bool)
    (transferId : TransferId) (now : Nat) : LedgerStage × VectorOutcome :=
  let decided := (stage.results sequence).isSome
  let (vectors, outcome) :=
    stage.vectors.onEvent decided event sequence endOfBatch transferId now
  (settle { stage with
    vectors := vectors
    fed := stage.fed ++ [⟨sequence, event, transferId, decided⟩] } sequence outcome, outcome)

/-- A stage with a batch to spawn waits while too many tasks are active. The client answers
a call with one result per transfer. -/
def step (stage : LedgerStage) : StageLabel → Option LedgerStage
  | .feed event sequence endOfBatch transferId now =>
    match stage.feed event sequence endOfBatch transferId now with
    | (next, .spawned _) => if maxConcurrentBatches ≤ stage.activeTasks then none else some next
    | (next, _) => some next
  | .call index replies =>
    match stage.tasks[index]? with
    | some ⟨batch, .running attempt, calls⟩ =>
      if replies.length = batch.allTransfers.length then
        some (stage.setTask index ⟨batch, .afterAttempt attempt replies, calls ++ [⟨batch.allTransfers, replies⟩]⟩)
      else none
    | _ => none
  | .record index =>
    match stage.tasks[index]? with
    | some ⟨batch, .recording replies next, calls⟩ =>
      match batch.slot next with
      | none => some (stage.setTask index ⟨batch, .finished replies, calls⟩)
      | some (sequence, position) =>
        replies[position]?.map fun reply =>
          (stage.setTask index ⟨batch, .recording replies (next + 1), calls⟩).store sequence reply
    | _ => none
  | .insert sequence result =>
    some { stage with results := stage.results.insert sequence result }
  | .remove sequence => some { stage with results := stage.results.remove sequence }
  | .tryRemove sequence =>
    (stage.ring.bind (ResultRing.tryRemove · sequence)).map fun taken => { stage with ring := some taken.2 }

def system : System LedgerStage StageLabel := ⟨step⟩

def accepted (stage : LedgerStage) : List (Int × Transfer) :=
  stage.fed.filterMap fun fed => fed.accepted

inductive Moves (stage : LedgerStage) : StageLabel → LedgerStage → Prop where
  | skipped {event sequence endOfBatch transferId now} :
      Moves stage (.feed event sequence endOfBatch transferId now) { stage with
        fed := stage.fed ++ [⟨sequence, event, transferId, true⟩] }
  | rejected {event sequence endOfBatch transferId now reason}
      (refused : buildTransfer transferId event = .error reason) :
      Moves stage (.feed event sequence endOfBatch transferId now) { stage with
        results := stage.results.insert sequence (.rejected reason)
        fed := stage.fed ++ [⟨sequence, event, transferId, false⟩] }
  | deferred {event sequence endOfBatch transferId now transfer startedAt}
      (built : buildTransfer transferId event = .ok transfer)
      (room : stage.vectors.deferredTransfers.length + 1 < maxTbBatchSize) :
      Moves stage (.feed event sequence endOfBatch transferId now) { stage with
        vectors := ⟨startedAt, stage.vectors.deferredTransfers ++ [transfer], stage.vectors.deferredSequences ++ [sequence]⟩
        fed := stage.fed ++ [⟨sequence, event, transferId, false⟩] }
  | spawned {event sequence endOfBatch transferId now transfer}
      (built : buildTransfer transferId event = .ok transfer) :
      Moves stage (.feed event sequence endOfBatch transferId now) { stage with
        vectors := ⟨none, [], []⟩
        tasks := stage.tasks ++ [⟨⟨stage.vectors.deferredSequences, sequence, stage.vectors.deferredTransfers ++ [transfer],
          stage.vectors.deferredTransfers.length⟩, .running 0, []⟩]
        fed := stage.fed ++ [⟨sequence, event, transferId, false⟩] }
  | called {index attempt batch calls replies} (found : stage.tasks[index]? = some ⟨batch, .running attempt, calls⟩)
      (answered : replies.length = batch.allTransfers.length) :
      Moves stage (.call index replies) (stage.setTask index ⟨batch, .afterAttempt attempt replies,
        calls ++ [⟨batch.allTransfers, replies⟩]⟩)
  | recorded {index next position batch calls replies sequence reply}
      (found : stage.tasks[index]? = some ⟨batch, .recording replies next, calls⟩)
      (turn : batch.slot next = some (sequence, position))
      (read : replies[position]? = some reply) :
      Moves stage (.record index) ((stage.setTask index ⟨batch, .recording replies (next + 1),
        calls⟩).store sequence reply)
  | finished {index next batch calls replies}
      (found : stage.tasks[index]? = some ⟨batch, .recording replies next, calls⟩)
      (done : batch.slot next = none) :
      Moves stage (.record index) (stage.setTask index ⟨batch, .finished replies, calls⟩)
  | inserted {sequence result} : Moves stage (.insert sequence result)
        { stage with results := stage.results.insert sequence result }
  | removed {sequence} : Moves stage (.remove sequence) { stage with results := stage.results.remove sequence }
  | taken {sequence ring} (present : stage.ring = some ring) :
      Moves stage (.tryRemove sequence) { stage with ring := some (SlotTable.set ring sequence none) }

variable {stage next : LedgerStage}

theorem feed_moves {event sequence endOfBatch transferId now}
    (fed : (stage.feed event sequence endOfBatch transferId now).1 = next) :
    Moves stage (.feed event sequence endOfBatch transferId now) next := by
  subst fed
  unfold feed LedgerVectors.onEvent
  cases decided : (stage.results sequence).isSome with
  | true => exact .skipped
  | false =>
    simp only [Bool.false_eq_true, ↓reduceIte]
    cases built : buildTransfer transferId event with
    | error => exact .rejected built
    | ok =>
      simp only [LedgerVectors.enqueue]
      split
      · exact .spawned built
      · next waits =>
        refine .deferred built ?_
        simp only [LedgerVectors.shouldFlush, Bool.or_eq_true, decide_eq_true_eq, not_or] at waits
        exact Nat.lt_of_not_le waits.1.2

theorem step_moves {label} (stepped : stage.step label = some next) : Moves stage label next := by
  cases label with
  | feed =>
    refine feed_moves ?_
    simp only [step] at stepped
    split at stepped
    · next fed =>
      split at stepped
      · cases stepped
      · cases stepped
        rw [fed]
    · next fed =>
      cases stepped
      rw [fed]
  | call =>
    simp only [step] at stepped
    split at stepped
    · next found =>
      split at stepped
      · next answered =>
        cases stepped
        exact .called found answered
      · cases stepped
    · cases stepped
  | record =>
    simp only [step] at stepped
    split at stepped
    · next found =>
      split at stepped
      · next turn =>
        cases stepped
        exact .finished found turn
      · next turn =>
        obtain ⟨_, read, rfl⟩ := Option.map_eq_some_iff.mp stepped
        exact .recorded found turn read
    · cases stepped
  | insert | remove =>
    cases stepped
    constructor
  | tryRemove sequence =>
    obtain ⟨taken, removed, rfl⟩ := Option.map_eq_some_iff.mp stepped
    obtain ⟨ring, present, removed⟩ := Option.bind_eq_some_iff.mp removed
    unfold ResultRing.tryRemove at removed
    split at removed
    · cases removed
      exact .taken present
    · cases removed

end Steps

def dispatched (stage : LedgerStage) : List Int :=
  stage.tasks.flatMap fun task => task.batch.sequences

end LedgerStage

end Blazil.Engine

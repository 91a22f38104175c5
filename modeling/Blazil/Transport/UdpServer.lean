import Blazil.Engine.FlushProperties
import Blazil.Engine.ShardedPipeline
import Blazil.Foundation.Bytes

/-! The UDP server (`core/transport/src/udp_transport.rs`) and the UDP server over io_uring
(`core/transport/src/io_uring_transport.rs`). One loop receives packets and publishes their events;
a task for each published event polls the results of a shard. The two servers have the same steps
and differ in their buffers and in the number of tasks they admit. The addresses of the clients are
left out.

The pipeline masks the debit account to pick a shard, the servers take its remainder; a task finds
the result of its event only where the two agree. -/

set_option autoImplicit false

namespace Blazil.Transport

open Blazil.Common Blazil.Engine Foundation

variable {risk : RiskHandler}

def headerSize : Nat := 8

def payloadSize : Nat := 48

def packetSize : Nat := headerSize + payloadSize

def maxInFlight : Nat := 2048

def maxSpinRounds : Nat := 128

def wireLedger : Nat → LedgerId
  | 1 => .eur
  | 2 => .gbp
  | _ => .usd

/-- The common body of `deserialize_event_static` and `udp_deserialize_event`. -/
def deserializePayload (wrongSize : Nat → BlazerError) (bytes : List UInt8) : BlazerResult TransactionEvent :=
  if bytes.length ≠ payloadSize then .error (wrongSize bytes.length)
  else
    .ok { TransactionEvent.new ⟨UInt64.ofNat (beNat (slice bytes 0 8))⟩
        ⟨UInt64.ofNat (beNat (slice bytes 8 16))⟩ ⟨UInt64.ofNat (beNat (slice bytes 16 24))⟩
        (UInt64.ofNat (beNat (slice bytes 24 32))) (wireLedger (beNat (slice bytes 40 44)))
        (UInt16.ofNat (beNat (slice bytes 44 46))) with
      flags := ⟨UInt8.ofNat (beNat (slice bytes 46 47))⟩ }

def deserializeEventStatic : List UInt8 → BlazerResult TransactionEvent :=
  deserializePayload fun size => .internal
    ("Invalid UDP packet size: expected 48 bytes, got " ++ toString size)

def udpDeserializeEvent : List UInt8 → BlazerResult TransactionEvent :=
  deserializePayload fun size => .internal
    ("io_uring UDP: invalid payload size: expected 48, got " ++ toString size)

/-- What one of the two servers does in its own way. -/
structure UdpVariant where
  bufferSize : Nat
  deserialize : List UInt8 → BlazerResult TransactionEvent
  taskLimit : Option Nat

/-- The buffer has the size of a packet, so a longer datagram is cut and not noticed. -/
def UdpVariant.tokio : UdpVariant := ⟨packetSize, deserializeEventStatic, some maxInFlight⟩

def UdpVariant.ioUring : UdpVariant := ⟨2048, udpDeserializeEvent, none⟩

/-- A packet on its way into the pipeline: the sequence in its header, its event and the
shard whose results will be polled. -/
structure Delivery where
  sequence : UInt64
  event : TransactionEvent
  shardId : Nat
deriving DecidableEq

inductive ReceivePhase where
  | receiving
  | spinning (delivery : Delivery) (rounds : Nat)
  | calling (delivery : Delivery)
  | publishing (delivery : Delivery)
  | spawning (delivery : Delivery) (ringSequence : Int)
  | panicked
  | stopped
deriving DecidableEq

/-- A task that polls for the result of a published event, or has sent a response with the
code. -/
structure ResultTask where
  delivery : Delivery
  ringSequence : Int
  code : Option UInt64
deriving DecidableEq

structure UdpServer where
  pipeline : ShardedPipeline
  phase : ReceivePhase
  tasks : List ResultTask

inductive UdpLabel where
  | shutdown
  | receive (datagram : List UInt8)
  | spin
  | check
  | publish
  | spawn
  | poll (task : Nat)
  | timeout (task : Nat)
  | shard (shardId : Nat) (label : RuntimeLabel Unit Unit 1)

/-- The steps of a shard that leave a call of `publish_event` under way as it is. -/
def isShardInternal : RuntimeLabel Unit Unit 1 → Bool
  | .pipeline (.check _ _) => false
  | .pipeline (.publish _) => false
  | _ => true

def resultCode : TransactionResult → UInt64
  | .committed _ => 0
  | .rejected _ => 1

namespace UdpServer

def started (pipeline : ShardedPipeline) : UdpServer := ⟨pipeline, .receiving, []⟩

@[simps]
def setPhase (server : UdpServer) (phase : ReceivePhase) : UdpServer :=
  { server with phase := phase }

@[simps]
def setShard (server : UdpServer) (shardId : Nat) (shard : Shard) : UdpServer :=
  { server with pipeline := server.pipeline.setShard shardId shard }

@[simps]
def setTask (server : UdpServer) (index : Nat) (task : ResultTask) : UdpServer :=
  { server with tasks := server.tasks.set index task }

/-- The shard whose ring buffer takes an event; the access fails if there is none. -/
def shardOf (server : UdpServer) (event : TransactionEvent) : Option Shard :=
  server.pipeline.shards[server.pipeline.route event]?

def inFlight (server : UdpServer) : Nat := server.tasks.countP fun task => task.code.isNone

/-- The shard to poll is the remainder of the account; with no shards this is a division by
zero. -/
def receive (variant : UdpVariant) (server : UdpServer) (datagram : List UInt8) : ReceivePhase :=
  let packet := datagram.take variant.bufferSize
  if packet.length ≠ packetSize then .receiving
  else
    match variant.deserialize (packet.drop headerSize) with
    | .error _ => .receiving
    | .ok event =>
      if server.pipeline.shardCount = 0 then .panicked
      else
        .spinning ⟨UInt64.ofNat (beNat (packet.take headerSize)), event,
          event.debitAccountId.value.toNat % server.pipeline.shardCount⟩ 0

variable [ExternalCrates]

def step (variant : UdpVariant) (risk : RiskHandler) (server : UdpServer) : UdpLabel → Option UdpServer
  | .shutdown =>
    match server.phase with
    | .receiving => some (server.setPhase .stopped)
    | _ => none
  | .receive datagram =>
    match server.phase with
    | .receiving => some (server.setPhase (server.receive variant datagram))
    | _ => none
  | .spin =>
    match server.phase with
    | .spinning delivery rounds =>
      match server.shardOf delivery.event with
      | none => some (server.setPhase .panicked)
      | some shard =>
        if shard.pipeline.ring.hasAvailableCapacity then
          some (server.setPhase (.calling delivery))
        else if maxSpinRounds ≤ rounds then some (server.setPhase .receiving)
        else some (server.setPhase (.spinning delivery (rounds + 1)))
    | _ => none
  | .check =>
    match server.phase with
    | .calling delivery =>
      match server.shardOf delivery.event with
      | none => some (server.setPhase .panicked)
      | some shard =>
        if shard.pipeline.ring.hasAvailableCapacity then
          (shard.step risk (.pipeline (.check () ⟨(), delivery.event⟩))).map fun next =>
            (server.setShard (server.pipeline.route delivery.event) next).setPhase (.publishing delivery)
        else some (server.setPhase .receiving)
    | _ => none
  | .publish =>
    match server.phase with
    | .publishing delivery =>
      match server.shardOf delivery.event with
      | none => none
      | some shard =>
        match shard.pipeline.publishers () with
        | .written _ ringSequence =>
          (shard.step risk (.pipeline (.publish ()))).map fun next =>
            (server.setShard (server.pipeline.route delivery.event) next).setPhase (.spawning delivery ringSequence)
        | _ => none
    | _ => none
  | .spawn =>
    match server.phase with
    | .spawning delivery ringSequence =>
      if ∀ limit ∈ variant.taskLimit, server.inFlight < limit then
        some { server.setPhase .receiving with
          tasks := server.tasks ++ [⟨delivery, ringSequence, none⟩] }
      else none
    | _ => none
  | .poll index =>
    match server.tasks[index]? with
    | some ⟨delivery, ringSequence, none⟩ =>
      match server.pipeline.shardResults delivery.shardId with
      | none => none
      | some results =>
        match results ringSequence with
        | none => none
        | some result =>
          some (server.setTask index ⟨delivery, ringSequence, some (resultCode result)⟩)
    | _ => none
  | .timeout index =>
    match server.tasks[index]? with
    | some ⟨delivery, ringSequence, none⟩ =>
      some (server.setTask index ⟨delivery, ringSequence, some 1⟩)
    | _ => none
  | .shard shardId label =>
    if isShardInternal label then
      match server.pipeline.shards[shardId]? with
      | none => none
      | some shard => (shard.step risk label).map (server.setShard shardId)
    else none

def system (variant : UdpVariant) (risk : RiskHandler) : System UdpServer UdpLabel :=
  ⟨step variant risk⟩

end UdpServer

open Foundation.System

def ReceivePhase.delivery? : ReceivePhase → Option Delivery
  | .spinning delivery _ | .calling delivery | .publishing delivery | .spawning delivery _ =>
    some delivery
  | .receiving | .panicked | .stopped => none

def ReceivePhase.isHandedOver : ReceivePhase → Bool
  | .publishing _ | .spawning _ _ => true
  | _ => false

/-- The shard to poll is the remainder of the debit account. -/
def Delivery.Assigned (delivery : Delivery) (shardCount : Nat) : Prop :=
  delivery.shardId = delivery.event.debitAccountId.value.toNat % shardCount

namespace UdpServer

/-- A task polls a shard in which its event was published with its sequence. -/
def LooksUpOwn (server : UdpServer) (task : ResultTask) : Prop :=
  server.pipeline.HasPublished task.delivery.shardId task.delivery.event task.ringSequence

instance (server : UdpServer) (task : ResultTask) : Decidable (server.LooksUpOwn task) :=
  inferInstanceAs (Decidable (server.pipeline.HasPublished _ _ _))

section Steps

variable [ExternalCrates]

inductive Moves (variant : UdpVariant) (risk : RiskHandler) (server : UdpServer) : UdpLabel → UdpServer → Prop where
  | turn {label} (phase : ReceivePhase) (before : phase.isHandedOver = false)
      (carried : ∀ delivery ∈ phase.delivery?, server.phase.delivery? = some delivery ∨
        delivery.Assigned server.pipeline.shardCount) :
      Moves variant risk server label (server.setPhase phase)
  | check {delivery shard next} (calling : server.phase = .calling delivery)
      (found : server.shardOf delivery.event = some shard)
      (room : shard.pipeline.ring.hasAvailableCapacity = true)
      (stepped : shard.step risk (.pipeline (.check () ⟨(), delivery.event⟩)) = some next) :
      Moves variant risk server .check ((server.setShard (server.pipeline.route delivery.event) next).setPhase
          (.publishing delivery))
  | publish {delivery shard next job ringSequence} (publishing : server.phase = .publishing delivery)
      (found : server.shardOf delivery.event = some shard)
      (written : shard.pipeline.publishers () = .written job ringSequence)
      (stepped : shard.step risk (.pipeline (.publish ())) = some next) :
      Moves variant risk server .publish ((server.setShard (server.pipeline.route delivery.event) next).setPhase
          (.spawning delivery ringSequence))
  | spawn {delivery ringSequence} (spawning : server.phase = .spawning delivery ringSequence) :
      Moves variant risk server .spawn
        { server.setPhase .receiving with
          tasks := server.tasks ++ [⟨delivery, ringSequence, none⟩] }
  | answer {label index delivery ringSequence}
      (waiting : server.tasks[index]? = some ⟨delivery, ringSequence, none⟩) (code : UInt64) :
      Moves variant risk server label (server.setTask index ⟨delivery, ringSequence, some code⟩)
  | shard {shardId label shard next} (internal : isShardInternal label = true)
      (found : server.pipeline.shards[shardId]? = some shard)
      (stepped : shard.step risk label = some next) :
      Moves variant risk server (.shard shardId label) (server.setShard shardId next)

variable {variant : UdpVariant} {server : UdpServer} {label : UdpLabel}

theorem Moves.drop (phase : ReceivePhase) (before : phase.isHandedOver = false) (nothing : phase.delivery? = none) :
    Moves variant risk server label (server.setPhase phase) := by
  refine .turn phase before ?_
  intro delivery held
  rw [nothing] at held
  cases held

theorem Moves.carry (phase : ReceivePhase) (before : phase.isHandedOver = false)
    (same : server.phase.delivery? = phase.delivery?) : Moves variant risk server label (server.setPhase phase) :=
  .turn phase before fun _ held => .inl (same.trans held)

theorem receive_moves (datagram : List UInt8) :
    Moves variant risk server label (server.setPhase (server.receive variant datagram)) := by
  unfold receive
  dsimp only
  split
  · exact .drop _ rfl rfl
  · split
    · exact .drop _ rfl rfl
    · split
      · exact .drop _ rfl rfl
      · refine .turn _ rfl ?_
        intro delivery held
        cases held
        exact .inr rfl

theorem step_moves {next : UdpServer} (stepped : server.step variant risk label = some next) :
    Moves variant risk server label next := by
  cases label with simp only [step] at stepped
  | shutdown =>
    split at stepped
    · cases stepped
      exact .drop _ rfl rfl
    · cases stepped
  | receive datagram =>
    split at stepped
    · cases stepped
      exact receive_moves datagram
    · cases stepped
  | spin =>
    split at stepped
    · next delivery rounds spinning =>
      have carried := congrArg ReceivePhase.delivery? spinning
      split at stepped
      · cases stepped
        exact .drop _ rfl rfl
      · split at stepped
        · cases stepped
          exact .carry _ rfl carried
        · split at stepped
          · cases stepped
            exact .drop _ rfl rfl
          · cases stepped
            exact .carry _ rfl carried
    · cases stepped
  | check =>
    split at stepped
    · next delivery calling =>
      split at stepped
      · cases stepped
        exact .drop _ rfl rfl
      · next shard found =>
        split at stepped
        · next room =>
          obtain ⟨_, moved, rfl⟩ := Option.map_eq_some_iff.mp stepped
          exact .check calling found room moved
        · cases stepped
          exact .drop _ rfl rfl
    · cases stepped
  | publish =>
    split at stepped
    · next delivery publishing =>
      split at stepped
      · cases stepped
      · next shard found =>
        split at stepped
        · next written =>
          obtain ⟨_, moved, rfl⟩ := Option.map_eq_some_iff.mp stepped
          exact .publish publishing found written moved
        · cases stepped
    · cases stepped
  | spawn =>
    split at stepped
    · next spawning =>
      split at stepped
      · cases stepped
        exact .spawn spawning
      · cases stepped
    · cases stepped
  | poll =>
    split at stepped
    · next waiting =>
      split at stepped
      · cases stepped
      · split at stepped
        · cases stepped
        · cases stepped
          exact .answer waiting _
    · cases stepped
  | timeout =>
    split at stepped
    · next waiting =>
      cases stepped
      exact .answer waiting _
    · cases stepped
  | shard =>
    split at stepped
    · next internal =>
      split at stepped
      · cases stepped
      · next found =>
        obtain ⟨_, moved, rfl⟩ := Option.map_eq_some_iff.mp stepped
        exact .shard internal found moved
    · cases stepped

end Steps

/-- The event of every task was published in the shard it was routed to, and the task polls
the shard of the remainder; a packet under way is about to become such a task. -/
structure Dispatched (server : UdpServer) : Prop where
  homed : server.pipeline.Homed
  assigned : ∀ delivery ∈ server.phase.delivery?, delivery.Assigned server.pipeline.shardCount
  begun : ∀ delivery, server.phase = .publishing delivery → ∃ shard, server.shardOf delivery.event = some shard ∧
      (shard.pipeline.publishers ()).event? = some ⟨(), delivery.event⟩
  spawning : ∀ delivery ringSequence, server.phase = .spawning delivery ringSequence →
    server.pipeline.HasPublished (server.pipeline.route delivery.event) delivery.event ringSequence
  tasks : ∀ task ∈ server.tasks, task.delivery.Assigned server.pipeline.shardCount ∧
    server.pipeline.HasPublished (server.pipeline.route task.delivery.event) task.delivery.event task.ringSequence

theorem dispatched_started {shardCount capacity blank pipeline}
    (built : ShardedPipeline.new shardCount capacity blank = .ok pipeline) : (started pipeline).Dispatched where
  homed := ShardedPipeline.homed_new built
  assigned _ held := by cases held
  begun _ phase := by cases phase
  spawning _ _ phase := by cases phase
  tasks _ member := by cases member

variable {server : UdpServer}

private theorem Dispatched.setShard {index shard next phase}
    (dispatched : server.Dispatched) (found : server.pipeline.shards[index]? = some shard)
    (same : next.pipeline.published = shard.pipeline.published) (held : phase.delivery? = server.phase.delivery?)
    (begun : ∀ delivery, phase = .publishing delivery →
      ∃ later, (server.setShard index next).shardOf delivery.event = some later ∧
      (later.pipeline.publishers ()).event? = some ⟨(), delivery.event⟩)
    (spawning : ∀ delivery ringSequence, phase = .spawning delivery ringSequence →
      server.phase = .spawning delivery ringSequence) : ((server.setShard index next).setPhase phase).Dispatched := by
  have published : ∀ shardId event sequence, (server.pipeline.setShard index next).HasPublished shardId event sequence ↔
        server.pipeline.HasPublished shardId event sequence := by
    intro shardId event sequence
    rw [ShardedPipeline.hasPublished_setShard found (by rw [same, List.append_nil])]
    simp
  refine ⟨?_, ?_, begun, ?_, ?_⟩
  · intro shardId event sequence present
    simp only [setPhase_pipeline, setShard_pipeline, ShardedPipeline.route_setShard, published]
      at present ⊢
    exact dispatched.homed shardId event sequence present
  · intro delivery carried
    simp only [setPhase_pipeline, setShard_pipeline, ShardedPipeline.shardCount_setShard]
    exact dispatched.assigned delivery (held ▸ carried)
  · intro delivery ringSequence phase
    simp only [setPhase_pipeline, setShard_pipeline, ShardedPipeline.route_setShard, published]
    exact dispatched.spawning delivery ringSequence (spawning delivery ringSequence phase)
  · intro task member
    simp only [setPhase_pipeline, setShard_pipeline, ShardedPipeline.route_setShard, published,
      ShardedPipeline.shardCount_setShard]
    exact dispatched.tasks task member

theorem Dispatched.looksUpOwn_iff {task} (dispatched : server.Dispatched) (member : task ∈ server.tasks) :
    server.LooksUpOwn task ↔ server.pipeline.route task.delivery.event =
        task.delivery.event.debitAccountId.value.toNat % server.pipeline.shardCount := by
  obtain ⟨assigned, published⟩ := dispatched.tasks task member
  constructor
  · intro own
    exact (dispatched.homed _ _ _ own).trans assigned
  · intro agree
    rw [agree, ← assigned] at published
    exact published

theorem shardOf_setShard {event shard} (found : server.shardOf event = some shard)
    (next : Shard) : (server.setShard (server.pipeline.route event) next).shardOf event = some next := by
  have bound := entry_lt found
  rw [shardOf, setShard_pipeline, ShardedPipeline.route_setShard]
  exact List.getElem?_set_self bound

section Steps

variable [ExternalCrates] {server : UdpServer} {shard : Shard} {variant : UdpVariant} {next : UdpServer} {label : UdpLabel}

section

variable (dispatched : server.Dispatched)
include dispatched

private theorem dispatched_publish {delivery : Delivery} {next : Shard} {job : Job Unit} {ringSequence : Int}
    (publishing : server.phase = .publishing delivery)
    (found : server.shardOf delivery.event = some shard) (written : shard.pipeline.publishers () = .written job ringSequence)
    (stepped : shard.step risk (.pipeline (.publish ())) = some next) :
    ((server.setShard (server.pipeline.route delivery.event) next).setPhase (.spawning delivery ringSequence)).Dispatched := by
  obtain ⟨_, again, carried⟩ := dispatched.begun delivery publishing
  cases entry_unique found again
  have own : job = ⟨(), delivery.event⟩ := by
    rw [written] at carried
    exact Option.some.inj carried
  subst own
  have grown : next.pipeline.published = shard.pipeline.published ++ [⟨(), ringSequence, ⟨(), delivery.event⟩⟩] := by
    rw [Runtime.step_publish written stepped]
    rfl
  have published : ∀ shardId event sequence,
      (server.pipeline.setShard (server.pipeline.route delivery.event) next).HasPublished shardId event sequence ↔
        server.pipeline.HasPublished shardId event sequence ∨
          shardId = server.pipeline.route delivery.event ∧ ringSequence = sequence ∧ delivery.event = event := by
    intro shardId event sequence
    rw [ShardedPipeline.hasPublished_setShard found grown]
    simp
  refine ⟨?_, ?_, ?_, ?_, ?_⟩
  · intro shardId event sequence present
    simp only [setPhase_pipeline, setShard_pipeline, ShardedPipeline.route_setShard, published]
      at present ⊢
    rcases present with earlier | ⟨same, _, rfl⟩
    · exact dispatched.homed shardId event sequence earlier
    · exact same.symm
  · intro other held
    cases held
    simp only [setPhase_pipeline, setShard_pipeline, ShardedPipeline.shardCount_setShard]
    exact dispatched.assigned delivery (congrArg ReceivePhase.delivery? publishing)
  · intro other phase
    cases phase
  · intro other sequence phase
    cases phase
    rw [setPhase_pipeline, setShard_pipeline, ShardedPipeline.route_setShard, published]
    exact .inr ⟨rfl, rfl, rfl⟩
  · intro task member
    simp only [setPhase_pipeline, setShard_pipeline, ShardedPipeline.route_setShard, published,
      ShardedPipeline.shardCount_setShard]
    obtain ⟨assigned, present⟩ := dispatched.tasks task member
    exact ⟨assigned, .inl present⟩

private theorem dispatched_shard {shardId label next} (internal : isShardInternal label = true)
    (found : server.pipeline.shards[shardId]? = some shard)
    (stepped : shard.step risk label = some next) : (server.setShard shardId next).Dispatched := by
  obtain ⟨same, carried⟩ : next.pipeline.published = shard.pipeline.published ∧
      ∀ task, (next.pipeline.publishers task).event? = (shard.pipeline.publishers task).event? := by
    refine Runtime.publishers_of_step ?_ ?_ stepped
    · rintro _ _ rfl
      cases internal
    · rintro _ rfl
      cases internal
  refine dispatched.setShard found same rfl ?_ fun _ _ phase => phase
  intro delivery publishing
  obtain ⟨called, calledFound, event⟩ := dispatched.begun delivery publishing
  by_cases routed : server.pipeline.route delivery.event = shardId
  · subst routed
    cases entry_unique found calledFound
    exact ⟨next, shardOf_setShard found next, (carried ()).trans event⟩
  · refine ⟨called, ?_, event⟩
    rw [shardOf, setShard_pipeline, ShardedPipeline.route_setShard]
    exact (List.getElem?_set_ne (Ne.symm routed)).trans calledFound

theorem Dispatched.step (stepped : server.step variant risk label = some next) : next.Dispatched := by
  cases step_moves stepped with
  | turn phase before carried =>
    refine { dispatched with assigned := ?_, begun := ?_, spawning := ?_ }
    · intro delivery held
      rcases carried delivery held with earlier | fresh
      · exact dispatched.assigned delivery earlier
      · exact fresh
    · intro delivery publishing
      change phase = _ at publishing
      rw [publishing] at before
      cases before
    · intro delivery ringSequence spawning
      change phase = _ at spawning
      rw [spawning] at before
      cases before
  | @check _ _ after calling found room moved =>
    have made := Runtime.step_check room moved
    refine dispatched.setShard found (by rw [made]; rfl) ?_ ?_ ?_
    · exact (congrArg ReceivePhase.delivery? calling).symm
    · intro other publishing
      cases publishing
      refine ⟨after, shardOf_setShard found after, ?_⟩
      rw [made]
      rfl
    · intro other ringSequence spawning
      cases spawning
  | publish publishing found written moved =>
    exact dispatched_publish dispatched publishing found written moved
  | @spawn delivery ringSequence spawning =>
    refine { dispatched with assigned := ?_, begun := ?_, spawning := ?_, tasks := ?_ }
    · intro other held
      cases held
    · intro other publishing
      cases publishing
    · intro other sequence phase
      cases phase
    · refine holds_after_concat dispatched.tasks ?_
      exact ⟨dispatched.assigned delivery (congrArg ReceivePhase.delivery? spawning),
        dispatched.spawning delivery ringSequence spawning⟩
  | answer waiting =>
    have own := dispatched.tasks _ (List.mem_of_getElem? waiting)
    exact { dispatched with tasks := holds_after_set dispatched.tasks own }
  | shard internal found moved => exact dispatched_shard dispatched internal found moved

end

theorem shardCount_step
    (stepped : server.step variant risk label = some next) : next.pipeline.shardCount = server.pipeline.shardCount := by
  cases step_moves stepped with
  | turn | spawn | answer => rfl
  | check | publish | shard => exact ShardedPipeline.shardCount_setShard _ _ _

/-- In every run of either server, a task polls the shard in which its event was published
exactly if masking and remainder agree for the debit account; they agree for all accounts
exactly if the count of shards is a power of two. -/
theorem udpTask_polls_routed_shard_iff {variant : UdpVariant} {risk : RiskHandler} {shardCount capacity : Nat}
    {blank : Nat → Job Unit} {pipeline : ShardedPipeline}
    (built : ShardedPipeline.new shardCount capacity blank = .ok pipeline) (small : shardCount < 2 ^ 64) :
    (∀ server, (system variant risk).Reachable (started pipeline) server →
      ∀ task ∈ server.tasks, server.LooksUpOwn task ↔ routeToShard task.delivery.event.debitAccountId.value shardCount =
          task.delivery.event.debitAccountId.value.toNat % shardCount) ∧
    (0 < shardCount → ((∀ accountId, routeToShard accountId shardCount = accountId.toNat % shardCount) ↔
        isPowerOfTwo shardCount = true)) := by
  refine ⟨?_, fun positive => routeToShard_eq_mod_iff positive small⟩
  intro server reached task member
  obtain ⟨dispatched, count⟩ : server.Dispatched ∧ server.pipeline.shardCount = shardCount := by
    refine reached.invariant (fun server => server.Dispatched ∧ server.pipeline.shardCount = shardCount)
      ⟨dispatched_started built, (ShardedPipeline.new_ok built).1⟩ ?_
    intro before label after _ stepped invariant
    exact ⟨invariant.1.step stepped, (shardCount_step stepped).trans invariant.2⟩
  have agree := dispatched.looksUpOwn_iff member
  rwa [ShardedPipeline.route, count] at agree

end Steps

open Blazil.Engine.Runtime (unlimited)

def packetFrom (debit credit : Nat) : List UInt8 :=
  beBytes 8 7 ++ beBytes 8 1 ++ beBytes 8 debit ++ beBytes 8 credit ++ beBytes 8 1000 ++
    beBytes 8 0 ++ beBytes 4 0 ++ beBytes 2 1 ++ [0, 0]

def blankJob : Job Unit := ⟨(), .new ⟨0⟩ ⟨0⟩ ⟨0⟩ 0 .usd 0⟩

def shardsOf (count : Nat) : ShardedPipeline :=
  ⟨List.replicate count (.started (.started Unit (.fresh 1 isPowerOfTwo_four fun _ => blankJob)))⟩

def deliver (datagram : List UInt8) (shardId : Nat) : List UdpLabel :=
  [.receive datagram, .spin, .check, .shard shardId (.pipeline (.claim ())),
    .shard shardId (.pipeline (.write ())), .publish, .spawn]

def commit (shardId : Nat) (transfer : Ledger.Transfer) : List UdpLabel :=
  [.shard shardId (.pipeline (.poll ⟨0, Nat.one_pos⟩)), .shard shardId (.drain ⟨0, Nat.one_pos⟩ transfer.id 0),
    .shard shardId (.attempt 0 [(0, transfer)] [.ok transfer.id]),
    .shard shardId (.record 0)]

def tenDollarTransfer (debit credit : UInt64) : Ledger.Transfer :=
  ⟨⟨10⟩, ⟨debit⟩, ⟨credit⟩, ⟨.ofUInt64 10, ⟨"USD"⟩⟩, .usd, 1, {}, none⟩

theorem new_two : ShardedPipeline.new 2 4 (fun _ => blankJob) = .ok (shardsOf 2) := rfl

/-- With three shards, the event of account 1 is committed in shard 0; its task polls shard 1
until the timeout and reports a rejection. -/
theorem threeShards_committed_event_unseen : ShardedPipeline.new 3 4 (fun _ => blankJob) = .ok (shardsOf 3) ∧
    ∃ server, (@system referenceCrates .tokio unlimited).Reachable (started (shardsOf 3)) server ∧
      ∃ task ∈ server.tasks, ¬server.LooksUpOwn task ∧ task.code = some 1 ∧
        server.pipeline.HasPublished 0 task.delivery.event task.ringSequence ∧
        (server.pipeline.shardResults 0).bind (fun results => results task.ringSequence) = some (.committed ⟨10⟩) := by
  refine ⟨rfl, ?_⟩
  exact exists_reachable_of_run (@system referenceCrates .tokio unlimited) (started (shardsOf 3))
    (deliver (packetFrom 1 2) 0 ++ commit 0 (tenDollarTransfer 1 2) ++ [.timeout 0]) _
    (by decide)

/-- With two shards, the event of account 3 is committed in shard 1, which its task polls. -/
theorem twoShards_committed_event_reported :
    ∃ server, (@system referenceCrates .ioUring unlimited).Reachable (started (shardsOf 2)) server ∧
      ∃ task ∈ server.tasks, server.LooksUpOwn task ∧ task.code = some 0 := by
  obtain ⟨server, reached, task, member, account, code⟩ :=
    exists_reachable_of_run (@system referenceCrates .ioUring unlimited) (started (shardsOf 2))
      (deliver (packetFrom 3 4) 1 ++ commit 1 (tenDollarTransfer 3 4) ++ [.poll 0])
      (fun server => ∃ task ∈ server.tasks, task.delivery.event.debitAccountId.value = 3 ∧ task.code = some 0) (by decide)
  have own := (@udpTask_polls_routed_shard_iff referenceCrates .ioUring unlimited _ _ _ _ new_two
    (by decide)).1 server reached task member
  rw [account] at own
  exact ⟨server, reached, task, member, own.mpr (by decide), code⟩

end UdpServer

end Blazil.Transport

import Blazil.Engine.Settlement
import Blazil.Transport.Connection

/-! The TCP server (`core/transport/src/tcp.rs` and `connection.rs`): connection tasks that share
one engine. An exchange is one turn of the loop in `handle_connection`, that is a frame and how far
the server has come with it. A frame is decoded outside the model, so a label carries the decoded
request or the decoding error. How the stages of the exchanges fit the engine that they share: each
exchange publishes at most one event, and the engine inside the server runs as an engine does. -/

set_option autoImplicit false

namespace Blazil.Transport

open Blazil.Common Blazil.Engine Foundation

inductive Stage where
  | ready (event : TransactionEvent)
  | publishing
  | waiting (sequence : Int)
  | answered (response : TransactionResponse)
deriving DecidableEq

def Stage.isAnswered : Stage → Bool
  | .answered _ => true
  | _ => false

def Stage.isPast : Stage → Bool
  | .waiting _ | .answered _ => true
  | .ready _ | .publishing => false

structure Exchange (Connection : Type) where
  connection : Connection
  payload : BlazerResult TransactionRequest
  stage : Stage

/-- The id that is echoed in a response; a frame that cannot be decoded has none. -/
def payloadId : BlazerResult TransactionRequest → String
  | .ok request => request.requestId
  | .error _ => ""

/-- The engine marks each event with the exchange that made it. -/
structure Server (Connection : Type) (numShards : Nat) where
  runtime : Runtime Nat (Option Nat) numShards
  exchanges : List (Exchange Connection)

inductive ServerLabel (Connection : Type) (numShards : Nat) where
  | receive (connection : Connection) (payload : BlazerResult TransactionRequest) (freshId : TransactionId)
  | check (exchange : Nat)
  | publish (exchange : Nat)
  | poll (exchange : Nat)
  | timeout (exchange : Nat)
  | engine (label : RuntimeLabel Nat (Option Nat) numShards)

/-- The steps of the engine that leave every exchange in its stage. -/
def isInternal {numShards : Nat} : RuntimeLabel Nat (Option Nat) numShards → Bool
  | .pipeline (.check _ _) => false
  | .pipeline (.publish _) => false
  | _ => true

namespace Server

variable {Connection : Type} {numShards : Nat}

def started (pipeline : Pipeline Nat (Job (Option Nat)) numShards) : Server Connection numShards :=
  ⟨.started pipeline, []⟩

def stageAt (server : Server Connection numShards) (index : Nat) : Option Stage :=
  server.exchanges[index]?.map fun exchange => exchange.stage

def payloadAt (server : Server Connection numShards) (index : Nat) : Option (BlazerResult TransactionRequest) :=
  server.exchanges[index]?.map fun exchange => exchange.payload

@[simps]
def setRuntime (server : Server Connection numShards)
    (runtime : Runtime Nat (Option Nat) numShards) : Server Connection numShards :=
  { server with runtime := runtime }

@[simps]
def setStage (server : Server Connection numShards) (index : Nat) (stage : Stage) : Server Connection numShards :=
  { server with
    exchanges := server.exchanges.modify index fun exchange => { exchange with stage := stage } }

@[simps]
def addExchange (server : Server Connection numShards) (exchange : Exchange Connection) : Server Connection numShards :=
  { server with exchanges := server.exchanges ++ [exchange] }

theorem stageAt_of_found {server : Server Connection numShards} {index : Nat} {exchange : Exchange Connection}
    (found : server.exchanges[index]? = some exchange) : server.stageAt index = some exchange.stage := by
  rw [stageAt, found]
  rfl

section Steps

variable [ExternalCrates] [DecidableEq Connection]

/-- A frame that is no request, or a request that has no event, is answered at once. -/
def received (freshId : TransactionId) (payload : BlazerResult TransactionRequest) : Stage :=
  match payload with
  | .error reason => .answered (errorResponse "" reason)
  | .ok request =>
    match buildEvent freshId request with
    | .error reason => .answered (errorResponse request.requestId reason)
    | .ok event => .ready event

/-- A connection reads its next frame only when it has answered the last one. The wait
may end without a result at any time. -/
def step (risk : RiskHandler) (server : Server Connection numShards) :
    ServerLabel Connection numShards → Option (Server Connection numShards)
  | .receive connection payload freshId =>
    if ∀ exchange ∈ server.exchanges,
        exchange.connection = connection → exchange.stage.isAnswered = true then
      some (server.addExchange ⟨connection, payload, received freshId payload⟩)
    else none
  | .check index =>
    match server.exchanges[index]? with
    | some ⟨_, payload, .ready event⟩ =>
      if server.runtime.pipeline.ring.hasAvailableCapacity then
        (server.runtime.step risk (.pipeline (.check index ⟨some index, event⟩))).map
          fun next => (server.setRuntime next).setStage index .publishing
      else
        some (server.setStage index (.answered (errorResponse (payloadId payload) (.ringBufferFull 1))))
    | _ => none
  | .publish index =>
    match server.stageAt index, server.runtime.pipeline.publishers index with
    | some .publishing, .written _ sequence =>
      (server.runtime.step risk (.pipeline (.publish index))).map fun next =>
        (server.setRuntime next).setStage index (.waiting sequence)
    | _, _ => none
  | .poll index =>
    match server.exchanges[index]? with
    | some ⟨_, payload, .waiting sequence⟩ =>
      match server.runtime.results sequence with
      | some result =>
        some (server.setStage index (.answered (buildResponse (payloadId payload) result)))
      | none => some server
    | _ => none
  | .timeout index =>
    match server.exchanges[index]? with
    | some ⟨_, payload, .waiting _⟩ =>
      some (server.setStage index (.answered (timeoutResponse (payloadId payload))))
    | _ => none
  | .engine label =>
    if isInternal label then (server.runtime.step risk label).map server.setRuntime else none

def system (risk : RiskHandler) : System (Server Connection numShards) (ServerLabel Connection numShards) :=
  ⟨step risk⟩

inductive Moves (risk : RiskHandler) (server : Server Connection numShards) :
    ServerLabel Connection numShards → Server Connection numShards → Prop where
  | receive {connection payload freshId} :
      Moves risk server (.receive connection payload freshId) (server.addExchange ⟨connection, payload, received freshId payload⟩)
  | check {index event next} (ready : server.stageAt index = some (.ready event))
      (room : server.runtime.pipeline.ring.hasAvailableCapacity = true)
      (stepped : server.runtime.step risk (.pipeline (.check index ⟨some index, event⟩)) = some next) :
      Moves risk server (.check index) ((server.setRuntime next).setStage index .publishing)
  | busy {index event requestId} (ready : server.stageAt index = some (.ready event))
      (full : ¬server.runtime.pipeline.ring.hasAvailableCapacity = true) :
      Moves risk server (.check index) (server.setStage index (.answered (errorResponse requestId (.ringBufferFull 1))))
  | publish {index job sequence next} (publishing : server.stageAt index = some .publishing)
      (written : server.runtime.pipeline.publishers index = .written job sequence)
      (stepped : server.runtime.step risk (.pipeline (.publish index)) = some next) :
      Moves risk server (.publish index) ((server.setRuntime next).setStage index (.waiting sequence))
  | answer {index sequence requestId result} (waiting : server.stageAt index = some (.waiting sequence))
      (known : server.runtime.results sequence = some result) :
      Moves risk server (.poll index) (server.setStage index (.answered (buildResponse requestId result)))
  | pending {index sequence} (waiting : server.stageAt index = some (.waiting sequence))
      (unknown : server.runtime.results sequence = none) : Moves risk server (.poll index) server
  | timeout {index sequence requestId} (waiting : server.stageAt index = some (.waiting sequence)) :
      Moves risk server (.timeout index) (server.setStage index (.answered (timeoutResponse requestId)))
  | engine {label next} (internal : isInternal label = true)
      (stepped : server.runtime.step risk label = some next) :
      Moves risk server (.engine label) (server.setRuntime next)

theorem step_moves {risk : RiskHandler} {server next : Server Connection numShards} {label : ServerLabel Connection numShards}
    (stepped : server.step risk label = some next) : Moves risk server label next := by
  cases label with simp only [step] at stepped
  | receive =>
    split at stepped
    · cases stepped
      exact .receive
    · cases stepped
  | check =>
    split at stepped
    · next connection payload event found =>
      split at stepped
      · next room =>
        obtain ⟨_, moved, rfl⟩ := Option.map_eq_some_iff.mp stepped
        exact .check (stageAt_of_found found) room moved
      · next full =>
        cases stepped
        exact .busy (stageAt_of_found found) full
    · cases stepped
  | publish =>
    split at stepped
    · next job sequence publishing written =>
      obtain ⟨_, moved, rfl⟩ := Option.map_eq_some_iff.mp stepped
      exact .publish publishing written moved
    · cases stepped
  | poll =>
    split at stepped
    · next connection payload sequence found =>
      split at stepped
      · next result known =>
        cases stepped
        exact .answer (stageAt_of_found found) known
      · next unknown =>
        cases stepped
        exact .pending (stageAt_of_found found) unknown
    · cases stepped
  | timeout =>
    split at stepped
    · next connection payload sequence found =>
      cases stepped
      exact .timeout (stageAt_of_found found)
    · cases stepped
  | engine =>
    split at stepped
    · next internal =>
      obtain ⟨_, moved, rfl⟩ := Option.map_eq_some_iff.mp stepped
      exact .engine internal moved
    · cases stepped

end Steps

end Server

end Blazil.Transport

namespace Blazil.Transport.Server

open Blazil.Common Blazil.Engine Foundation

variable {Connection : Type} {numShards : Nat}

section

variable (server : Server Connection numShards)
include server

@[simp] theorem stageAt_setRuntime (runtime : Runtime Nat (Option Nat) numShards) (index : Nat) :
    (server.setRuntime runtime).stageAt index = server.stageAt index := rfl

@[simp] theorem payloadAt_setRuntime (runtime : Runtime Nat (Option Nat) numShards) (index : Nat) :
    (server.setRuntime runtime).payloadAt index = server.payloadAt index := rfl

theorem stageAt_setStage (index other : Nat) (stage : Stage) : (server.setStage index stage).stageAt other =
      if other = index then (server.stageAt index).map fun _ => stage else server.stageAt other := by
  unfold stageAt setStage
  rw [List.getElem?_modify]
  by_cases same : other = index
  · subst same
    cases server.exchanges[other]? <;> simp
  · simp [same, Ne.symm same]

@[simp] theorem payloadAt_setStage (index other : Nat) (stage : Stage) :
    (server.setStage index stage).payloadAt other = server.payloadAt other := by
  unfold payloadAt setStage
  rw [List.getElem?_modify]
  cases server.exchanges[other]? with
  | none => rfl
  | some => by_cases same : index = other <;> simp [same]

theorem stageAt_addExchange (exchange : Exchange Connection) (index : Nat) : (server.addExchange exchange).stageAt index =
      if index = server.exchanges.length then some exchange.stage else server.stageAt index := by
  unfold stageAt addExchange
  rw [List.getElem?_append]
  split
  · next inside => rw [if_neg (by omega)]
  · next outside =>
    by_cases last : index = server.exchanges.length
    · simp [last]
    · rw [if_neg last, List.getElem?_eq_none (show _ ≤ index by omega)]
      simp only [Option.map_none, Option.map_eq_none_iff]
      exact List.getElem?_eq_none (by simp; omega)

theorem stageAt_length : server.stageAt server.exchanges.length = none := by
  simp [stageAt]

end

variable {server : Server Connection numShards} {index : Nat} {stage : Stage} {risk : RiskHandler}

theorem payloadAt_addExchange (exchange : Exchange Connection) (known : server.stageAt index = some stage) :
    (server.addExchange exchange).payloadAt index = server.payloadAt index := by
  obtain ⟨_, present, _⟩ := Option.map_eq_some_iff.mp known
  unfold payloadAt addExchange
  rw [List.getElem?_append_left (entry_lt present)]

structure Linked (server : Server Connection numShards) : Prop where
  publishing : ∀ index, server.stageAt index = some .publishing ↔ (server.runtime.pipeline.publishers index).event?.isSome = true
  carried : ∀ index, ∀ job ∈ (server.runtime.pipeline.publishers index).event?, job.tag = some index
  published : ∀ entry ∈ server.runtime.pipeline.published, ∃ stage, server.stageAt entry.task = some stage ∧ stage.isPast = true
  waiting : ∀ index sequence, server.stageAt index = some (.waiting sequence) →
    ∀ entry ∈ server.runtime.pipeline.published, entry.task = index → entry.sequence = sequence
  marked : ∀ entry ∈ server.runtime.pipeline.published, entry.event.tag = some entry.task
  single : ∀ first ∈ server.runtime.pipeline.published, ∀ second ∈ server.runtime.pipeline.published, first.task = second.task →
      first.sequence = second.sequence

theorem linked_started (pipeline : Pipeline Nat (Job (Option Nat)) numShards) (idle : ∀ task, pipeline.publishers task = .idle)
    (unused : pipeline.published = []) : (started pipeline : Server Connection numShards).Linked := by
  constructor <;> simp [started, stageAt, Runtime.started, idle, unused, Publisher.event?]

private theorem linked_answer (response : TransactionResponse)
    (linked : server.Linked) (current : server.stageAt index = some stage)
    (outside : stage ≠ .publishing) : (server.setStage index (.answered response)).Linked := by
  have quiet : ¬(server.runtime.pipeline.publishers index).event?.isSome = true := by
    intro busy
    rw [(linked.publishing index).mpr busy] at current
    cases current
    exact outside rfl
  refine ⟨?_, linked.carried, ?_, ?_, linked.marked, linked.single⟩
  · intro other
    rw [stageAt_setStage]
    split
    · next same => simp [same, current, quiet]
    · exact linked.publishing other
  · intro entry member
    obtain ⟨past, found, published⟩ := linked.published entry member
    rw [stageAt_setStage]
    split
    · exact ⟨.answered response, by simp [current], rfl⟩
    · exact ⟨past, found, published⟩
  · intro other sequence waiting
    rw [stageAt_setStage] at waiting
    split at waiting
    · simp [current] at waiting
    · exact linked.waiting other sequence waiting

section

variable (linked : server.Linked)
include linked

private theorem linked_check {event} (ready : server.stageAt index = some (.ready event)) :
    ((server.setRuntime { server.runtime with
      pipeline := server.runtime.pipeline.setPublisher index
        (.checked ⟨some index, event⟩) }).setStage index .publishing).Linked := by
  constructor
  · intro other
    rw [stageAt_setStage]
    simp only [setStage_runtime, setRuntime_runtime, Pipeline.setPublisher_publishers, stageAt_setRuntime]
    split
    · simp [ready, Publisher.event?]
    · exact linked.publishing other
  · intro other job
    simp only [setStage_runtime, setRuntime_runtime, Pipeline.setPublisher_publishers]
    split
    · next same =>
      intro carried
      cases carried
      rw [same]
    · exact linked.carried other job
  · intro entry member
    obtain ⟨past, found, published⟩ := linked.published entry member
    rw [stageAt_setStage]
    split
    · next same =>
      rw [same, ready] at found
      cases found
      cases published
    · exact ⟨past, found, published⟩
  · intro other sequence waiting
    rw [stageAt_setStage] at waiting
    split at waiting
    · simp [ready] at waiting
    · exact linked.waiting other sequence waiting
  · exact linked.marked
  · exact linked.single

private theorem linked_publish {job sequence} (publishing : server.stageAt index = some .publishing)
    (written : server.runtime.pipeline.publishers index = .written job sequence) :
    ((server.setRuntime { server.runtime with
      pipeline := ((server.runtime.pipeline.setRing (server.runtime.pipeline.ring.publish sequence)).recordPublished
          ⟨index, sequence, job⟩).setPublisher index .idle }).setStage index (.waiting sequence)).Linked := by
  have first : ∀ entry ∈ server.runtime.pipeline.published, entry.task ≠ index := by
    intro entry member same
    obtain ⟨_, found, published⟩ := linked.published entry member
    rw [same, publishing] at found
    cases found
    cases published
  have tagged : job.tag = some index := linked.carried index job (by rw [written]; rfl)
  constructor
  · intro other
    rw [stageAt_setStage]
    simp only [setStage_runtime, setRuntime_runtime, Pipeline.setPublisher_publishers,
      Pipeline.recordPublished_publishers, Pipeline.setRing_publishers, stageAt_setRuntime]
    split
    · simp [publishing, Publisher.event?]
    · exact linked.publishing other
  · intro other carriedJob
    simp only [setStage_runtime, setRuntime_runtime, Pipeline.setPublisher_publishers,
      Pipeline.recordPublished_publishers, Pipeline.setRing_publishers]
    split
    · intro carried
      cases carried
    · exact linked.carried other carriedJob
  · intro entry member
    rw [stageAt_setStage]
    split
    · exact ⟨.waiting sequence, by simp [publishing], rfl⟩
    · next different =>
      rcases mem_concat.mp member with old | rfl
      · exact linked.published entry old
      · exact absurd rfl different
  · intro other otherSequence waiting entry member owner
    rw [stageAt_setStage] at waiting
    split at waiting
    · next same =>
      have sequenceEq : otherSequence = sequence := by simpa [publishing, eq_comm] using waiting
      rcases mem_concat.mp member with old | rfl
      · exact absurd (owner.trans same) (first entry old)
      · rw [sequenceEq]
    · next different =>
      rcases mem_concat.mp member with old | rfl
      · exact linked.waiting other otherSequence waiting entry old owner
      · exact absurd owner.symm different
  · exact holds_after_concat linked.marked tagged
  · intro entry member other otherMember same
    rcases mem_concat.mp member with old | rfl
    · rcases mem_concat.mp otherMember with otherOld | rfl
      · exact linked.single entry old other otherOld same
      · exact absurd same (first entry old)
    · rcases mem_concat.mp otherMember with otherOld | rfl
      · exact absurd same.symm (first other otherOld)
      · rfl

private theorem linked_receive {exchange} (outside : exchange.stage ≠ .publishing)
    (before : ∀ sequence, exchange.stage ≠ .waiting sequence) : (server.addExchange exchange).Linked := by
  have unknown := server.stageAt_length
  refine ⟨?_, linked.carried, ?_, ?_, linked.marked, linked.single⟩
  · intro index
    rw [stageAt_addExchange]
    split
    · next last =>
      have quiet : ¬(server.runtime.pipeline.publishers index).event?.isSome = true := by
        intro busy
        rw [← linked.publishing index, last, unknown] at busy
        cases busy
      simp [outside, quiet]
    · exact linked.publishing index
  · intro entry member
    obtain ⟨past, found, published⟩ := linked.published entry member
    rw [stageAt_addExchange]
    split
    · next last =>
      rw [last, unknown] at found
      cases found
    · exact ⟨past, found, published⟩
  · intro index sequence waiting
    rw [stageAt_addExchange] at waiting
    split at waiting
    · exact absurd (Option.some.inj waiting) (before sequence)
    · exact linked.waiting index sequence waiting

private theorem linked_engine {next} (published : next.pipeline.published = server.runtime.pipeline.published)
    (carried : ∀ task, (next.pipeline.publishers task).event? =
      (server.runtime.pipeline.publishers task).event?) : (server.setRuntime next).Linked := by
  constructor
  · intro index
    rw [setRuntime_runtime, carried]
    exact linked.publishing index
  · intro index
    rw [setRuntime_runtime, carried]
    exact linked.carried index
  · rw [setRuntime_runtime, published]
    exact linked.published
  · rw [setRuntime_runtime, published]
    exact linked.waiting
  · rw [setRuntime_runtime, published]
    exact linked.marked
  · rw [setRuntime_runtime, published]
    exact linked.single

end

section Steps

variable [ExternalCrates]

theorem received_before (freshId : TransactionId) (payload : BlazerResult TransactionRequest) :
    received freshId payload ≠ .publishing ∧ ∀ sequence, received freshId payload ≠ .waiting sequence := by
  unfold received
  split
  · simp
  · split <;> simp

theorem publishers_of_internal {runtime next : Runtime Nat (Option Nat) numShards}
    {label : RuntimeLabel Nat (Option Nat) numShards} (internal : isInternal label = true)
    (stepped : runtime.step risk label = some next) :
    next.pipeline.published = runtime.pipeline.published ∧ ∀ task, (next.pipeline.publishers task).event? =
        (runtime.pipeline.publishers task).event? := by
  refine Runtime.publishers_of_step ?_ ?_ stepped
  · intro task job same
    subst same
    cases internal
  · intro task same
    subst same
    cases internal

variable [DecidableEq Connection]

theorem Linked.step {next : Server Connection numShards} {label : ServerLabel Connection numShards}
    (linked : server.Linked) (stepped : server.step risk label = some next) : next.Linked := by
  cases step_moves stepped with
  | receive => exact linked_receive linked (received_before _ _).1 (received_before _ _).2
  | check ready room moved =>
    cases Runtime.step_check room moved
    exact linked_check linked ready
  | busy ready => exact linked_answer _ linked ready (by simp)
  | publish publishing written moved =>
    cases Runtime.step_publish written moved
    exact linked_publish linked publishing written
  | answer waiting | timeout waiting => exact linked_answer _ linked waiting (by simp)
  | pending => exact linked
  | engine internal moved =>
    obtain ⟨published, carried⟩ := publishers_of_internal internal moved
    exact linked_engine linked published carried

end Steps

def Solo (server : Server Connection numShards) : ServerLabel Connection numShards → Prop
  | .check _ => ∀ exchange ∈ server.exchanges, exchange.stage ≠ .publishing
  | _ => True

instance (server : Server Connection numShards) (label : ServerLabel Connection numShards) : Decidable (server.Solo label) :=
  match label with
  | .check _ => inferInstanceAs (Decidable (∀ exchange ∈ server.exchanges, _))
  | .receive _ _ _ | .publish _ | .poll _ | .timeout _ | .engine _ => .isTrue trivial

theorem Linked.all_idle (linked : server.Linked) (outside : ∀ exchange ∈ server.exchanges, exchange.stage ≠ .publishing)
    (task : Nat) : server.runtime.pipeline.publishers task = .idle := by
  cases publisher : server.runtime.pipeline.publishers task with
  | idle => rfl
  | _ =>
    have publishing := (linked.publishing task).mpr (by rw [publisher]; rfl)
    obtain ⟨exchange, found, stage⟩ := Option.map_eq_some_iff.mp publishing
    exact absurd stage (outside exchange (List.mem_of_getElem? found))

variable {next : Server Connection numShards} {label : ServerLabel Connection numShards}

theorem Moves.project [ExternalCrates] (linked : server.Linked)
    (alone : server.Solo label) (moved : Moves risk server label next) :
    next.runtime = server.runtime ∨ ∃ inner, server.runtime.Solo inner ∧ server.runtime.step risk inner = some next.runtime ∧
        (label = .engine inner ∨ ∃ publisher, inner = .pipeline publisher) := by
  cases moved with
  | receive | busy | answer | pending | timeout => exact .inl rfl
  | @check index event _ _ _ stepped =>
    exact .inr ⟨.pipeline (.check index ⟨some index, event⟩), linked.all_idle alone, stepped, .inr ⟨_, rfl⟩⟩
  | @publish index _ _ _ _ _ stepped =>
    exact .inr ⟨.pipeline (.publish index), trivial, stepped, .inr ⟨_, rfl⟩⟩
  | @engine label _ internal stepped =>
    refine .inr ⟨label, ?_, stepped, .inl rfl⟩
    match label with
    | .pipeline (.check _ _) => cases internal
    | .pipeline (.claim _) | .pipeline (.write _) | .pipeline (.publish _) | .pipeline .stop
    | .pipeline (.poll _) | .pipeline (.checkShutdown _) | .pipeline (.drain _)
    | .pipeline (.gate _) | .drain _ _ _ | .attempt _ _ _ | .record _ => trivial

structure Invariant (server : Server Connection numShards) : Prop where
  linked : server.Linked
  engine : server.runtime.Invariant

theorem Invariant.step [ExternalCrates] [DecidableEq Connection] (invariant : server.Invariant)
    (alone : server.Solo label) (stepped : server.step risk label = some next) : next.Invariant := by
  refine ⟨invariant.linked.step stepped, ?_⟩
  rcases (step_moves stepped).project invariant.linked alone with same | ⟨_, solo, moved, _⟩
  · exact same ▸ invariant.engine
  · exact invariant.engine.step solo moved

theorem invariant_started {capacity blank pipeline}
    (built : Pipeline.build Nat numShards capacity blank = .ok pipeline) :
    (started pipeline : Server Connection numShards).Invariant := by
  refine ⟨?_, Runtime.invariant_started built⟩
  obtain ⟨_, rfl⟩ := Pipeline.build_eq built
  exact linked_started _ (fun _ => rfl) rfl

theorem Invariant.published_by (invariant : server.Invariant) {entry}
    (handled : entry ∈ server.runtime.pipeline.handled) (made : entry.event.tag = some index) :
    ∃ source ∈ server.runtime.pipeline.published, source.sequence = entry.sequence ∧ source.task = index := by
  obtain ⟨source, member, sequence, content⟩ := invariant.engine.solo.faithful entry handled
  refine ⟨source, member, sequence, ?_⟩
  have marked := invariant.linked.marked source member
  rw [content, made] at marked
  exact (Option.some.inj marked).symm

end Blazil.Transport.Server

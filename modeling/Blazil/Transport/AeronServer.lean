import Blazil.Engine.ResultRing
import Blazil.Transport.Connection

/-! The serve loop of the Aeron transport (`core/transport/src/aeron/transport.rs`). One
thread drains finished results in the order of their sequences, polls for fragments and
publishes an event for each; the engine runs beside it. A fragment is decoded outside
the model. The counters and clocks that only feed metrics and log lines are left out. -/

set_option autoImplicit false

namespace Blazil.Transport

open Blazil.Common Blazil.Engine Foundation

def fragmentLimit : Nat := 1024

def maxDrainPerCall : Nat := 512

def reqSlotsCap : Nat := 262144

theorem isPowerOfTwo_reqSlotsCap : isPowerOfTwo reqSlotsCap = true := by decide

/-- The two generated ids stand for the request's own id where it cannot be parsed: one
for the response, one for the event. -/
structure Fragment where
  payload : BlazerResult TransactionRequest
  responseId : TransactionId
  eventId : TransactionId

/-- The engine marks each event with the request it was made from. -/
abbrev AeronJob := Job (Option TransactionRequest)

/-- Where the thread is in its loop. The last phases belong to one fragment, and `rest`
are the fragments of the same poll that come after it. -/
inductive ServePhase where
  | looping
  | draining (drained : Nat)
  | polling
  | pumping (fragments : List Fragment)
  | spinning (reqId : UInt64) (job : AeronJob) (rest : List Fragment)
  | calling (reqId : UInt64) (job : AeronJob) (rest : List Fragment)
  | publishing (reqId : UInt64) (job : AeronJob) (rest : List Fragment)
  | stopped

/-- The event that waits to be published or is being published, with the id for its
response. -/
def ServePhase.held : ServePhase → Option (UInt64 × AeronJob)
  | .spinning reqId job _ | .calling reqId job _ | .publishing reqId job _ => some (reqId, job)
  | _ => none

def ServePhase.underWay : ServePhase → Option AeronJob
  | .publishing _ job _ => some job
  | _ => none

/-- A response that was offered to the publication, for a sequence or for none, and
whether the offer was taken. -/
structure Offer where
  sequence : Option Int
  response : TransactionResponse
  taken : Bool

structure AeronServer (numShards : Nat) where
  engine : RingEngine Unit (Option TransactionRequest) numShards
  reqIdSlots : SlotTable UInt64
  nextToDrain : Int
  phase : ServePhase
  offers : List Offer

inductive AeronLabel (numShards : Nat) where
  | turn (shutdown : Bool)
  | drain (taken : Bool)
  | poll (fragments : List Fragment)
  | pump (taken : Bool)
  | spin (taken : Bool)
  | check (taken : Bool)
  | publish
  | engine (label : RuntimeLabel Unit (Option TransactionRequest) numShards)

/-- The steps of the engine that leave the serve loop in its phase. -/
def isBackground {numShards : Nat} : RuntimeLabel Unit (Option TransactionRequest) numShards → Bool
  | .pipeline (.check _ _) => false
  | .pipeline (.publish _) => false
  | _ => true

namespace AeronServer

variable {numShards : Nat}

def started (pipeline : Pipeline Unit AeronJob numShards) : AeronServer numShards :=
  ⟨.started pipeline, .filled isPowerOfTwo_reqSlotsCap 0, 0, .looping, []⟩

@[simps]
def setEngine (server : AeronServer numShards)
    (engine : RingEngine Unit (Option TransactionRequest) numShards) : AeronServer numShards :=
  { server with engine := engine }

@[simps]
def setPhase (server : AeronServer numShards) (phase : ServePhase) : AeronServer numShards :=
  { server with phase := phase }

@[simps]
def offer (server : AeronServer numShards) (sequence : Option Int)
    (response : TransactionResponse) (taken : Bool) : AeronServer numShards :=
  { server with offers := server.offers ++ [⟨sequence, response, taken⟩] }

/-- The slot of a published sequence keeps the id for its response. -/
@[simps]
def setReqId (server : AeronServer numShards) (sequence : Int) (reqId : UInt64) : AeronServer numShards :=
  { server with reqIdSlots := server.reqIdSlots.set sequence reqId }

section Steps

variable [ExternalCrates]

/-- Answer the next sequence if its result is there. The counter moves on whether or not
the offer is taken. -/
def drainOne (server : AeronServer numShards) (taken : Bool) : Option (AeronServer numShards) :=
  match server.engine.take server.nextToDrain with
  | some (result, engine) =>
    let reqId := server.reqIdSlots.get server.nextToDrain
    some { (server.setEngine engine).offer (some server.nextToDrain) (buildResponse (toString reqId.toNat) result) taken with
      nextToDrain := server.nextToDrain + 1 }
  | none => none

/-- A fragment that is no request, or a request that has no event, is answered at once. -/
def pump (server : AeronServer numShards) (fragment : Fragment) (rest : List Fragment) (taken : Bool) : AeronServer numShards :=
  match fragment.payload with
  | .error reason =>
    (server.offer none (errorResponse "" (.transport reason.message)) taken).setPhase (.pumping rest)
  | .ok request =>
    let reqId := (requestTransactionId fragment.responseId request.requestId).value
    match Aeron.buildEvent fragment.eventId request with
    | .error reason =>
      (server.offer none (errorResponse (toString reqId.toNat) reason) taken).setPhase (.pumping rest)
    | .ok event => server.setPhase (.spinning reqId ⟨some request, event⟩ rest)

/-- While the ring buffer is full, the thread spins and drains; it then calls
`publish_event`, which looks at the capacity once more. -/
def step (risk : RiskHandler) (server : AeronServer numShards) : AeronLabel numShards → Option (AeronServer numShards)
  | .turn shutdown =>
    match server.phase with
    | .looping => some (server.setPhase (if shutdown then .stopped else .draining 0))
    | _ => none
  | .drain taken =>
    match server.phase with
    | .draining drained =>
      if drained < maxDrainPerCall then
        match server.drainOne taken with
        | some next => some (next.setPhase (.draining (drained + 1)))
        | none => some (server.setPhase .polling)
      else some (server.setPhase .polling)
    | _ => none
  | .poll fragments =>
    match server.phase with
    | .polling =>
      if fragments.length ≤ fragmentLimit then some (server.setPhase (.pumping fragments))
      else none
    | _ => none
  | .pump taken =>
    match server.phase with
    | .pumping [] => some (server.setPhase .looping)
    | .pumping (fragment :: rest) => some (server.pump fragment rest taken)
    | _ => none
  | .spin taken =>
    match server.phase with
    | .spinning reqId job rest =>
      if server.engine.runtime.pipeline.ring.hasAvailableCapacity then
        some (server.setPhase (.calling reqId job rest))
      else some ((server.drainOne taken).getD server)
    | _ => none
  | .check taken =>
    match server.phase with
    | .calling reqId job rest =>
      if server.engine.runtime.pipeline.ring.hasAvailableCapacity then
        (server.engine.step risk (.pipeline (.check () job))).map fun next =>
          (server.setEngine next).setPhase (.publishing reqId job rest)
      else
        some ((server.offer none (errorResponse (toString reqId.toNat) (.ringBufferFull 1)) taken).setPhase (.pumping rest))
    | _ => none
  | .publish =>
    match server.phase, server.engine.runtime.pipeline.publishers () with
    | .publishing reqId _ rest, .written _ sequence =>
      (server.engine.step risk (.pipeline (.publish ()))).map fun next =>
        ((server.setEngine next).setReqId sequence reqId).setPhase (.pumping rest)
    | _, _ => none
  | .engine label =>
    if isBackground label then (server.engine.step risk label).map server.setEngine else none

def system (risk : RiskHandler) : System (AeronServer numShards) (AeronLabel numShards) :=
  ⟨step risk⟩

/-- An event that comes to be held was held before or is made from the first fragment. -/
def HeldBy (server : AeronServer numShards) (label : AeronLabel numShards) (held : UInt64 × AeronJob) : Prop :=
  server.phase.held = some held ∨ ∃ taken fragment rest request event, label = .pump taken ∧
      server.phase = .pumping (fragment :: rest) ∧ fragment.payload = .ok request ∧
      held = ((requestTransactionId fragment.responseId request.requestId).value, ⟨some request, event⟩)

inductive Moves (risk : RiskHandler) (server : AeronServer numShards) : AeronLabel numShards → AeronServer numShards → Prop where
  | inside {label} (phase : ServePhase) (refusals : List Offer)
      (quiet : server.phase.underWay = none) (after : phase.underWay = none)
      (held : ∀ pair, phase.held = some pair → server.HeldBy label pair)
      (unnumbered : ∀ refusal ∈ refusals, refusal.sequence = none) :
      Moves risk server label
        { server with phase := phase, offers := server.offers ++ refusals }
  | answer {label taken result engine} (phase : ServePhase)
      (origin : label = .drain taken ∨ label = .spin taken)
      (quiet : server.phase.underWay = none) (after : phase.underWay = none)
      (held : phase.held = server.phase.held)
      (took : server.engine.take server.nextToDrain = some (result, engine)) :
      Moves risk server label
        { server with
          engine := engine
          nextToDrain := server.nextToDrain + 1
          phase := phase
          offers := server.offers ++ [⟨some server.nextToDrain, buildResponse
            (toString (server.reqIdSlots.get server.nextToDrain).toNat) result, taken⟩] }
  | check {taken reqId job rest next} (calling : server.phase = .calling reqId job rest)
      (room : server.engine.runtime.pipeline.ring.hasAvailableCapacity = true)
      (stepped : server.engine.step risk (.pipeline (.check () job)) = some next) :
      Moves risk server (.check taken) ((server.setEngine next).setPhase (.publishing reqId job rest))
  | publish {reqId job written rest sequence next} (publishing : server.phase = .publishing reqId job rest)
      (seen : server.engine.runtime.pipeline.publishers () = .written written sequence)
      (stepped : server.engine.step risk (.pipeline (.publish ())) = some next) :
      Moves risk server .publish (((server.setEngine next).setReqId sequence reqId).setPhase (.pumping rest))
  | engine {label next} (background : isBackground label = true)
      (stepped : server.engine.step risk label = some next) :
      Moves risk server (.engine label) (server.setEngine next)

variable {risk : RiskHandler} {server next : AeronServer numShards} {taken : Bool} {label : AeronLabel numShards}

theorem Moves.turn (phase : ServePhase) (quiet : server.phase.underWay = none) (after : phase.underWay = none)
    (held : ∀ pair, phase.held = some pair → server.HeldBy label pair) : Moves risk server label (server.setPhase phase) := by
  have moved := @Moves.inside _ _ risk server label phase [] quiet after held (by simp)
  rwa [List.append_nil] at moved

theorem drainOne_some (drained : server.drainOne taken = some next) :
    ∃ result engine, server.engine.take server.nextToDrain = some (result, engine) ∧ next = { server with
        engine := engine
        nextToDrain := server.nextToDrain + 1
        offers := server.offers ++ [⟨some server.nextToDrain, buildResponse
          (toString (server.reqIdSlots.get server.nextToDrain).toNat) result, taken⟩] } := by
  unfold drainOne at drained
  split at drained
  · next result engine took =>
    cases drained
    exact ⟨result, engine, took, rfl⟩
  · cases drained

theorem pump_moves {fragment rest} (taken : Bool)
    (pumping : server.phase = .pumping (fragment :: rest)) :
    Moves risk server (.pump taken) (server.pump fragment rest taken) := by
  have quiet : server.phase.underWay = none := congrArg ServePhase.underWay pumping
  unfold pump
  split
  · exact .inside (.pumping rest) [_] quiet rfl (fun _ held => by cases held) (by simp)
  · next request accepted =>
    split
    · exact .inside (.pumping rest) [_] quiet rfl (fun _ held => by cases held) (by simp)
    · next event built =>
      refine .turn _ quiet rfl ?_
      intro pair held
      cases held
      exact .inr ⟨taken, fragment, rest, request, event, rfl, pumping, accepted, rfl⟩

theorem drain_moves (stepped : server.step risk (.drain taken) = some next) : Moves risk server (.drain taken) next := by
  simp only [step] at stepped
  split at stepped
  · next drained draining =>
    have quiet : server.phase.underWay = none := congrArg ServePhase.underWay draining
    have polls : Moves risk server (.drain taken) (server.setPhase .polling) :=
      .turn _ quiet rfl fun _ held => by cases held
    split at stepped
    · split at stepped
      · next after found =>
        cases stepped
        obtain ⟨_, _, took, rfl⟩ := drainOne_some found
        exact .answer (.draining (drained + 1)) (.inl rfl) quiet rfl (congrArg ServePhase.held draining).symm took
      · cases stepped
        exact polls
    · cases stepped
      exact polls
  · cases stepped

theorem spin_moves (stepped : server.step risk (.spin taken) = some next) : Moves risk server (.spin taken) next := by
  simp only [step] at stepped
  split at stepped
  · next reqId job rest spinning =>
    have quiet : server.phase.underWay = none := congrArg ServePhase.underWay spinning
    split at stepped
    · cases stepped
      refine .turn _ quiet rfl ?_
      intro pair held
      exact .inl ((congrArg ServePhase.held spinning).trans held)
    · cases found : server.drainOne taken with rw [found] at stepped
      | none =>
        cases stepped
        exact .turn server.phase quiet quiet fun _ held => .inl held
      | some =>
        cases stepped
        obtain ⟨_, _, took, rfl⟩ := drainOne_some found
        exact .answer server.phase (.inr rfl) quiet quiet rfl took
  · cases stepped

theorem step_moves (stepped : server.step risk label = some next) : Moves risk server label next := by
  cases label with simp only [step] at stepped
  | turn shutdown =>
    split at stepped
    · next looping =>
      cases stepped
      refine .turn _ (congrArg ServePhase.underWay looping) ?_ ?_
      · cases shutdown <;> rfl
      · intro pair held
        cases shutdown <;> cases held
    · cases stepped
  | drain => exact drain_moves stepped
  | poll =>
    split at stepped
    · next polling =>
      split at stepped
      · cases stepped
        exact .turn _ (congrArg ServePhase.underWay polling) rfl fun _ held => by cases held
      · cases stepped
    · cases stepped
  | pump taken =>
    split at stepped
    · next pumping =>
      cases stepped
      exact .turn _ (congrArg ServePhase.underWay pumping) rfl fun _ held => by cases held
    · next fragment rest pumping =>
      cases stepped
      exact pump_moves taken pumping
    · cases stepped
  | spin => exact spin_moves stepped
  | check =>
    split at stepped
    · next reqId job rest calling =>
      split at stepped
      · next room =>
        obtain ⟨_, moved, rfl⟩ := Option.map_eq_some_iff.mp stepped
        exact .check calling room moved
      · cases stepped
        exact .inside (.pumping rest) [_] (congrArg ServePhase.underWay calling) rfl (fun _ held => by cases held) (by simp)
    · cases stepped
  | publish =>
    split at stepped
    · next reqId job rest written sequence publishing seen =>
      obtain ⟨_, moved, rfl⟩ := Option.map_eq_some_iff.mp stepped
      exact .publish publishing seen moved
    · cases stepped
  | engine =>
    split at stepped
    · next background =>
      obtain ⟨_, moved, rfl⟩ := Option.map_eq_some_iff.mp stepped
      exact .engine background moved
    · cases stepped

end Steps

end AeronServer

end Blazil.Transport

import Blazil.Foundation.Transition
import Blazil.Foundation.TwoPhase
import Blazil.Sharding.CallOutcome

/-! Cross-shard transfers (`libs/sharding/crossshard.go`). The coordinator is generic in the
clients it obtains from its factory, and in the world that their calls act on.

Which failures of node clients an execution can undo is shown for scripted clients: each call is
accepted, rejected, or fails with or without having taken effect, and the effects are those of a
ledger of two-phase transfers. -/

set_option autoImplicit false

namespace Blazil.Sharding

structure CrossShardRequest where
  fromAccountId : UInt64
  toAccountId : UInt64
  amount : Int64
  currency : String
  idempotencyKey : String
deriving DecidableEq

structure NodeInfo where
  address : String
deriving DecidableEq

structure ShardRouter where
  isCrossShard : UInt64 → UInt64 → Bool
  routeByAccount : UInt64 → Except String NodeInfo

structure TransferClients (World Client : Type) where
  factory : String → World → Client × World
  submitPending : Client → CrossShardRequest → World → Except String String × World
  commit : Client → String → World → Except String Unit × World
  void : Client → String → World → Except String Unit × World

section Execute

variable {World Client : Type}

/-- Submit on the source node, commit on the destination node, and void on the source
node when the commit fails. The result of the void is ignored. -/
def TransferClients.transfer (clients : TransferClients World Client) (source dest : NodeInfo)
    (request : CrossShardRequest) (world : World) : Except String Unit × World :=
  let (sourceClient, world) := clients.factory source.address world
  let (destClient, world) := clients.factory dest.address world
  match clients.submitPending sourceClient request world with
  | (.error reason, world) =>
    (.error ("crossshard: submit pending on " ++ source.address ++ ": " ++ reason), world)
  | (.ok transferId, world) =>
    match clients.commit destClient transferId world with
    | (.ok _, world) => (.ok (), world)
    | (.error reason, world) =>
      (.error ("crossshard: commit failed on " ++ dest.address ++ " (void attempted): " ++ reason),
        (clients.void sourceClient transferId world).2)

/-- The outcomes of earlier executions by idempotency key, and the world. -/
structure CrossShardCoordinator (World : Type) where
  cache : String → Option (Except String Unit)
  world : World

namespace CrossShardCoordinator

def started (world : World) : CrossShardCoordinator World := ⟨fun _ => none, world⟩

def remember (coordinator : CrossShardCoordinator World) (key : String)
    (outcome : Except String Unit) (world : World) : CrossShardCoordinator World where
  cache := fun other => if other = key then some outcome else coordinator.cache other
  world := world

def execute (clients : TransferClients World Client) (router : ShardRouter) (request : CrossShardRequest)
    (coordinator : CrossShardCoordinator World) : Except String Unit × CrossShardCoordinator World :=
  if !router.isCrossShard request.fromAccountId request.toAccountId then
    (.error ("crossshard: accounts " ++ toString request.fromAccountId ++ " and " ++
      toString request.toAccountId ++ " are on the same shard; use the normal transfer path"),
      coordinator)
  else
    match coordinator.cache request.idempotencyKey with
    | some outcome => (outcome, coordinator)
    | none =>
      match router.routeByAccount request.fromAccountId with
      | .error reason =>
        (.error ("crossshard: route source account " ++ toString request.fromAccountId ++
          ": " ++ reason), coordinator)
      | .ok source =>
        match router.routeByAccount request.toAccountId with
        | .error reason =>
          (.error ("crossshard: route dest account " ++ toString request.toAccountId ++
            ": " ++ reason), coordinator)
        | .ok dest =>
          let (outcome, world) := clients.transfer source dest request coordinator.world
          (outcome, coordinator.remember request.idempotencyKey outcome world)

/-- The execution comes to the calls of the node clients. -/
def Sends (coordinator : CrossShardCoordinator World) (router : ShardRouter) (request : CrossShardRequest) : Prop :=
  router.isCrossShard request.fromAccountId request.toAccountId = true ∧ coordinator.cache request.idempotencyKey = none ∧
    (router.routeByAccount request.fromAccountId).isOk = true ∧
    (router.routeByAccount request.toAccountId).isOk = true

inductive Execution (clients : TransferClients World Client) (router : ShardRouter)
    (request : CrossShardRequest) (coordinator : CrossShardCoordinator World) :
    Except String Unit × CrossShardCoordinator World → Prop where
  | refused {reason} (unsent : ¬coordinator.Sends router request)
      (unknown : router.isCrossShard request.fromAccountId request.toAccountId = true →
        coordinator.cache request.idempotencyKey = none) :
      Execution clients router request coordinator (.error reason, coordinator)
  | cached {outcome} (known : coordinator.cache request.idempotencyKey = some outcome) :
      Execution clients router request coordinator (outcome, coordinator)
  | sent {source dest} (sends : coordinator.Sends router request) :
      Execution clients router request coordinator ((clients.transfer source dest request coordinator.world).1,
          coordinator.remember request.idempotencyKey (clients.transfer source dest request coordinator.world).1
            (clients.transfer source dest request coordinator.world).2)

theorem execution (clients : TransferClients World Client) (router : ShardRouter)
    (request : CrossShardRequest) (coordinator : CrossShardCoordinator World) :
    Execution clients router request coordinator (execute clients router request coordinator) := by
  unfold execute
  cases crossing : router.isCrossShard request.fromAccountId request.toAccountId with
  | false => exact .refused (by simp [Sends, crossing]) (by simp [crossing])
  | true =>
    cases known : coordinator.cache request.idempotencyKey with
    | some => exact .cached known
    | none =>
      cases fromNode : router.routeByAccount request.fromAccountId with
      | error =>
        exact .refused (by simp [Sends, fromNode, Except.isOk, Except.toBool]) fun _ => known
      | ok =>
        cases toNode : router.routeByAccount request.toAccountId with
        | error =>
          exact .refused (by simp [Sends, toNode, Except.isOk, Except.toBool])
            fun _ => known
        | ok => exact .sent ⟨crossing, known, by rw [fromNode]; rfl, by rw [toNode]; rfl⟩

end CrossShardCoordinator

end Execute

open Foundation

/-- The outcomes of the three calls an execution can make, and the id of the transfer
that the first one creates. -/
structure CallOutcomes where
  transferId : String
  submit : CallOutcome
  commit : CallOutcome
  void : CallOutcome
deriving DecidableEq

/-- Clients that answer as the outcomes say. `owner` is what the ledger records of a
request. -/
def scripted {Owner : Type} (owner : CrossShardRequest → Owner) (outcomes : CallOutcomes) :
    TransferClients (HoldLedger String Owner) Unit where
  factory _ ledger := ((), ledger)
  submitPending _ request ledger :=
    (outcomes.submit.reply.map fun _ => outcomes.transferId,
      if outcomes.submit.takesEffect then ledger.reserve outcomes.transferId (owner request)
      else ledger)
  commit _ transferId ledger :=
    (outcomes.commit.reply, if outcomes.commit.takesEffect then ledger.settle transferId .posted else ledger)
  void _ transferId ledger :=
    (outcomes.void.reply, if outcomes.void.takesEffect then ledger.settle transferId .voided else ledger)

namespace CallOutcomes

def finalStatus (outcomes : CallOutcomes) : Option HoldStatus :=
  if outcomes.submit.takesEffect then
    some (if !outcomes.submit.isAccepted then .pending
      else if outcomes.commit.takesEffect then .posted
      else if outcomes.void.takesEffect then .voided
      else .pending)
  else none

/-- Nothing is left behind when a call fails: a submission that fails has taken no
effect, and after a commit that fails the transfer is not posted and can be voided. -/
def Compensated (outcomes : CallOutcomes) : Prop :=
  (outcomes.submit.isAccepted = false → outcomes.submit.takesEffect = false) ∧
    (outcomes.submit.isAccepted = true → outcomes.commit.isAccepted = false →
      outcomes.commit.takesEffect = false ∧ outcomes.void.takesEffect = true)

def succeeds (outcomes : CallOutcomes) : Bool :=
  outcomes.submit.isAccepted && outcomes.commit.isAccepted

theorem compensated_iff (outcomes : CallOutcomes) : outcomes.Compensated ↔
      (outcomes.succeeds = false → ∀ status ∈ outcomes.finalStatus, status = .voided) := by
  obtain ⟨_, submit, commit, void⟩ := outcomes
  unfold Compensated succeeds finalStatus
  cases submit with
  | accepted =>
    cases commit with
    | accepted => simp [CallOutcome.isAccepted]
    | rejected =>
      cases void.takesEffect <;> simp [CallOutcome.isAccepted, CallOutcome.takesEffect]
    | failed _ applied =>
      cases void.takesEffect <;> cases applied <;>
        simp [CallOutcome.isAccepted, CallOutcome.takesEffect]
  | rejected => simp [CallOutcome.isAccepted, CallOutcome.takesEffect]
  | failed _ applied =>
    cases applied <;> simp [CallOutcome.isAccepted, CallOutcome.takesEffect]

end CallOutcomes

theorem transfer_scripted {Owner : Type} {owner : CrossShardRequest → Owner}
    {outcomes : CallOutcomes} {ledger : HoldLedger String Owner} (source dest : NodeInfo)
    (request : CrossShardRequest) (unreserved : ledger.Unreserved outcomes.transferId) :
    ((scripted owner outcomes).transfer source dest request ledger).1.isOk = outcomes.succeeds ∧
      ((scripted owner outcomes).transfer source dest request ledger).2 =
        ⟨ledger.holds ++ outcomes.finalStatus.toList.map fun status =>
          ⟨outcomes.transferId, owner request, status⟩⟩ := by
  obtain ⟨transferId, submit, commit, void⟩ := outcomes
  have posted := HoldLedger.settle_reserve .posted (owner request) unreserved
  have voided := HoldLedger.settle_reserve .voided (owner request) unreserved
  -- once the transfer is posted, the void has nothing to do
  have kept : HoldLedger.settle ⟨ledger.holds ++ [⟨transferId, owner request, .posted⟩]⟩ transferId
      .voided = ⟨ledger.holds ++ [⟨transferId, owner request, .posted⟩]⟩ :=
    HoldLedger.settle_settled .voided unreserved (by simp)
  have untouched : ledger = ⟨ledger.holds ++ []⟩ := by rw [List.append_nil]
  cases submit with
  | rejected => exact ⟨rfl, untouched⟩
  | failed _ applied =>
    cases applied with
    | false => exact ⟨rfl, untouched⟩
    | true => exact ⟨rfl, rfl⟩
  | accepted =>
    cases commit with
    | accepted => exact ⟨rfl, posted⟩
    | rejected reason =>
      refine ⟨rfl, ?_⟩
      cases void with
      | accepted => exact voided
      | rejected => rfl
      | failed _ applied =>
        cases applied with
        | false => rfl
        | true => exact voided
    | failed reason applied =>
      refine ⟨rfl, ?_⟩
      cases applied with
      | false =>
        cases void with
        | accepted => exact voided
        | rejected => rfl
        | failed _ applied =>
          cases applied with
          | false => rfl
          | true => exact voided
      | true =>
        have stays :=
          (congrArg (fun after => after.settle transferId .voided) posted).trans kept
        cases void with
        | accepted => exact stays
        | rejected => exact posted
        | failed _ applied =>
          cases applied with
          | false => exact posted
          | true => exact stays

/-- One call of `Execute`: what it is asked, what the router says at the time and how
the node clients answer. -/
structure ExecuteCall where
  router : ShardRouter
  request : CrossShardRequest
  outcomes : CallOutcomes

namespace CrossShardCoordinator

/-- The executions of one coordinator, one after the other; no pending transfer has the
id of a new one. -/
def system : System (CrossShardCoordinator (HoldLedger String CrossShardRequest)) ExecuteCall where
  step coordinator call :=
    if coordinator.world.Unreserved call.outcomes.transferId then
      some (execute (scripted id call.outcomes) call.router call.request coordinator).2
    else none

/-- If an execution for the key comes to the node clients, they leave nothing behind on
failure. -/
def Compensating (key : String) (coordinator : CrossShardCoordinator (HoldLedger String CrossShardRequest))
    (call : ExecuteCall) : Prop :=
  call.request.idempotencyKey = key → coordinator.Sends call.router call.request → call.outcomes.Compensated

/-- How the cache and the ledger fit together: a key without an outcome has no
transfer, and the transfers of a key with an error are voided. -/
structure Settled (key : String) (coordinator : CrossShardCoordinator (HoldLedger String CrossShardRequest)) : Prop where
  unknown : coordinator.cache key = none → ∀ hold ∈ coordinator.world.holds, hold.owner.idempotencyKey ≠ key
  failed : ∀ reason, coordinator.cache key = some (.error reason) →
    ∀ hold ∈ coordinator.world.holds, hold.owner.idempotencyKey = key → hold.status = .voided

theorem settled_sent {key : String} {coordinator : CrossShardCoordinator (HoldLedger String CrossShardRequest)}
    {router : ShardRouter} {request : CrossShardRequest} {outcomes : CallOutcomes} (source dest : NodeInfo)
    (settled : coordinator.Settled key) (sends : coordinator.Sends router request)
    (compensated : request.idempotencyKey = key → outcomes.Compensated)
    (unreserved : coordinator.world.Unreserved outcomes.transferId) :
    (coordinator.remember request.idempotencyKey ((scripted id outcomes).transfer source dest request coordinator.world).1
      ((scripted id outcomes).transfer source dest request coordinator.world).2).Settled key := by
  obtain ⟨reply, ledger⟩ :=
    @transfer_scripted _ id outcomes coordinator.world source dest request unreserved
  have member : ∀ {hold}, hold ∈ ((scripted id outcomes).transfer source dest request coordinator.world).2.holds →
        hold ∈ coordinator.world.holds ∨ hold.owner = request ∧ hold.status ∈ outcomes.finalStatus := by
    intro hold found
    rw [ledger, List.mem_append] at found
    rcases found with old | new
    · exact .inl old
    · obtain ⟨_, final, rfl⟩ := List.mem_map.mp new
      exact .inr ⟨rfl, Option.mem_toList.mp final⟩
  constructor
  · intro unknown hold found own
    simp only [remember] at unknown
    split at unknown
    · cases unknown
    · next different =>
      rcases member found with old | ⟨rfl, _⟩
      · exact settled.unknown unknown hold old own
      · exact different own.symm
  · intro reason failed hold found own
    simp only [remember] at failed
    split at failed
    · next same =>
      rcases member found with old | ⟨_, final⟩
      · exact absurd own (settled.unknown (same ▸ sends.2.1) hold old)
      · refine (outcomes.compensated_iff.mp (compensated same.symm)) ?_ hold.status final
        rw [← reply, Option.some.inj failed]
        rfl
    · next different =>
      rcases member found with old | ⟨rfl, _⟩
      · exact settled.failed reason failed hold old own
      · exact absurd own.symm different

theorem settled_of_reaches {key : String} {state : CrossShardCoordinator (HoldLedger String CrossShardRequest)}
    (reached : system.Reaches (Compensating key) (started ⟨[]⟩) state) : state.Settled key := by
  refine reached.invariant (Settled key) ⟨?_, ?_⟩ ?_
  · intro _ hold found
    cases found
  · intro reason failed
    cases failed
  · intro before call after compensating stepped settled
    simp only [system] at stepped
    split at stepped
    · next unreserved =>
      have moved := Option.some.inj stepped
      have went := execution (scripted id call.outcomes) call.router call.request before
      cases made : execute (scripted id call.outcomes) call.router call.request before with
      | mk =>
        rw [made] at went moved
        subst moved
        cases went with
        | refused | cached => exact settled
        | sent sends =>
          exact settled_sent _ _ settled sends (fun own => compensating own sends) unreserved
    · cases stepped

/-- After an error of a cross-shard execution the source shard holds neither a posted
nor a pending transfer for the request exactly when the calls that were made, if any,
were compensated; earlier executions for other keys do not matter. -/
theorem executeError_holdsNothing_iff {router : ShardRouter} {request : CrossShardRequest}
    {outcomes : CallOutcomes} {state : CrossShardCoordinator (HoldLedger String CrossShardRequest)}
    (reached : system.Reaches (Compensating request.idempotencyKey) (started ⟨[]⟩) state)
    (crossing : router.isCrossShard request.fromAccountId request.toAccountId = true)
    (unreserved : state.world.Unreserved outcomes.transferId) :
    ((execute (scripted id outcomes) router request state).1.isOk = false →
        ¬(execute (scripted id outcomes) router request state).2.world.Holds request) ↔
      (state.Sends router request → outcomes.Compensated) := by
  have settled := settled_of_reaches reached
  have went := execution (scripted id outcomes) router request state
  cases made : execute (scripted id outcomes) router request state with
  | mk outcome =>
    rw [made] at went
    cases went with
    | refused unsent unknown =>
      refine iff_of_true (fun _ => ?_) fun sends => absurd sends unsent
      intro held
      obtain ⟨hold, found, rfl, _⟩ := held
      exact settled.unknown (unknown crossing) hold found rfl
    | cached known =>
      refine iff_of_true (fun failed => ?_) fun sends => ?_
      · intro held
        obtain ⟨hold, found, rfl, live⟩ := held
        cases outcome with
        | ok => cases failed
        | error reason => exact live (settled.failed reason known hold found rfl)
      · rw [sends.2.1] at known
        cases known
    | @sent source dest sends =>
      obtain ⟨reply, ledger⟩ :=
        @transfer_scripted _ id outcomes state.world source dest request unreserved
      have nothing : ¬HoldLedger.Holds ⟨state.world.holds⟩ request := by
        intro held
        obtain ⟨hold, found, rfl, _⟩ := held
        exact settled.unknown sends.2.1 hold found rfl
      rw [remember, ledger, reply, outcomes.compensated_iff, HoldLedger.holds_append]
      cases final : outcomes.finalStatus with
      | none => simp [nothing, sends, HoldLedger.not_holds_nil]
      | some => simp [nothing, sends, HoldLedger.holds_singleton]

def parityRouter : ShardRouter where
  isCrossShard first second := first % 2 != second % 2
  routeByAccount account := .ok ⟨if account % 2 = 0 then "10.0.0.1:7878" else "10.0.0.2:7878"⟩

def crossRequest : CrossShardRequest := ⟨2, 3, 1050, "USD", "order-7"⟩

/-- The commit takes effect but its reply is lost: the execution fails and the money
has moved. -/
theorem lostCommitReply_posted : (execute (scripted id ⟨"t1", .accepted, .failed "read timeout" true,
        .rejected "already posted"⟩) parityRouter crossRequest (started ⟨[]⟩)).1.isOk = false ∧
      (execute (scripted id ⟨"t1", .accepted, .failed "read timeout" true,
        .rejected "already posted"⟩) parityRouter crossRequest (started ⟨[]⟩)).2.world.holds =
          [⟨"t1", crossRequest, .posted⟩] := by
  decide

/-- A rejected commit that is followed by a void leaves nothing behind. -/
theorem rejectedCommit_voided : ((execute (scripted id ⟨"t1", .accepted, .rejected "closed", .accepted⟩) parityRouter
        crossRequest (started ⟨[]⟩)).1.isOk = false →
      ¬(execute (scripted id ⟨"t1", .accepted, .rejected "closed", .accepted⟩) parityRouter
        crossRequest (started ⟨[]⟩)).2.world.Holds crossRequest) ↔
    ((started ⟨[]⟩ : CrossShardCoordinator (HoldLedger String CrossShardRequest)).Sends parityRouter
      crossRequest → CallOutcomes.Compensated ⟨"t1", .accepted, .rejected "closed", .accepted⟩) :=
  executeError_holdsNothing_iff .refl (by decide) (by decide)

end CrossShardCoordinator

end Blazil.Sharding

import Blazil.Payments.EngineClient

/-! The node clients of the payments service
(`services/payments/internal/engine/transfer_client.go`), as its factory makes them
(`cmd/server/main.go`), and cross-shard executions over them. Every client remembers the pending
transfers that it has submitted itself. The engines share one ledger of two-phase transfers. -/

set_option autoImplicit false

namespace Blazil.Payments

open Blazil.Engine Blazil.Sharding Blazil.Transport Foundation

/-- The ids that are drawn, and what becomes of the n-th request that is sent. -/
structure Wire where
  requestId : Nat → String
  transferId : Nat → String
  outcome : Nat → CallOutcome

structure TcpTransferClient where
  index : Nat
  address : String

/-- The ledger, the requests sent to the engines, and the maps of the clients made so
far. -/
structure TransferWorld where
  ledger : HoldLedger String TransactionRequest
  sent : List (String × TransactionRequest)
  created : Nat
  pendingAmounts : Nat → String → Option PendingInfo

namespace TransferWorld

def started : TransferWorld := ⟨⟨[]⟩, [], 0, fun _ _ => none⟩

def setPending (world : TransferWorld) (client : Nat) (pending : String → Option PendingInfo) : TransferWorld :=
  { world with
    pendingAmounts := fun other => if other = client then pending else world.pendingAmounts other }

def setPendingAmount (world : TransferWorld) (client : Nat) (transferId : String) (info : Option PendingInfo) : TransferWorld :=
  world.setPending client fun other =>
    if other = transferId then info else world.pendingAmounts client other

end TransferWorld

/-- What an engine does with a request that takes effect. It reads the flags as the
ledger stage does. -/
def applyRequest (transferId : String) (request : TransactionRequest)
    (ledger : HoldLedger String TransactionRequest) : HoldLedger String TransactionRequest :=
  let flags : EventFlags := ⟨request.flags⟩
  match flags.isPending, flags.isPosted, flags.isVoided with
  | true, false, false => ledger.reserve transferId request
  | false, true, false => ledger.settle request.pendingTransferId .posted
  | false, false, true => ledger.settle request.pendingTransferId .voided
  | _, _, _ => ledger

namespace TcpTransferClient

def sendRequest (wire : Wire) (client : TcpTransferClient) (request : TransactionRequest)
    (world : TransferWorld) : Except String String × TransferWorld :=
  let transferId := wire.transferId world.sent.length
  let outcome := wire.outcome world.sent.length
  (outcome.reply.map fun _ => transferId,
    { world with
      ledger := if outcome.takesEffect then applyRequest transferId request world.ledger
        else world.ledger
      sent := world.sent ++ [(client.address, request)] })

def submitPending (wire : Wire) (client : TcpTransferClient) (request : CrossShardRequest)
    (world : TransferWorld) : Except String String × TransferWorld :=
  match client.sendRequest wire
    (submitPendingRequest (wire.requestId world.sent.length) request) world with
  | (.error reason, world) => (.error ("SubmitPending: " ++ reason), world)
  | (.ok transferId, world) =>
    (.ok transferId, world.setPendingAmount client.index transferId (some (pendingInfo request)))

/-- The second phase takes the pending transfer out of the client's own map and sends
the request that `build` makes of it. -/
def secondPhase (name : String) (build : String → String → PendingInfo → TransactionRequest) (wire : Wire)
    (client : TcpTransferClient) (transferId : String) (world : TransferWorld) : Except String Unit × TransferWorld :=
  match world.pendingAmounts client.index transferId with
  | none =>
    (.error (name ++ ": no pending transfer found for ID \"" ++ transferId ++ "\""), world)
  | some info =>
    match client.sendRequest wire (build (wire.requestId world.sent.length) transferId info)
      (world.setPendingAmount client.index transferId none) with
    | (.error reason, world) => (.error (name ++ ": " ++ reason), world)
    | (.ok _, world) => (.ok (), world)

def commit : Wire → TcpTransferClient → String → TransferWorld → Except String Unit × TransferWorld :=
  secondPhase "Commit" commitRequest

def void : Wire → TcpTransferClient → String → TransferWorld → Except String Unit × TransferWorld :=
  secondPhase "Void" voidRequest

end TcpTransferClient

/-- The production factory makes a new client, with an empty map, on every call. -/
def tcpTransferClients (wire : Wire) : TransferClients TransferWorld TcpTransferClient where
  factory address world :=
    (⟨world.created, address⟩,
      { world.setPending world.created (fun _ => none) with created := world.created + 1 })
  submitPending := TcpTransferClient.submitPending wire
  commit := TcpTransferClient.commit wire
  void := TcpTransferClient.void wire

open Foundation.System
open CrossShardCoordinator (execute parityRouter crossRequest)

/-- What the node clients of one execution answer: the client of the destination node
has submitted nothing itself, so it refuses to commit. -/
def tcpOutcomes (wire : Wire) (sent : Nat) : CallOutcomes where
  transferId := wire.transferId sent
  submit := (wire.outcome sent).prefixed "SubmitPending: "
  commit := .rejected
    ("Commit: no pending transfer found for ID \"" ++ wire.transferId sent ++ "\"")
  void := (wire.outcome (sent + 1)).prefixed "Void: "

@[simp] theorem applyRequest_submitPending (transferId requestId : String)
    (request : CrossShardRequest) (ledger : HoldLedger String TransactionRequest) :
    applyRequest transferId (submitPendingRequest requestId request) ledger =
      ledger.reserve transferId (submitPendingRequest requestId request) := by
  have read : EventFlags.isPending ⟨flagPending⟩ = true ∧
      EventFlags.isPosted ⟨flagPending⟩ = false ∧ EventFlags.isVoided ⟨flagPending⟩ = false := by
    decide
  simp [applyRequest, submitPendingRequest, PendingInfo.engineRequest, read]

@[simp] theorem applyRequest_void (transferId requestId pendingId : String) (info : PendingInfo)
    (ledger : HoldLedger String TransactionRequest) :
    applyRequest transferId (voidRequest requestId pendingId info) ledger = ledger.settle pendingId .voided := by
  have read : EventFlags.isPending ⟨flagVoid⟩ = false ∧
      EventFlags.isPosted ⟨flagVoid⟩ = false ∧ EventFlags.isVoided ⟨flagVoid⟩ = true := by
    decide
  simp [applyRequest, voidRequest, PendingInfo.engineRequest, read]

variable {wire : Wire} {coordinator : CrossShardCoordinator TransferWorld} {world : TransferWorld}

theorem TcpTransferClient.void_ledger {client : TcpTransferClient} {transferId : String}
    {info : PendingInfo} (found : world.pendingAmounts client.index transferId = some info) :
    (client.void wire transferId world).2.ledger =
      if (wire.outcome world.sent.length).takesEffect then world.ledger.settle transferId .voided
      else world.ledger := by
  unfold TcpTransferClient.void TcpTransferClient.secondPhase
  rw [found]
  cases outcome : wire.outcome world.sent.length <;>
    simp [TcpTransferClient.sendRequest, TransferWorld.setPendingAmount, TransferWorld.setPending,
      outcome, CallOutcome.reply, Except.map]

/-- The production clients behave as scripted ones whose commit is always rejected. -/
theorem transfer_tcp (wire : Wire) (source dest : NodeInfo) (request : CrossShardRequest) (world : TransferWorld) :
    ((tcpTransferClients wire).transfer source dest request world).1 =
        ((scripted (submitPendingRequest (wire.requestId world.sent.length))
          (tcpOutcomes wire world.sent.length)).transfer source dest request world.ledger).1 ∧
      ((tcpTransferClients wire).transfer source dest request world).2.ledger =
        ((scripted (submitPendingRequest (wire.requestId world.sent.length))
          (tcpOutcomes wire world.sent.length)).transfer source dest request world.ledger).2 := by
  unfold TransferClients.transfer tcpTransferClients scripted tcpOutcomes
  cases submitted : wire.outcome world.sent.length with
  | rejected =>
    simp [TcpTransferClient.submitPending, TcpTransferClient.sendRequest, submitted, Except.map,
      CallOutcome.reply, CallOutcome.prefixed, TransferWorld.setPending]
  | failed =>
    simp [TcpTransferClient.submitPending, TcpTransferClient.sendRequest, submitted, Except.map,
      CallOutcome.reply, CallOutcome.prefixed, TransferWorld.setPending]
    rfl
  | accepted =>
    -- the commit finds no entry and sends nothing, so the void is the second request
    simp [TcpTransferClient.submitPending, TcpTransferClient.commit,
      TcpTransferClient.secondPhase, TcpTransferClient.sendRequest, submitted, Except.map,
      TransferWorld.setPending, TransferWorld.setPendingAmount, TcpTransferClient.void_ledger]

def Wire.Accepting (wire : Wire) : Prop := ∀ sent, wire.outcome sent = .accepted

def tcpSystem (wire : Wire) : System (CrossShardCoordinator TransferWorld) (ShardRouter × CrossShardRequest) where
  step coordinator call :=
    some (coordinator.execute (tcpTransferClients wire) call.1 call.2).2

/-- No execution has succeeded, and every transfer has been voided. -/
structure Fruitless (coordinator : CrossShardCoordinator TransferWorld) : Prop where
  failed : ∀ key outcome, coordinator.cache key = some outcome → outcome.isOk = false
  voided : ∀ hold ∈ coordinator.world.ledger.holds, hold.status = .voided

theorem transfer_accepting (source dest : NodeInfo) (request : CrossShardRequest)
    (accepting : wire.Accepting) (voided : ∀ hold ∈ world.ledger.holds, hold.status = .voided) :
    ((tcpTransferClients wire).transfer source dest request world).1.isOk = false ∧
      ((tcpTransferClients wire).transfer source dest request world).2.ledger.holds =
        world.ledger.holds ++ [⟨wire.transferId world.sent.length,
          submitPendingRequest (wire.requestId world.sent.length) request, .voided⟩] := by
  have unreserved : world.ledger.Unreserved (tcpOutcomes wire world.sent.length).transferId := by
    intro hold member _ pending
    rw [voided hold member] at pending
    cases pending
  obtain ⟨sameReply, sameLedger⟩ := transfer_tcp wire source dest request world
  obtain ⟨reply, ledger⟩ := transfer_scripted source dest request unreserved
  rw [sameReply, sameLedger, reply, ledger]
  simp [tcpOutcomes, accepting _, CallOutcomes.succeeds, CallOutcomes.finalStatus, CallOutcome.isAccepted]

theorem Fruitless.sent (fruitless : Fruitless coordinator) (accepting : wire.Accepting)
    (source dest : NodeInfo) (request : CrossShardRequest) : Fruitless (coordinator.remember request.idempotencyKey
      ((tcpTransferClients wire).transfer source dest request coordinator.world).1
      ((tcpTransferClients wire).transfer source dest request coordinator.world).2) := by
  obtain ⟨reply, ledger⟩ := transfer_accepting source dest request accepting fruitless.voided
  constructor
  · intro key outcome known
    simp only [CrossShardCoordinator.remember] at known
    split at known
    · rw [← Option.some.inj known]
      exact reply
    · exact fruitless.failed key outcome known
  · intro hold member
    rw [CrossShardCoordinator.remember, ledger, List.mem_append] at member
    rcases member with old | new
    · exact fruitless.voided hold old
    · rw [List.mem_singleton.mp new]

theorem Fruitless.execute (fruitless : Fruitless coordinator) (accepting : wire.Accepting)
    (router : ShardRouter) (request : CrossShardRequest) :
    (coordinator.execute (tcpTransferClients wire) router request).1.isOk = false ∧
      Fruitless (coordinator.execute (tcpTransferClients wire) router request).2 := by
  have went := CrossShardCoordinator.execution (tcpTransferClients wire) router request coordinator
  cases made : coordinator.execute (tcpTransferClients wire) router request with
  | mk outcome =>
    rw [made] at went
    cases went with
    | refused => exact ⟨rfl, fruitless⟩
    | cached known => exact ⟨fruitless.failed _ outcome known, fruitless⟩
    | sent =>
      exact ⟨(transfer_accepting _ _ request accepting fruitless.voided).1, fruitless.sent accepting _ _ request⟩

theorem fruitless_of_reaches {state : CrossShardCoordinator TransferWorld} (accepting : wire.Accepting)
    (reached : (tcpSystem wire).Reachable (.started .started) state) : Fruitless state := by
  refine reached.invariant Fruitless ⟨?_, ?_⟩ ?_
  · intro key outcome known
    cases known
  · intro hold member
    cases member
  · intro before call after _ stepped fruitless
    rw [← Option.some.inj stepped]
    exact (fruitless.execute accepting call.1 call.2).2

/-- With the production factory and engines that accept every request, no execution
ever succeeds: after any earlier ones it returns an error, and an execution that comes
to the node clients adds one transfer, which ends voided. -/
theorem productionExecute_voids {wire : Wire} {state : CrossShardCoordinator TransferWorld} (accepting : wire.Accepting)
    (reached : (tcpSystem wire).Reachable (.started .started) state) (router : ShardRouter) (request : CrossShardRequest) :
    (state.execute (tcpTransferClients wire) router request).1 ≠ .ok () ∧
      (∀ hold ∈ (state.execute (tcpTransferClients wire) router request).2.world.ledger.holds, hold.status = .voided) ∧
      (state.Sends router request → (state.execute (tcpTransferClients wire) router request).2.world.ledger.holds =
          state.world.ledger.holds ++ [⟨wire.transferId state.world.sent.length,
            submitPendingRequest (wire.requestId state.world.sent.length) request, .voided⟩]) := by
  have fruitless := fruitless_of_reaches accepting reached
  obtain ⟨failed, after⟩ := fruitless.execute accepting router request
  refine ⟨?_, after.voided, fun sends => ?_⟩
  · intro succeeded
    rw [succeeded] at failed
    cases failed
  · have went := CrossShardCoordinator.execution (tcpTransferClients wire) router request state
    cases made : state.execute (tcpTransferClients wire) router request with
    | mk =>
      rw [made] at went
      cases went with
      | refused unsent => exact absurd sends unsent
      | cached known =>
        rw [sends.2.1] at known
        cases known
      | sent => exact (transfer_accepting _ _ request accepting fruitless.voided).2

def acceptingWire : Wire := ⟨fun sent => s!"r{sent}", fun sent => s!"t{sent}", fun _ => .accepted⟩

/-- Both engines accept everything, yet the client of the destination node knows no
pending transfer: the execution fails and the transfer is voided. -/
theorem acceptedTransfer_voided : (execute (tcpTransferClients acceptingWire) parityRouter crossRequest (.started .started)).1 =
        .error ("crossshard: commit failed on 10.0.0.2:7878 (void attempted): " ++
          "Commit: no pending transfer found for ID \"t0\"") ∧
      (execute (tcpTransferClients acceptingWire) parityRouter crossRequest (.started .started)).2.world.ledger.holds =
          [⟨"t0", submitPendingRequest "r0" crossRequest, .voided⟩] := by
  decide

def laterRequest : CrossShardRequest := ⟨4, 5, 200, "EUR", "order-8"⟩

def afterFirst : CrossShardCoordinator TransferWorld :=
  (execute (tcpTransferClients acceptingWire) parityRouter crossRequest (.started .started)).2

theorem laterTransfer_voided : (afterFirst.execute (tcpTransferClients acceptingWire) parityRouter laterRequest).1 ≠ .ok () ∧
      ∀ hold ∈ (afterFirst.execute (tcpTransferClients acceptingWire) parityRouter
        laterRequest).2.world.ledger.holds, hold.status = .voided := by
  have first : (tcpSystem acceptingWire).step (.started .started) (parityRouter, crossRequest) = some afterFirst := rfl
  obtain ⟨failed, voided, _⟩ := productionExecute_voids (fun _ => rfl) (.step .refl trivial first) parityRouter laterRequest
  exact ⟨failed, voided⟩

end Blazil.Payments

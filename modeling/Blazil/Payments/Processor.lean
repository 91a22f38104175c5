import Blazil.Foundation.Transition
import Blazil.Payments.Domain
import Mathlib.Tactic.Simps.Basic

/-! The payment processor (`services/payments/internal/lifecycle/processor.go`) and its
idempotency store (`idempotency.go`), as a system in which any number of calls of
`Process` interleave. A step is one access to the store or one call of a collaborator;
the engine answers as the environment chooses, with or without having committed a
transfer. Metrics and log messages are left out. -/

set_option autoImplicit false

namespace Blazil.Payments

open Foundation

structure IdempotencyEntry where
  payment : Payment
  storedAt : Nat

/-- Entries by key, with the time after which they expire. -/
structure IdempotencyStore where
  entries : String → Option IdempotencyEntry
  ttl : Nat

namespace IdempotencyStore

def isExpired (store : IdempotencyStore) (now : Nat) (entry : IdempotencyEntry) : Bool :=
  store.ttl < now - entry.storedAt

def set (store : IdempotencyStore) (key : String) (payment : Payment) (now : Nat) : IdempotencyStore :=
  { store with
    entries := fun other => if other = key then some ⟨payment, now⟩ else store.entries other }

def delete (store : IdempotencyStore) (key : String) : IdempotencyStore :=
  { store with entries := fun other => if other = key then none else store.entries other }

def evictExpired (store : IdempotencyStore) (now : Nat) : IdempotencyStore :=
  { store with
    entries := fun key => (store.entries key).filter fun entry => !store.isExpired now entry }

end IdempotencyStore

structure AuthorizationResult where
  approved : Bool
  reason : String

/-- The collaborators a processor is built with. Without a shard router every payment
stays on one shard. -/
structure Collaborators where
  authorize : Payment → AuthorizationResult
  route : Payment → Except String PaymentRails
  isCrossShard : Option (UInt64 → UInt64 → Bool)
  hasCoordinator : Bool

def accountToUint64 (id : String) : UInt64 :=
  id.toUTF8.toList.foldl (fun hash byte => (hash ^^^ byte.toUInt64) * 1099511628211) 14695981039346656037

inductive CallPhase where
  | looking
  | expiring
  | building
  | executing (payment : Payment)
  | submitting (payment : Payment)
  | storing (payment : Payment)
  | saving (payment : Payment)
  | returned (result : Except String Payment)

/-- What `Submit` returns: an error, or whether the engine has committed. -/
inductive SubmitReply where
  | failed (reason : String)
  | committed
  | rejected
deriving DecidableEq

def Collaborators.crossesShards (collaborators : Collaborators) (payment : Payment) : Bool :=
  match collaborators.isCrossShard with
  | none => false
  | some isCrossShard =>
    isCrossShard (accountToUint64 payment.debitAccountId) (accountToUint64 payment.creditAccountId)

def newPayment (request : ProcessPaymentRequest) (paymentId : String) : Payment where
  id := paymentId
  idempotencyKey := request.idempotencyKey
  debitAccountId := request.debitAccountId
  creditAccountId := request.creditAccountId
  amount := request.amount
  ledgerId := request.ledgerId
  metadata := request.metadata

/-- Authorization, routing and the choice of the engine call. -/
def Collaborators.prepare (collaborators : Collaborators) (payment : Payment) : CallPhase :=
  let verdict := collaborators.authorize payment
  if verdict.approved then
    let authorized := { payment with status := .authorized }
    match collaborators.route authorized with
    | .error reason =>
      .returned (.error ("routing failed for payment " ++ payment.id ++ ": " ++ reason))
    | .ok rails =>
      let routed := { authorized with rails := rails }
      if collaborators.crossesShards routed && collaborators.hasCoordinator then .executing routed
      else if rails = .internal then .submitting routed
      else .storing { routed with status := .cleared }
  else .storing { payment with status := .failed, failureReason := verdict.reason }

def afterExecute (payment : Payment) : Option String → CallPhase
  | some reason =>
    .returned (.error
      ("cross-shard transfer failed for payment " ++ payment.id ++ ": " ++ reason))
  | none => .storing { payment with status := .settled }

def afterSubmit (payment : Payment) : SubmitReply → CallPhase
  | .failed reason =>
    .returned (.error ("engine submission failed for payment " ++ payment.id ++ ": " ++ reason))
  | .committed => .storing { payment with status := .settled }
  | .rejected => .storing { payment with status := .failed, failureReason := "engine rejected" }

def afterSave (payment : Payment) : Option String → Except String Payment
  | some reason => .error ("store failed for payment " ++ payment.id ++ ": " ++ reason)
  | none => .ok payment

structure Call where
  request : ProcessPaymentRequest
  phase : CallPhase

/-- All calls so far, and the transfers that the engine has committed for them, each
with the key of its request. -/
structure Processor where
  store : IdempotencyStore
  now : Nat
  calls : List Call
  transfers : List (String × Payment)

inductive ProcessorLabel where
  | begin (request : ProcessPaymentRequest)
  | get (call : Nat)
  | expire (call : Nat)
  | build (call : Nat) (paymentId : String)
  | execute (call : Nat) (applied : Bool) (failure : Option String)
  | submit (call : Nat) (applied : Bool) (reply : SubmitReply)
  | set (call : Nat)
  | save (call : Nat) (failure : Option String)
  | cleanup
  | wait (duration : Nat)

namespace Processor

def started (ttl : Nat) : Processor := ⟨⟨fun _ => none, ttl⟩, 0, [], []⟩

@[simps]
def setPhase (processor : Processor) (index : Nat) (phase : CallPhase) : Processor :=
  { processor with
    calls := processor.calls.modify index fun call => { call with phase := phase } }

@[simps]
def setStore (processor : Processor) (store : IdempotencyStore) : Processor :=
  { processor with store := store }

/-- The engine commits a transfer for the payment, or does not. -/
@[simps]
def recordTransfer (processor : Processor) (key : String) (payment : Payment) (applied : Bool) : Processor :=
  { processor with
    transfers := processor.transfers ++ if applied then [(key, payment)] else [] }

/-- The result of a lookup in the store; an expired entry is deleted in a second step. -/
def afterGet (processor : Processor) (key : String) : CallPhase :=
  match processor.store.entries key with
  | none => .building
  | some entry =>
    if processor.store.isExpired processor.now entry then .expiring
    else .returned (.ok entry.payment)

def step (collaborators : Collaborators) (processor : Processor) : ProcessorLabel → Option Processor
  | .begin request => some { processor with calls := processor.calls ++ [⟨request, .looking⟩] }
  | .get index =>
    match processor.calls[index]? with
    | some ⟨request, .looking⟩ =>
      some (processor.setPhase index (processor.afterGet request.idempotencyKey))
    | _ => none
  | .expire index =>
    match processor.calls[index]? with
    | some ⟨request, .expiring⟩ =>
      some ((processor.setStore (processor.store.delete request.idempotencyKey)).setPhase index .building)
    | _ => none
  | .build index paymentId =>
    match processor.calls[index]? with
    | some ⟨request, .building⟩ =>
      some (processor.setPhase index (collaborators.prepare (newPayment request paymentId)))
    | _ => none
  | .execute index applied failure =>
    match processor.calls[index]? with
    | some ⟨request, .executing payment⟩ =>
      some ((processor.recordTransfer request.idempotencyKey payment applied).setPhase index (afterExecute payment failure))
    | _ => none
  | .submit index applied reply =>
    match processor.calls[index]? with
    | some ⟨request, .submitting payment⟩ =>
      some ((processor.recordTransfer request.idempotencyKey payment applied).setPhase index (afterSubmit payment reply))
    | _ => none
  | .set index =>
    match processor.calls[index]? with
    | some ⟨request, .storing payment⟩ =>
      some ((processor.setStore (processor.store.set request.idempotencyKey payment
        processor.now)).setPhase index (.saving payment))
    | _ => none
  | .save index failure =>
    match processor.calls[index]? with
    | some ⟨_, .saving payment⟩ =>
      some (processor.setPhase index (.returned (afterSave payment failure)))
    | _ => none
  | .cleanup => some (processor.setStore (processor.store.evictExpired processor.now))
  | .wait duration => some { processor with now := processor.now + duration }

def system (collaborators : Collaborators) : System Processor ProcessorLabel :=
  ⟨step collaborators⟩

inductive Moves (collaborators : Collaborators) (processor : Processor) : ProcessorLabel → Processor → Prop where
  | begin {request} : Moves collaborators processor (.begin request)
        { processor with calls := processor.calls ++ [⟨request, .looking⟩] }
  | get {index request} (found : processor.calls[index]? = some ⟨request, .looking⟩) :
      Moves collaborators processor (.get index) (processor.setPhase index (processor.afterGet request.idempotencyKey))
  | expire {index request} (found : processor.calls[index]? = some ⟨request, .expiring⟩) :
      Moves collaborators processor (.expire index)
        ((processor.setStore (processor.store.delete request.idempotencyKey)).setPhase index .building)
  | build {index paymentId request} (found : processor.calls[index]? = some ⟨request, .building⟩) :
      Moves collaborators processor (.build index paymentId)
        (processor.setPhase index (collaborators.prepare (newPayment request paymentId)))
  | execute {index applied failure request payment}
      (found : processor.calls[index]? = some ⟨request, .executing payment⟩) :
      Moves collaborators processor (.execute index applied failure)
        ((processor.recordTransfer request.idempotencyKey payment applied).setPhase index (afterExecute payment failure))
  | submit {index applied reply request payment}
      (found : processor.calls[index]? = some ⟨request, .submitting payment⟩) :
      Moves collaborators processor (.submit index applied reply)
        ((processor.recordTransfer request.idempotencyKey payment applied).setPhase index (afterSubmit payment reply))
  | set {index request payment} (found : processor.calls[index]? = some ⟨request, .storing payment⟩) :
      Moves collaborators processor (.set index) ((processor.setStore (processor.store.set request.idempotencyKey payment
          processor.now)).setPhase index (.saving payment))
  | save {index failure request payment} (found : processor.calls[index]? = some ⟨request, .saving payment⟩) :
      Moves collaborators processor (.save index failure) (processor.setPhase index (.returned (afterSave payment failure)))
  | cleanup : Moves collaborators processor .cleanup (processor.setStore (processor.store.evictExpired processor.now))
  | wait {duration} : Moves collaborators processor (.wait duration)
        { processor with now := processor.now + duration }

theorem step_moves {collaborators processor next label}
    (stepped : processor.step collaborators label = some next) : Moves collaborators processor label next := by
  cases label with
  | begin | cleanup | wait =>
    cases stepped
    constructor
  | get | expire | build | execute | submit | set | save =>
    -- each of these labels moves one call that is in the phase it asks for
    simp only [step] at stepped
    split at stepped
    · next found =>
      cases stepped
      constructor
      exact found
    · cases stepped

end Processor

end Blazil.Payments

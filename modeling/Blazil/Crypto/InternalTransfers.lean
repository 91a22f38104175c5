import Blazil.Crypto.Domain
import Blazil.Foundation.Attempts
import Blazil.Foundation.Entries
import Blazil.Foundation.Transition

/-! Transfers between wallets of the platform (`services/crypto/internal/transfers`). Each call of
the wallet service or the engine is one step, and so is the recording of a completed transfer. What
a failed transfer leaves behind, and how often the amount of one transfer id moves. -/

set_option autoImplicit false

namespace Blazil.Crypto

open Foundation Sharding

inductive WalletStatus where
  | active
  | frozen
  | archived
deriving DecidableEq

structure Wallet where
  chainId : Int32
  status : WalletStatus
deriving DecidableEq

structure InternalTransferRequest where
  id : String
  fromWalletId : String
  toWalletId : String
  fromAccountId : String
  toAccountId : String
  amountMinorUnits : Int64
deriving DecidableEq

structure InternalTransfer where
  id : String
  fromWalletId : String
  toWalletId : String
  fromAccountId : String
  toAccountId : String
  chainId : Int32
  amountMinorUnits : Int64
  createdAt : Nat
deriving DecidableEq

def newInternalTransfer (request : InternalTransferRequest) (chainId : Int32) (now : Nat) : InternalTransfer where
  id := request.id
  fromWalletId := request.fromWalletId
  toWalletId := request.toWalletId
  fromAccountId := request.fromAccountId
  toAccountId := request.toAccountId
  chainId := chainId
  amountMinorUnits := request.amountMinorUnits
  createdAt := now

/-- The checks before the first engine call; the chain is that of both wallets. The second
wallet may be frozen. -/
def validateTransfer (request : InternalTransferRequest)
    (fromWallet toWallet : Except String Wallet) : Except CryptoError Int32 :=
  if request.amountMinorUnits ≤ 0 then .error .insufficientAmount
  else
    match fromWallet with
    | .error reason => .error (.wrapped "from wallet" (.external reason))
    | .ok source =>
      match toWallet with
      | .error reason => .error (.wrapped "to wallet" (.external reason))
      | .ok dest =>
        if source.status = .frozen then .error .walletFrozen
        else if source.status = .archived then .error .walletArchived
        else if source.chainId ≠ dest.chainId then .error .chainMismatch
        else .ok source.chainId

inductive TransferStep where
  | debit
  | credit
  | refund
deriving DecidableEq

def TransferStep.operation (request : InternalTransferRequest) : TransferStep → EngineOp
  | .debit => .debit request.fromAccountId request.amountMinorUnits
  | .credit => .credit request.toAccountId request.amountMinorUnits
  | .refund => .credit request.fromAccountId request.amountMinorUnits

inductive TransferPhase where
  | validating
  | debiting (chainId : Int32)
  | crediting (chainId : Int32)
  | refunding (reason : String)
  | recording (chainId : Int32)
  | returned (result : Except CryptoError InternalTransfer)

structure TransferCall where
  request : InternalTransferRequest
  made : List (TransferStep × CallOutcome)
  phase : TransferPhase

structure TransferService where
  transfers : String → Option InternalTransfer
  calls : List TransferCall

inductive TransferLabel where
  | transfer (request : InternalTransferRequest)
  | validate (call : Nat) (fromWallet toWallet : Except String Wallet)
  | debit (call : Nat) (outcome : CallOutcome)
  | credit (call : Nat) (outcome : CallOutcome)
  | refund (call : Nat) (outcome : CallOutcome)
  | record (call : Nat) (now : Nat)

def afterValidate (request : InternalTransferRequest) (fromWallet toWallet : Except String Wallet) : TransferPhase :=
  match validateTransfer request fromWallet toWallet with
  | .ok chainId => .debiting chainId
  | .error error => .returned (.error error)

def afterTransferDebit (chainId : Int32) (reply : Except String Unit) : TransferPhase :=
  match reply with
  | .ok _ => .crediting chainId
  | .error reason => .returned (.error (.external reason))

def afterTransferCredit (chainId : Int32) (reply : Except String Unit) : TransferPhase :=
  match reply with
  | .ok _ => .recording chainId
  | .error reason => .refunding reason

namespace TransferService

def started : TransferService := ⟨fun _ => none, []⟩

@[simps]
def append (service : TransferService) (call : TransferCall) : TransferService :=
  { service with calls := service.calls ++ [call] }

@[simps]
def setPhase (service : TransferService) (index : Nat) (phase : TransferPhase) : TransferService :=
  { service with calls := service.calls.modify index fun call => { call with phase := phase } }

/-- A call has made an engine call and goes on. -/
@[simps]
def advance (service : TransferService) (index : Nat) (step : TransferStep)
    (outcome : CallOutcome) (phase : TransferPhase) : TransferService :=
  { service with
    calls := service.calls.modify index fun call =>
      { call with made := call.made ++ [(step, outcome)], phase := phase } }

@[simps]
def record (service : TransferService) (transfer : InternalTransfer) : TransferService :=
  { service with
    transfers := fun id => if id = transfer.id then some transfer else service.transfers id }

def step (service : TransferService) : TransferLabel → Option TransferService
  | .transfer request => some (service.append ⟨request, [], .validating⟩)
  | .validate index fromWallet toWallet =>
    match service.calls[index]? with
    | some ⟨request, _, .validating⟩ =>
      some (service.setPhase index (afterValidate request fromWallet toWallet))
    | _ => none
  | .debit index outcome =>
    match service.calls[index]? with
    | some ⟨_, _, .debiting chainId⟩ =>
      some (service.advance index .debit outcome (afterTransferDebit chainId outcome.reply))
    | _ => none
  | .credit index outcome =>
    match service.calls[index]? with
    | some ⟨_, _, .crediting chainId⟩ =>
      some (service.advance index .credit outcome (afterTransferCredit chainId outcome.reply))
    | _ => none
  | .refund index outcome =>
    match service.calls[index]? with
    | some ⟨_, _, .refunding reason⟩ =>
      -- the result of the refund is ignored
      some (service.advance index .refund outcome (.returned (.error (.external reason))))
    | _ => none
  | .record index now =>
    match service.calls[index]? with
    | some ⟨request, _, .recording chainId⟩ =>
      some ((service.record (newInternalTransfer request chainId now)).setPhase index
        (.returned (.ok (newInternalTransfer request chainId now))))
    | _ => none

def system : System TransferService TransferLabel := ⟨step⟩

inductive Moves (service : TransferService) : TransferLabel → TransferService → Prop where
  | transfer {request} : Moves service (.transfer request) (service.append ⟨request, [], .validating⟩)
  | validate {index fromWallet toWallet request made}
      (found : service.calls[index]? = some ⟨request, made, .validating⟩) :
      Moves service (.validate index fromWallet toWallet) (service.setPhase index (afterValidate request fromWallet toWallet))
  | debit {index outcome request made chainId}
      (found : service.calls[index]? = some ⟨request, made, .debiting chainId⟩) :
      Moves service (.debit index outcome) (service.advance index .debit outcome (afterTransferDebit chainId outcome.reply))
  | credit {index outcome request made chainId}
      (found : service.calls[index]? = some ⟨request, made, .crediting chainId⟩) :
      Moves service (.credit index outcome) (service.advance index .credit outcome (afterTransferCredit chainId outcome.reply))
  | refund {index outcome request made reason}
      (found : service.calls[index]? = some ⟨request, made, .refunding reason⟩) :
      Moves service (.refund index outcome) (service.advance index .refund outcome (.returned (.error (.external reason))))
  | record {index now request made chainId} (found : service.calls[index]? = some ⟨request, made, .recording chainId⟩) :
      Moves service (.record index now) ((service.record (newInternalTransfer request chainId now)).setPhase index
          (.returned (.ok (newInternalTransfer request chainId now))))

theorem step_moves {service next : TransferService} {label : TransferLabel}
    (stepped : service.step label = some next) : Moves service label next := by
  cases label with
  | transfer =>
    cases stepped
    exact .transfer
  | validate | debit | credit | refund | record =>
    simp only [step] at stepped
    split at stepped
    · next found =>
      cases stepped
      constructor
      exact found
    · cases stepped

end TransferService

open Foundation.System

namespace TransferCall

def operations (call : TransferCall) : List EngineOp :=
  call.made.flatMap fun entry => entry.2.applied (entry.1.operation call.request)

def moved (call : TransferCall) : Bool :=
  call.made.any fun entry => entry.1 = .credit && entry.2.takesEffect

def failed (call : TransferCall) : Bool :=
  match call.phase with
  | .returned (.error _) => true
  | _ => false

def Neutral (call : TransferCall) : Prop :=
  netChange call.operations call.request.fromAccountId = 0 ∧ netChange call.operations call.request.toAccountId = 0

instance (call : TransferCall) : Decidable call.Neutral :=
  inferInstanceAs (Decidable (_ ∧ _))

/-- The engine calls of a failed transfer undo each other: a debit that fails has not been
made; when the credit fails, it has not been made and the refund has, except that within
one account either of them will do. -/
def Reverted (call : TransferCall) : Prop :=
  match call.made with
  | [] => True
  | [(_, debit)] => debit.takesEffect = false
  | [_, (_, credit), (_, refund)] =>
    if call.request.fromAccountId = call.request.toAccountId then
      credit.takesEffect ≠ refund.takesEffect
    else credit.takesEffect = false ∧ refund.takesEffect = true
  | _ => False

/-- Which engine calls a call has made when it has come to a phase. -/
inductive Traced (request : InternalTransferRequest) : List (TransferStep × CallOutcome) → TransferPhase → Prop where
  | validating : Traced request [] .validating
  | invalid {error} : Traced request [] (.returned (.error error))
  | debiting {chainId} (positive : 0 < request.amountMinorUnits) : Traced request [] (.debiting chainId)
  | undebited {debit error} (positive : 0 < request.amountMinorUnits) :
      Traced request [(.debit, debit)] (.returned (.error error))
  | crediting {chainId} (positive : 0 < request.amountMinorUnits) :
      Traced request [(.debit, .accepted)] (.crediting chainId)
  | refunding {credit reason} (positive : 0 < request.amountMinorUnits) :
      Traced request [(.debit, .accepted), (.credit, credit)] (.refunding reason)
  | uncredited {credit refund error} (positive : 0 < request.amountMinorUnits) :
      Traced request [(.debit, .accepted), (.credit, credit), (.refund, refund)] (.returned (.error error))
  | recording {chainId} : Traced request [(.debit, .accepted), (.credit, .accepted)] (.recording chainId)
  | recorded {transfer} : Traced request [(.debit, .accepted), (.credit, .accepted)] (.returned (.ok transfer))

end TransferCall

open TransferCall

theorem traced_afterValidate (request : InternalTransferRequest) (fromWallet toWallet : Except String Wallet) :
    Traced request [] (afterValidate request fromWallet toWallet) := by
  unfold afterValidate
  cases checked : validateTransfer request fromWallet toWallet with
  | error => exact .invalid
  | ok =>
    refine .debiting ?_
    unfold validateTransfer at checked
    split at checked
    · cases checked
    · next positive => exact Int64.not_le.mp positive

namespace TransferService

section Trace

variable {service next : TransferService} {label : TransferLabel}

def EveryTraced (service : TransferService) : Prop :=
  ∀ call ∈ service.calls, Traced call.request call.made call.phase

theorem EveryTraced.step (every : EveryTraced service) (stepped : service.step label = some next) : EveryTraced next := by
  cases step_moves stepped with
  | transfer =>
    exact holds_after_concat every .validating
  | @validate _ fromWallet toWallet request _ found =>
    have traced := every _ (List.mem_of_getElem? found)
    cases traced
    exact holds_after_modify found every (traced_afterValidate request fromWallet toWallet)
  | @debit _ outcome _ _ _ found =>
    have traced := every _ (List.mem_of_getElem? found)
    cases traced with
    | debiting positive =>
      refine holds_after_modify found every ?_
      cases replied : outcome.reply with
      | ok =>
        rw [CallOutcome.accepted_of_reply replied]
        exact .crediting positive
      | error => exact .undebited positive
  | @credit _ outcome _ _ _ found =>
    have traced := every _ (List.mem_of_getElem? found)
    cases traced with
    | crediting positive =>
      refine holds_after_modify found every ?_
      cases replied : outcome.reply with
      | ok =>
        rw [CallOutcome.accepted_of_reply replied]
        exact .recording
      | error => exact .refunding positive
  | @refund _ _ _ _ _ found =>
    have traced := every _ (List.mem_of_getElem? found)
    cases traced with
    | refunding positive => exact holds_after_modify found every (.uncredited positive)
  | @record _ _ _ _ _ found =>
    have traced := every _ (List.mem_of_getElem? found)
    cases traced
    exact holds_after_modify found every .recorded

theorem everyTraced_of_reachable (reached : system.Reachable started service) : EveryTraced service :=
  reached.invariant EveryTraced (by simp [EveryTraced, started])
    fun _ _ _ _ stepped every => every.step stepped

end Trace

theorem neutral_iff_reverted {call : TransferCall} (traced : Traced call.request call.made call.phase)
    (failed : call.failed = true) : call.Neutral ↔ call.Reverted := by
  obtain ⟨request, _⟩ := call
  cases traced with
  | validating | debiting | crediting | refunding | recording | recorded => cases failed
  | invalid => simp [Neutral, Reverted, operations, netChange]
  | @undebited debit _ positive =>
    have nonzero := toInt_ne_zero_of_pos positive
    cases applied : debit.takesEffect <;>
      simp [Neutral, Reverted, operations, netChange_applied, applied, EngineOp.change, TransferStep.operation, nonzero]
  | @uncredited credit refund error positive =>
    have nonzero : request.amountMinorUnits.toInt ≠ 0 := toInt_ne_zero_of_pos positive
    have balance : ∀ account, netChange (operations ⟨request, [(.debit, .accepted), (.credit, credit),
            (.refund, refund)], .returned (.error error)⟩) account =
          (if request.fromAccountId = account then -request.amountMinorUnits.toInt else 0) +
            ((if credit.takesEffect then
              if request.toAccountId = account then request.amountMinorUnits.toInt else 0
            else 0) +
            if refund.takesEffect then
              if request.fromAccountId = account then request.amountMinorUnits.toInt else 0
            else 0) := by
      intro account
      simp [operations, netChange_append, netChange_applied, EngineOp.change, TransferStep.operation]
    simp only [Neutral, Reverted, balance]
    -- Within one account the refund makes up for the credit; between two it does not.
    by_cases same : request.fromAccountId = request.toAccountId <;>
      cases credit.takesEffect <;> cases refund.takesEffect <;>
      simp [same, nonzero, Int.add_left_neg, ← Int.add_assoc]

section Once

variable (id : String)

def stageFor (call : TransferCall) : AttemptStage :=
  if call.request.id = id then
    match call.phase with
    | .debiting _ | .crediting _ => .armed
    | .recording _ => .spent
    | .validating | .refunding _ | .returned _ => .outside
  else .outside

def movesFor (service : TransferService) : Nat :=
  service.calls.countP fun call => call.request.id = id && call.moved

/-- A call for the transfer passes its checks only when the transfer is not recorded and no
other call for it is between its checks and its record; and a credit for it that fails has
not been made. -/
def Careful (service : TransferService) : TransferLabel → Prop
  | .validate index _ _ =>
    ∀ call ∈ service.calls[index]?, call.request.id = id →
      service.transfers id = none ∧ ∀ other ∈ service.calls, stageFor id other = .outside
  | .credit index outcome =>
    ∀ call ∈ service.calls[index]?, call.request.id = id → outcome.takesEffect = outcome.isAccepted
  | _ => True

instance (service : TransferService) (label : TransferLabel) : Decidable (Careful id service label) :=
  match label with
  | .validate index _ _ =>
    inferInstanceAs (Decidable (∀ call ∈ service.calls[index]?, _ → _ ∧ ∀ other ∈ service.calls, _))
  | .credit index _ => inferInstanceAs (Decidable (∀ call ∈ service.calls[index]?, _ → _))
  | .transfer _ | .debit _ _ | .refund _ _ | .record _ _ => .isTrue trivial

def Sound (service : TransferService) : Prop :=
  (Attempts.census (stageFor id) service.calls (service.transfers id).isSome (service.movesFor id)).AtMostOnce

variable {id} {service next : TransferService} {label : TransferLabel}

section Change

variable {index : Nat} {call : TransferCall} {change : TransferCall → TransferCall}

theorem movesFor_modify (calls : next.calls = service.calls.modify index change)
    (found : service.calls[index]? = some call) (request : (change call).request = call.request)
    (moved : call.request.id = id → (change call).moved = call.moved) : next.movesFor id = service.movesFor id := by
  have counted := countP_modify (fun call => call.request.id = id && call.moved) change found
  unfold movesFor
  rw [calls]
  by_cases own : call.request.id = id
  · simpa [request, own, moved own] using counted
  · simpa [request, own] using counted

section

variable (sound : Sound id service) (calls : next.calls = service.calls.modify index change)
  (found : service.calls[index]? = some call) (request : (change call).request = call.request)
include sound calls found request

theorem Sound.keep (moved : call.request.id = id → (change call).moved = call.moved)
    (stage : stageFor id (change call) = stageFor id call)
    (transfers : next.transfers id = service.transfers id) : Sound id next := by
  unfold Sound
  rw [movesFor_modify calls found request moved, calls, transfers, Attempts.census_modify found stage]
  exact sound

theorem Sound.foreign (foreign : call.request.id ≠ id) (transfers : next.transfers id = service.transfers id) : Sound id next :=
  sound.keep calls found request (fun own => absurd own foreign) (by simp [stageFor, request, foreign]) transfers

end

end Change

variable {index : Nat} {request : InternalTransferRequest} {made : List (TransferStep × CallOutcome)} {chainId : Int32}

section

variable (sound : Sound id service)
include sound

theorem sound_validate {fromWallet toWallet : Except String Wallet}
    (careful : Careful id service (.validate index fromWallet toWallet))
    (found : service.calls[index]? = some ⟨request, made, .validating⟩) :
    Sound id (service.setPhase index (afterValidate request fromWallet toWallet)) := by
  by_cases own : request.id = id
  · obtain ⟨unrecorded, nobody⟩ := careful _ found own
    unfold afterValidate
    cases validateTransfer request fromWallet toWallet with
    | error => exact sound.keep rfl found rfl (fun _ => rfl) (by simp [stageFor]) rfl
    | ok chainId =>
      have moves : (service.setPhase index (.debiting chainId)).movesFor id = service.movesFor id :=
        movesFor_modify rfl found rfl fun _ => rfl
      have closed : (service.transfers id).isSome = false := by rw [unrecorded]; rfl
      unfold Sound at sound ⊢
      simp only [moves, setPhase_calls, setPhase_transfers, closed] at sound ⊢
      exact sound.follows (Attempts.follows_enter found nobody (by simp [stageFor, own]) _)
  · exact sound.foreign rfl found rfl own rfl

variable {outcome : CallOutcome}

theorem sound_debit (found : service.calls[index]? = some ⟨request, made, .debiting chainId⟩) :
    Sound id (service.advance index .debit outcome (afterTransferDebit chainId outcome.reply)) := by
  by_cases own : request.id = id
  · have unmoved : moved ⟨request, made ++ [(.debit, outcome)],
        afterTransferDebit chainId outcome.reply⟩ = moved ⟨request, made, .debiting chainId⟩ := by
      simp [moved]
    cases replied : outcome.reply with
    | ok =>
      exact sound.keep rfl found rfl (fun _ => unmoved) (by simp [stageFor, afterTransferDebit]) rfl
    | error =>
      rw [replied] at unmoved
      unfold Sound at sound ⊢
      rw [movesFor_modify (advance_calls ..) found rfl (fun _ => unmoved)]
      exact sound.follows (Attempts.follows_abandon found (by simp [stageFor, own])
        (by simp [stageFor, afterTransferDebit]) _ _ _)
  · exact sound.foreign rfl found rfl own rfl

theorem sound_credit (careful : Careful id service (.credit index outcome))
    (found : service.calls[index]? = some ⟨request, [(.debit, .accepted)], .crediting chainId⟩) :
    Sound id (service.advance index .credit outcome (afterTransferCredit chainId outcome.reply)) := by
  by_cases own : request.id = id
  · have counted := countP_modify (fun call => call.request.id = id && call.moved)
      (fun call => ⟨call.request, call.made ++ [(.credit, outcome)], afterTransferCredit chainId outcome.reply⟩) found
    have moves : (service.advance index .credit outcome (afterTransferCredit chainId outcome.reply)).movesFor id =
        service.movesFor id + if outcome.isAccepted then 1 else 0 := by
      simpa [movesFor, moved, own, careful _ found own] using counted
    unfold Sound at sound ⊢
    rw [moves, advance_calls, advance_transfers]
    cases replied : outcome.reply with
    | ok =>
      rw [CallOutcome.accepted_of_reply replied]
      exact sound.follows (Attempts.follows_act found (by simp [stageFor, own])
        (by simp [stageFor, afterTransferCredit, own]) true _ _ _)
    | error =>
      rw [CallOutcome.isAccepted_of_reply replied]
      exact sound.follows (Attempts.follows_abandon found (by simp [stageFor, own])
        (by simp [stageFor, afterTransferCredit]) _ _ _)
  · exact sound.foreign rfl found rfl own rfl

theorem sound_record {now : Nat} (found : service.calls[index]? = some ⟨request, made, .recording chainId⟩) :
    Sound id ((service.record (newInternalTransfer request chainId now)).setPhase index
      (.returned (.ok (newInternalTransfer request chainId now)))) := by
  by_cases own : request.id = id
  · have moves : ((service.record (newInternalTransfer request chainId now)).setPhase index
        (.returned (.ok (newInternalTransfer request chainId now)))).movesFor id = service.movesFor id :=
      movesFor_modify rfl found rfl fun _ => rfl
    unfold Sound at sound ⊢
    rw [moves]
    exact sound.follows (Attempts.follows_finish found (by simp [stageFor, own])
      (by simp [stageFor]) _ (.inl (by simp [newInternalTransfer, own])))
  · exact sound.foreign rfl found rfl own (if_neg fun same => own same.symm)

theorem Sound.step (every : EveryTraced service) (careful : Careful id service label)
    (stepped : service.step label = some next) : Sound id next := by
  cases step_moves stepped with
  | @transfer request =>
    have moves : (service.append ⟨request, [], .validating⟩).movesFor id = service.movesFor id := by
      simp [movesFor, moved]
    unfold Sound at sound ⊢
    rw [moves, append_calls, Attempts.census_append (stageFor id) (by simp [stageFor])]
    exact sound
  | validate found => exact sound_validate sound careful found
  | debit found => exact sound_debit sound found
  | credit found =>
    have traced := every _ (List.mem_of_getElem? found)
    cases traced
    exact sound_credit sound careful found
  | refund found =>
    exact sound.keep rfl found rfl (fun _ => by simp [moved]) (by simp [stageFor]) rfl
  | record found => exact sound_record sound found

end

theorem careful_moves_at_most_once (reached : system.Reaches (Careful id) started service) : service.movesFor id ≤ 1 := by
  have invariant : EveryTraced service ∧ Sound id service := by
    refine reached.invariant (fun state => EveryTraced state ∧ Sound id state) ?_ ?_
    · exact ⟨by simp [EveryTraced, started], Attempts.atMostOnce_initial false⟩
    · intro before label after careful stepped holds
      obtain ⟨every, sound⟩ := holds
      exact ⟨every.step stepped, sound.step every careful stepped⟩
  exact invariant.2.once

end Once

/-- A failed transfer leaves both balances unchanged exactly when its engine calls undo each
other, and in a careful run the amount of a transfer moves at most once. -/
theorem failedTransfer_neutral_and_moves_once {service : TransferService} (reached : system.Reachable started service) :
    (∀ call ∈ service.calls, call.failed = true → (call.Neutral ↔ call.Reverted)) ∧
      ∀ id, system.Reaches (Careful id) started service → service.movesFor id ≤ 1 := by
  constructor
  · intro call member failed
    exact neutral_iff_reverted (everyTraced_of_reachable reached call member) failed
  · intro id careful
    exact careful_moves_at_most_once careful

def betweenFriends : InternalTransferRequest := ⟨"t-1", "w-1", "w-2", "acc-1", "acc-2", 700⟩

def onBitcoin : Except String Wallet := .ok ⟨1, .active⟩

/-- With the receiving account's credit and the refund rejected the amount is gone; and the
same transfer sent twice is made twice. -/
theorem lostRefund_and_repeatedTransfer : (∃ service, system.Reachable started service ∧
        ∃ call ∈ service.calls, call.failed = true ∧ ¬ call.Neutral) ∧
      ∃ service, system.Reachable started service ∧ service.movesFor "t-1" = 2 :=
  ⟨exists_reachable_of_run _ _ [.transfer betweenFriends, .validate 0 onBitcoin onBitcoin, .debit 0 .accepted,
        .credit 0 (.rejected "closed account"), .refund 0 (.rejected "engine unavailable")] _
      (by decide),
    exists_reachable_of_run _ _ [.transfer betweenFriends, .validate 0 onBitcoin onBitcoin, .debit 0 .accepted,
        .credit 0 .accepted, .record 0 1, .transfer betweenFriends,
        .validate 1 onBitcoin onBitcoin, .debit 1 .accepted, .credit 1 .accepted] _
      (by decide)⟩

/-- A transfer whose credit is rejected is refunded, and then sent again. -/
theorem refundedTransfer_neutral_and_moved_once : ∃ service, system.Reachable started service ∧ service.calls.length = 2 ∧
      (∀ call ∈ service.calls, call.failed = true → (call.Neutral ↔ call.Reverted)) ∧ service.movesFor "t-1" ≤ 1 := by
  obtain ⟨service, reached, both⟩ := exists_reaches_of_run system (Careful "t-1") started
    [.transfer betweenFriends, .validate 0 onBitcoin onBitcoin, .debit 0 .accepted,
      .credit 0 (.rejected "closed account"), .refund 0 .accepted, .transfer betweenFriends,
      .validate 1 onBitcoin onBitcoin, .debit 1 .accepted, .credit 1 .accepted, .record 1 2]
    (fun service => service.calls.length = 2) (by decide) (by decide)
  have holds := failedTransfer_neutral_and_moves_once reached.reachable
  exact ⟨service, reached.reachable, both, holds.1, holds.2 "t-1" reached⟩

end TransferService

end Blazil.Crypto

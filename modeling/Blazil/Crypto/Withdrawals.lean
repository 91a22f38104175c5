import Blazil.Crypto.Domain
import Blazil.Foundation.GuardedRecords
import Blazil.Foundation.Transition

/-! Withdrawals (`services/crypto/internal/withdrawals`). Each call of the store, the engine or a
chain adapter is one step, together with the code up to the next one. How often a withdrawal is
broadcast, and what one call of `ProcessWithdrawal` leaves behind when the calls it makes fail. -/

set_option autoImplicit false

namespace Blazil.Crypto

open Foundation Sharding

/-- The upsert of the Postgres store keeps what it does not name. -/
def withdrawalSchema : Schema String Withdrawal where
  key := Withdrawal.id
  merge row withdrawal := { row with txHash := withdrawal.txHash, status := withdrawal.status }
  key_merge _ _ := rfl

structure RequestWithdrawalRequest where
  id : String
  walletId : String
  accountId : String
  toAddress : String
  chainId : Int32
  amountMinorUnits : Int64
deriving DecidableEq

def newWithdrawal (request : RequestWithdrawalRequest) (positive : 0 < request.amountMinorUnits)
    (fee : Int64) (now : Nat) : Withdrawal where
  id := request.id
  walletId := request.walletId
  accountId := request.accountId
  toAddress := request.toAddress
  chainId := request.chainId
  amountMinorUnits := request.amountMinorUnits
  feeMinorUnits := fee
  txHash := ""
  status := .pending
  createdAt := now
  positive := positive

inductive WithdrawalVerdict where
  | failed (error : CryptoError)
  | broadcast
deriving DecidableEq

/-- How far a call has come: the first two phases are those of `RequestWithdrawal`. Later
ones work on the object that was loaded. -/
inductive WithdrawalPhase where
  | estimating (request : RequestWithdrawalRequest) (positive : 0 < request.amountMinorUnits)
  | requesting (withdrawal : Withdrawal)
  | finding
  | debiting (ref : Nat)
  | broadcasting (ref : Nat)
  | refunding (ref : Nat) (reason : String)
  | saving (ref : Nat) (verdict : WithdrawalVerdict)
  | returned (result : Except CryptoError Nat)

structure WithdrawalCall where
  withdrawalId : String
  phase : WithdrawalPhase

structure BroadcastTx where
  withdrawalId : String
  toAddress : String
  amount : Int64
deriving DecidableEq

structure WithdrawalService where
  store : ObjectStore String Withdrawal
  calls : List WithdrawalCall
  engine : List EngineOp
  broadcasts : List BroadcastTx

inductive WithdrawalLabel where
  | requestWithdrawal (request : RequestWithdrawalRequest)
  | estimate (call : Nat) (fee : Except String Int64) (now : Nat)
  | request (call : Nat) (outcome : CallOutcome)
  | processWithdrawal (withdrawalId : String)
  | find (call : Nat) (failure : Option String)
  | debit (call : Nat) (outcome : CallOutcome)
  | broadcast (call : Nat) (outcome : CallOutcome) (txHash : String)
  | refund (call : Nat) (outcome : CallOutcome)
  | save (call : Nat) (outcome : CallOutcome)

structure WithdrawalSetup where
  backing : Backing
  registered : Int32 → Bool

def saveWithdrawalError (reason : String) : CryptoError :=
  .wrapped "save withdrawal" (.external reason)

def beginRequest (registered : Int32 → Bool) (request : RequestWithdrawalRequest) : WithdrawalPhase :=
  if positive : 0 < request.amountMinorUnits then
    if registered request.chainId then .estimating request positive
    else .returned (.error .chainNotSupported)
  else .returned (.error .insufficientAmount)

def afterEstimate (request : RequestWithdrawalRequest) (positive : 0 < request.amountMinorUnits)
    (fee : Except String Int64) (now : Nat) : WithdrawalPhase :=
  match fee with
  | .error reason => .returned (.error (.wrapped "estimate fee" (.external reason)))
  | .ok fee =>
    if request.amountMinorUnits ≤ fee then .returned (.error .amountBelowFee)
    else .requesting (newWithdrawal request positive fee now)

def afterRequest (ref : Nat) (reply : Except String Unit) : WithdrawalPhase :=
  match reply with
  | .ok _ => .returned (.ok ref)
  | .error reason => .returned (.error (saveWithdrawalError reason))

def afterFindWithdrawal (registered : Int32 → Bool) (loaded : ObjectStore.Loaded String Withdrawal) : WithdrawalPhase :=
  if loaded.record.status ≠ .pending then .returned (.error .withdrawalNotPending)
  else if !registered loaded.record.chainId then .returned (.error .chainNotFound)
  else .debiting loaded.ref

def afterDebit (ref : Nat) (reply : Except String Unit) : (Withdrawal → Withdrawal) × WithdrawalPhase :=
  match reply with
  | .ok _ => (id, .broadcasting ref)
  | .error reason =>
    (fun withdrawal => { withdrawal with status := .failed },
      .saving ref (.failed (.external reason)))

def afterBroadcast (ref : Nat) (txHash : String) (reply : Except String Unit) : (Withdrawal → Withdrawal) × WithdrawalPhase :=
  match reply with
  | .ok _ =>
    (fun withdrawal => { withdrawal with txHash := txHash, status := .broadcast },
      .saving ref .broadcast)
  | .error reason => (id, .refunding ref reason)

def afterRefund (ref : Nat) (reason : String) : (Withdrawal → Withdrawal) × WithdrawalPhase :=
  (fun withdrawal => { withdrawal with status := .failed },
    .saving ref (.failed (.wrapped "broadcast" (.external reason))))

/-- Only the save of a broadcast withdrawal has its error returned. -/
def WithdrawalVerdict.result (ref : Nat) (reply : Except String Unit) : WithdrawalVerdict → Except CryptoError Nat
  | .failed error => .error error
  | .broadcast =>
    match reply with
    | .ok _ => .ok ref
    | .error reason => .error (saveWithdrawalError reason)

namespace WithdrawalService

def started : WithdrawalService := ⟨.empty, [], [], []⟩

@[simps]
def append (service : WithdrawalService) (call : WithdrawalCall) : WithdrawalService :=
  { service with calls := service.calls ++ [call] }

@[simps]
def setPhase (service : WithdrawalService) (index : Nat) (phase : WithdrawalPhase) : WithdrawalService :=
  { service with calls := service.calls.modify index fun call => { call with phase := phase } }

@[simps]
def setStore (service : WithdrawalService) (store : ObjectStore String Withdrawal) : WithdrawalService :=
  { service with store := store }

@[simps]
def operate (service : WithdrawalService) (operation : EngineOp) (outcome : CallOutcome) : WithdrawalService :=
  { service with engine := service.engine ++ outcome.applied operation }

@[simps]
def send (service : WithdrawalService) (withdrawal : Withdrawal) (outcome : CallOutcome) : WithdrawalService :=
  { service with
    broadcasts := service.broadcasts ++ outcome.applied ⟨withdrawal.id, withdrawal.toAddress, withdrawal.amountMinorUnits⟩ }

def work (service : WithdrawalService) (index ref : Nat)
    (next : (Withdrawal → Withdrawal) × WithdrawalPhase) : WithdrawalService :=
  (service.setStore (service.store.assign ref next.1)).setPhase index next.2

def step (setup : WithdrawalSetup) (service : WithdrawalService) : WithdrawalLabel → Option WithdrawalService
  | .requestWithdrawal request =>
    some (service.append ⟨request.id, beginRequest setup.registered request⟩)
  | .estimate index fee now =>
    match service.calls[index]? with
    | some ⟨_, .estimating request positive⟩ =>
      some (service.setPhase index (afterEstimate request positive fee now))
    | _ => none
  | .request index outcome =>
    match service.calls[index]? with
    | some ⟨_, .requesting withdrawal⟩ =>
      if Answers setup.backing outcome then
        some ((service.setStore (saveNew withdrawalSchema setup.backing service.store
          withdrawal outcome)).setPhase index (afterRequest service.store.objects.length outcome.reply))
      else none
    | _ => none
  | .processWithdrawal withdrawalId => some (service.append ⟨withdrawalId, .finding⟩)
  | .find index (some reason) =>
    match service.calls[index]?, setup.backing with
    | some ⟨_, .finding⟩, .rows =>
      some (service.setPhase index
        (.returned (.error (.wrapped "find withdrawal" (.external reason)))))
    | _, _ => none
  | .find index none =>
    match service.calls[index]? with
    | some ⟨withdrawalId, .finding⟩ =>
      match service.store.load withdrawalId with
      | none => some (service.setPhase index (.returned (.error .withdrawalNotFound)))
      | some loaded =>
        some ((service.setStore loaded.store).setPhase index (afterFindWithdrawal setup.registered loaded))
    | _ => none
  | .debit index outcome =>
    match service.calls[index]? with
    | some ⟨_, .debiting ref⟩ =>
      match service.store.objects[ref]? with
      | none => none
      | some withdrawal =>
        some ((service.operate (.debit withdrawal.accountId withdrawal.amountMinorUnits)
          outcome).work index ref (afterDebit ref outcome.reply))
    | _ => none
  | .broadcast index outcome txHash =>
    match service.calls[index]? with
    | some ⟨_, .broadcasting ref⟩ =>
      match service.store.objects[ref]? with
      | none => none
      | some withdrawal =>
        some ((service.send withdrawal outcome).work index ref (afterBroadcast ref txHash outcome.reply))
    | _ => none
  | .refund index outcome =>
    match service.calls[index]? with
    | some ⟨_, .refunding ref reason⟩ =>
      match service.store.objects[ref]? with
      | none => none
      | some withdrawal =>
        some ((service.operate (.credit withdrawal.accountId withdrawal.amountMinorUnits)
          outcome).work index ref (afterRefund ref reason))
    | _ => none
  | .save index outcome =>
    match service.calls[index]? with
    | some ⟨_, .saving ref verdict⟩ =>
      if Answers setup.backing outcome then
        some ((service.setStore (saveObject withdrawalSchema setup.backing service.store ref
          outcome)).setPhase index (.returned (verdict.result ref outcome.reply)))
      else none
    | _ => none

def system (setup : WithdrawalSetup) : System WithdrawalService WithdrawalLabel := ⟨step setup⟩

inductive Moves (setup : WithdrawalSetup) (service : WithdrawalService) : WithdrawalLabel → WithdrawalService → Prop where
  | requestWithdrawal {request} : Moves setup service (.requestWithdrawal request)
        (service.append ⟨request.id, beginRequest setup.registered request⟩)
  | estimate {index fee now withdrawalId request positive}
      (found : service.calls[index]? = some ⟨withdrawalId, .estimating request positive⟩) :
      Moves setup service (.estimate index fee now) (service.setPhase index (afterEstimate request positive fee now))
  | request {index outcome withdrawalId withdrawal}
      (found : service.calls[index]? = some ⟨withdrawalId, .requesting withdrawal⟩)
      (answers : Answers setup.backing outcome) :
      Moves setup service (.request index outcome)
        ((service.setStore (saveNew withdrawalSchema setup.backing service.store withdrawal
          outcome)).setPhase index (afterRequest service.store.objects.length outcome.reply))
  | processWithdrawal {withdrawalId} : Moves setup service (.processWithdrawal withdrawalId)
        (service.append ⟨withdrawalId, .finding⟩)
  | failed {index reason withdrawalId} (found : service.calls[index]? = some ⟨withdrawalId, .finding⟩)
      (remote : setup.backing = .rows) :
      Moves setup service (.find index (some reason)) (service.setPhase index
        (.returned (.error (.wrapped "find withdrawal" (.external reason)))))
  | missing {index withdrawalId} (found : service.calls[index]? = some ⟨withdrawalId, .finding⟩)
      (nothing : service.store.load withdrawalId = none) :
      Moves setup service (.find index none) (service.setPhase index (.returned (.error .withdrawalNotFound)))
  | find {index withdrawalId loaded} (found : service.calls[index]? = some ⟨withdrawalId, .finding⟩)
      (success : service.store.load withdrawalId = some loaded) :
      Moves setup service (.find index none) ((service.setStore loaded.store).setPhase index
        (afterFindWithdrawal setup.registered loaded))
  | debit {index outcome withdrawalId ref withdrawal}
      (found : service.calls[index]? = some ⟨withdrawalId, .debiting ref⟩)
      (object : service.store.objects[ref]? = some withdrawal) :
      Moves setup service (.debit index outcome) ((service.operate (.debit withdrawal.accountId withdrawal.amountMinorUnits)
          outcome).work index ref (afterDebit ref outcome.reply))
  | broadcast {index outcome txHash withdrawalId ref withdrawal}
      (found : service.calls[index]? = some ⟨withdrawalId, .broadcasting ref⟩)
      (object : service.store.objects[ref]? = some withdrawal) :
      Moves setup service (.broadcast index outcome txHash) ((service.send withdrawal outcome).work index ref
          (afterBroadcast ref txHash outcome.reply))
  | refund {index outcome withdrawalId ref reason withdrawal}
      (found : service.calls[index]? = some ⟨withdrawalId, .refunding ref reason⟩)
      (object : service.store.objects[ref]? = some withdrawal) :
      Moves setup service (.refund index outcome) ((service.operate (.credit withdrawal.accountId withdrawal.amountMinorUnits)
          outcome).work index ref (afterRefund ref reason))
  | save {index outcome withdrawalId ref verdict}
      (found : service.calls[index]? = some ⟨withdrawalId, .saving ref verdict⟩)
      (answers : Answers setup.backing outcome) :
      Moves setup service (.save index outcome) ((service.setStore (saveObject withdrawalSchema setup.backing service.store ref
          outcome)).setPhase index (.returned (verdict.result ref outcome.reply)))

theorem step_moves {setup : WithdrawalSetup} {service next : WithdrawalService} {label : WithdrawalLabel}
    (stepped : service.step setup label = some next) : Moves setup service label next := by
  cases label with simp only [step] at stepped
  | requestWithdrawal | processWithdrawal =>
    cases stepped
    constructor
  | estimate =>
    split at stepped
    · next found =>
      cases stepped
      exact .estimate found
    · cases stepped
  | find _ failure =>
    cases failure with simp only at stepped
    | some =>
      split at stepped
      · next found remote =>
        cases stepped
        exact .failed found remote
      · cases stepped
    | none =>
      split at stepped
      · next found =>
        split at stepped
        · next nothing =>
          cases stepped
          exact .missing found nothing
        · next success =>
          cases stepped
          exact .find found success
      · cases stepped
  | debit | broadcast | refund =>
    split at stepped
    · next found =>
      split at stepped
      · cases stepped
      · next object =>
        cases stepped
        constructor
        · exact found
        · exact object
    · cases stepped
  | request | save =>
    split at stepped
    · next found =>
      split at stepped
      · next answers =>
        cases stepped
        constructor
        · exact found
        · exact answers
      · cases stepped
    · cases stepped

end WithdrawalService

open Foundation.System

def Withdrawal.isPending (withdrawal : Withdrawal) : Bool := withdrawal.status = .pending

def WithdrawalPhase.stage : WithdrawalPhase → RecordStage
  | .estimating _ _ | .requesting _ | .finding | .returned _ => .outside
  | .debiting ref | .broadcasting ref | .refunding ref _ | .saving ref (.failed _) => .armed ref
  | .saving ref .broadcast => .spent ref

def WithdrawalPhase.requests : WithdrawalPhase → Option Withdrawal
  | .requesting withdrawal => some withdrawal
  | _ => none

def WithdrawalCall.view (call : WithdrawalCall) : RecordCall String :=
  ⟨call.withdrawalId, call.phase.stage⟩

theorem stage_beginRequest (registered : Int32 → Bool) (request : RequestWithdrawalRequest) :
    (beginRequest registered request).stage = .outside := by
  unfold beginRequest
  split
  · split <;> rfl
  · rfl

theorem stage_afterEstimate {request : RequestWithdrawalRequest} (positive : 0 < request.amountMinorUnits)
    (fee : Except String Int64) (now : Nat) : (afterEstimate request positive fee now).stage = .outside := by
  cases fee with
  | error => rfl
  | ok =>
    unfold afterEstimate
    dsimp only
    split <;> rfl

theorem stage_afterRequest (ref : Nat) (reply : Except String Unit) : (afterRequest ref reply).stage = .outside := by
  cases reply <;> rfl

theorem stage_afterFindWithdrawal (registered : Int32 → Bool) (loaded : ObjectStore.Loaded String Withdrawal) :
    (afterFindWithdrawal registered loaded).stage = .outside ∨
      (afterFindWithdrawal registered loaded).stage = .armed loaded.ref ∧ loaded.record.isPending = true := by
  unfold afterFindWithdrawal
  split
  · exact .inl rfl
  · next pending =>
    split
    · exact .inl rfl
    · exact .inr ⟨rfl, decide_eq_true (not_not.mp pending)⟩

namespace WithdrawalService

def broadcastsFor (service : WithdrawalService) (id : String) : Nat :=
  service.broadcasts.countP fun transaction => transaction.withdrawalId = id

/-- The conditions on steps that concern one withdrawal: it is looked up while no other
call works on it and requested while it has not been broadcast, a broadcast that fails has
not been made, and the withdrawal is stored after a broadcast. -/
def Careful (id : String) (service : WithdrawalService) : WithdrawalLabel → Prop
  | .find index _ => ∀ call ∈ service.calls[index]?, call.withdrawalId = id →
      ∀ other ∈ service.calls, other.withdrawalId = id → other.phase.stage = .outside
  | .request index _ => ∀ call ∈ service.calls[index]?, ∀ withdrawal ∈ call.phase.requests,
      withdrawal.id = id → service.broadcastsFor id = 0
  | .broadcast index outcome _ => ∀ call ∈ service.calls[index]?, call.withdrawalId = id →
      outcome.isAccepted = false → outcome.takesEffect = false
  | .save index outcome => ∀ call ∈ service.calls[index]?, call.withdrawalId = id →
      call.phase.stage.toAttempt = .spent → outcome.takesEffect = true
  | _ => True

instance (id : String) (service : WithdrawalService) (label : WithdrawalLabel) : Decidable (Careful id service label) :=
  match label with
  | .find index _ =>
    inferInstanceAs (Decidable (∀ call ∈ service.calls[index]?, _ → ∀ other ∈ service.calls, _))
  | .request index _ =>
    inferInstanceAs (Decidable (∀ call ∈ service.calls[index]?, ∀ withdrawal ∈ _, _ → _))
  | .broadcast index _ _ | .save index _ =>
    inferInstanceAs (Decidable (∀ call ∈ service.calls[index]?, _ → _ → _))
  | .requestWithdrawal _ | .estimate _ _ _ | .processWithdrawal _ | .debit _ _ | .refund _ _ =>
    .isTrue trivial

def Sound (id : String) (service : WithdrawalService) : Prop :=
  Guarded withdrawalSchema Withdrawal.isPending WithdrawalCall.view id service.store service.calls (service.broadcastsFor id)

section Step

variable {setup : WithdrawalSetup} {id : String} {service next : WithdrawalService} {label : WithdrawalLabel} {index : Nat}
  {withdrawalId : String} {ref : Nat} {withdrawal : Withdrawal}

theorem sound_of_guarded {effects : Nat}
    (guarded : Guarded withdrawalSchema Withdrawal.isPending WithdrawalCall.view id next.store
      next.calls effects) (count : next.broadcastsFor id = effects) : Sound id next := by
  rw [Sound, count]
  exact guarded

theorem broadcastsFor_send (outcome : CallOutcome) : (service.send withdrawal outcome).broadcastsFor id =
      service.broadcastsFor id + if withdrawal.id = id ∧ outcome.takesEffect = true then 1 else 0 := by
  unfold broadcastsFor
  rw [send_broadcasts, CallOutcome.countP_append_applied]
  simp only [decide_eq_true_eq]

variable {outcome : CallOutcome}

section

variable (sound : Sound id service)
include sound

private theorem sound_debit {operation : EngineOp}
    (found : service.calls[index]? = some ⟨withdrawalId, .debiting ref⟩) :
    Sound id ((service.operate operation outcome).work index ref (afterDebit ref outcome.reply)) := by
  cases outcome.reply with
  | ok _ | error => exact Guarded.update sound found rfl (fun _ => rfl) rfl

private theorem sound_broadcast {txHash : String} (careful : Careful id service (.broadcast index outcome txHash))
    (found : service.calls[index]? = some ⟨withdrawalId, .broadcasting ref⟩)
    (object : service.store.objects[ref]? = some withdrawal) :
    Sound id ((service.send withdrawal outcome).work index ref (afterBroadcast ref txHash outcome.reply)) := by
  have name : withdrawal.id = withdrawalId := Guarded.key_of_object sound found rfl object
  have count := @broadcastsFor_send id service withdrawal outcome
  rw [name] at count
  cases outcome with
  | accepted =>
    simp only [CallOutcome.takesEffect_accepted, and_true] at count
    exact sound_of_guarded (Guarded.act sound found rfl (fun _ => rfl) rfl rfl fun _ => rfl) count
  | rejected | failed =>
    -- a broadcast that fails leaves the count of this withdrawal, as it has not been made
    exact sound_of_guarded (Guarded.update sound found rfl (fun _ => rfl) rfl)
      (CallOutcome.uncounted count fun own => careful _ found own rfl)

theorem Sound.step (careful : Careful id service label)
    (stepped : service.step setup label = some next) : Sound id next := by
  cases step_moves stepped with
  | requestWithdrawal => exact Guarded.append sound (stage_beginRequest _ _)
  | processWithdrawal => exact Guarded.append sound rfl
  | @estimate _ _ _ _ _ _ found =>
    apply Guarded.stay sound found
    · simp only [WithdrawalCall.view, stage_afterEstimate]
      rfl
    · simp [WithdrawalCall.view, WithdrawalPhase.stage]
  | @request _ outcome _ withdrawal found _ =>
    apply Guarded.create sound found rfl _ setup.backing withdrawal outcome.takesEffect (careful _ found withdrawal rfl)
    simp only [WithdrawalCall.view, stage_afterRequest]
    rfl
  | failed found _ | missing found _ =>
    exact Guarded.stay sound found rfl (by simp [WithdrawalCall.view, WithdrawalPhase.stage])
  | @find _ _ loaded found success =>
    exact Guarded.load sound found rfl (ObjectStore.load_spec sound.keyed success) rfl
      (stage_afterFindWithdrawal setup.registered loaded) (careful _ found)
  | debit found => exact sound_debit sound found
  | broadcast found object => exact sound_broadcast sound careful found object
  | refund found => exact Guarded.update sound found rfl (fun _ => rfl) rfl
  | @save _ outcome _ _ verdict found _ =>
    cases verdict with
    | broadcast =>
      exact Guarded.save sound (fun _ _ => rfl) found rfl rfl rfl setup.backing
        outcome.takesEffect fun own => careful _ found own rfl
    | failed =>
      exact Guarded.giveUp sound found rfl rfl rfl setup.backing outcome.takesEffect

end

end Step

/-- In a careful run at most one transaction is broadcast for the withdrawal, whichever
store the withdrawals are kept in. -/
theorem careful_broadcast_at_most_once {setup : WithdrawalSetup} {id : String} {state : WithdrawalService}
    (reached : (system setup).Reaches (Careful id) started state) : state.broadcastsFor id ≤ 1 := by
  have sound : Sound id state :=
    reached.invariant (Sound id) guarded_empty fun _ _ _ careful stepped sound => sound.step careful stepped
  exact sound.once.once

def etherWithdrawal : RequestWithdrawalRequest := ⟨"wd-1", "w-1", "acc-1", "0xdef", 2, 5000⟩

def everyAdapter (backing : Backing) : WithdrawalSetup := ⟨backing, fun _ => true⟩

def overlappingCalls : List WithdrawalLabel :=
  [.requestWithdrawal etherWithdrawal, .estimate 0 (.ok 100) 0, .request 0 .accepted,
    .processWithdrawal "wd-1", .processWithdrawal "wd-1", .find 1 none, .find 2 none,
    .debit 1 .accepted, .debit 2 .accepted, .broadcast 1 .accepted "0x1",
    .broadcast 2 .accepted "0x2"]

theorem overlappingCalls_broadcastTwice : (∃ state, (system (everyAdapter .objects)).Reachable started state ∧
        state.broadcastsFor "wd-1" = 2) ∧ ∃ state, (system (everyAdapter .rows)).Reachable started state ∧
        state.broadcastsFor "wd-1" = 2 :=
  ⟨exists_reachable_of_run _ _ overlappingCalls _ (by decide),
    exists_reachable_of_run _ _ overlappingCalls _ (by decide)⟩

/-- A withdrawal that is processed again after the first call is not broadcast again. -/
theorem laterCall_broadcastsNothing : ∃ state, (system (everyAdapter .rows)).Reaches (Careful "wd-1") started state ∧
      state.calls.length = 3 ∧ state.broadcastsFor "wd-1" ≤ 1 := by
  obtain ⟨state, reached, all⟩ := exists_reaches_of_run (system (everyAdapter .rows))
    (Careful "wd-1") started [.requestWithdrawal etherWithdrawal, .estimate 0 (.ok 100) 0,
      .request 0 .accepted, .processWithdrawal "wd-1", .find 1 none, .debit 1 .accepted,
      .broadcast 1 .accepted "0x1", .save 1 .accepted, .processWithdrawal "wd-1", .find 2 none]
    (fun state => state.calls.length = 3) (by decide +kernel) (by decide)
  exact ⟨state, reached, all, careful_broadcast_at_most_once reached⟩

end WithdrawalService

end Blazil.Crypto

import Blazil.Crypto.Domain
import Blazil.Foundation.GuardedRecords
import Blazil.Foundation.Transition

/-! Deposits (`services/crypto/internal/deposits`) and the RPC that detects and processes them
(`services/crypto/main.go`). Each call of the store, the engine or a chain adapter is one step,
together with the code up to the next one. How often the engine credits one deposit. -/

set_option autoImplicit false

namespace Blazil.Crypto

open Foundation Sharding

/-- The upsert of the Postgres store keeps what it does not name. -/
def depositSchema : Schema String Deposit where
  key := Deposit.id
  merge row deposit :=
    { row with
      status := deposit.status
      confirmations := deposit.confirmations
      processedAt := deposit.processedAt }
  key_merge _ _ := rfl

structure DetectDepositRequest where
  depositId : String
  walletId : String
  accountId : String
  txHash : String
  chainId : Int32
  amountMinorUnits : Int64
deriving DecidableEq

def detectedDeposit (request : DetectDepositRequest) (now : Nat) : Except CryptoError Deposit :=
  if positive : 0 < request.amountMinorUnits then
    .ok { id := request.depositId
          walletId := request.walletId
          accountId := request.accountId
          txHash := request.txHash
          chainId := request.chainId
          amountMinorUnits := request.amountMinorUnits
          status := .detected
          confirmations := 0
          createdAt := now
          processedAt := none
          positive := positive }
  else .error .insufficientAmount

inductive DepositFailure where
  | detect (error : CryptoError)
  | process (error : CryptoError)
deriving DecidableEq

inductive DepositVerdict where
  | unconfirmed
  | uncredited (reason : String)
  | processed
deriving DecidableEq

/-- How far a call has come. Until it returns, it works on the object it has loaded. -/
inductive DepositPhase where
  | detecting (deposit : Deposit)
  | finding
  | confirming (ref : Nat)
  | crediting (ref : Nat)
  | saving (ref : Nat) (verdict : DepositVerdict)
  | returned (result : Except DepositFailure Nat)

structure DepositCall where
  depositId : String
  phase : DepositPhase

structure DepositCredit where
  depositId : String
  accountId : String
  amount : Int64
deriving DecidableEq

structure DepositService where
  store : ObjectStore String Deposit
  calls : List DepositCall
  credits : List DepositCredit

inductive DepositLabel where
  | processDeposit (request : DetectDepositRequest) (now : Nat)
  | process (depositId : String)
  | detect (call : Nat) (outcome : CallOutcome)
  | find (call : Nat) (failure : Option String)
  | confirm (call : Nat) (answer : Except String Int)
  | credit (call : Nat) (outcome : CallOutcome) (now : Nat)
  | save (call : Nat) (outcome : CallOutcome)

structure DepositSetup where
  backing : Backing
  registered : Int32 → Bool

def saveError (reason : String) : CryptoError := .wrapped "save deposit" (.external reason)

def beginDeposit (request : DetectDepositRequest) (now : Nat) : DepositPhase :=
  match detectedDeposit request now with
  | .ok deposit => .detecting deposit
  | .error error => .returned (.error (.detect error))

def afterDetect (reply : Except String Unit) : DepositPhase :=
  match reply with
  | .ok _ => .finding
  | .error reason => .returned (.error (.detect (saveError reason)))

def afterFind (registered : Int32 → Bool) (loaded : ObjectStore.Loaded String Deposit) : DepositPhase :=
  if loaded.record.status = .processed then
    .returned (.error (.process .depositAlreadyProcessed))
  else if !registered loaded.record.chainId then .returned (.error (.process .chainNotFound))
  else .confirming loaded.ref

/-- What the confirmations of a deposit mean: a change of its object and the next phase. -/
def afterConfirm (ref : Nat) (deposit : Deposit) (answer : Except String Int) : (Deposit → Deposit) × DepositPhase :=
  match answer with
  | .error reason =>
    (id, .returned (.error (.process (.wrapped "get confirmations" (.external reason)))))
  | .ok confirmations =>
    if confirmations < requiredConfirmations deposit.chainId then
      (fun deposit => { deposit with confirmations := confirmations, status := .detected },
        .saving ref .unconfirmed)
    else
      (fun deposit => { deposit with confirmations := confirmations }, .crediting ref)

def afterCredit (ref : Nat) (now : Nat) (reply : Except String Unit) : (Deposit → Deposit) × DepositPhase :=
  match reply with
  | .ok _ =>
    (fun deposit => { deposit with status := .processed, processedAt := some now },
      .saving ref .processed)
  | .error reason =>
    (fun deposit => { deposit with status := .failed }, .saving ref (.uncredited reason))

/-- Only the last of the three saves has its error returned. -/
def DepositVerdict.result (ref : Nat) (reply : Except String Unit) : DepositVerdict → Except DepositFailure Nat
  | .unconfirmed => .error (.process .notEnoughConfirmations)
  | .uncredited reason => .error (.process (.external reason))
  | .processed =>
    match reply with
    | .ok _ => .ok ref
    | .error reason => .error (.process (saveError reason))

namespace DepositService

def started : DepositService := ⟨.empty, [], []⟩

@[simps]
def append (service : DepositService) (call : DepositCall) : DepositService :=
  { service with calls := service.calls ++ [call] }

@[simps]
def setPhase (service : DepositService) (index : Nat) (phase : DepositPhase) : DepositService :=
  { service with calls := service.calls.modify index fun call => { call with phase := phase } }

@[simps]
def setStore (service : DepositService) (store : ObjectStore String Deposit) : DepositService :=
  { service with store := store }

@[simps]
def recordCredit (service : DepositService) (deposit : Deposit) (outcome : CallOutcome) : DepositService :=
  { service with
    credits := service.credits ++ outcome.applied ⟨deposit.id, deposit.accountId, deposit.amountMinorUnits⟩ }

def work (service : DepositService) (index ref : Nat) (next : (Deposit → Deposit) × DepositPhase) : DepositService :=
  (service.setStore (service.store.assign ref next.1)).setPhase index next.2

def step (setup : DepositSetup) (service : DepositService) : DepositLabel → Option DepositService
  | .processDeposit request now =>
    some (service.append ⟨request.depositId, beginDeposit request now⟩)
  | .process depositId => some (service.append ⟨depositId, .finding⟩)
  | .detect index outcome =>
    match service.calls[index]? with
    | some ⟨_, .detecting deposit⟩ =>
      if Answers setup.backing outcome then
        some ((service.setStore (saveNew depositSchema setup.backing service.store deposit
          outcome)).setPhase index (afterDetect outcome.reply))
      else none
    | _ => none
  | .find index (some reason) =>
    match service.calls[index]?, setup.backing with
    | some ⟨_, .finding⟩, .rows =>
      some (service.setPhase index
        (.returned (.error (.process (.wrapped "find deposit" (.external reason))))))
    | _, _ => none
  | .find index none =>
    match service.calls[index]? with
    | some ⟨depositId, .finding⟩ =>
      match service.store.load depositId with
      | none => some (service.setPhase index (.returned (.error (.process .depositNotFound))))
      | some loaded =>
        some ((service.setStore loaded.store).setPhase index (afterFind setup.registered loaded))
    | _ => none
  | .confirm index answer =>
    match service.calls[index]? with
    | some ⟨_, .confirming ref⟩ =>
      match service.store.objects[ref]? with
      | none => none
      | some deposit =>
        some (service.work index ref (afterConfirm ref deposit answer))
    | _ => none
  | .credit index outcome now =>
    match service.calls[index]? with
    | some ⟨_, .crediting ref⟩ =>
      match service.store.objects[ref]? with
      | none => none
      | some deposit =>
        some ((service.recordCredit deposit outcome).work index ref (afterCredit ref now outcome.reply))
    | _ => none
  | .save index outcome =>
    match service.calls[index]? with
    | some ⟨_, .saving ref verdict⟩ =>
      if Answers setup.backing outcome then
        some ((service.setStore (saveObject depositSchema setup.backing service.store ref
          outcome)).setPhase index (.returned (verdict.result ref outcome.reply)))
      else none
    | _ => none

def system (setup : DepositSetup) : System DepositService DepositLabel := ⟨step setup⟩

inductive Moves (setup : DepositSetup) (service : DepositService) : DepositLabel → DepositService → Prop where
  | processDeposit {request now} : Moves setup service (.processDeposit request now)
        (service.append ⟨request.depositId, beginDeposit request now⟩)
  | process {depositId} : Moves setup service (.process depositId) (service.append ⟨depositId, .finding⟩)
  | detect {index outcome depositId deposit} (found : service.calls[index]? = some ⟨depositId, .detecting deposit⟩)
      (answers : Answers setup.backing outcome) :
      Moves setup service (.detect index outcome) ((service.setStore (saveNew depositSchema setup.backing service.store deposit
          outcome)).setPhase index (afterDetect outcome.reply))
  | failed {index reason depositId} (found : service.calls[index]? = some ⟨depositId, .finding⟩)
      (remote : setup.backing = .rows) :
      Moves setup service (.find index (some reason)) (service.setPhase index
        (.returned (.error (.process (.wrapped "find deposit" (.external reason))))))
  | missing {index depositId} (found : service.calls[index]? = some ⟨depositId, .finding⟩)
      (nothing : service.store.load depositId = none) :
      Moves setup service (.find index none) (service.setPhase index (.returned (.error (.process .depositNotFound))))
  | find {index depositId loaded} (found : service.calls[index]? = some ⟨depositId, .finding⟩)
      (success : service.store.load depositId = some loaded) :
      Moves setup service (.find index none) ((service.setStore loaded.store).setPhase index (afterFind setup.registered loaded))
  | confirm {index answer depositId ref deposit} (found : service.calls[index]? = some ⟨depositId, .confirming ref⟩)
      (object : service.store.objects[ref]? = some deposit) :
      Moves setup service (.confirm index answer) (service.work index ref (afterConfirm ref deposit answer))
  | credit {index outcome now depositId ref deposit} (found : service.calls[index]? = some ⟨depositId, .crediting ref⟩)
      (object : service.store.objects[ref]? = some deposit) :
      Moves setup service (.credit index outcome now) ((service.recordCredit deposit outcome).work index ref
          (afterCredit ref now outcome.reply))
  | save {index outcome depositId ref verdict} (found : service.calls[index]? = some ⟨depositId, .saving ref verdict⟩)
      (answers : Answers setup.backing outcome) :
      Moves setup service (.save index outcome) ((service.setStore (saveObject depositSchema setup.backing service.store ref
          outcome)).setPhase index (.returned (verdict.result ref outcome.reply)))

theorem step_moves {setup : DepositSetup} {service next : DepositService} {label : DepositLabel}
    (stepped : service.step setup label = some next) : Moves setup service label next := by
  cases label with simp only [step] at stepped
  | processDeposit | process =>
    cases stepped
    constructor
  | detect | save =>
    split at stepped
    · next found =>
      split at stepped
      · next answers =>
        cases stepped
        constructor
        · exact found
        · exact answers
      · cases stepped
    · cases stepped
  | find _ failure =>
    cases failure with simp only at stepped
    | some =>
      split at stepped
      · next found remote =>
        cases stepped
        exact .failed found remote
      · cases stepped
    | none =>
      split at stepped
      · next found =>
        split at stepped
        · next nothing =>
          cases stepped
          exact .missing found nothing
        · next success =>
          cases stepped
          exact .find found success
      · cases stepped
  | confirm | credit =>
    split at stepped
    · next found =>
      split at stepped
      · cases stepped
      · next object =>
        cases stepped
        constructor
        · exact found
        · exact object
    · cases stepped

end DepositService

open Foundation.System

def Deposit.isUnprocessed (deposit : Deposit) : Bool := deposit.status ≠ .processed

def DepositPhase.stage : DepositPhase → RecordStage
  | .detecting _ | .finding | .returned _ => .outside
  | .confirming ref | .crediting ref | .saving ref .unconfirmed | .saving ref (.uncredited _) =>
    .armed ref
  | .saving ref .processed => .spent ref

def DepositPhase.detects : DepositPhase → Option Deposit
  | .detecting deposit => some deposit
  | _ => none

def DepositCall.view (call : DepositCall) : RecordCall String := ⟨call.depositId, call.phase.stage⟩

@[simp] theorem stage_beginDeposit (request : DetectDepositRequest) (now : Nat) :
    (beginDeposit request now).stage = .outside := by
  unfold beginDeposit
  split <;> rfl

@[simp] theorem stage_afterDetect (reply : Except String Unit) : (afterDetect reply).stage = .outside := by
  cases reply <;> rfl

theorem stage_afterFind (registered : Int32 → Bool) (loaded : ObjectStore.Loaded String Deposit) :
    (afterFind registered loaded).stage = .outside ∨ (afterFind registered loaded).stage = .armed loaded.ref ∧
        loaded.record.isUnprocessed = true := by
  unfold afterFind
  split
  · exact .inl rfl
  · next unprocessed =>
    split
    · exact .inl rfl
    · exact .inr ⟨rfl, decide_eq_true unprocessed⟩

namespace DepositService

def creditsFor (service : DepositService) (id : String) : Nat :=
  service.credits.countP fun credit => credit.depositId = id

/-- The conditions on steps that concern one deposit: it is looked up while no other call
works on it and detected while it has not been credited, a credit that fails has not been
made, and the deposit is stored after a credit. -/
def Careful (id : String) (service : DepositService) : DepositLabel → Prop
  | .find index _ => ∀ call ∈ service.calls[index]?, call.depositId = id →
      ∀ other ∈ service.calls, other.depositId = id → other.phase.stage = .outside
  | .detect index _ => ∀ call ∈ service.calls[index]?, ∀ deposit ∈ call.phase.detects, deposit.id = id → service.creditsFor id = 0
  | .credit index outcome _ => ∀ call ∈ service.calls[index]?, call.depositId = id →
      outcome.isAccepted = false → outcome.takesEffect = false
  | .save index outcome => ∀ call ∈ service.calls[index]?, call.depositId = id →
      (call.phase.stage.toAttempt = .spent → outcome.takesEffect = true)
  | _ => True

instance (id : String) (service : DepositService) (label : DepositLabel) : Decidable (Careful id service label) :=
  match label with
  | .find index _ =>
    inferInstanceAs (Decidable (∀ call ∈ service.calls[index]?, _ → ∀ other ∈ service.calls, _))
  | .detect index _ =>
    inferInstanceAs (Decidable (∀ call ∈ service.calls[index]?, ∀ deposit ∈ _, _ → _))
  | .credit index _ _ | .save index _ =>
    inferInstanceAs (Decidable (∀ call ∈ service.calls[index]?, _ → _ → _))
  | .processDeposit _ _ | .process _ | .confirm _ _ => .isTrue trivial

def Sound (id : String) (service : DepositService) : Prop :=
  Guarded depositSchema Deposit.isUnprocessed DepositCall.view id service.store service.calls (service.creditsFor id)

section Step

variable {setup : DepositSetup} {id : String} {service next : DepositService} {label : DepositLabel} {index : Nat}
  {depositId : String} {ref : Nat} {deposit : Deposit}

theorem creditsFor_recordCredit (outcome : CallOutcome) : (service.recordCredit deposit outcome).creditsFor id =
      service.creditsFor id + if deposit.id = id ∧ outcome.takesEffect = true then 1 else 0 := by
  unfold creditsFor
  rw [recordCredit_credits, CallOutcome.countP_append_applied]
  simp only [decide_eq_true_eq]

theorem sound_of_guarded {effects : Nat} (guarded : Guarded depositSchema Deposit.isUnprocessed DepositCall.view id next.store
      next.calls effects) (count : next.creditsFor id = effects) : Sound id next := by
  rw [Sound, count]
  exact guarded

section

variable (sound : Sound id service)
include sound

private theorem sound_confirm {answer : Except String Int}
    (found : service.calls[index]? = some ⟨depositId, .confirming ref⟩) :
    Sound id (service.work index ref (afterConfirm ref deposit answer)) := by
  unfold afterConfirm
  cases answer with
  | error =>
    rw [work, ObjectStore.assign_id]
    exact Guarded.leave sound found rfl rfl rfl
  | ok =>
    dsimp only
    split
    · exact Guarded.update sound found rfl (fun _ => rfl) rfl
    · exact Guarded.update sound found rfl (fun _ => rfl) rfl

private theorem sound_credit {outcome : CallOutcome} {now : Nat}
    (careful : Careful id service (.credit index outcome now)) (found : service.calls[index]? = some ⟨depositId, .crediting ref⟩)
    (object : service.store.objects[ref]? = some deposit) :
    Sound id ((service.recordCredit deposit outcome).work index ref (afterCredit ref now outcome.reply)) := by
  have name : deposit.id = depositId := Guarded.key_of_object sound found rfl object
  have count := @creditsFor_recordCredit id service deposit outcome
  rw [name] at count
  cases outcome with
  | accepted =>
    simp only [CallOutcome.takesEffect_accepted, and_true] at count
    exact sound_of_guarded (Guarded.act sound found rfl (fun _ => rfl) rfl rfl fun _ => rfl) count
  | rejected | failed =>
    -- a credit that fails leaves the count of this deposit, as it has not been made
    exact sound_of_guarded (Guarded.update sound found rfl (fun _ => rfl) rfl)
      (CallOutcome.uncounted count fun own => careful _ found own rfl)

theorem Sound.step (careful : Careful id service label)
    (stepped : service.step setup label = some next) : Sound id next := by
  cases step_moves stepped with
  | processDeposit => exact Guarded.append sound (stage_beginDeposit _ _)
  | process => exact Guarded.append sound rfl
  | @detect _ outcome _ deposit found _ =>
    apply Guarded.create sound found rfl _ setup.backing deposit outcome.takesEffect (careful _ found deposit rfl)
    simp only [DepositCall.view, stage_afterDetect]
    rfl
  | failed found _ | missing found _ =>
    exact Guarded.stay sound found rfl (by simp [DepositCall.view, DepositPhase.stage])
  | @find _ _ loaded found success =>
    exact Guarded.load sound found rfl (ObjectStore.load_spec sound.keyed success) rfl
      (stage_afterFind setup.registered loaded) (careful _ found)
  | confirm found => exact sound_confirm sound found
  | credit found object => exact sound_credit sound careful found object
  | @save _ outcome _ _ verdict found _ =>
    cases verdict with
    | processed =>
      exact Guarded.save sound (fun _ _ => rfl) found rfl rfl rfl setup.backing
        outcome.takesEffect fun own => careful _ found own rfl
    | unconfirmed | uncredited =>
      exact Guarded.giveUp sound found rfl rfl rfl setup.backing outcome.takesEffect

end

end Step

/-- In a careful run the engine credits the deposit at most once, whichever store the
deposits are kept in. -/
theorem careful_credited_at_most_once {setup : DepositSetup} {id : String} {state : DepositService}
    (reached : (system setup).Reaches (Careful id) started state) : state.creditsFor id ≤ 1 := by
  have sound : Sound id state :=
    reached.invariant (Sound id) guarded_empty fun _ _ _ careful stepped sound => sound.step careful stepped
  exact sound.once.once

def bitcoinDeposit : DetectDepositRequest := ⟨"dep-1", "w-1", "acc-1", "0xabc", 1, 5000⟩

def everyChain (backing : Backing) : DepositSetup := ⟨backing, fun _ => true⟩

def repeatedRequest : List DepositLabel :=
  [.processDeposit bitcoinDeposit 0, .detect 0 .accepted, .find 0 none, .confirm 0 (.ok 6),
    .credit 0 .accepted 1, .save 0 .accepted, .processDeposit bitcoinDeposit 2,
    .detect 1 .accepted, .find 1 none, .confirm 1 (.ok 6), .credit 1 .accepted 3]

/-- The second detection sets the deposit back, in either store, and it is credited
again. -/
theorem repeatedRequest_creditedTwice : (∃ state, (system (everyChain .objects)).Reachable started state ∧
        state.creditsFor "dep-1" = 2) ∧ ∃ state, (system (everyChain .rows)).Reachable started state ∧
        state.creditsFor "dep-1" = 2 :=
  ⟨exists_reachable_of_run _ _ repeatedRequest _ (by decide),
    exists_reachable_of_run _ _ repeatedRequest _ (by decide)⟩

/-- A deposit that is detected once and processed twice is credited once. -/
theorem processedTwice_creditedOnce : ∃ state, (system (everyChain .rows)).Reaches (Careful "dep-1") started state ∧
      state.calls.length = 2 ∧ state.creditsFor "dep-1" ≤ 1 := by
  obtain ⟨state, reached, both⟩ := exists_reaches_of_run (system (everyChain .rows))
    (Careful "dep-1") started [.processDeposit bitcoinDeposit 0, .detect 0 .accepted,
      .find 0 none, .confirm 0 (.ok 6), .credit 0 .accepted 1, .save 0 .accepted,
      .process "dep-1", .find 1 none]
    (fun state => state.calls.length = 2) (by decide) (by decide)
  exact ⟨state, reached, both, careful_credited_at_most_once reached⟩

end DepositService

end Blazil.Crypto

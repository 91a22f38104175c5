import Blazil.Crypto.Withdrawals

/-! One call of `ProcessWithdrawal` that no other call interrupts, for every pattern of
outcomes of the calls it makes. -/

set_option autoImplicit false

namespace Blazil.Crypto

open Foundation Foundation.System Sharding

variable {setup : WithdrawalSetup}

structure WithdrawalOutcomes where
  debit : CallOutcome
  broadcast : CallOutcome
  txHash : String
  refund : CallOutcome
  save : CallOutcome
deriving DecidableEq

/-- If the withdrawal can be stored, then a debit that fails has not been made, and after
a broadcast that fails there is no transaction and the debit is refunded. -/
def WithdrawalOutcomes.Compensated (outcomes : WithdrawalOutcomes) : Prop :=
  outcomes.save.takesEffect = true → (outcomes.debit.isAccepted = false → outcomes.debit.takesEffect = false) ∧
    (outcomes.debit.isAccepted = true → outcomes.broadcast.isAccepted = false →
      outcomes.broadcast.takesEffect = false ∧ outcomes.refund.takesEffect = true)

instance (outcomes : WithdrawalOutcomes) : Decidable outcomes.Compensated :=
  inferInstanceAs (Decidable (_ → _))

def WithdrawalPhase.nextLabel (outcomes : WithdrawalOutcomes) (index : Nat) : WithdrawalPhase → Option WithdrawalLabel
  | .finding => some (.find index none)
  | .debiting _ => some (.debit index outcomes.debit)
  | .broadcasting _ => some (.broadcast index outcomes.broadcast outcomes.txHash)
  | .refunding _ _ => some (.refund index outcomes.refund)
  | .saving _ _ => some (.save index outcomes.save)
  | .estimating _ _ | .requesting _ | .returned _ => none

namespace WithdrawalService

def drive (setup : WithdrawalSetup) (outcomes : WithdrawalOutcomes) (index : Nat) : Nat → WithdrawalService → WithdrawalService
  | 0, service => service
  | fuel + 1, service =>
    match (service.calls[index]?).bind fun call => call.phase.nextLabel outcomes index with
    | none => service
    | some label =>
      match service.step setup label with
      | none => service
      | some next => drive setup outcomes index fuel next

/-- `ProcessWithdrawal` makes at most five calls. -/
def processWithdrawal (setup : WithdrawalSetup) (outcomes : WithdrawalOutcomes)
    (service : WithdrawalService) (withdrawalId : String) : WithdrawalService :=
  drive setup outcomes service.calls.length 5 (service.append ⟨withdrawalId, .finding⟩)

variable {label : WithdrawalLabel}

section Alone

variable {outcomes : WithdrawalOutcomes} {store : ObjectStore String Withdrawal} {calls : List WithdrawalCall}
  {engine : List EngineOp} {broadcasts : List BroadcastTx} {id : String}

def lastAt (store : ObjectStore String Withdrawal) (calls : List WithdrawalCall) (engine : List EngineOp)
    (broadcasts : List BroadcastTx) (id : String) (phase : WithdrawalPhase) : WithdrawalService :=
  ⟨store, calls ++ [⟨id, phase⟩], engine, broadcasts⟩

@[simp] theorem lastAt_store (phase : WithdrawalPhase) : (lastAt store calls engine broadcasts id phase).store = store := rfl

theorem lastAt_found (phase : WithdrawalPhase) :
    (lastAt store calls engine broadcasts id phase).calls[calls.length]? = some ⟨id, phase⟩ := by
  simp [lastAt]

theorem lastAt_setPhase (phase next : WithdrawalPhase) :
    (lastAt store calls engine broadcasts id phase).setPhase calls.length next =
      lastAt store calls engine broadcasts id next := by
  simp [lastAt, setPhase, List.modify_eq_take_drop]

theorem lastAt_work (phase : WithdrawalPhase) (ref : Nat) (next : (Withdrawal → Withdrawal) × WithdrawalPhase) :
    (lastAt store calls engine broadcasts id phase).work calls.length ref next =
      lastAt (store.assign ref next.1) calls engine broadcasts id next.2 :=
  lastAt_setPhase phase next.2

theorem drive_returned (fuel : Nat) (result : Except CryptoError Nat) : drive setup outcomes calls.length fuel
        (lastAt store calls engine broadcasts id (.returned result)) =
      lastAt store calls engine broadcasts id (.returned result) := by
  cases fuel with
  | zero => rfl
  | succ => simp only [drive, lastAt_found, Option.bind_some, WithdrawalPhase.nextLabel]

theorem drive_step {phase : WithdrawalPhase} {next : WithdrawalService}
    (fuel : Nat) (follows : phase.nextLabel outcomes calls.length = some label)
    (stepped : (lastAt store calls engine broadcasts id phase).step setup label = some next) :
    drive setup outcomes calls.length (fuel + 1) (lastAt store calls engine broadcasts id phase) =
      drive setup outcomes calls.length fuel next := by
  simp only [drive, lastAt_found, Option.bind_some, follows, stepped]

theorem drive_find {loaded : ObjectStore.Loaded String Withdrawal} (fuel : Nat) (success : store.load id = some loaded) :
    drive setup outcomes calls.length (fuel + 1) (lastAt store calls engine broadcasts id .finding) =
      drive setup outcomes calls.length fuel (lastAt loaded.store calls engine broadcasts id
        (afterFindWithdrawal setup.registered loaded)) := by
  apply drive_step fuel rfl
  simp only [step, lastAt_found, lastAt_store, success]
  exact congrArg some (lastAt_setPhase .finding _)

variable {ref : Nat} {withdrawal : Withdrawal}

section

variable (fuel : Nat) (object : store.objects[ref]? = some withdrawal)
include fuel object

theorem drive_debit : drive setup outcomes calls.length (fuel + 1) (lastAt store calls engine broadcasts id (.debiting ref)) =
      drive setup outcomes calls.length fuel (lastAt (store.assign ref (afterDebit ref outcomes.debit.reply).1) calls
          (engine ++ outcomes.debit.applied (.debit withdrawal.accountId withdrawal.amountMinorUnits)) broadcasts id
          (afterDebit ref outcomes.debit.reply).2) := by
  apply drive_step fuel rfl
  simp only [step, lastAt_found, lastAt_store, object]
  exact congrArg some (lastAt_work (.debiting ref) ref _)

theorem drive_broadcast : drive setup outcomes calls.length (fuel + 1)
        (lastAt store calls engine broadcasts id (.broadcasting ref)) = drive setup outcomes calls.length fuel
        (lastAt (store.assign ref (afterBroadcast ref outcomes.txHash outcomes.broadcast.reply).1)
          calls engine (broadcasts ++ outcomes.broadcast.applied
            ⟨withdrawal.id, withdrawal.toAddress, withdrawal.amountMinorUnits⟩) id
          (afterBroadcast ref outcomes.txHash outcomes.broadcast.reply).2) := by
  apply drive_step fuel rfl
  simp only [step, lastAt_found, lastAt_store, object]
  exact congrArg some (lastAt_work (.broadcasting ref) ref _)

theorem drive_refund {reason : String} : drive setup outcomes calls.length (fuel + 1)
        (lastAt store calls engine broadcasts id (.refunding ref reason)) =
      drive setup outcomes calls.length fuel (lastAt (store.assign ref (afterRefund ref reason).1) calls
          (engine ++ outcomes.refund.applied (.credit withdrawal.accountId withdrawal.amountMinorUnits)) broadcasts id
          (afterRefund ref reason).2) := by
  apply drive_step fuel rfl
  simp only [step, lastAt_found, lastAt_store, object]
  exact congrArg some (lastAt_work (.refunding ref reason) ref _)

end

theorem drive_save {verdict : WithdrawalVerdict} (fuel : Nat) (answers : Answers setup.backing outcomes.save) :
    drive setup outcomes calls.length (fuel + 1) (lastAt store calls engine broadcasts id (.saving ref verdict)) =
      lastAt (saveObject withdrawalSchema setup.backing store ref outcomes.save) calls engine
        broadcasts id (.returned (verdict.result ref outcomes.save.reply)) := by
  have stepped : (lastAt store calls engine broadcasts id (.saving ref verdict)).step setup (.save calls.length outcomes.save) =
        some (lastAt (saveObject withdrawalSchema setup.backing store ref outcomes.save) calls
          engine broadcasts id (.returned (verdict.result ref outcomes.save.reply))) := by
    simp only [step, lastAt_found]
    rw [if_pos answers]
    exact congrArg some (lastAt_setPhase (.saving ref verdict) _)
  rw [drive_step fuel rfl stepped, drive_returned]

end Alone

structure Wellformed (setup : WithdrawalSetup) (service : WithdrawalService) : Prop where
  keyed : service.store.Keyed withdrawalSchema
  backed : service.store.Backed setup.backing

theorem keeps_afterDebit (ref : Nat) (reply : Except String Unit) (withdrawal : Withdrawal) :
    ((afterDebit ref reply).1 withdrawal).id = withdrawal.id := by
  cases reply <;> rfl

theorem keeps_afterBroadcast (ref : Nat) (txHash : String) (reply : Except String Unit) (withdrawal : Withdrawal) :
    ((afterBroadcast ref txHash reply).1 withdrawal).id = withdrawal.id := by
  cases reply <;> rfl

section Wellformed

variable {service next : WithdrawalService}

theorem Wellformed.assign {ref : Nat} {change : Withdrawal → Withdrawal} (wellformed : Wellformed setup service)
    (keeps : ∀ withdrawal, (change withdrawal).id = withdrawal.id)
    (store : next.store = service.store.assign ref change) : Wellformed setup next := by
  constructor
  · rw [store]
    exact ObjectStore.keyed_assign wellformed.keyed keeps
  · rw [store]
    exact wellformed.backed

theorem Wellformed.step (wellformed : Wellformed setup service)
    (stepped : service.step setup label = some next) : Wellformed setup next := by
  cases step_moves stepped with
  | requestWithdrawal | processWithdrawal | estimate | failed | missing =>
    exact ⟨wellformed.keyed, wellformed.backed⟩
  | @request _ _ _ withdrawal _ _ =>
    have backed : (service.store.alloc withdrawal).Backed setup.backing := wellformed.backed
    constructor
    · exact keyed_saveNew wellformed.keyed
    · rw [setPhase_store, setStore_store, saveNew]
      split
      · exact ObjectStore.backed_save backed
      · exact backed
  | find _ success =>
    have loads := ObjectStore.load_spec wellformed.keyed success
    refine ⟨loads.keyed, ?_⟩
    intro key slot entry
    rw [setPhase_store, setStore_store, loads.table] at entry
    exact wellformed.backed key slot entry
  | debit => exact wellformed.assign (keeps_afterDebit _ _) rfl
  | broadcast => exact wellformed.assign (keeps_afterBroadcast _ _ _) rfl
  | refund =>
    refine wellformed.assign ?_ rfl
    exact fun _ => rfl
  | save =>
    constructor
    · exact keyed_saveObject wellformed.keyed
    · rw [setPhase_store, setStore_store, saveObject]
      split
      · exact ObjectStore.backed_save wellformed.backed
      · exact wellformed.backed

theorem wellformed_of_reachable (reached : (system setup).Reachable started service) : Wellformed setup service := by
  refine reached.invariant (Wellformed setup) ⟨ObjectStore.keyed_empty, ?_⟩
    fun _ _ _ _ stepped wellformed => wellformed.step stepped
  intro key slot entry
  cases entry

end Wellformed

/-- What a call may leave of the withdrawal: a failed one has cost the account nothing and
has not been broadcast, and a broadcast one has been debited once. -/
def Atomic (withdrawal : Withdrawal) (before after : WithdrawalService) : Prop :=
  ∀ stored ∈ after.store.current withdrawal.id, (stored.status = .failed →
      netChange after.engine withdrawal.accountId = netChange before.engine withdrawal.accountId ∧
        after.broadcasts = before.broadcasts) ∧
    (stored.status = .broadcast → after.engine.countP (EngineOp.isDebit withdrawal.accountId) =
        before.engine.countP (EngineOp.isDebit withdrawal.accountId) + 1)

section Outcome

variable {outcomes : WithdrawalOutcomes} {service : WithdrawalService} {withdrawal : Withdrawal}
  {loaded : ObjectStore.Loaded String Withdrawal} {change : Withdrawal → Withdrawal}

theorem status_saved {store : ObjectStore String Withdrawal} {backing : Backing} {id : String} {outcome : CallOutcome}
    (loads : ObjectStore.Loads withdrawalSchema store id loaded) (backed : store.Backed backing)
    (keeps : (change loaded.record).id = loaded.record.id) (answers : Answers backing outcome) :
    ∃ stored, (saveObject withdrawalSchema backing (loaded.store.assign loaded.ref change)
        loaded.ref outcome).current id = some stored ∧
      stored.status = if outcome.takesEffect then (change loaded.record).status else loaded.record.status := by
  have object : (loaded.store.assign loaded.ref change).objects[loaded.ref]? =
      some (change loaded.record) := ObjectStore.objects_assign loads.object
  unfold saveObject
  cases effect : outcome.takesEffect with
  | true =>
    have stored := @ObjectStore.current_save _ _ withdrawalSchema _ _ backing _ _ object
    have key : withdrawalSchema.key (change loaded.record) = id := keeps.trans loads.own
    rw [key] at stored
    refine ⟨_, stored, ?_⟩
    unfold Schema.written
    split <;> rfl
  | false =>
    have rows : backing = .rows := by
      cases backing with
      | rows => rfl
      | objects =>
        rw [answers rfl] at effect
        cases effect
    subst rows
    have backedLoaded : loaded.store.Backed .rows := by
      intro key slot entry
      rw [loads.table] at entry
      exact backed key slot entry
    refine ⟨loaded.record, ?_, by simp⟩
    simp only [Bool.false_eq_true, if_false]
    rw [ObjectStore.current_assign_rows backedLoaded, loads.same, loads.current]

theorem atomic_saved {engine : List EngineOp} {broadcasts : List BroadcastTx} {result : Except CryptoError Nat}
    (wellformed : Wellformed setup service) (loads : ObjectStore.Loads withdrawalSchema service.store withdrawal.id loaded)
    (record : loaded.record = withdrawal) (pending : withdrawal.status = .pending)
    (keeps : (change withdrawal).id = withdrawal.id)
    (answers : Answers setup.backing outcomes.save) : Atomic withdrawal service (lastAt (saveObject withdrawalSchema setup.backing
          (loaded.store.assign loaded.ref change) loaded.ref outcomes.save) service.calls engine
            broadcasts withdrawal.id (.returned result)) ↔
      (outcomes.save.takesEffect = true → ((change withdrawal).status = .failed → netChange engine withdrawal.accountId =
              netChange service.engine withdrawal.accountId ∧ broadcasts = service.broadcasts) ∧
        ((change withdrawal).status = .broadcast → engine.countP (EngineOp.isDebit withdrawal.accountId) =
            service.engine.countP (EngineOp.isDebit withdrawal.accountId) + 1)) := by
  subst record
  obtain ⟨after, found, status⟩ := status_saved loads wellformed.backed keeps answers
  unfold Atomic
  have only : ∀ {holds : Withdrawal → Prop}, (∀ stored ∈ (lastAt (saveObject withdrawalSchema
      setup.backing (loaded.store.assign loaded.ref change) loaded.ref outcomes.save) service.calls
        engine broadcasts loaded.record.id (.returned result)).store.current loaded.record.id,
      holds stored) ↔ holds after := by
    intro holds
    constructor
    · intro every
      exact every after found
    · intro here other present
      cases found.symm.trans present
      exact here
  rw [only, status]
  cases outcomes.save.takesEffect with
  | false => simp [pending]
  | true => simp [lastAt]

theorem netChange_debit (engine : List EngineOp) (debit : CallOutcome) : netChange (engine ++ debit.applied
        (.debit withdrawal.accountId withdrawal.amountMinorUnits)) withdrawal.accountId =
      netChange engine withdrawal.accountId ↔ debit.takesEffect = false := by
  have nonzero := toInt_ne_zero_of_pos withdrawal.positive
  rw [netChange_append, netChange_applied, EngineOp.change, if_pos rfl]
  cases debit.takesEffect with
  | false => simp
  | true =>
    simp only [if_true, Bool.true_eq_false, iff_false]
    omega

theorem netChange_refund (engine : List EngineOp) (refund : CallOutcome) :
    netChange (engine ++ CallOutcome.accepted.applied (.debit withdrawal.accountId withdrawal.amountMinorUnits) ++
        refund.applied (.credit withdrawal.accountId withdrawal.amountMinorUnits)) withdrawal.accountId =
      netChange engine withdrawal.accountId ↔ refund.takesEffect = true := by
  have nonzero := toInt_ne_zero_of_pos withdrawal.positive
  rw [netChange_append, netChange_append, netChange_applied, netChange_applied]
  simp only [CallOutcome.takesEffect_accepted, if_true, EngineOp.change]
  cases refund.takesEffect with
  | false =>
    simp only [Bool.false_eq_true, if_false, iff_false]
    omega
  | true =>
    simp only [if_true, iff_true]
    omega

/-- One call leaves a failed withdrawal without a trace, and debits a broadcast one once,
exactly when the calls it makes are compensated; a chain without an adapter ends it before
it makes any. -/
theorem processWithdrawal_atomic_iff (reached : (system setup).Reachable started service)
    (stored : service.store.current withdrawal.id = some withdrawal)
    (pending : withdrawal.status = .pending) (answers : Answers setup.backing outcomes.save) :
    Atomic withdrawal service (processWithdrawal setup outcomes service withdrawal.id) ↔
      (setup.registered withdrawal.chainId = true → outcomes.Compensated) := by
  have wellformed := wellformed_of_reachable reached
  obtain ⟨loaded, success⟩ := ObjectStore.load_of_current stored
  have loads := ObjectStore.load_spec wellformed.keyed success
  have record : loaded.record = withdrawal := entry_unique loads.current stored
  have object : loaded.store.objects[loaded.ref]? = some withdrawal := record ▸ loads.object
  have begun : processWithdrawal setup outcomes service withdrawal.id =
      drive setup outcomes service.calls.length 4 (lastAt loaded.store service.calls
        service.engine service.broadcasts withdrawal.id
        (afterFindWithdrawal setup.registered loaded)) := drive_find 4 success
  rw [begun]
  simp only [afterFindWithdrawal, record, pending, ne_eq, not_true_eq_false, if_false]
  cases setup.registered withdrawal.chainId with
  | false =>
    simp only [Bool.not_false, if_true, drive_returned]
    refine iff_of_true ?_ (by simp)
    intro after found
    rw [lastAt, loads.same, stored] at found
    cases found
    simp [pending]
  | true =>
    simp only [Bool.not_true, Bool.false_eq_true, if_false, true_imp_iff]
    rw [drive_debit 3 object]
    cases debited : outcomes.debit.reply with
    | error =>
      simp only [afterDebit]
      rw [drive_save 2 answers, atomic_saved wellformed loads record pending rfl answers]
      simp [netChange_debit, WithdrawalOutcomes.Compensated, CallOutcome.isAccepted_of_reply debited]
    | ok =>
      have accepted := CallOutcome.accepted_of_reply debited
      simp only [afterDebit, ObjectStore.assign_id, accepted]
      rw [drive_broadcast 2 object]
      cases sent : outcomes.broadcast.reply with
      | ok =>
        simp only [afterBroadcast]
        rw [drive_save 1 answers, atomic_saved wellformed loads record pending rfl answers]
        simp [WithdrawalOutcomes.Compensated, accepted, CallOutcome.accepted_of_reply sent, CallOutcome.applied, EngineOp.isDebit]
      | error =>
        simp only [afterBroadcast, ObjectStore.assign_id]
        rw [drive_refund 1 object]
        simp only [afterRefund]
        rw [drive_save 0 answers, atomic_saved wellformed loads record pending rfl answers,
          netChange_refund, CallOutcome.append_applied_eq]
        simp [WithdrawalOutcomes.Compensated, accepted, CallOutcome.isAccepted_of_reply sent, and_comm]

end Outcome

theorem etherWithdrawal_positive : 0 < etherWithdrawal.amountMinorUnits := by
  decide

def pendingEther : Withdrawal := newWithdrawal etherWithdrawal etherWithdrawal_positive 100 0

def etherRequested : List WithdrawalLabel :=
  [.requestWithdrawal etherWithdrawal, .estimate 0 (.ok 100) 0, .request 0 .accepted]

/-- The broadcast fails and so does the refund: the withdrawal is failed and the account
has paid for it. -/
theorem lostRefund_accountDebited : ∃ service, (system (everyAdapter .rows)).Reachable started service ∧
      service.store.current "wd-1" = some pendingEther ∧ netChange service.engine "acc-1" = 0 ∧
      ((processWithdrawal (everyAdapter .rows) ⟨.accepted, .rejected "nonce too low", "",
        .rejected "engine unavailable", .accepted⟩ service "wd-1").store.current "wd-1").map Withdrawal.status = some .failed ∧
      netChange (processWithdrawal (everyAdapter .rows) ⟨.accepted, .rejected "nonce too low", "",
        .rejected "engine unavailable", .accepted⟩ service "wd-1").engine "acc-1" = -5000 :=
  exists_reachable_of_run _ _ etherRequested _ (by decide)

/-- A broadcast that fails and is refunded leaves no trace. -/
theorem refundedWithdrawal_atomic : ∃ service, (system (everyAdapter .rows)).Reachable started service ∧
      Atomic pendingEther service (processWithdrawal (everyAdapter .rows)
        ⟨.accepted, .rejected "nonce too low", "", .accepted, .accepted⟩ service "wd-1") := by
  obtain ⟨service, reached, stored⟩ := exists_reachable_of_run (system (everyAdapter .rows))
    started etherRequested (fun service => service.store.current "wd-1" = some pendingEther)
    (by decide)
  exact ⟨service, reached, (processWithdrawal_atomic_iff reached stored rfl (by decide)).mpr
    fun _ => by decide⟩

end WithdrawalService

end Blazil.Crypto

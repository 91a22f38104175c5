import Blazil.Crypto.Platform

/-! Whether a wallet that has been frozen or archived is debited. A transfer is refused as
long as the wallet is not created again; a withdrawal is not. -/

set_option autoImplicit false

namespace Blazil.Crypto

open Foundation Sharding

namespace TransferService

variable {service next : TransferService} {label : TransferLabel} {index : Nat} {call : TransferCall}

/-- Where a call comes from: it was there, it is new, or it took a step. Only a successful
validation makes it debit. -/
inductive Origin (service : TransferService) (label : TransferLabel) (index : Nat) (call : TransferCall) : Prop where
  | same (found : service.calls[index]? = some call)
  | new (position : index = service.calls.length) (begins : label = .transfer call.request) (phase : call.phase = .validating)
  | stepped {before} (found : service.calls[index]? = some before) (request : before.request = call.request)
      (validated : ∀ chainId, call.phase = .debiting chainId → ∃ fromWallet toWallet,
        label = .validate index fromWallet toWallet ∧ validateTransfer call.request fromWallet toWallet = .ok chainId)

theorem origin_of_modify {change own before}
    (found : service.calls[own]? = some before) (present : (service.calls.modify own change)[index]? = some call)
    (request : (change before).request = before.request)
    (validated : ∀ chainId, (change before).phase = .debiting chainId → ∃ fromWallet toWallet,
      label = .validate own fromWallet toWallet ∧ validateTransfer before.request fromWallet toWallet = .ok chainId) :
    Origin service label index call := by
  rcases entry_of_modify present with ⟨rfl, _, foundEarlier, rfl⟩ | ⟨_, kept⟩
  · cases found.symm.trans foundEarlier
    refine .stepped found request.symm ?_
    rw [request]
    exact validated
  · exact .same kept

theorem origin_of_step (stepped : service.step label = some next)
    (present : next.calls[index]? = some call) : Origin service label index call := by
  cases step_moves stepped with
  | transfer =>
    rcases entry_of_concat present with ⟨_, found⟩ | ⟨position, rfl⟩
    · exact .same found
    · exact .new position rfl rfl
  | @validate _ fromWallet toWallet _ _ found =>
    refine origin_of_modify found present rfl ?_
    intro chainId debiting
    refine ⟨fromWallet, toWallet, rfl, ?_⟩
    simp only [afterValidate] at debiting
    split at debiting
    · next validated =>
      cases debiting
      exact validated
    · cases debiting
  | debit found | credit found =>
    refine origin_of_modify found present rfl ?_
    intro chainId debiting
    simp only [afterTransferDebit, afterTransferCredit] at debiting
    split at debiting <;> cases debiting
  | refund found | record found => exact origin_of_modify found present rfl (by simp)

end TransferService

namespace WithdrawalService

variable {setup : WithdrawalSetup} {service next : WithdrawalService} {label : WithdrawalLabel} {index ref : Nat}
  {withdrawalId : String}

theorem walletId_of_step (stepped : service.step setup label = some next)
    {withdrawal} (found : service.store.objects[ref]? = some withdrawal) :
    ∃ later, next.store.objects[ref]? = some later ∧ later.walletId = withdrawal.walletId := by
  have assigned : ∀ (own : Nat) (change : Withdrawal → Withdrawal), (∀ record, (change record).walletId = record.walletId) →
      ∃ later, (service.store.assign own change).objects[ref]? = some later ∧ later.walletId = withdrawal.walletId := by
    intro own change keeps
    by_cases same : ref = own
    · subst same
      exact ⟨_, ObjectStore.objects_assign found, keeps withdrawal⟩
    · exact ⟨withdrawal, (ObjectStore.objects_assign_other same).trans found, rfl⟩
  cases step_moves stepped with
  | requestWithdrawal | processWithdrawal | estimate | failed | missing =>
    exact ⟨withdrawal, found, rfl⟩
  | request => exact ⟨withdrawal, objects_saveNew found, rfl⟩
  | find _ success => exact ⟨withdrawal, (ObjectStore.load_object success).2.2 ref _ found, rfl⟩
  | debit | broadcast =>
    apply assigned
    intro record
    simp only [afterDebit, afterBroadcast]
    split <;> rfl
  | refund =>
    apply assigned
    intro record
    rfl
  | save =>
    refine ⟨withdrawal, ?_, rfl⟩
    rw [setPhase_store, setStore_store, objects_saveObject]
    exact found

theorem debiting_afterFindWithdrawal {registered loaded}
    (debiting : afterFindWithdrawal registered loaded = .debiting ref) :
    loaded.ref = ref ∧ loaded.record.status = .pending ∧ registered loaded.record.chainId = true := by
  unfold afterFindWithdrawal at debiting
  split at debiting
  · cases debiting
  · next pending =>
    split at debiting
    · cases debiting
    · next adapter =>
      refine ⟨WithdrawalPhase.debiting.inj debiting, not_not.mp pending, ?_⟩
      simpa using adapter

/-- A call is about to debit because it was so before, or because it has just found a pending
withdrawal. -/
theorem debiting_of_step (stepped : service.step setup label = some next)
    (present : next.calls[index]? = some ⟨withdrawalId, .debiting ref⟩) :
    service.calls[index]? = some ⟨withdrawalId, .debiting ref⟩ ∨
      label = .find index none ∧ service.calls[index]? = some ⟨withdrawalId, .finding⟩ ∧
        ∃ loaded, service.store.load withdrawalId = some loaded ∧ next.store = loaded.store ∧
          loaded.ref = ref ∧ loaded.record.status = .pending ∧ setup.registered loaded.record.chainId = true := by
  have other : ∀ {own : Nat} {phase : WithdrawalPhase},
      (service.calls.modify own fun call => { call with phase := phase })[index]? =
        some ⟨withdrawalId, .debiting ref⟩ → phase ≠ .debiting ref →
      service.calls[index]? = some ⟨withdrawalId, .debiting ref⟩ := by
    intro own phase present different
    rcases entry_of_modify present with ⟨_, _, _, made⟩ | ⟨_, kept⟩
    · exact absurd (WithdrawalCall.mk.inj made).2.symm different
    · exact kept
  cases step_moves stepped with
  | requestWithdrawal =>
    rcases entry_of_concat present with ⟨_, found⟩ | ⟨_, made⟩
    · exact .inl found
    · have phase := (WithdrawalCall.mk.inj made).2
      unfold beginRequest at phase
      split at phase
      · split at phase <;> cases phase
      · cases phase
  | processWithdrawal =>
    rcases entry_of_concat present with ⟨_, found⟩ | ⟨_, made⟩
    · exact .inl found
    · cases made
  | estimate =>
    refine .inl (other present ?_)
    intro debiting
    unfold afterEstimate at debiting
    split at debiting
    · cases debiting
    · split at debiting <;> cases debiting
  | @request own outcome | @debit own outcome | @broadcast own outcome =>
    refine .inl (other present ?_)
    cases outcome.reply <;> simp [afterRequest, afterDebit, afterBroadcast]
  | failed | missing | save => exact .inl (other present (by simp))
  | @find _ _ loaded found success =>
    rcases entry_of_modify present with ⟨rfl, _, foundBefore, made⟩ | ⟨_, kept⟩
    · cases found.symm.trans foundBefore
      obtain ⟨rfl, debiting⟩ := WithdrawalCall.mk.inj made
      exact .inr ⟨rfl, found, loaded, success, rfl, debiting_afterFindWithdrawal debiting.symm⟩
    · exact .inl kept
  | refund => exact .inl (other present (by simp [afterRefund]))

end WithdrawalService

namespace Platform

variable {setup : PlatformSetup} {platform next : Platform} {label : PlatformLabel}

/-- No wallet is created under the id of one that has been frozen or archived. -/
def Unreplaced (platform : Platform) : PlatformLabel → Prop
  | .wallet label => platform.wallets.Unreplaced label
  | _ => True

/-- A call of `ProcessWithdrawal` that began when a wallet was frozen or archived finds no
withdrawal of the wallet that it could go on with. -/
def Unpending (setup : PlatformSetup) (platform : Platform) : PlatformLabel → Prop
  | .withdrawal (.find index _) => ∀ call ∈ platform.withdrawals.calls[index]?,
      ∀ withdrawal ∈ platform.withdrawals.store.current call.withdrawalId,
        withdrawal.walletId ∈ platform.withdrawalNotes index → withdrawal.status = .pending →
            setup.withdrawals.registered withdrawal.chainId = false
  | _ => True

/-- No transfer out of a wallet that was blocked when it began is under way. -/
structure TransfersSound (platform : Platform) : Prop where
  wallets : platform.wallets.Sound
  notes : ∀ index, ∀ walletId ∈ (platform.transferNotes index).blocked, walletId ∈ platform.wallets.blocked
  sources : ∀ (index : Nat) (call : TransferCall) (ref : Nat), platform.transfers.calls[index]? = some call →
    (platform.transferNotes index).source = some ref →
    call.request.fromWalletId ∈ (platform.transferNotes index).blocked →
      ∃ wallet, platform.wallets.store.objects[ref]? = some wallet ∧ wallet.status ≠ .active
  debiting : ∀ (index : Nat) (call : TransferCall) (chainId : Int32),
    platform.transfers.calls[index]? = some call → call.phase = .debiting chainId →
      call.request.fromWalletId ∉ (platform.transferNotes index).blocked
  debits : ∀ debit ∈ platform.debits, debit.debtor = .transfer → debit.walletId ∉ debit.blocked

/-- No withdrawal from a wallet that was blocked when the call began is under way. -/
structure WithdrawalsSound (platform : Platform) : Prop where
  debiting : ∀ (index : Nat) (withdrawalId : String) (ref : Nat),
    platform.withdrawals.calls[index]? = some ⟨withdrawalId, .debiting ref⟩ →
      ∃ withdrawal, platform.withdrawals.store.objects[ref]? = some withdrawal ∧
        withdrawal.walletId ∉ platform.withdrawalNotes index
  debits : ∀ debit ∈ platform.debits, debit.debtor = .withdrawal → debit.walletId ∉ debit.blocked

theorem transferDebits_debtor {label} : ∀ debit ∈ platform.transferDebits label, debit.debtor = .transfer := by
  intro debit member
  unfold transferDebits at member
  split at member
  · split at member
    · rw [CallOutcome.mem_applied member]
    · cases member
  · cases member

theorem withdrawalDebits_debtor {label} : ∀ debit ∈ platform.withdrawalDebits label, debit.debtor = .withdrawal := by
  intro debit member
  unfold withdrawalDebits at member
  split at member
  · split at member
    · split at member
      · rw [CallOutcome.mem_applied member]
      · cases member
    · cases member
  · cases member

section Transfers

theorem noted_other {Note : Type} {notes} {note : Note} {index other : Nat}
    (different : other ≠ index) : noted notes index note other = notes other :=
  if_neg different

theorem noteTransfer_of_found {label} {index : Nat} {call} (found : platform.transfers.calls[index]? = some call) :
    platform.noteTransfer label index = platform.transferNotes index := by
  unfold noteTransfer
  split
  · exact noted_other (Nat.ne_of_lt (entry_lt found))
  · rfl

variable {request : InternalTransferRequest}

section

variable (sound : TransfersSound platform)
include sound

variable {loaded : ObjectStore.Loaded String StoredWallet} {transfers : TransferService}

theorem TransfersSound.load {walletId : String} (success : platform.wallets.store.load walletId = some loaded) :
    TransfersSound { platform with wallets := platform.wallets.setStore loaded.store } := by
  refine ⟨sound.wallets.load success, sound.notes, ?_, sound.debiting, sound.debits⟩
  intro index call ref found noted blocked
  obtain ⟨wallet, object, inactive⟩ := sound.sources index call ref found noted blocked
  exact ⟨wallet, (ObjectStore.load_object success).2.2 ref wallet object, inactive⟩

theorem TransfersSound.findSource {index : Nat} {made}
    (found : platform.transfers.calls[index]? = some ⟨request, made, .validating⟩)
    (success : platform.wallets.store.load request.fromWalletId = some loaded) : TransfersSound { platform with
        wallets := platform.wallets.setStore loaded.store
        transferNotes := noted platform.transferNotes index
          { platform.transferNotes index with source := some loaded.ref } } := by
  have looked := sound.load success
  have sameBlocked : ∀ other, (noted platform.transferNotes index
      { platform.transferNotes index with source := some loaded.ref } other).blocked =
        (platform.transferNotes other).blocked := by
    intro other
    unfold noted
    split
    · next own => rw [own]
    · rfl
  refine ⟨looked.wallets, ?_, ?_, ?_, sound.debits⟩
  · intro other walletId blocked
    rw [sameBlocked] at blocked
    exact sound.notes other walletId blocked
  · intro other call ref foundCall source blocked
    rw [sameBlocked] at blocked
    by_cases own : other = index
    · subst own
      cases found.symm.trans foundCall
      obtain rfl : loaded.ref = ref := by simpa [noted] using source
      -- what was blocked when the call began still is
      obtain ⟨_, current, inactive⟩ := sound.wallets.blocked _ (sound.notes other _ blocked)
      obtain ⟨stored, object, _⟩ := ObjectStore.load_object success
      cases current.symm.trans stored
      exact ⟨loaded.record, object, inactive⟩
    · simp only [noted_other own] at source
      exact looked.sources other call ref foundCall source blocked
  · intro other call chainId foundCall phase
    rw [sameBlocked]
    exact sound.debiting other call chainId foundCall phase

theorem TransfersSound.advance {label} (moved : platform.transfers.step label = some transfers)
    (refuses : ∀ index fromWallet toWallet call chainId, label = .validate index fromWallet toWallet →
      platform.transfers.calls[index]? = some call →
      call.request.fromWalletId ∈ (platform.transferNotes index).blocked →
        validateTransfer call.request fromWallet toWallet ≠ .ok chainId) : TransfersSound { platform with
        transfers := transfers
        transferNotes := platform.noteTransfer label } := by
  refine ⟨sound.wallets, ?_, ?_, ?_, sound.debits⟩
  · intro index walletId blocked
    dsimp only [noteTransfer] at blocked
    split at blocked
    · unfold noted at blocked
      split at blocked
      · exact blocked
      · exact sound.notes index walletId blocked
    · exact sound.notes index walletId blocked
  · intro index call ref present source blocked
    cases TransferService.origin_of_step moved present with
    | same found =>
      simp only [noteTransfer_of_found found] at source blocked
      exact sound.sources index call ref found source blocked
    | new position begins =>
      rw [position, begins] at source
      simp [noteTransfer, noted] at source
    | stepped found request =>
      simp only [noteTransfer_of_found found, ← request] at source blocked
      exact sound.sources index _ ref found source blocked
  · intro index call chainId present debiting
    cases TransferService.origin_of_step moved present with
    | same found =>
      simp only [noteTransfer_of_found found]
      exact sound.debiting index call chainId found debiting
    | new _ _ phase =>
      rw [phase] at debiting
      cases debiting
    | stepped found request validated =>
      obtain ⟨fromWallet, toWallet, same, passed⟩ := validated chainId debiting
      simp only [noteTransfer_of_found found, ← request] at passed ⊢
      intro blocked
      exact refuses index fromWallet toWallet _ chainId same found blocked passed

theorem TransfersSound.debits_of_step {label} (moved : platform.transfers.step label = some transfers) :
    ∀ debit ∈ platform.transferDebits label, debit.walletId ∉ debit.blocked := by
  intro debit member
  cases TransferService.step_moves moved with
  | transfer | validate | credit | refund | record => cases member
  | @debit index _ _ _ chainId found =>
    simp only [transferDebits, found] at member
    rw [CallOutcome.mem_applied member]
    exact sound.debiting index _ chainId found rfl

end

theorem validateTransfer_inactive {source : StoredWallet}
    {toWallet : Except String Wallet} {chainId : Int32} (inactive : source.status ≠ .active) :
    validateTransfer request (.ok source.toWallet) toWallet ≠ .ok chainId := by
  intro passed
  unfold validateTransfer at passed
  split at passed
  · cases passed
  · cases toWallet with
    | error => cases passed
    | ok => cases status : source.status <;> simp_all

theorem TransfersSound.step (sound : TransfersSound platform) (unreplaced : Unreplaced platform label)
    (stepped : (system setup).step platform label = some next) : TransfersSound next := by
  cases step_moves stepped with
  | wallet moved =>
    have lasts := WalletService.lasts_of_step sound.wallets moved
    refine ⟨sound.wallets.step unreplaced moved, ?_, ?_, sound.debiting, sound.debits⟩
    · intro index walletId blocked
      exact WalletService.blocked_of_step moved (sound.notes index walletId blocked)
    · intro index call ref found noted blocked
      obtain ⟨wallet, object, inactive⟩ := sound.sources index call ref found noted blocked
      obtain ⟨later, foundLater, _, keeps⟩ := lasts ref wallet object
      exact ⟨later, foundLater, keeps inactive⟩
  | refused moved =>
    refine sound.advance moved ?_
    rintro _ _ _ _ _ ⟨rfl, rfl, rfl⟩ _ _ passed
    unfold validateTransfer at passed
    split at passed <;> cases passed
  | findSource found success => exact sound.findSource found success
  | @validate index _ ref source toWallet transfers _ note object loaded moved =>
    have advanced : TransfersSound
        { platform with
          transfers := transfers
          transferNotes := platform.noteTransfer (.validate index (.ok source.toWallet) toWallet) } := by
      refine sound.advance moved ?_
      rintro _ _ _ call _ ⟨rfl, rfl, rfl⟩ found blocked
      obtain ⟨_, sameObject, inactive⟩ := sound.sources _ call ref found note blocked
      cases object.symm.trans sameObject
      exact validateTransfer_inactive inactive
    rcases loaded with rfl | ⟨_, _, success, rfl⟩
    · exact advanced
    · exact advanced.load success
  | transfer other moved =>
    have advanced := sound.advance moved fun index fromWallet toWallet _ _ same _ _ =>
      absurd same (other index fromWallet toWallet)
    exact { advanced with
      debits := List.forall_mem_append.mpr ⟨sound.debits, fun debit new _ => sound.debits_of_step moved debit new⟩ }
  | withdrawal =>
    refine { sound with debits := List.forall_mem_append.mpr ⟨sound.debits, ?_⟩ }
    intro debit new debtor
    rw [withdrawalDebits_debtor debit new] at debtor
    cases debtor

end Transfers

theorem noteWithdrawal_of_found {label} {index : Nat} {call}
    (found : platform.withdrawals.calls[index]? = some call) :
    platform.noteWithdrawal label index = platform.withdrawalNotes index := by
  have other : index ≠ platform.withdrawals.calls.length :=
    Nat.ne_of_lt (entry_lt found)
  unfold noteWithdrawal
  split
  · exact noted_other other
  · exact noted_other other
  · rfl

theorem WithdrawalsSound.debits_of_step (sound : WithdrawalsSound platform) {label withdrawals}
    (moved : platform.withdrawals.step setup.withdrawals label = some withdrawals) :
    ∀ debit ∈ platform.withdrawalDebits label, debit.walletId ∉ debit.blocked := by
  intro debit member
  cases WithdrawalService.step_moves moved with
  | requestWithdrawal | estimate | request | processWithdrawal | failed | missing | find
  | broadcast | refund | save => cases member
  | @debit index _ withdrawalId ref _ found object =>
    simp only [withdrawalDebits, found, object] at member
    rw [CallOutcome.mem_applied member]
    obtain ⟨_, sameObject, free⟩ := sound.debiting index withdrawalId ref found
    cases object.symm.trans sameObject
    exact free

theorem WithdrawalsSound.step (sound : WithdrawalsSound platform) (unpending : Unpending setup platform label)
    (stepped : (system setup).step platform label = some next) : WithdrawalsSound next := by
  cases step_moves stepped with
  | wallet | refused | findSource | validate => exact ⟨sound.debiting, sound.debits⟩
  | transfer =>
    refine ⟨sound.debiting, List.forall_mem_append.mpr ⟨sound.debits, ?_⟩⟩
    intro debit new debtor
    rw [transferDebits_debtor debit new] at debtor
    cases debtor
  | @withdrawal _ _ moved =>
    refine ⟨?_, ?_⟩
    · intro index withdrawalId ref present
      rcases WithdrawalService.debiting_of_step moved present with
        found | ⟨rfl, found, loaded, success, store, rfl, pending, adapter⟩
      · obtain ⟨_, object, free⟩ := sound.debiting index withdrawalId ref found
        obtain ⟨later, foundLater, same⟩ := WithdrawalService.walletId_of_step moved object
        refine ⟨later, foundLater, ?_⟩
        rw [same]
        simp only [noteWithdrawal_of_found found]
        exact free
      · obtain ⟨stored, object, _⟩ := ObjectStore.load_object success
        refine ⟨loaded.record, by rw [store]; exact object, ?_⟩
        intro blocked
        have without := unpending _ found loaded.record stored blocked pending
        rw [without] at adapter
        cases adapter
    · exact List.forall_mem_append.mpr ⟨sound.debits, fun debit new _ => sound.debits_of_step moved debit new⟩

/-- Once a wallet has been frozen or archived, no transfer out of it that begins later debits
an account, in runs in which no wallet is created under its id; and no withdrawal from it
does, in runs in which later calls find none of its withdrawals pending. -/
theorem blocked_wallets_not_debited {state : Platform} : ((system setup).Reaches Unreplaced started state →
      ∀ debit ∈ state.debits, debit.debtor = .transfer → debit.walletId ∉ debit.blocked) ∧
    ((system setup).Reaches (Unpending setup) started state →
      ∀ debit ∈ state.debits, debit.debtor = .withdrawal → debit.walletId ∉ debit.blocked) := by
  refine ⟨?_, ?_⟩
  · intro reached
    have sound : TransfersSound state := by
      apply reached.invariant TransfersSound
      · refine ⟨WalletService.sound_started, ?_, ?_, ?_, ?_⟩
        all_goals simp [started, TransferService.started]
      · intro before label after unreplaced stepped sound
        exact sound.step unreplaced stepped
    exact sound.debits
  · intro reached
    have sound : WithdrawalsSound state := by
      apply reached.invariant WithdrawalsSound
      · refine ⟨?_, ?_⟩
        all_goals simp [started, WithdrawalService.started]
      · intro before label after unpending stepped sound
        exact sound.step unpending stepped
    exact sound.debits

instance (platform : Platform) (label : PlatformLabel) : Decidable (Unreplaced platform label) :=
  match label with
  | .wallet label => inferInstanceAs (Decidable (platform.wallets.Unreplaced label))
  | .findSource _ _ | .validate _ _ | .transfer _ | .withdrawal _ => .isTrue trivial

instance (setup : PlatformSetup) (platform : Platform) (label : PlatformLabel) : Decidable (Unpending setup platform label) :=
  match label with
  | .withdrawal (.find _ _) => inferInstanceAs (Decidable (∀ _ ∈ _, ∀ _ ∈ _, _ → _ → _))
  | .wallet _ | .findSource _ _ | .validate _ _ | .transfer _ | .withdrawal (.requestWithdrawal _) | .withdrawal (.estimate _ _ _)
  | .withdrawal (.request _ _) | .withdrawal (.processWithdrawal _) | .withdrawal (.debit _ _) | .withdrawal (.broadcast _ _ _)
  | .withdrawal (.refund _ _) | .withdrawal (.save _ _) => .isTrue trivial

def creation (walletId : String) (call : Nat) : List PlatformLabel :=
  [.wallet (.createWallet ⟨walletId, "owner-1", 2, "internal"⟩),
   .wallet (.generate call (.ok "0xabc")), .wallet (.create call .accepted)]

def freezing (walletId : String) (call : Nat) : List PlatformLabel :=
  [.wallet (.freezeWallet walletId), .wallet (.find call none), .wallet (.mark call), .wallet (.save call .accepted)]

def debitedTransfer (fromWalletId toWalletId : String) (call : Nat) : List PlatformLabel :=
  [.transfer (.transfer ⟨"t-1", fromWalletId, toWalletId, "acc-1", "acc-2", 500⟩),
   .findSource call none, .validate call none, .transfer (.debit call .accepted)]

def debitedWithdrawal : List PlatformLabel :=
  [.withdrawal (.requestWithdrawal WithdrawalService.etherWithdrawal),
   .withdrawal (.estimate 0 (.ok 100) 0), .withdrawal (.request 0 .accepted),
   .withdrawal (.processWithdrawal "wd-1"), .withdrawal (.find 1 none),
   .withdrawal (.debit 1 .accepted)]

def withEveryAdapter (backing : Backing) : PlatformSetup :=
  ⟨backing, WithdrawalService.everyAdapter backing⟩

/-- A frozen wallet is the destination of a transfer and the source of one that is refused. And a
withdrawal from a wallet is broadcast before the wallet is frozen, and looked up again afterwards. -/
theorem frozen_wallet_not_debited : (∃ state : Platform, (system (withEveryAdapter .rows)).Reachable started state ∧
      state.debits.map Debit.blocked = [["w-1"]] ∧
      (state.transfers.calls.map fun call => call.request.fromWalletId) = ["w-2", "w-1"] ∧
      ∀ debit ∈ state.debits, debit.debtor = .transfer → debit.walletId ∉ debit.blocked) ∧
    ∃ state : Platform, (system (withEveryAdapter .rows)).Reachable started state ∧
      state.withdrawalNotes 2 = ["w-1"] ∧ state.debits.map Debit.walletId = ["w-1"] ∧
      ∀ debit ∈ state.debits, debit.debtor = .withdrawal → debit.walletId ∉ debit.blocked := by
  constructor
  · obtain ⟨state, reaches, noted⟩ := System.exists_reaches_of_run (system (withEveryAdapter .rows)) Unreplaced started
      (creation "w-1" 0 ++ creation "w-2" 1 ++ freezing "w-1" 2 ++ debitedTransfer "w-2" "w-1" 0 ++
        [.transfer (.transfer ⟨"t-2", "w-1", "w-2", "acc-1", "acc-2", 500⟩), .findSource 1 none, .validate 1 none])
      (fun state => state.debits.map Debit.blocked = [["w-1"]] ∧
        (state.transfers.calls.map fun call => call.request.fromWalletId) = ["w-2", "w-1"])
      (by decide) (by decide)
    exact ⟨state, reaches.reachable, noted.1, noted.2, blocked_wallets_not_debited.1 reaches⟩
  · obtain ⟨state, reaches, noted⟩ := System.exists_reaches_of_run (system (withEveryAdapter .rows))
      (Unpending (withEveryAdapter .rows)) started
      (creation "w-1" 0 ++ debitedWithdrawal ++ [.withdrawal (.broadcast 1 .accepted "0x1"), .withdrawal (.save 1 .accepted)] ++
        freezing "w-1" 1 ++ [.withdrawal (.processWithdrawal "wd-1"), .withdrawal (.find 2 none)])
      (fun state => state.withdrawalNotes 2 = ["w-1"] ∧ state.debits.map Debit.walletId = ["w-1"]) (by decide) (by decide)
    exact ⟨state, reaches.reachable, noted.1, noted.2, blocked_wallets_not_debited.2 reaches⟩

/-- A frozen wallet is debited by a withdrawal that is requested and processed afterwards,
and by a transfer after it has been created a second time. -/
theorem frozen_wallet_debited : (∀ backing, ∃ state, (system (withEveryAdapter backing)).Reachable started state ∧
      state.debits = [⟨.withdrawal, "w-1", ["w-1"], .debit "acc-1" 5000⟩]) ∧
    ∀ backing, ∃ state, (system (withEveryAdapter backing)).Reachable started state ∧
      state.debits = [⟨.transfer, "w-1", ["w-1"], .debit "acc-1" 500⟩] := by
  refine ⟨?_, ?_⟩
  · intro backing
    apply System.exists_reachable_of_run (system (withEveryAdapter backing)) started
      (creation "w-1" 0 ++ freezing "w-1" 1 ++ debitedWithdrawal)
    cases backing <;> decide
  · intro backing
    apply System.exists_reachable_of_run (system (withEveryAdapter backing)) started
      (creation "w-1" 0 ++ creation "w-2" 1 ++ freezing "w-1" 2 ++ creation "w-1" 3 ++
        debitedTransfer "w-1" "w-2" 0)
    cases backing <;> decide

end Platform

end Blazil.Crypto

import Blazil.Crypto.Wallets
import Blazil.Crypto.Withdrawals

/-! Wallets, internal transfers and withdrawals together. A transfer looks up both of its
wallets; a withdrawal names a wallet and looks up none. Every debit that reaches the engine
is noted with the wallets that were reported as frozen or archived when its call began. -/

set_option autoImplicit false

namespace Blazil.Crypto

open Foundation Sharding

inductive Debtor where
  | transfer
  | withdrawal
deriving DecidableEq

structure Debit where
  debtor : Debtor
  walletId : String
  /-- The wallets that were reported as frozen or archived when the call began. -/
  blocked : List String
  operation : EngineOp
deriving DecidableEq

structure TransferNote where
  blocked : List String
  source : Option Nat

structure Platform where
  wallets : WalletService
  transfers : TransferService
  withdrawals : WithdrawalService
  transferNotes : Nat → TransferNote
  withdrawalNotes : Nat → List String
  debits : List Debit

inductive PlatformLabel where
  | wallet (label : WalletLabel)
  | findSource (call : Nat) (failure : Option String)
  /-- The destination wallet is looked up and both are checked. -/
  | validate (call : Nat) (failure : Option String)
  | transfer (label : TransferLabel)
  | withdrawal (label : WithdrawalLabel)

structure PlatformSetup where
  walletBacking : Backing
  withdrawals : WithdrawalSetup

def noted {Note : Type} (notes : Nat → Note) (index : Nat) (note : Note) (other : Nat) : Note :=
  if other = index then note else notes other

namespace Platform

def started : Platform :=
  ⟨.started, .started, .started, fun _ => ⟨[], none⟩, fun _ => [], []⟩

def refuse (platform : Platform) (index : Nat) (reason : String) : Option Platform :=
  (platform.transfers.step (.validate index (.error reason) (.error reason))).map fun transfers =>
    { platform with transfers := transfers }

def findSource (setup : PlatformSetup) (platform : Platform) (index : Nat) (failure : Option String) : Option Platform :=
  match platform.transfers.calls[index]? with
  | some ⟨request, _, .validating⟩ =>
    if (platform.transferNotes index).source ≠ none then none
    else if request.amountMinorUnits ≤ 0 then platform.refuse index ""
    else if MayFail setup.walletBacking failure then
      match findWallet platform.wallets.store request.fromWalletId failure with
      | .error reason => platform.refuse index reason
      | .ok loaded =>
        some { platform with
          wallets := platform.wallets.setStore loaded.store
          transferNotes := noted platform.transferNotes index
            { platform.transferNotes index with source := some loaded.ref } }
    else none
  | _ => none

/-- An object in memory is read when both wallets have been found. -/
def validate (setup : PlatformSetup) (platform : Platform) (index : Nat) (failure : Option String) : Option Platform :=
  match platform.transfers.calls[index]?, (platform.transferNotes index).source with
  | some ⟨request, _, .validating⟩, some ref =>
    (platform.wallets.store.objects[ref]?).bind fun source =>
      if MayFail setup.walletBacking failure then
        match findWallet platform.wallets.store request.toWalletId failure with
        | .error reason =>
          (platform.transfers.step (.validate index (.ok source.toWallet) (.error reason))).map
            fun transfers => { platform with transfers := transfers }
        | .ok loaded =>
          (platform.transfers.step (.validate index (.ok source.toWallet) (.ok loaded.record.toWallet))).map fun transfers =>
              { platform with
                transfers := transfers
                wallets := platform.wallets.setStore loaded.store }
      else none
  | _, _ => none

/-- What a step of the transfers leaves in the notes: a new call notes what is blocked. -/
def noteTransfer (platform : Platform) : TransferLabel → Nat → TransferNote
  | .transfer _ =>
    noted platform.transferNotes platform.transfers.calls.length ⟨platform.wallets.blocked, none⟩
  | _ => platform.transferNotes

def transferDebits (platform : Platform) : TransferLabel → List Debit
  | .debit index outcome =>
    match platform.transfers.calls[index]? with
    | some call =>
      outcome.applied ⟨.transfer, call.request.fromWalletId,
        (platform.transferNotes index).blocked, TransferStep.debit.operation call.request⟩
    | none => []
  | _ => []

def noteWithdrawal (platform : Platform) : WithdrawalLabel → Nat → List String
  | .requestWithdrawal _ | .processWithdrawal _ =>
    noted platform.withdrawalNotes platform.withdrawals.calls.length platform.wallets.blocked
  | _ => platform.withdrawalNotes

def withdrawalDebits (platform : Platform) : WithdrawalLabel → List Debit
  | .debit index outcome =>
    match platform.withdrawals.calls[index]? with
    | some ⟨_, .debiting ref⟩ =>
      match platform.withdrawals.store.objects[ref]? with
      | some withdrawal =>
        outcome.applied ⟨.withdrawal, withdrawal.walletId, platform.withdrawalNotes index,
          .debit withdrawal.accountId withdrawal.amountMinorUnits⟩
      | none => []
    | _ => []
  | _ => []

def stepTransfers (platform : Platform) (label : TransferLabel) : Option Platform :=
  (platform.transfers.step label).map fun transfers =>
    { platform with
      transfers := transfers
      transferNotes := platform.noteTransfer label
      debits := platform.debits ++ platform.transferDebits label }

def step (setup : PlatformSetup) (platform : Platform) : PlatformLabel → Option Platform
  | .wallet label =>
    (platform.wallets.step setup.walletBacking setup.withdrawals.registered label).map
      fun wallets => { platform with wallets := wallets }
  | .findSource index failure => platform.findSource setup index failure
  | .validate index failure => platform.validate setup index failure
  | .transfer (.validate _ _ _) => none
  | .transfer label => platform.stepTransfers label
  | .withdrawal label =>
    (platform.withdrawals.step setup.withdrawals label).map fun withdrawals =>
      { platform with
        withdrawals := withdrawals
        withdrawalNotes := platform.noteWithdrawal label
        debits := platform.debits ++ platform.withdrawalDebits label }

def system (setup : PlatformSetup) : System Platform PlatformLabel := ⟨step setup⟩

variable {setup : PlatformSetup} {platform next : Platform} {label : PlatformLabel}

/-- What a step does, without the checks of its guards. -/
inductive Moves (setup : PlatformSetup) (platform : Platform) : PlatformLabel → Platform → Prop where
  | wallet {label wallets}
      (moved : platform.wallets.step setup.walletBacking setup.withdrawals.registered label = some wallets) :
      Moves setup platform (.wallet label) { platform with wallets := wallets }
  | refused {index failure reason transfers}
      (moved : platform.transfers.step (.validate index (.error reason) (.error reason)) = some transfers) :
      Moves setup platform (.findSource index failure) { platform with transfers := transfers }
  | findSource {index failure request made loaded}
      (found : platform.transfers.calls[index]? = some ⟨request, made, .validating⟩)
      (success : platform.wallets.store.load request.fromWalletId = some loaded) :
      Moves setup platform (.findSource index failure)
        { platform with
          wallets := platform.wallets.setStore loaded.store
          transferNotes := noted platform.transferNotes index
            { platform.transferNotes index with source := some loaded.ref } }
  | validate {index failure ref source toWallet transfers store}
      (noted : (platform.transferNotes index).source = some ref)
      (object : platform.wallets.store.objects[ref]? = some source)
      (loaded : store = platform.wallets.store ∨ ∃ walletId loaded,
        platform.wallets.store.load walletId = some loaded ∧ store = loaded.store)
      (moved : platform.transfers.step (.validate index (.ok source.toWallet) toWallet) = some transfers) :
      Moves setup platform (.validate index failure)
        { platform with transfers := transfers, wallets := platform.wallets.setStore store }
  | transfer {label transfers} (other : ∀ index fromWallet toWallet, label ≠ .validate index fromWallet toWallet)
      (moved : platform.transfers.step label = some transfers) :
      Moves setup platform (.transfer label)
        { platform with
          transfers := transfers
          transferNotes := platform.noteTransfer label
          debits := platform.debits ++ platform.transferDebits label }
  | withdrawal {label withdrawals} (moved : platform.withdrawals.step setup.withdrawals label = some withdrawals) :
      Moves setup platform (.withdrawal label)
        { platform with
          withdrawals := withdrawals
          withdrawalNotes := platform.noteWithdrawal label
          debits := platform.debits ++ platform.withdrawalDebits label }

variable {index : Nat} {failure : Option String}

theorem findSource_moves (stepped : platform.findSource setup index failure = some next) :
    Moves setup platform (.findSource index failure) next := by
  have refusal : ∀ reason, platform.refuse index reason = some next → Moves setup platform (.findSource index failure) next := by
    intro reason refused
    obtain ⟨_, moved, rfl⟩ := Option.map_eq_some_iff.mp refused
    exact .refused moved
  unfold findSource at stepped
  split at stepped
  · next found =>
    split at stepped
    · cases stepped
    · split at stepped
      · exact refusal _ stepped
      · split at stepped
        · split at stepped
          · exact refusal _ stepped
          · next success =>
            cases stepped
            exact .findSource found (WalletService.load_of_findWallet success)
        · cases stepped
  · cases stepped

theorem validate_moves (stepped : platform.validate setup index failure = some next) :
    Moves setup platform (.validate index failure) next := by
  unfold validate at stepped
  split at stepped
  · next note =>
    obtain ⟨_, object, rest⟩ := Option.bind_eq_some_iff.mp stepped
    split at rest
    · split at rest
      · obtain ⟨_, moved, rfl⟩ := Option.map_eq_some_iff.mp rest
        exact .validate note object (.inl rfl) moved
      · next success =>
        obtain ⟨_, moved, rfl⟩ := Option.map_eq_some_iff.mp rest
        exact .validate note object (.inr ⟨_, _, WalletService.load_of_findWallet success, rfl⟩) moved
    · cases rest
  · cases stepped

theorem stepTransfers_moves {label} (other : ∀ index fromWallet toWallet, label ≠ .validate index fromWallet toWallet)
    (stepped : platform.stepTransfers label = some next) : Moves setup platform (.transfer label) next := by
  obtain ⟨_, moved, rfl⟩ := Option.map_eq_some_iff.mp stepped
  exact .transfer other moved

theorem step_moves (stepped : (system setup).step platform label = some next) : Moves setup platform label next := by
  cases label with
  | wallet =>
    obtain ⟨_, moved, rfl⟩ := Option.map_eq_some_iff.mp stepped
    exact .wallet moved
  | findSource => exact findSource_moves stepped
  | validate => exact validate_moves stepped
  | transfer label =>
    cases label with
    | validate => cases stepped
    | transfer | debit | credit | refund | record => exact stepTransfers_moves (by simp) stepped
  | withdrawal =>
    obtain ⟨_, moved, rfl⟩ := Option.map_eq_some_iff.mp stepped
    exact .withdrawal moved

end Platform

end Blazil.Crypto

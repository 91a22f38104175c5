import Blazil.Crypto.InternalTransfers

/-! The life of a wallet (`services/crypto/internal/wallets`). Each call of the store or a chain
adapter is one step. An object that is shared in memory is changed between the lookup and the save,
in a step of its own. A wallet that has been frozen or archived is not active again, unless it is
created a second time. -/

set_option autoImplicit false

namespace Blazil.Crypto

open Foundation Sharding

variable {outcome : CallOutcome} {walletId : String} {backing : Backing} {ref : Nat}

structure StoredWallet extends Wallet where
  id : String
  ownerId : String
  address : String
  type : String
deriving DecidableEq

/-- The upsert of the Postgres store writes nothing but the status. -/
def walletSchema : Schema String StoredWallet where
  key := StoredWallet.id
  merge row wallet := { row with status := wallet.status }
  key_merge _ _ := rfl

structure CreateWalletRequest where
  id : String
  ownerId : String
  chainId : Int32
  type : String
deriving DecidableEq

def newWallet (request : CreateWalletRequest) (address : String) : StoredWallet where
  id := request.id
  ownerId := request.ownerId
  chainId := request.chainId
  address := address
  type := request.type
  status := .active

inductive WalletChange where
  | freeze
  | archive
deriving DecidableEq

def WalletChange.status : WalletChange → WalletStatus
  | .freeze => .frozen
  | .archive => .archived

/-- How far a call has come: the first two phases are those of `CreateWallet`. Later ones
work on the object that was loaded. -/
inductive WalletPhase where
  | addressing (request : CreateWalletRequest)
  | creating (wallet : StoredWallet)
  | finding (change : WalletChange)
  | marking (ref : Nat) (change : WalletChange)
  | saving (ref : Nat)
  | returned (result : Except CryptoError Nat)

structure WalletCall where
  walletId : String
  phase : WalletPhase

structure WalletService where
  store : ObjectStore String StoredWallet
  calls : List WalletCall
  /-- The wallets whose freezing or archiving has been reported as done. -/
  blocked : List String

inductive WalletLabel where
  | createWallet (request : CreateWalletRequest)
  | freezeWallet (walletId : String)
  | archiveWallet (walletId : String)
  | generate (call : Nat) (address : Except String String)
  | create (call : Nat) (outcome : CallOutcome)
  | find (call : Nat) (failure : Option String)
  | mark (call : Nat)
  | save (call : Nat) (outcome : CallOutcome)

/-- The lookup of a wallet; only the database may fail. -/
def findWallet (store : ObjectStore String StoredWallet) (walletId : String)
    (failure : Option String) : Except String (ObjectStore.Loaded String StoredWallet) :=
  match failure with
  | some reason => .error ("find wallet: " ++ reason)
  | none =>
    match store.load walletId with
    | none => .error "wallet not found"
    | some loaded => .ok loaded

def MayFail (backing : Backing) (failure : Option String) : Prop :=
  backing = .objects → failure = none

instance (backing : Backing) (failure : Option String) : Decidable (MayFail backing failure) :=
  inferInstanceAs (Decidable (_ → _))

def beginCreate (registered : Int32 → Bool) (request : CreateWalletRequest) : WalletPhase :=
  if request.id = "" then .returned (.error (.external "wallet ID must not be empty"))
  else if registered request.chainId then .addressing request
  else .returned (.error .chainNotSupported)

def afterGenerate (request : CreateWalletRequest) (address : Except String String) : WalletPhase :=
  match address with
  | .error reason => .returned (.error (.wrapped "generate address" (.external reason)))
  | .ok address => .creating (newWallet request address)

def afterFindWallet (change : WalletChange) (loaded : ObjectStore.Loaded String StoredWallet) : WalletPhase :=
  if change = .freeze ∧ loaded.record.status = .archived then .returned (.error .walletArchived)
  else .marking loaded.ref change

def afterSaveWallet (ref : Nat) (reply : Except String Unit) : WalletPhase :=
  match reply with
  | .ok _ => .returned (.ok ref)
  | .error reason => .returned (.error (.wrapped "save wallet" (.external reason)))

namespace WalletService

def started : WalletService := ⟨.empty, [], []⟩

@[simps]
def append (service : WalletService) (call : WalletCall) : WalletService :=
  { service with calls := service.calls ++ [call] }

@[simps]
def setPhase (service : WalletService) (index : Nat) (phase : WalletPhase) : WalletService :=
  { service with calls := service.calls.modify index fun call => { call with phase := phase } }

@[simps]
def setStore (service : WalletService) (store : ObjectStore String StoredWallet) : WalletService :=
  { service with store := store }

/-- A call that was told of no error reports the wallet as frozen or archived. -/
@[simps]
def block (service : WalletService) (walletId : String) (outcome : CallOutcome) : WalletService :=
  { service with
    blocked := if outcome.isAccepted then service.blocked ++ [walletId] else service.blocked }

def step (backing : Backing) (registered : Int32 → Bool) (service : WalletService) : WalletLabel → Option WalletService
  | .createWallet request =>
    some (service.append ⟨request.id, beginCreate registered request⟩)
  | .freezeWallet walletId => some (service.append ⟨walletId, .finding .freeze⟩)
  | .archiveWallet walletId => some (service.append ⟨walletId, .finding .archive⟩)
  | .generate index address =>
    match service.calls[index]? with
    | some ⟨_, .addressing request⟩ =>
      some (service.setPhase index (afterGenerate request address))
    | _ => none
  | .create index outcome =>
    match service.calls[index]? with
    | some ⟨_, .creating wallet⟩ =>
      if Answers backing outcome then
        some ((service.setStore (saveNew walletSchema backing service.store wallet
          outcome)).setPhase index (afterSaveWallet service.store.objects.length outcome.reply))
      else none
    | _ => none
  | .find index failure =>
    match service.calls[index]? with
    | some ⟨walletId, .finding change⟩ =>
      if MayFail backing failure then
        match findWallet service.store walletId failure with
        | .error reason => some (service.setPhase index (.returned (.error (.external reason))))
        | .ok loaded =>
          some ((service.setStore loaded.store).setPhase index (afterFindWallet change loaded))
      else none
    | _ => none
  | .mark index =>
    match service.calls[index]? with
    | some ⟨_, .marking ref change⟩ =>
      some ((service.setStore (service.store.assign ref fun wallet =>
        { wallet with status := change.status })).setPhase index (.saving ref))
    | _ => none
  | .save index outcome =>
    match service.calls[index]? with
    | some ⟨walletId, .saving ref⟩ =>
      if Answers backing outcome then
        some (((service.setStore (saveObject walletSchema backing service.store ref
          outcome)).block walletId outcome).setPhase index (afterSaveWallet ref outcome.reply))
      else none
    | _ => none

inductive Moves (backing : Backing) (registered : Int32 → Bool) (service : WalletService) :
    WalletLabel → WalletService → Prop where
  | createWallet {request} : Moves backing registered service (.createWallet request)
        (service.append ⟨request.id, beginCreate registered request⟩)
  | freezeWallet {walletId : String} : Moves backing registered service (.freezeWallet walletId)
        (service.append ⟨walletId, .finding .freeze⟩)
  | archiveWallet {walletId : String} : Moves backing registered service (.archiveWallet walletId)
        (service.append ⟨walletId, .finding .archive⟩)
  | generate {index address walletId request} (found : service.calls[index]? = some ⟨walletId, .addressing request⟩) :
      Moves backing registered service (.generate index address) (service.setPhase index (afterGenerate request address))
  | create {index outcome walletId wallet} (found : service.calls[index]? = some ⟨walletId, .creating wallet⟩) :
      Moves backing registered service (.create index outcome)
        ((service.setStore (saveNew walletSchema backing service.store wallet
          outcome)).setPhase index (afterSaveWallet service.store.objects.length outcome.reply))
  | missing {index failure walletId reason change} (found : service.calls[index]? = some ⟨walletId, .finding change⟩) :
      Moves backing registered service (.find index failure) (service.setPhase index (.returned (.error (.external reason))))
  | find {index failure walletId change loaded} (found : service.calls[index]? = some ⟨walletId, .finding change⟩)
      (success : service.store.load walletId = some loaded) :
      Moves backing registered service (.find index failure)
        ((service.setStore loaded.store).setPhase index (afterFindWallet change loaded))
  | mark {index walletId ref change} (found : service.calls[index]? = some ⟨walletId, .marking ref change⟩) :
      Moves backing registered service (.mark index) ((service.setStore (service.store.assign ref fun wallet =>
          { wallet with status := change.status })).setPhase index (.saving ref))
  | save {index outcome walletId ref} (found : service.calls[index]? = some ⟨walletId, .saving ref⟩) :
      Moves backing registered service (.save index outcome)
        (((service.setStore (saveObject walletSchema backing service.store ref
          outcome)).block walletId outcome).setPhase index (afterSaveWallet ref outcome.reply))

theorem load_of_findWallet {store walletId failure loaded} (found : findWallet store walletId failure = .ok loaded) :
    store.load walletId = some loaded := by
  unfold findWallet at found
  split at found
  · cases found
  · split at found
    · cases found
    · next success => rw [success, Except.ok.inj found]

theorem step_moves {backing registered service next label}
    (stepped : service.step backing registered label = some next) : Moves backing registered service label next := by
  cases label with simp only [step] at stepped
  | createWallet | freezeWallet | archiveWallet =>
    cases stepped
    constructor
  | generate | mark =>
    split at stepped
    · next found =>
      cases stepped
      constructor
      exact found
    · cases stepped
  | find =>
    split at stepped
    · next found =>
      split at stepped
      · split at stepped
        · cases stepped
          exact .missing found
        · next success =>
          cases stepped
          exact .find found (load_of_findWallet success)
      · cases stepped
    · cases stepped
  | create | save =>
    split at stepped
    · next found =>
      split at stepped
      · cases stepped
        constructor
        exact found
      · cases stepped
    · cases stepped

end WalletService

/-- Objects stay, with their keys, and none becomes active again. -/
def Lasts (store next : ObjectStore String StoredWallet) : Prop :=
  ∀ (ref : Nat) (wallet : StoredWallet), store.objects[ref]? = some wallet →
    ∃ later, next.objects[ref]? = some later ∧ later.id = wallet.id ∧ (wallet.status ≠ .active → later.status ≠ .active)

def Inactive (store : ObjectStore String StoredWallet) (walletId : String) : Prop :=
  ∃ wallet, store.current walletId = some wallet ∧ wallet.status ≠ .active

section Stores

variable {store next : ObjectStore String StoredWallet}

theorem lasts_of_objects (kept : ∀ (ref : Nat) (wallet : StoredWallet), store.objects[ref]? = some wallet →
      next.objects[ref]? = some wallet) : Lasts store next := by
  intro ref wallet found
  exact ⟨wallet, kept ref wallet found, rfl, fun inactive => inactive⟩

theorem lasts_assign (ref : Nat) (change : WalletChange) :
    Lasts store (store.assign ref fun wallet => { wallet with status := change.status }) := by
  intro other wallet found
  by_cases same : other = ref
  · subst same
    refine ⟨_, ObjectStore.objects_assign found, rfl, fun _ => ?_⟩
    cases change <;> simp [WalletChange.status]
  · exact ⟨wallet, (ObjectStore.objects_assign_other same).trans found, rfl, fun inactive => inactive⟩

theorem Inactive.of_lasts (inactive : Inactive store walletId) (lasts : Lasts store next)
    (table : next.table = store.table) : Inactive next walletId := by
  obtain ⟨wallet, stored, status⟩ := inactive
  obtain ⟨slot, entry, found⟩ := Option.bind_eq_some_iff.mp stored
  cases slot with
  | object ref =>
    obtain ⟨later, foundLater, _, keeps⟩ := lasts ref wallet found
    refine ⟨later, ?_, keeps status⟩
    rw [ObjectStore.current, table, entry]
    exact foundLater
  | row =>
    refine ⟨wallet, ?_, status⟩
    rw [ObjectStore.current, table, entry]
    exact found

theorem status_written (backing : Backing) (row : Option StoredWallet) (wallet : StoredWallet) :
    (walletSchema.written backing row wallet).status = wallet.status := by
  cases backing with
  | objects => rfl
  | rows => cases row <;> rfl

section Saves

variable {wallet : StoredWallet}

theorem lasts_alloc (wallet : StoredWallet) : Lasts store (store.alloc wallet) :=
  lasts_of_objects fun _ _ found => ObjectStore.objects_alloc_old wallet found

theorem Inactive.save_other (inactive : Inactive store walletId) (found : store.objects[ref]? = some wallet)
    (different : walletId ≠ wallet.id) : Inactive (store.save walletSchema backing ref) walletId := by
  obtain ⟨stored, current, status⟩ := inactive
  exact ⟨stored, (ObjectStore.current_save_other found different).trans current, status⟩

theorem lasts_saveNew : Lasts store (saveNew walletSchema backing store wallet outcome) :=
  lasts_of_objects fun _ _ found => objects_saveNew found

theorem Inactive.saveNew (inactive : Inactive store walletId) (free : walletId = wallet.id → outcome.takesEffect = false) :
    Inactive (saveNew walletSchema backing store wallet outcome) walletId := by
  have allocated := inactive.of_lasts (lasts_alloc wallet) rfl
  unfold Crypto.saveNew
  split
  · next effect =>
    refine allocated.save_other (ObjectStore.objects_alloc_new wallet) ?_
    intro own
    rw [free own] at effect
    cases effect
  · exact allocated

theorem lasts_saveObject : Lasts store (saveObject walletSchema backing store ref outcome) := by
  refine lasts_of_objects ?_
  intro other stored found
  rw [objects_saveObject]
  exact found

theorem Inactive.saveObject (found : store.objects[ref]? = some wallet) (object : wallet.status ≠ .active)
    (inactive : walletId = wallet.id ∧ outcome.takesEffect = true ∨ Inactive store walletId) :
    Inactive (saveObject walletSchema backing store ref outcome) walletId := by
  unfold Crypto.saveObject
  by_cases own : walletId = wallet.id
  · subst own
    split
    · refine ⟨_, ObjectStore.current_save found, ?_⟩
      rw [status_written]
      exact object
    · next refused => exact inactive.resolve_left fun saved => refused saved.2
  · have before := inactive.resolve_left fun saved => own saved.1
    split
    · exact before.save_other found own
    · exact before

end Saves

end Stores

/-- What a call that is about to mark or to save an object relies on. -/
def WalletPhase.Holds (store : ObjectStore String StoredWallet) (walletId : String) : WalletPhase → Prop
  | .marking ref _ => ∃ wallet, store.objects[ref]? = some wallet ∧ wallet.id = walletId
  | .saving ref => ∃ wallet, store.objects[ref]? = some wallet ∧ wallet.id = walletId ∧ wallet.status ≠ .active
  | _ => True

theorem WalletPhase.Holds.of_lasts {store next : ObjectStore String StoredWallet} {walletId : String} {phase : WalletPhase}
    (holds : phase.Holds store walletId) (lasts : Lasts store next) : phase.Holds next walletId := by
  cases phase with
  | marking ref =>
    obtain ⟨wallet, found, own⟩ := holds
    obtain ⟨later, foundLater, same, _⟩ := lasts ref wallet found
    exact ⟨later, foundLater, same.trans own⟩
  | saving ref =>
    obtain ⟨wallet, found, own, inactive⟩ := holds
    obtain ⟨later, foundLater, same, keeps⟩ := lasts ref wallet found
    exact ⟨later, foundLater, same.trans own, keeps inactive⟩
  | addressing | creating | finding | returned => trivial

def WalletPhase.creates : WalletPhase → Option StoredWallet
  | .creating wallet => some wallet
  | _ => none

namespace WalletService

/-- No wallet is created under the id of one that has been frozen or archived. -/
def Unreplaced (service : WalletService) : WalletLabel → Prop
  | .create index outcome => ∀ call ∈ service.calls[index]?, ∀ wallet ∈ call.phase.creates,
      wallet.id ∈ service.blocked → outcome.takesEffect = false
  | _ => True

instance (service : WalletService) (label : WalletLabel) : Decidable (Unreplaced service label) :=
  match label with
  | .create index _ =>
    inferInstanceAs (Decidable (∀ call ∈ service.calls[index]?, ∀ wallet ∈ _, _ → _))
  | .createWallet _ | .freezeWallet _ | .archiveWallet _ | .generate _ _ | .find _ _ | .mark _
  | .save _ _ => .isTrue trivial

structure Sound (service : WalletService) : Prop where
  keyed : service.store.Keyed walletSchema
  calls : ∀ call ∈ service.calls, call.phase.Holds service.store call.walletId
  blocked : ∀ walletId ∈ service.blocked, Inactive service.store walletId

variable {registered : Int32 → Bool} {service next : WalletService} {label : WalletLabel} {index : Nat}

theorem sound_started : Sound started where
  keyed := ObjectStore.keyed_empty
  calls := by simp [started]
  blocked := by simp [started]

variable {phase later : WalletPhase}

section

variable (sound : Sound service)
include sound

theorem Sound.append (holds : phase.Holds service.store walletId) : Sound (service.append ⟨walletId, phase⟩) := by
  refine ⟨sound.keyed, ?_, sound.blocked⟩
  exact holds_after_concat sound.calls holds

theorem Sound.change (found : service.calls[index]? = some ⟨walletId, phase⟩)
    (keyed : next.store.Keyed walletSchema) (lasts : Lasts service.store next.store)
    (calls : next.calls = service.calls.modify index fun call => { call with phase := later })
    (holds : later.Holds next.store walletId)
    (blocked : ∀ walletId ∈ next.blocked, Inactive next.store walletId) : Sound next := by
  refine ⟨keyed, ?_, blocked⟩
  rw [calls]
  exact holds_after_modify found (fun call member => (sound.calls call member).of_lasts lasts) holds

theorem Sound.setPhase (found : service.calls[index]? = some ⟨walletId, phase⟩)
    (holds : later.Holds service.store walletId) : Sound (service.setPhase index later) :=
  sound.change found sound.keyed (lasts_of_objects fun _ _ found => found) rfl holds sound.blocked

end

theorem holds_afterSaveWallet (store : ObjectStore String StoredWallet) (ref : Nat)
    (reply : Except String Unit) : (afterSaveWallet ref reply).Holds store walletId := by
  cases reply <;> trivial

section

variable (sound : Sound service)
include sound

variable {change : WalletChange}

theorem Sound.create {wallet} (unreplaced : Unreplaced service (.create index outcome))
    (found : service.calls[index]? = some ⟨walletId, .creating wallet⟩) :
    Sound ((service.setStore (saveNew walletSchema backing service.store wallet
      outcome)).setPhase index (afterSaveWallet service.store.objects.length outcome.reply)) := by
  refine sound.change found (keyed_saveNew sound.keyed) lasts_saveNew rfl (holds_afterSaveWallet _ _ _) ?_
  intro other blocked
  refine (sound.blocked other blocked).saveNew ?_
  rintro rfl
  exact unreplaced _ found wallet rfl blocked

theorem Sound.save (found : service.calls[index]? = some ⟨walletId, .saving ref⟩) :
    Sound (((service.setStore (saveObject walletSchema backing service.store ref
      outcome)).block walletId outcome).setPhase index (afterSaveWallet ref outcome.reply)) := by
  obtain ⟨_, object, rfl, inactive⟩ := sound.calls _ (List.mem_of_getElem? found)
  refine sound.change found (keyed_saveObject sound.keyed) lasts_saveObject rfl (holds_afterSaveWallet _ _ _) ?_
  intro other blocked
  apply Inactive.saveObject object inactive
  cases outcome with
  | accepted =>
    rcases mem_concat.mp blocked with earlier | new
    · exact .inr (sound.blocked other earlier)
    · exact .inl ⟨new, rfl⟩
  | rejected | failed => exact .inr (sound.blocked other blocked)

variable {loaded : ObjectStore.Loaded String StoredWallet}

theorem Sound.load (success : service.store.load walletId = some loaded) : Sound (service.setStore loaded.store) := by
  have loads := ObjectStore.load_spec sound.keyed success
  have lasts : Lasts service.store loaded.store := lasts_of_objects loads.kept
  refine ⟨loads.keyed, ?_, ?_⟩
  · intro call member
    exact (sound.calls call member).of_lasts lasts
  · intro other blocked
    exact (sound.blocked other blocked).of_lasts lasts loads.table

theorem Sound.find (found : service.calls[index]? = some ⟨walletId, .finding change⟩)
    (success : service.store.load walletId = some loaded) :
    Sound ((service.setStore loaded.store).setPhase index (afterFindWallet change loaded)) := by
  have loads := ObjectStore.load_spec sound.keyed success
  have looked : Sound (service.setStore loaded.store) := sound.load success
  apply looked.setPhase found
  unfold afterFindWallet
  split
  · trivial
  · exact ⟨_, loads.object, loads.own⟩

theorem Sound.mark (found : service.calls[index]? = some ⟨walletId, .marking ref change⟩) :
    Sound ((service.setStore (service.store.assign ref fun wallet =>
      { wallet with status := change.status })).setPhase index (.saving ref)) := by
  obtain ⟨_, object, own⟩ := sound.calls _ (List.mem_of_getElem? found)
  refine sound.change found (ObjectStore.keyed_assign sound.keyed fun _ => rfl) (lasts_assign ref change) rfl ?_ ?_
  · refine ⟨_, ObjectStore.objects_assign object, own, ?_⟩
    cases change <;> simp [WalletChange.status]
  · intro other blocked
    exact (sound.blocked other blocked).of_lasts (lasts_assign ref change) rfl

theorem Sound.step (unreplaced : Unreplaced service label)
    (stepped : service.step backing registered label = some next) : Sound next := by
  cases step_moves stepped with
  | createWallet =>
    apply sound.append
    unfold beginCreate
    split
    · trivial
    · split <;> trivial
  | freezeWallet | archiveWallet => exact sound.append trivial
  | @generate _ address _ _ found =>
    apply sound.setPhase found
    cases address <;> trivial
  | create found => exact sound.create unreplaced found
  | missing found => exact sound.setPhase found trivial
  | find found success => exact sound.find found success
  | mark found => exact sound.mark found
  | save found => exact sound.save found

theorem lasts_of_step (stepped : service.step backing registered label = some next) : Lasts service.store next.store := by
  have same : Lasts service.store service.store := lasts_of_objects fun _ _ found => found
  cases step_moves stepped with
  | createWallet | freezeWallet | archiveWallet | generate | missing => exact same
  | create => exact lasts_saveNew
  | find _ success => exact lasts_of_objects (ObjectStore.load_spec sound.keyed success).kept
  | mark => exact lasts_assign _ _
  | save => exact lasts_saveObject

end

theorem blocked_of_step (stepped : service.step backing registered label = some next)
    (blocked : walletId ∈ service.blocked) : walletId ∈ next.blocked := by
  cases step_moves stepped with
  | createWallet | freezeWallet | archiveWallet | generate | missing | create | find | mark =>
    exact blocked
  | save =>
    simp only [setPhase_blocked, block_blocked, setStore_blocked]
    split
    · exact List.mem_append_left _ blocked
    · exact blocked

end WalletService

end Blazil.Crypto

import Blazil.Foundation.ObjectStore
import Blazil.Sharding.CallOutcome

/-! The records and errors of the crypto service (`services/crypto/internal/domain`), and what it
sees of its stores and of the engine. Amounts are checked before a deposit or a withdrawal is made,
and by the tables that store them, so the records carry the fact that they are positive. Any call
may fail, and may have taken effect all the same; only the in-memory stores always answer. -/

set_option autoImplicit false

namespace Blazil.Crypto

structure Chain where
  id : Int32
  requiredConfirmations : Int
deriving DecidableEq

/-- Bitcoin, Ethereum, Polygon, Solana and Tron. -/
def supportedChains : List Chain := [⟨1, 6⟩, ⟨2, 12⟩, ⟨3, 32⟩, ⟨4, 32⟩, ⟨5, 32⟩]

def requiredConfirmations (chainId : Int32) : Int :=
  match supportedChains.find? fun chain => chain.id = chainId with
  | some chain => chain.requiredConfirmations
  | none => 0

inductive CryptoError where
  | walletFrozen
  | walletArchived
  | chainNotSupported
  | chainNotFound
  | depositNotFound
  | depositAlreadyProcessed
  | notEnoughConfirmations
  | withdrawalNotFound
  | withdrawalNotPending
  | amountBelowFee
  | insufficientAmount
  | chainMismatch
  | external (text : String)
  | wrapped (context : String) (cause : CryptoError)
deriving DecidableEq

inductive DepositStatus where
  | detected
  | confirmed
  | processed
  | failed
deriving DecidableEq

structure Deposit where
  id : String
  walletId : String
  accountId : String
  txHash : String
  chainId : Int32
  amountMinorUnits : Int64
  status : DepositStatus
  confirmations : Int
  createdAt : Nat
  processedAt : Option Nat
  positive : 0 < amountMinorUnits
deriving DecidableEq

inductive WithdrawalStatus where
  | pending
  | broadcast
  | confirmed
  | failed
deriving DecidableEq

structure Withdrawal where
  id : String
  walletId : String
  accountId : String
  toAddress : String
  chainId : Int32
  amountMinorUnits : Int64
  feeMinorUnits : Int64
  txHash : String
  status : WithdrawalStatus
  createdAt : Nat
  positive : 0 < amountMinorUnits
deriving DecidableEq

open Foundation Sharding

def Answers (backing : Backing) (outcome : CallOutcome) : Prop :=
  backing = .objects → outcome = .accepted

instance (backing : Backing) (outcome : CallOutcome) : Decidable (Answers backing outcome) :=
  inferInstanceAs (Decidable (_ → _))

section Stores

variable {Record : Type} (schema : Schema String Record) (backing : Backing) (store : ObjectStore String Record)

def saveNew (record : Record) (outcome : CallOutcome) : ObjectStore String Record :=
  if outcome.takesEffect then (store.alloc record).save schema backing store.objects.length
  else store.alloc record

def saveObject (ref : Nat) (outcome : CallOutcome) : ObjectStore String Record :=
  if outcome.takesEffect then store.save schema backing ref else store

end Stores

section Saves

variable {Record : Type} {schema : Schema String Record} {backing : Backing} {store : ObjectStore String Record}
  {outcome : CallOutcome} {ref : Nat} {record : Record}

theorem keyed_saveNew (keyed : store.Keyed schema) : (saveNew schema backing store record outcome).Keyed schema := by
  have allocated := ObjectStore.keyed_alloc keyed record
  unfold saveNew
  split
  · exact ObjectStore.keyed_save allocated
  · exact allocated

theorem keyed_saveObject (keyed : store.Keyed schema) : (saveObject schema backing store ref outcome).Keyed schema := by
  unfold saveObject
  split
  · exact ObjectStore.keyed_save keyed
  · exact keyed

theorem objects_saveNew {found : Record} (present : store.objects[ref]? = some found) :
    (saveNew schema backing store record outcome).objects[ref]? = some found := by
  have old := ObjectStore.objects_alloc_old record present
  unfold saveNew
  split
  · rw [ObjectStore.save_objects]
    exact old
  · exact old

theorem objects_saveObject : (saveObject schema backing store ref outcome).objects = store.objects := by
  unfold saveObject
  split
  · exact ObjectStore.save_objects schema backing store ref
  · rfl

end Saves

inductive EngineOp where
  | debit (accountId : String) (amount : Int64)
  | credit (accountId : String) (amount : Int64)
deriving DecidableEq

namespace EngineOp

def change (accountId : String) : EngineOp → Int
  | .debit account amount => if account = accountId then -amount.toInt else 0
  | .credit account amount => if account = accountId then amount.toInt else 0

def isDebit (accountId : String) : EngineOp → Bool
  | .debit account _ => account = accountId
  | .credit _ _ => false

end EngineOp

def netChange (operations : List EngineOp) (accountId : String) : Int :=
  operations.foldr (fun operation total => operation.change accountId + total) 0

theorem toInt_ne_zero_of_pos {amount : Int64} (positive : 0 < amount) : amount.toInt ≠ 0 := by
  have less := Int64.lt_iff_toInt_lt.mp positive
  intro zero
  rw [zero] at less
  exact absurd less (by decide)

theorem netChange_append (first second : List EngineOp) (accountId : String) : netChange (first ++ second) accountId =
      netChange first accountId + netChange second accountId := by
  induction first with
  | nil => simp [netChange]
  | cons _ _ ih =>
    simp only [netChange, List.cons_append, List.foldr_cons] at ih ⊢
    rw [ih, Int.add_assoc]

theorem netChange_applied (outcome : CallOutcome) (operation : EngineOp) (accountId : String) :
    netChange (outcome.applied operation) accountId =
      if outcome.takesEffect then operation.change accountId else 0 := by
  unfold CallOutcome.applied
  split <;> simp [netChange]

end Blazil.Crypto

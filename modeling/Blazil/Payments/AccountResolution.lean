import Blazil.Payments.EngineClient
import Blazil.Payments.Processor

/-! The accounts of a payment as the engine resolves them, on the two ways a payment can
take: through the engine client with its account ids as they are, or through the
coordinator with a hash of each id. -/

set_option autoImplicit false

namespace Blazil.Payments

open Blazil.Common Blazil.Engine Blazil.Sharding Blazil.Transport

def crossShardRequest (payment : Payment) : CrossShardRequest where
  fromAccountId := accountToUint64 payment.debitAccountId
  toAccountId := accountToUint64 payment.creditAccountId
  amount := payment.amount.minorUnits
  currency := payment.amount.currencyCode
  idempotencyKey := payment.idempotencyKey

section Resolution

variable [ExternalCrates]

def resolvedAccounts (request : TransactionRequest) : BlazerResult AccountId × BlazerResult AccountId :=
  (AccountId.fromStr request.debitAccountId, AccountId.fromStr request.creditAccountId)

/-- The number that an account id denotes is the hash of its text. -/
def DenotesItsHash (accountId : String) : Prop :=
  AccountId.fromStr accountId = .ok ⟨accountToUint64 accountId⟩

theorem resolvedAccounts_of_buildEvent {freshId request event} (built : buildEvent freshId request = .ok event) :
    resolvedAccounts request = (.ok event.debitAccountId, .ok event.creditAccountId) := by
  obtain ⟨_, _, builds⟩ := buildEvent_spec built
  simp only [resolvedAccounts, builds.debit, builds.credit]

/-- The first request of the coordinator names the hashes, whatever the ids denote. -/
theorem resolvedAccounts_crossShard (requestId : String) (payment : Payment) :
    resolvedAccounts (submitPendingRequest requestId (crossShardRequest payment)) =
      (.ok ⟨accountToUint64 payment.debitAccountId⟩, .ok ⟨accountToUint64 payment.creditAccountId⟩) := by
  have read : resolvedAccounts (submitPendingRequest requestId (crossShardRequest payment)) =
      (AccountId.fromStr (formatUInt64 (accountToUint64 payment.debitAccountId)),
        AccountId.fromStr (formatUInt64 (accountToUint64 payment.creditAccountId))) := rfl
  rw [read, accountId_formatUInt64, accountId_formatUInt64]

/-- The engine resolves the same accounts on both ways, and its events are about the same
accounts, exactly when both ids denote their own hashes. -/
theorem resolvedAccounts_agree_iff (payment : Payment) (requestId : String) : (resolvedAccounts (marshalRequest payment) =
        resolvedAccounts (submitPendingRequest requestId (crossShardRequest payment)) ↔
      DenotesItsHash payment.debitAccountId ∧ DenotesItsHash payment.creditAccountId) ∧
    ∀ (singleId crossId : TransactionId) (single cross : TransactionEvent),
      buildEvent singleId (marshalRequest payment) = .ok single →
      buildEvent crossId (submitPendingRequest requestId (crossShardRequest payment)) = .ok cross →
      (single.debitAccountId = cross.debitAccountId ∧ single.creditAccountId = cross.creditAccountId ↔
        DenotesItsHash payment.debitAccountId ∧ DenotesItsHash payment.creditAccountId) := by
  have agree : resolvedAccounts (marshalRequest payment) =
        resolvedAccounts (submitPendingRequest requestId (crossShardRequest payment)) ↔
      DenotesItsHash payment.debitAccountId ∧ DenotesItsHash payment.creditAccountId := by
    rw [resolvedAccounts_crossShard]
    exact Prod.mk_inj
  refine ⟨agree, ?_⟩
  intro singleId crossId single cross singleBuilt crossBuilt
  rw [← agree, resolvedAccounts_of_buildEvent singleBuilt,
    resolvedAccounts_of_buildEvent crossBuilt, Prod.mk_inj, Except.ok.injEq, Except.ok.injEq]

end Resolution

attribute [local instance] referenceCrates

/-- The accounts 1 and 2 are different accounts behind the coordinator. -/
theorem numberedAccounts_resolved_differently :
    resolvedAccounts (marshalRequest dollarPayment) = (.ok ⟨1⟩, .ok ⟨2⟩) ∧ resolvedAccounts
          (submitPendingRequest "8" (crossShardRequest dollarPayment)) =
        (.ok ⟨0xaf63ac4c86019afc⟩, .ok ⟨0xaf63af4c8601a015⟩) := by
  decide +kernel

def selfHashedPayment : Payment :=
  { dollarPayment with
    debitAccountId := "3156effc-a75b-4b84-4fed-97d200072a7e"
    creditAccountId := "00de3fa1-b17f-e400-15b0-1df0c3b61c4c" }

theorem selfHashedPayment_agrees : ∃ single cross,
      buildEvent ⟨9⟩ (marshalRequest selfHashedPayment) = .ok single ∧
      buildEvent ⟨9⟩ (submitPendingRequest "8" (crossShardRequest selfHashedPayment)) = .ok cross ∧
      single.debitAccountId = cross.debitAccountId ∧ single.creditAccountId = cross.creditAccountId := by
  have hashed : DenotesItsHash selfHashedPayment.debitAccountId ∧
      DenotesItsHash selfHashedPayment.creditAccountId := by
    unfold DenotesItsHash
    decide +kernel
  obtain ⟨single, singleBuilt, _⟩ := @buildEvent_wholeAmount referenceCrates
    (marshalRequest selfHashedPayment) _ _ "USD" 1050 ⟨9⟩ hashed.1 hashed.2 rfl (by decide) rfl
    (by decide)
  obtain ⟨cross, crossBuilt, _⟩ := @buildEvent_wholeAmount referenceCrates
    (submitPendingRequest "8" (crossShardRequest selfHashedPayment)) _ _ "USD" 1050 ⟨9⟩
    (@accountId_formatUInt64 referenceCrates _) (@accountId_formatUInt64 referenceCrates _) rfl
    (by decide) rfl (by decide)
  have agree := (@resolvedAccounts_agree_iff referenceCrates selfHashedPayment "8").2 ⟨9⟩ ⟨9⟩ single cross singleBuilt crossBuilt
  exact ⟨single, cross, singleBuilt, crossBuilt, agree.mpr hashed⟩

end Blazil.Payments

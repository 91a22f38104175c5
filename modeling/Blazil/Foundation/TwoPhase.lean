import Mathlib.Logic.Basic

/-! A ledger of two-phase transfers. A hold is reserved first and is then either posted
or voided; a hold that has been settled stays as it is. -/

set_option autoImplicit false

namespace Foundation

inductive HoldStatus where
  | pending
  | posted
  | voided
deriving DecidableEq

structure Hold (Id Owner : Type) where
  id : Id
  owner : Owner
  status : HoldStatus
deriving DecidableEq

structure HoldLedger (Id Owner : Type) where
  holds : List (Hold Id Owner)
deriving DecidableEq

namespace HoldLedger

variable {Id Owner : Type}

def reserve (ledger : HoldLedger Id Owner) (id : Id) (owner : Owner) : HoldLedger Id Owner :=
  ⟨ledger.holds ++ [⟨id, owner, .pending⟩]⟩

def settleHold [DecidableEq Id] (id : Id) (status : HoldStatus) (hold : Hold Id Owner) : Hold Id Owner :=
  if hold.id = id ∧ hold.status = .pending then { hold with status := status } else hold

def settle [DecidableEq Id] (ledger : HoldLedger Id Owner) (id : Id) (status : HoldStatus) : HoldLedger Id Owner :=
  ⟨ledger.holds.map (settleHold id status)⟩

def Unreserved (ledger : HoldLedger Id Owner) (id : Id) : Prop :=
  ∀ hold ∈ ledger.holds, hold.id = id → hold.status ≠ .pending

def Holds (ledger : HoldLedger Id Owner) (owner : Owner) : Prop :=
  ∃ hold ∈ ledger.holds, hold.owner = owner ∧ hold.status ≠ .voided

instance [DecidableEq Id] (ledger : HoldLedger Id Owner) (id : Id) : Decidable (ledger.Unreserved id) :=
  inferInstanceAs (Decidable (∀ hold ∈ ledger.holds, _ → _))

variable {owner : Owner} {hold : Hold Id Owner} {id : Id} {ledger : HoldLedger Id Owner}

theorem holds_append {first second : List (Hold Id Owner)} :
    Holds ⟨first ++ second⟩ owner ↔ Holds ⟨first⟩ owner ∨ Holds ⟨second⟩ owner := by
  simp only [Holds, List.mem_append]
  constructor
  · rintro ⟨hold, member | member, own⟩
    · exact .inl ⟨hold, member, own⟩
    · exact .inr ⟨hold, member, own⟩
  · rintro (⟨hold, member, own⟩ | ⟨hold, member, own⟩)
    · exact ⟨hold, .inl member, own⟩
    · exact ⟨hold, .inr member, own⟩

theorem not_holds_nil : ¬Holds (⟨[]⟩ : HoldLedger Id Owner) owner := by
  simp [Holds]

theorem holds_singleton : Holds ⟨[hold]⟩ owner ↔ hold.owner = owner ∧ hold.status ≠ .voided := by
  simp [Holds]

variable [DecidableEq Id]

theorem settleHold_settled {status} (settled : hold.id = id → hold.status ≠ .pending) :
    settleHold id status hold = hold := by
  unfold settleHold
  rw [if_neg]
  intro held
  obtain ⟨same, pending⟩ := held
  exact settled same pending

theorem settle_append (status : HoldStatus) (hold : Hold Id Owner) (unreserved : ledger.Unreserved id) :
    settle ⟨ledger.holds ++ [hold]⟩ id status = ⟨ledger.holds ++ [settleHold id status hold]⟩ := by
  unfold settle
  rw [List.map_append, List.map_congr_left fun other member =>
    settleHold_settled (unreserved other member), List.map_id', List.map_singleton]

theorem settle_reserve (status : HoldStatus) (owner : Owner) (unreserved : ledger.Unreserved id) :
    (ledger.reserve id owner).settle id status = ⟨ledger.holds ++ [⟨id, owner, status⟩]⟩ := by
  unfold reserve
  rw [settle_append status _ unreserved]
  simp [settleHold]

theorem settle_settled (status : HoldStatus) (unreserved : ledger.Unreserved id) (settled : hold.status ≠ .pending) :
    settle ⟨ledger.holds ++ [hold]⟩ id status = ⟨ledger.holds ++ [hold]⟩ := by
  rw [settle_append status hold unreserved, settleHold_settled fun _ => settled]

end HoldLedger

end Foundation

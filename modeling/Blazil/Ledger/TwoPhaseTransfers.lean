import Blazil.Ledger.AccountLimits

/-! Pending transfers in the in-memory ledger. `create_transfer` reads no flag: a pending
transfer is posted at once, and the transfer that posts or voids it is posted like any
other. -/

set_option autoImplicit false

namespace Blazil.Ledger

open Blazil.Common Foundation

theorem Transfer.adds_own (transfer : Transfer) (leg : Leg) :
    transfer.adds leg (leg.accountId transfer) = transfer.amount.value.value :=
  if_pos rfl

def SameMove (first second : Transfer) : Prop :=
  (∀ leg : Leg, leg.accountId first = leg.accountId second) ∧
    first.amount.value.value = second.amount.value.value

namespace InMemoryLedgerClient

variable [DecimalSums]

def serve (client : InMemoryLedgerClient) : LedgerCall → InMemoryLedgerClient
  | .createAccount account => (client.createAccount account).1
  | .createTransfer transfer => (client.createTransfer transfer).1

/-- A pending transfer, other calls, and the transfer that posts or voids it. -/
structure TwoPhaseRun where
  before : InMemoryLedgerClient
  pending : Transfer
  others : List LedgerCall
  resolution : Transfer

namespace TwoPhaseRun

def begun (run : TwoPhaseRun) : InMemoryLedgerClient := (run.before.createTransfer run.pending).1

def resumed (run : TwoPhaseRun) : InMemoryLedgerClient := run.others.foldl serve run.begun

def finished (run : TwoPhaseRun) : InMemoryLedgerClient :=
  (run.resumed.createTransfer run.resolution).1

def change (run : TwoPhaseRun) (leg : Leg) (id : AccountId) : ℚ :=
  (run.finished.postedOn leg id - run.before.postedOn leg id) - (run.resumed.postedOn leg id - run.begun.postedOn leg id)

def Voids (run : TwoPhaseRun) : Prop :=
  run.pending.flags.pending = true ∧ run.resolution.flags.voidPendingTransfer = true ∧
    run.resolution.pendingId = some run.pending.id

def Confirms (run : TwoPhaseRun) : Prop :=
  run.pending.flags.pending = true ∧ run.resolution.flags.postPendingTransfer = true ∧
    run.resolution.pendingId = some run.pending.id

def Refused (run : TwoPhaseRun) : Prop :=
  run.before.passes run.pending = false ∧ run.resumed.passes run.resolution = false

/-- One transfer passes the checks, with sums that are decimals, and moves what the pending one is
to move. The other is refused. -/
def PostedOnce (run : TwoPhaseRun) : Prop :=
  run.before.passes run.pending = true ∧ run.before.SumsDecimal run.pending ∧ run.resumed.passes run.resolution = false ∨
    run.before.passes run.pending = false ∧ run.resumed.passes run.resolution = true ∧
      run.resumed.SumsDecimal run.resolution ∧ SameMove run.resolution run.pending

/-- The amounts are positive, and the sums of a transfer that passes the checks are decimals. -/
structure Exact (run : TwoPhaseRun) : Prop where
  pendingPositive : 0 < run.pending.amount.value.value
  resolutionPositive : 0 < run.resolution.amount.value.value
  pendingSums : run.before.passes run.pending = true → run.before.SumsDecimal run.pending
  resolutionSums : run.resumed.passes run.resolution = true → run.resumed.SumsDecimal run.resolution

variable {run : TwoPhaseRun}

theorem change_eq (pendingSums : run.before.passes run.pending = true → run.before.SumsDecimal run.pending)
    (resolutionSums : run.resumed.passes run.resolution = true → run.resumed.SumsDecimal run.resolution)
    (leg : Leg) (id : AccountId) :
    run.change leg id = (if run.before.passes run.pending then run.pending.adds leg id else 0) +
      if run.resumed.passes run.resolution then run.resolution.adds leg id else 0 := by
  have first := postedOn_createTransfer pendingSums leg id
  have second := postedOn_createTransfer resolutionSums leg id
  unfold change begun finished
  rw [first, second]
  ring

theorem Refused.undone (refused : run.Refused) (leg : Leg) (id : AccountId) : run.change leg id = 0 := by
  have none := change_eq (fun passed => absurd (refused.1.symm.trans passed) Bool.false_ne_true)
    (fun passed => absurd (refused.2.symm.trans passed) Bool.false_ne_true) leg id
  simpa [refused.1, refused.2] using none

theorem PostedOnce.once (posted : run.PostedOnce) (leg : Leg) (id : AccountId) : run.change leg id = run.pending.adds leg id := by
  rcases posted with ⟨passed, sums, refused⟩ | ⟨refused, passed, sums, accounts, amounts⟩
  · have once := change_eq (fun _ => sums) (fun passed => absurd (refused.symm.trans passed) Bool.false_ne_true) leg id
    simpa [passed, refused] using once
  · have once := change_eq (fun passed => absurd (refused.symm.trans passed) Bool.false_ne_true) (fun _ => sums) leg id
    simpa [passed, refused, Transfer.adds, accounts, amounts] using once

section

variable (exactly : run.Exact)
include exactly

theorem refused_of_undone (undone : ∀ leg id, run.change leg id = 0) : run.Refused := by
  have change := change_eq exactly.pendingSums exactly.resolutionSums
  have nonneg : ∀ (transfer : Transfer) leg id, 0 < transfer.amount.value.value → 0 ≤ transfer.adds leg id := by
    intro transfer leg id positive
    unfold Transfer.adds
    split
    · exact positive.le
    · exact le_refl 0
  refine ⟨?_, ?_⟩
  · by_contra passed
    have own := change .debit (Leg.debit.accountId run.pending)
    have other := nonneg run.resolution .debit (Leg.debit.accountId run.pending) exactly.resolutionPositive
    have positive := exactly.pendingPositive
    rw [undone, if_pos (Bool.not_eq_false _ |>.mp passed), Transfer.adds_own] at own
    split at own <;> linarith
  · by_contra passed
    have own := change .debit (Leg.debit.accountId run.resolution)
    have other := nonneg run.pending .debit (Leg.debit.accountId run.resolution) exactly.pendingPositive
    have positive := exactly.resolutionPositive
    rw [undone, if_pos (Bool.not_eq_false _ |>.mp passed), Transfer.adds_own] at own
    split at own <;> linarith

theorem postedOnce_of_once (once : ∀ leg id, run.change leg id = run.pending.adds leg id) : run.PostedOnce := by
  have change := change_eq exactly.pendingSums exactly.resolutionSums
  simp only [once] at change
  cases first : run.before.passes run.pending with
  | true =>
    cases second : run.resumed.passes run.resolution with
    | false => exact .inl ⟨first, exactly.pendingSums first, second⟩
    | true =>
      have own := change .debit (Leg.debit.accountId run.resolution)
      rw [first, second, if_pos rfl, if_pos rfl, left_eq_add, Transfer.adds_own] at own
      exact absurd own exactly.resolutionPositive.ne'
  | false =>
    cases second : run.resumed.passes run.resolution with
    | false =>
      have own := change .debit (Leg.debit.accountId run.pending)
      simp only [first, second, Bool.false_eq_true, if_false, add_zero, Transfer.adds_own] at own
      exact absurd own exactly.pendingPositive.ne'
    | true =>
      have moved : ∀ leg : Leg, leg.accountId run.resolution = leg.accountId run.pending ∧
          run.resolution.amount.value.value = run.pending.amount.value.value := by
        intro leg
        have own := change leg (leg.accountId run.resolution)
        simp only [first, second, Bool.false_eq_true, if_false, if_true, zero_add, Transfer.adds] at own
        split at own
        · next same => exact ⟨same.symm, own.symm⟩
        · exact absurd own exactly.resolutionPositive.ne
      exact .inr ⟨first, second, exactly.resolutionSums second, fun leg => (moved leg).1, (moved .debit).2⟩

end

/-- A void leaves the totals as they were if neither transfer passes the checks, and a posting moves
the amount once if one of the two does. Where no sum is rounded this is exact. -/
theorem two_phase_iff (run : TwoPhaseRun) : (run.Voids → (run.Refused → ∀ leg id, run.change leg id = 0) ∧
      (run.Exact → (∀ leg id, run.change leg id = 0) → run.Refused)) ∧
    (run.Confirms → (run.PostedOnce → ∀ leg id, run.change leg id = run.pending.adds leg id) ∧
      (run.Exact → (∀ leg id, run.change leg id = run.pending.adds leg id) → run.PostedOnce)) :=
  ⟨fun _ => ⟨Refused.undone, refused_of_undone⟩, fun _ => ⟨PostedOnce.once, postedOnce_of_once⟩⟩

omit [DecimalSums]

def pendingTen : Transfer :=
  { plainTransfer 1 1 2 tenDollars with flags := { pending := true } }

def voidTen : Transfer :=
  { plainTransfer 2 1 2 tenDollars with
    flags := { voidPendingTransfer := true }
    pendingId := some ⟨1⟩ }

def postTen : Transfer :=
  { plainTransfer 2 1 2 tenDollars with
    flags := { postPendingTransfer := true }
    pendingId := some ⟨1⟩ }

def poorAccount : InMemoryLedgerClient :=
  ((new.createAccount (limitedAccount 1 .debit)).1.createAccount (plainAccount 2)).1

/-- A pending transfer from it is refused, and so is its void. If it receives the money in between, the posting passes. -/
theorem poorAccount_two_phase : (∀ leg id, @change referenceSums ⟨poorAccount, pendingTen, [], voidTen⟩ leg id = 0) ∧
      ∀ leg id, @change referenceSums
        ⟨poorAccount, pendingTen, [.createTransfer (plainTransfer 3 2 1 tenDollars)], postTen⟩ leg id =
        pendingTen.adds leg id := by
  refine ⟨((@two_phase_iff referenceSums _).1 ⟨rfl, rfl, rfl⟩).1 ⟨by decide, by decide⟩,
    ((@two_phase_iff referenceSums _).2 ⟨rfl, rfl, rfl⟩).1 (.inr ⟨by decide, by decide, ?_, fun _ => rfl, rfl⟩)⟩
  refine sumsDecimal_of_empty fun leg account found => ?_
  cases leg <;> cases found <;> rfl

/-- A pending transfer is posted, and so is the transfer that voids it or posts it. -/
theorem pending_posted_twice : (@system referenceSums).Reachable .new twoAccounts ∧
    (twoAccounts.accounts ⟨1⟩).map Account.debits = some .zero ∧
    (TwoPhaseRun.mk twoAccounts pendingTen [] voidTen).Voids ∧
    ((@finished referenceSums ⟨twoAccounts, pendingTen, [], voidTen⟩).accounts ⟨1⟩).map Account.debits = some twentyDollars ∧
    (TwoPhaseRun.mk twoAccounts pendingTen [] postTen).Confirms ∧
    ((@finished referenceSums ⟨twoAccounts, pendingTen, [], postTen⟩).accounts ⟨1⟩).map Account.debits = some twentyDollars := by
  have reached : (@system referenceSums).Reachable .new twoAccounts :=
    System.reachable_of_run (show (@system referenceSums).run .new
      [.createAccount (plainAccount 1), .createAccount (plainAccount 2)] = some twoAccounts from rfl)
  exact ⟨reached, by decide, ⟨rfl, rfl, rfl⟩, by decide, ⟨rfl, rfl, rfl⟩,
    by decide⟩

end TwoPhaseRun

end InMemoryLedgerClient

end Blazil.Ledger

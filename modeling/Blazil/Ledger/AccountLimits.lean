import Blazil.Ledger.InMemoryLedger

/-! The limits that the flags of an account set, along whole runs of the in-memory ledger.
Only the limit on the debits is checked. -/

set_option autoImplicit false

namespace Blazil.Ledger

open Blazil.Common Foundation

def Leg.opposite : Leg → Leg
  | .debit => .credit
  | .credit => .debit

@[simp] theorem Leg.opposite_ne (leg : Leg) : leg.opposite ≠ leg := by
  cases leg <;> decide

namespace Account

def limited (account : Account) : Leg → Bool
  | .debit => account.flags.debitsMustNotExceedCredits
  | .credit => account.flags.creditsMustNotExceedDebits

def WithinLimit (account : Account) (leg : Leg) : Prop :=
  account.limited leg = true → (account.posted leg).value.value ≤ (account.posted leg.opposite).value.value

variable [DecimalSums] {account posted : Account} {leg : Leg} {amount : Amount}

section

variable (applied : account.apply leg amount = .ok posted)
include applied

theorem apply_ok : ∃ sum, DecimalSums.checkedAdd (account.posted leg).value amount.value = some sum ∧
    posted = account.setPosted leg sum := by
  unfold apply at applied
  split at applied
  · cases applied
  · next added => exact ⟨_, (Amount.checkedAdd_ok added).2, (Except.ok.inj applied).symm⟩

theorem apply_frame : posted.flags = account.flags ∧
      (posted.posted leg.opposite).value = (account.posted leg.opposite).value := by
  obtain ⟨_, _, rfl⟩ := apply_ok applied
  refine ⟨?_, ?_⟩
  · cases leg <;> rfl
  · rw [posted_setPosted, if_neg (Leg.opposite_ne leg)]

theorem limited_apply (side : Leg) : posted.limited side = account.limited side := by
  cases side <;> simp only [limited, (apply_frame applied).1]

theorem WithinLimit.apply_own (added : (posted.posted leg).value.value = (account.posted leg).value.value + amount.value.value)
    (covered : account.limited leg = true → (account.posted leg).value.value + amount.value.value ≤
      (account.posted leg.opposite).value.value) : posted.WithinLimit leg := by
  intro limit
  rw [limited_apply applied] at limit
  rw [added, (apply_frame applied).2]
  exact covered limit

end

theorem WithinLimit.apply_opposite (within : account.WithinLimit leg.opposite)
    (applied : account.apply leg amount = .ok posted) (nonneg : 0 ≤ amount.value.value)
    (added : (posted.posted leg).value.value =
      (account.posted leg).value.value + amount.value.value) : posted.WithinLimit leg.opposite := by
  intro limit
  rw [limited_apply applied] at limit
  have before := within limit
  have twice : leg.opposite.opposite = leg := by cases leg <;> rfl
  rw [twice] at before ⊢
  rw [added, (apply_frame applied).2]
  exact before.trans (le_add_of_nonneg_right nonneg)

theorem canDebit_covers (allowed : account.canDebit amount = true) (limit : account.limited .debit = true)
    (unrounded : ∀ balance, account.balance = .ok balance → balance.value.value = account.credits.value - account.debits.value) :
    account.debits.value + amount.value.value ≤ account.credits.value := by
  have flag : account.flags.debitsMustNotExceedCredits = true := limit
  unfold canDebit at allowed
  rw [if_pos flag] at allowed
  cases balance : account.balance with
  | error =>
    rw [balance] at allowed
    cases allowed
  | ok available =>
    simp only [balance, Bool.not_eq_true', ← Bool.not_eq_true, Decimal.blt_iff, not_lt] at allowed
    rw [unrounded available balance] at allowed
    exact le_sub_iff_add_le'.mp allowed

end Account

namespace InMemoryLedgerClient

def KeepsLimit (client : InMemoryLedgerClient) (leg : Leg) : Prop :=
  ∀ id account, client.accounts id = some account → account.WithinLimit leg

variable {client : InMemoryLedgerClient} {leg : Leg} {account : Account}

theorem KeepsLimit.setAccount (keeps : client.KeepsLimit leg) (id : AccountId)
    (within : account.WithinLimit leg) : (client.setAccount id account).KeepsLimit leg := by
  intro other found stored
  rw [accounts_setAccount] at stored
  split at stored
  · obtain rfl := Option.some.inj stored
    exact within
  · exact keeps other found stored

theorem KeepsLimit.createAccount (keeps : client.KeepsLimit leg)
    (within : account.WithinLimit leg) : (client.createAccount account).1.KeepsLimit leg := by
  unfold InMemoryLedgerClient.createAccount
  split
  · exact keeps
  · exact keeps.setAccount account.id within

theorem keepsLimit_created (created : client = .new ∨ client = .newUnbounded) : client.KeepsLimit leg := by
  rcases created with rfl | rfl <;> simp [KeepsLimit, new, newUnbounded]

variable [DecimalSums] {transfer : Transfer}

/-- The exact sums of a transfer are decimals, or overflow. -/
def SumsExact (client : InMemoryLedgerClient) (transfer : Transfer) : Prop :=
  ∀ leg account, client.accounts (Leg.accountId leg transfer) = some account →
    Decimal.Representable ((account.posted leg).value.value + transfer.amount.value.value) ∨
      DecimalSums.checkedAdd (account.posted leg).value transfer.amount.value = none

theorem SumsExact.added {posted : Account} (sums : client.SumsExact transfer)
    (found : client.accounts (leg.accountId transfer) = some account)
    (applied : account.apply leg transfer.amount = .ok posted) :
    (posted.posted leg).value.value = (account.posted leg).value.value + transfer.amount.value.value := by
  obtain ⟨sum, computed, rfl⟩ := Account.apply_ok applied
  rw [Account.posted_setPosted, if_pos rfl]
  rcases sums leg account found with representable | overflows
  · obtain ⟨_, added, value⟩ := DecimalSums.add_exact _ _ representable
    cases computed.symm.trans added
    exact value
  · cases computed.symm.trans overflows

/-- The balance that the debit is compared with is not rounded. -/
def BalanceExact (client : InMemoryLedgerClient) (transfer : Transfer) : Prop :=
  ∀ account balance, client.accounts transfer.debitAccountId = some account →
    account.limited .debit = true → account.balance = .ok balance →
      balance.value.value = account.credits.value - account.debits.value

/-- The total on a side stays within its limit when the transfer is posted. -/
def Covers (client : InMemoryLedgerClient) (leg : Leg) (transfer : Transfer) : Prop :=
  ∀ account, client.accounts (leg.accountId transfer) = some account →
    account.limited leg = true → (account.posted leg).value.value + transfer.amount.value.value ≤
      (account.posted leg.opposite).value.value

theorem covers_debit (valid : client.validated transfer = .ok ())
    (unrounded : client.BalanceExact transfer) : client.Covers .debit transfer := by
  intro account found limit
  obtain ⟨debit, _, checked⟩ := checked_of_valid valid
  obtain rfl : account = debit := Option.some.inj (found.symm.trans checked.debitFound)
  exact Account.canDebit_covers checked.allowed limit (unrounded account · found limit)

theorem KeepsLimit.posted (keeps : client.KeepsLimit leg) (side : Leg) {posted : Account}
    (found : client.accounts (side.accountId transfer) = some account)
    (applied : account.apply side transfer.amount = .ok posted) (nonneg : 0 ≤ transfer.amount.value.value)
    (sums : client.SumsExact transfer) (covers : client.Covers leg transfer) : posted.WithinLimit leg := by
  have added := sums.added found applied
  by_cases own : side = leg
  · subst own
    exact .apply_own applied added (covers account found)
  · have other : leg = side.opposite := by
      cases leg <;> cases side <;> first | rfl | exact absurd rfl own
    subst other
    exact (keeps _ account found).apply_opposite applied nonneg added

theorem KeepsLimit.createTransfer (keeps : client.KeepsLimit leg) (nonneg : 0 ≤ transfer.amount.value.value)
    (sums : client.validated transfer = .ok () → client.SumsExact transfer)
    (covers : client.validated transfer = .ok () → client.Covers leg transfer) :
    (client.createTransfer transfer).1.KeepsLimit leg := by
  cases passed : client.passes transfer with
  | false =>
    rw [createTransfer_refused passed]
    exact keeps
  | true =>
    have valid := (passes_iff.mp passed).2
    obtain ⟨debit, credit, checked⟩ := checked_of_valid valid
    rw [checked.createTransfer_eq passed]
    cases debited : debit.apply .debit transfer.amount with
    | error => exact keeps
    | ok =>
      have begun := keeps.setAccount transfer.debitAccountId
        (keeps.posted .debit checked.debitFound debited nonneg (sums valid) (covers valid))
      cases credited : credit.apply .credit transfer.amount with
      | error => exact begun
      | ok =>
        exact begun.setAccount _ (keeps.posted .credit checked.creditFound credited nonneg (sums valid) (covers valid))

/-- An account comes within the limits that it sets. An amount is not negative, and what is
computed for a transfer that passes the checks is not rounded. -/
def Accurate (client : InMemoryLedgerClient) : LedgerCall → Prop
  | .createAccount account => ∀ leg, account.WithinLimit leg
  | .createTransfer transfer => 0 ≤ transfer.amount.value.value ∧ (client.validated transfer = .ok () →
        client.SumsExact transfer ∧ client.BalanceExact transfer)

/-- A transfer that passes the checks leaves the credits of an account within the limit that
nothing checks. -/
def CreditCovered (client : InMemoryLedgerClient) : LedgerCall → Prop
  | .createAccount _ => True
  | .createTransfer transfer => client.validated transfer = .ok () → client.Covers .credit transfer

theorem KeepsLimit.step {call after} (keeps : client.KeepsLimit leg)
    (accurate : client.Accurate call) (covered : leg = .credit → client.CreditCovered call)
    (stepped : system.step client call = some after) : after.KeepsLimit leg := by
  cases call with
  | createAccount =>
    obtain rfl := Option.some.inj stepped
    exact keeps.createAccount (accurate leg)
  | createTransfer =>
    obtain rfl := Option.some.inj stepped
    obtain ⟨nonneg, exactly⟩ := accurate
    refine keeps.createTransfer nonneg (fun valid => (exactly valid).1) ?_
    intro valid
    cases leg with
    | debit => exact covers_debit valid (exactly valid).2
    | credit => exact covered rfl valid

theorem accurate_calls_keep_debit_limit {start} (created : start = .new ∨ start = .newUnbounded)
    (reached : system.Reaches (fun before call => before.Accurate call) start client) : client.KeepsLimit .debit := by
  apply reached.invariant (KeepsLimit · .debit) (keepsLimit_created created)
  intro before call after accurate stepped keeps
  exact keeps.step accurate (fun credit => nomatch credit) stepped

/-- In every run of accurate calls that cover their credits no total exceeds the limit that
the flags of its account set. -/
theorem covered_calls_keep_limits {start : InMemoryLedgerClient} (created : start = .new ∨ start = .newUnbounded)
    (reached : system.Reaches (fun before call => before.Accurate call ∧ before.CreditCovered call) start client) :
    ∀ id account, client.accounts id = some account → (account.flags.debitsMustNotExceedCredits = true →
        account.debitsPosted.value.value ≤ account.creditsPosted.value.value) ∧
      (account.flags.creditsMustNotExceedDebits = true →
        account.creditsPosted.value.value ≤ account.debitsPosted.value.value) := by
  have debits : client.KeepsLimit .debit :=
    accurate_calls_keep_debit_limit created (reached.mono fun _ _ both => both.1)
  have credits : client.KeepsLimit .credit := by
    apply reached.invariant (KeepsLimit · .credit) (keepsLimit_created created)
    intro before call after permitted stepped keeps
    exact keeps.step permitted.1 (fun _ => permitted.2) stepped
  intro id account found
  exact ⟨debits id account found, credits id account found⟩

omit [DecimalSums]

def limitedAccount (id : UInt64) (leg : Leg) : Account :=
  .new ⟨id⟩ usd ⟨decide (leg = .debit), decide (leg = .credit)⟩

def limitedAccounts : InMemoryLedgerClient :=
  ((new.createAccount (limitedAccount 1 .credit)).1.createAccount (limitedAccount 2 .debit)).1

theorem accurate_limitedAccount (client : InMemoryLedgerClient) (id : UInt64) (leg : Leg) :
    @Accurate referenceSums client (.createAccount (limitedAccount id leg)) ∧
      @CreditCovered referenceSums client (.createAccount (limitedAccount id leg)) := by
  refine ⟨?_, trivial⟩
  intro side _
  cases side <;> exact le_refl (Decimal.value .zero)

theorem covered_tenDollars : @Accurate referenceSums limitedAccounts (.createTransfer (plainTransfer 1 1 2 tenDollars)) ∧
      @CreditCovered referenceSums limitedAccounts (.createTransfer (plainTransfer 1 1 2 tenDollars)) := by
  have debitFound : limitedAccounts.accounts ⟨1⟩ = some (limitedAccount 1 .credit) := rfl
  have creditFound : limitedAccounts.accounts ⟨2⟩ = some (limitedAccount 2 .debit) := rfl
  refine ⟨⟨?_, fun _ => ⟨?_, ?_⟩⟩, ?_⟩
  · norm_num [plainTransfer, tenDollars, Decimal.value, Decimal.signed]
  · intro leg account found
    refine .inl (sumsDecimal_of_empty (fun leg account found => ?_) leg account found)
    cases leg <;> cases found <;> rfl
  · intro account _ found limit
    obtain rfl : limitedAccount 1 .credit = account :=
      Option.some.inj (debitFound.symm.trans found)
    cases limit
  · intro _ account found limit
    obtain rfl : limitedAccount 2 .debit = account :=
      Option.some.inj (creditFound.symm.trans found)
    cases limit

theorem tenDollars_keeps_limits : ∃ client : InMemoryLedgerClient, client.transfers = [plainTransfer 1 1 2 tenDollars] ∧
      ∀ id account, client.accounts id = some account → (account.flags.debitsMustNotExceedCredits = true →
          account.debitsPosted.value.value ≤ account.creditsPosted.value.value) ∧
        (account.flags.creditsMustNotExceedDebits = true →
          account.creditsPosted.value.value ≤ account.debitsPosted.value.value) := by
  have one : (@system referenceSums).Reaches (fun before call =>
      @Accurate referenceSums before call ∧ @CreditCovered referenceSums before call) .new _ :=
    .step .refl (accurate_limitedAccount .new 1 .credit) rfl
  have two := System.Reaches.step one (accurate_limitedAccount _ 2 .debit) rfl
  have three := System.Reaches.step two covered_tenDollars rfl
  exact ⟨_, rfl, @covered_calls_keep_limits _ referenceSums _ (.inl rfl) three⟩

/-- A transfer to an account whose credits must not exceed its debits is posted. -/
theorem credit_limit_exceeded : ∃ client, (@system referenceSums).Reachable .new client ∧
    ∃ account, client.accounts ⟨2⟩ = some account ∧ account.flags.creditsMustNotExceedDebits = true ∧
      account.debitsPosted.value.value < account.creditsPosted.value.value := by
  obtain ⟨client, reached, exceeded⟩ := System.exists_reachable_of_run
    (@system referenceSums) .new [.createAccount (plainAccount 1), .createAccount (limitedAccount 2 .credit),
      .createTransfer (plainTransfer 1 1 2 tenDollars)]
    (fun client => (client.accounts ⟨2⟩).map (fun account =>
      (account.flags.creditsMustNotExceedDebits, account.debits.blt account.credits)) = some (true, true))
    (by decide)
  obtain ⟨account, found, both⟩ := Option.map_eq_some_iff.mp exceeded
  obtain ⟨flag, less⟩ := Prod.mk.inj both
  exact ⟨client, reached, account, found, flag, Decimal.blt_iff.mp less⟩

end InMemoryLedgerClient

end Blazil.Ledger

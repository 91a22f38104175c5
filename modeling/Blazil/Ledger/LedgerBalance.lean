import Blazil.Foundation.Totals
import Blazil.Ledger.AccountLimits

/-! The totals of the in-memory ledger over all its accounts. A transfer keeps them equal as
long as its two sums are decimals: a sum that is too long for a decimal loses places. -/

set_option autoImplicit false

namespace Blazil.Ledger

open Blazil.Common Foundation

theorem accountKey_injective : Function.Injective fun id : AccountId => id.value.toFin := by
  intro first second same
  cases first
  cases second
  exact congrArg AccountId.mk (UInt64.toFin_inj.mp same)

noncomputable instance : Fintype AccountId := Fintype.ofInjective _ accountKey_injective

namespace Account

def postedIn (leg : Leg) (currency : Currency) (account : Account) : ℚ :=
  if account.currency = currency then (account.posted leg).value.value else 0

variable [DecimalSums] {account posted : Account} {leg : Leg} {amount : Amount}

def growth (leg : Leg) (amount : Amount) (account : Account) : ℚ :=
  match account.apply leg amount with
  | .error _ => 0
  | .ok posted => (posted.posted leg).value.value - (account.posted leg).value.value

theorem currency_apply (applied : account.apply leg amount = .ok posted) : posted.currency = account.currency := by
  obtain ⟨_, _, rfl⟩ := apply_ok applied
  cases leg <;> rfl

theorem growth_of_representable (currency : amount.currency = account.currency)
    (representable : Decimal.Representable ((account.posted leg).value.value + amount.value.value)) :
    account.growth leg amount = amount.value.value := by
  obtain ⟨posted, applied, added⟩ := apply_exact currency representable
  simp only [growth, applied, added, if_true, add_sub_cancel_left]

theorem growth_eq_iff [DecimalOverflow] (currency : amount.currency = account.currency)
    (fits : |(account.posted leg).value.value + amount.value.value| < DecimalOverflow.limit) :
    account.growth leg amount = amount.value.value ↔
      Decimal.Representable ((account.posted leg).value.value + amount.value.value) := by
  refine ⟨fun same => ?_, growth_of_representable currency⟩
  rw [← not_le, ← DecimalOverflow.add_none_iff] at fits
  obtain ⟨sum, added⟩ := Option.ne_none_iff_exists'.mp fits
  rw [growth, apply_eq currency, added] at same
  simp only [posted_setPosted, if_true] at same
  exact ⟨sum, by linarith⟩

theorem postedIn_apply (applied : account.apply leg amount = .ok posted) (side : Leg)
    (currency : Currency) : posted.postedIn side currency = account.postedIn side currency +
      if account.currency = currency ∧ side = leg then account.growth leg amount else 0 := by
  unfold postedIn growth
  rw [currency_apply applied, applied]
  by_cases same : account.currency = currency
  · by_cases own : side = leg
    · subst own
      simp only [same, if_true, and_self]
      ring
    · have other : side = leg.opposite := by
        cases leg <;> cases side <;> first | rfl | exact absurd rfl own
      simp only [same, own, if_true, and_false, if_false, add_zero]
      rw [other, (apply_frame applied).2]
  · simp only [same, if_false, false_and, add_zero]

end Account

namespace InMemoryLedgerClient

noncomputable def total (client : InMemoryLedgerClient) (leg : Leg) (currency : Currency) : ℚ :=
  keyedSum (Account.postedIn leg currency) client.accounts

def Balanced (client : InMemoryLedgerClient) : Prop :=
  ∀ currency, client.total .debit currency = client.total .credit currency

variable {client : InMemoryLedgerClient} {transfer : Transfer}

theorem balanced_created (created : client = .new ∨ client = .newUnbounded) : client.Balanced := by
  intro currency
  rcases created with rfl | rfl <;> exact (keyedSum_empty _).trans (keyedSum_empty _).symm

theorem total_setAccount (client : InMemoryLedgerClient) (id : AccountId) (account : Account)
    (leg : Leg) (currency : Currency) : (client.setAccount id account).total leg currency =
      client.total leg currency + (account.postedIn leg currency - (client.accounts id).elim 0 (Account.postedIn leg currency)) :=
  keyedSum_insert _ _ _ _

theorem balanced_createAccount_iff (balanced : client.Balanced) (account : Account) : (client.createAccount account).1.Balanced ↔
      (client.accounts account.id = none → account.debits.value = account.credits.value) := by
  unfold createAccount
  cases found : client.accounts account.id with
  | some => simpa using balanced
  | none =>
    simp only [Option.isSome_none, Bool.false_eq_true, if_false, forall_const]
    constructor
    · intro after
      have own := after account.currency
      rw [total_setAccount, total_setAccount, balanced account.currency, found] at own
      simpa [Account.postedIn, Account.posted] using own
    · intro equal currency
      rw [total_setAccount, total_setAccount, balanced currency, found]
      simp only [Account.postedIn, Account.posted, equal, Option.elim_none]

variable [DecimalSums]

def growth (client : InMemoryLedgerClient) (leg : Leg) (transfer : Transfer) : ℚ :=
  (client.accounts (leg.accountId transfer)).elim 0 (Account.growth leg transfer.amount)

theorem total_posted (leg : Leg) (transfer : Transfer) {account posted : Account}
    (found : client.accounts (leg.accountId transfer) = some account) (applied : account.apply leg transfer.amount = .ok posted)
    (sameCurrency : transfer.amount.currency = account.currency) (side : Leg) (currency : Currency) :
    (client.setAccount (leg.accountId transfer) posted).total side currency = client.total side currency +
        if transfer.amount.currency = currency ∧ side = leg then client.growth leg transfer else 0 := by
  rw [total_setAccount, Account.postedIn_apply applied, growth, found, sameCurrency]
  simp only [Option.elim_some]
  ring

/-- An account comes with equal totals, and both exact sums of a transfer that passes the checks
are decimals. -/
def Even (client : InMemoryLedgerClient) : LedgerCall → Prop
  | .createAccount account =>
    client.accounts account.id = none → account.debits.value = account.credits.value
  | .createTransfer transfer => client.validated transfer = .ok () → client.SumsDecimal transfer

def Fits [DecimalOverflow] (client : InMemoryLedgerClient) (transfer : Transfer) : Prop :=
  ∀ leg account, client.accounts (Leg.accountId leg transfer) = some account →
    |(account.posted leg).value.value + transfer.amount.value.value| < DecimalOverflow.limit

variable {debit credit : Account} {after : InMemoryLedgerClient}

theorem validated_account (valid : client.validated transfer = .ok ()) (leg : Leg) : ∃ account,
    client.accounts (leg.accountId transfer) = some account ∧ transfer.amount.currency = account.currency := by
  obtain ⟨debit, credit, checked⟩ := checked_of_valid valid
  cases leg with
  | debit => exact ⟨debit, checked.debitFound, checked.debitCurrency⟩
  | credit => exact ⟨credit, checked.creditFound, checked.creditCurrency⟩

theorem Checked.total {debited : Account} (checked : client.Checked transfer debit credit)
    (passed : client.passes transfer = true)
    (posted : debit.apply .debit transfer.amount = .ok debited) (leg : Leg) (currency : Currency) :
    (client.createTransfer transfer).1.total leg currency =
      client.total leg currency + if transfer.amount.currency = currency then client.growth leg transfer else 0 := by
  have first := total_posted .debit transfer checked.debitFound posted checked.debitCurrency leg currency
  rw [checked.createTransfer_eq passed, posted]
  cases refused : credit.apply .credit transfer.amount with
  | error =>
    refine first.trans ?_
    cases leg with
    | debit => simp
    | credit => simp [growth, Leg.accountId, checked.creditFound, Account.growth, refused]
  | ok =>
    have kept : (client.setAccount transfer.debitAccountId debited).accounts
        (Leg.credit.accountId transfer) = client.accounts (Leg.credit.accountId transfer) :=
      if_neg (Ne.symm checked.different)
    have second := total_posted .credit transfer (kept.trans checked.creditFound) refused checked.creditCurrency leg currency
    rw [growth, kept] at second
    refine (second.trans (congrArg (· + _) first)).trans ?_
    cases leg <;> simp [growth]

section

variable (balanced : client.Balanced)
include balanced

theorem balanced_grown_iff (grown : ∀ leg currency, after.total leg currency = client.total leg currency +
      if transfer.amount.currency = currency then client.growth leg transfer else 0) :
    after.Balanced ↔ client.growth .debit transfer = client.growth .credit transfer := by
  constructor
  · intro equal
    have own := equal transfer.amount.currency
    rw [grown, grown, balanced transfer.amount.currency] at own
    simpa using own
  · intro even currency
    rw [grown, grown, balanced currency, even]

theorem balanced_createTransfer_cases (transfer : Transfer) :
    ((client.createTransfer transfer).1 = client ∧ (client.passes transfer = true → ∃ debit cause,
      client.accounts transfer.debitAccountId = some debit ∧ debit.apply .debit transfer.amount = .error cause)) ∨
    client.validated transfer = .ok () ∧ ((client.createTransfer transfer).1.Balanced ↔
      client.growth .debit transfer = client.growth .credit transfer) := by
  cases passed : client.passes transfer with
  | false => exact .inl ⟨createTransfer_refused passed, fun holds => nomatch holds⟩
  | true =>
    have valid := (passes_iff.mp passed).2
    obtain ⟨debit, credit, checked⟩ := checked_of_valid valid
    cases debited : debit.apply .debit transfer.amount with
    | error cause =>
      refine .inl ⟨?_, fun _ => ⟨debit, cause, checked.debitFound, debited⟩⟩
      rw [checked.createTransfer_eq passed, debited]
    | ok => exact .inr ⟨valid, balanced_grown_iff balanced (checked.total passed debited)⟩

theorem balanced_of_even {call} (even : client.Even call) (stepped : system.step client call = some after) :
    after.Balanced := by
  cases call with
  | createAccount account =>
    obtain rfl := Option.some.inj stepped
    exact (balanced_createAccount_iff balanced account).mpr even
  | createTransfer transfer =>
    obtain rfl := Option.some.inj stepped
    rcases balanced_createTransfer_cases balanced transfer with ⟨same, _⟩ | ⟨valid, grown⟩
    · rw [same]
      exact balanced
    · have exactly : ∀ leg, client.growth leg transfer = transfer.amount.value.value := by
        intro leg
        obtain ⟨account, found, currency⟩ := validated_account valid leg
        rw [growth, found, Option.elim_some, Account.growth_of_representable currency (even valid leg account found)]
      exact grown.mpr ((exactly .debit).trans (exactly .credit).symm)

theorem balanced_createTransfer_iff [DecimalOverflow] (bounded : client.unbounded = false)
    (valid : client.validated transfer = .ok ())
    (fits : client.Fits transfer) (one : ∃ leg account, client.accounts (Leg.accountId leg transfer) = some account ∧
      Decimal.Representable ((account.posted leg).value.value + transfer.amount.value.value)) :
    (client.createTransfer transfer).1.Balanced ↔ client.SumsDecimal transfer := by
  have growth_iff : ∀ leg account, client.accounts (Leg.accountId leg transfer) = some account →
      (client.growth leg transfer = transfer.amount.value.value ↔
        Decimal.Representable ((account.posted leg).value.value + transfer.amount.value.value)) := by
    intro leg account found
    obtain ⟨_, same, currency⟩ := validated_account valid leg
    cases found.symm.trans same
    rw [growth, found, Option.elim_some, Account.growth_eq_iff currency (fits leg account found)]
  rcases balanced_createTransfer_cases balanced transfer with ⟨_, overflows⟩ | ⟨_, grown⟩
  · obtain ⟨debit, _, found, refused⟩ := overflows (passes_iff.mpr ⟨bounded, valid⟩)
    obtain ⟨_, same, currency⟩ := validated_account valid .debit
    cases found.symm.trans same
    have sum := fits .debit debit found
    rw [← not_le, ← DecimalOverflow.add_none_iff] at sum
    obtain ⟨sum, added⟩ := Option.ne_none_iff_exists'.mp sum
    rw [Account.apply_eq currency, added] at refused
    cases refused
  · refine grown.trans ⟨fun same => ?_, fun sums => ?_⟩
    · obtain ⟨leg, account, found, representable⟩ := one
      have exactly := (growth_iff leg account found).mpr representable
      intro other account found
      refine (growth_iff other account found).mp ?_
      cases leg <;> cases other <;> simp_all
    · obtain ⟨debit, debitFound, _⟩ := validated_account valid .debit
      obtain ⟨credit, creditFound, _⟩ := validated_account valid .credit
      rw [(growth_iff .debit debit debitFound).mpr (sums .debit debit debitFound),
        (growth_iff .credit credit creditFound).mpr (sums .credit credit creditFound)]

end

/-- In every run of even calls the debits of all accounts are their credits in every currency. A new
account keeps this exactly if the call is even, and so does a transfer that passes the checks and does
not overflow, where one of its sums is a decimal. -/
theorem totals_balanced_iff [DecimalOverflow] {start : InMemoryLedgerClient} (created : start = .new ∨ start = .newUnbounded)
    (reached : system.Reaches (fun before call => before.Even call) start client) :
    (∀ currency, client.total .debit currency = client.total .credit currency) ∧
      (∀ account, (∀ currency, (client.createAccount account).1.total .debit currency =
          (client.createAccount account).1.total .credit currency) ↔ client.Even (.createAccount account)) ∧
      ∀ transfer, client.unbounded = false → client.validated transfer = .ok () → client.Fits transfer →
        (∃ leg account, client.accounts (Leg.accountId leg transfer) = some account ∧
          Decimal.Representable ((account.posted leg).value.value + transfer.amount.value.value)) →
        ((∀ currency, (client.createTransfer transfer).1.total .debit currency =
            (client.createTransfer transfer).1.total .credit currency) ↔ client.Even (.createTransfer transfer)) := by
  have balanced : client.Balanced := by
    apply reached.invariant Balanced (balanced_created created)
    intro before call after even stepped holds
    exact balanced_of_even holds even stepped
  refine ⟨balanced, balanced_createAccount_iff balanced, fun transfer bounded valid fits one => ?_⟩
  refine (balanced_createTransfer_iff balanced bounded valid fits one).trans ?_
  exact ⟨fun sums _ => sums, fun even => even valid⟩

/-- A call succeeds, and an account comes without postings. -/
def accepts (client : InMemoryLedgerClient) : LedgerCall → Bool
  | .createAccount account => account == .new account.id account.currency account.flags &&
      (client.createAccount account).2.toOption.isSome
  | .createTransfer transfer => (client.createTransfer transfer).2.toOption.isSome

omit [DecimalSums]

theorem even_plainAccount (client : InMemoryLedgerClient) (id : UInt64) :
    @Even referenceSums client (.createAccount (plainAccount id)) :=
  fun _ => rfl

theorem tenDollars_stays_balanced : ∃ client : InMemoryLedgerClient,
    client.transfers = [plainTransfer 1 1 2 tenDollars] ∧ client.total .debit usd = client.total .credit usd := by
  have one : (@system referenceSums).Reaches (@Even referenceSums) .new _ :=
    .step .refl (even_plainAccount .new 1) rfl
  have two := System.Reaches.step one (even_plainAccount _ 2) rfl
  have even : @Even referenceSums twoAccounts (.createTransfer (plainTransfer 1 1 2 tenDollars)) :=
    fun valid => (permitted_tenDollars valid).2
  have three := System.Reaches.step two even rfl
  exact ⟨_, rfl, (@totals_balanced_iff _ referenceSums referenceOverflow _ (.inl rfl) three).1 usd⟩

def oneUnit : Decimal := ⟨false, 1, 8, by decide, by decide⟩

def almostFull : InMemoryLedgerClient :=
  (@createTransfer referenceSums (twoAccounts.createAccount (plainAccount 3)).1 (plainTransfer 1 1 2 almostHalf)).1

theorem balanced_almostFull : almostFull.Balanced := by
  have first := (balanced_createAccount_iff (balanced_created (.inl rfl)) (plainAccount 1)).mpr fun _ => rfl
  have second := (balanced_createAccount_iff first (plainAccount 2)).mpr fun _ => rfl
  have third := (balanced_createAccount_iff second (plainAccount 3)).mpr fun _ => rfl
  refine @balanced_of_even _ referenceSums _ third (.createTransfer (plainTransfer 1 1 2 almostHalf)) ?_ rfl
  refine fun _ => sumsDecimal_of_empty fun leg account found => ?_
  cases leg <;> cases found <;> rfl

theorem almostFull_reached : (@system referenceSums).Reaches
    (fun before call => @accepts referenceSums before call = true) .new almostFull := by
  have executed : (@system referenceSums).run .new [.createAccount (plainAccount 1),
      .createAccount (plainAccount 2), .createAccount (plainAccount 3),
      .createTransfer (plainTransfer 1 1 2 almostHalf)] = some almostFull := rfl
  exact System.reaches_of_run executed (by decide)

/-- The debit of the smallest amount is lost next to the large total of the first account,
while the credit of the third account keeps it. -/
theorem rounded_debit_unbalances : ∃ client, (@system referenceSums).Reaches
      (fun before call => @accepts referenceSums before call = true) .new client ∧
    ¬∀ currency, client.total .debit currency = client.total .credit currency := by
  have accepted : @accepts referenceSums almostFull (.createTransfer (plainTransfer 2 1 3 oneUnit)) = true := rfl
  refine ⟨_, almostFull_reached.step accepted rfl, ?_⟩
  intro balanced
  have uneven : @growth referenceSums almostFull .debit (plainTransfer 2 1 3 oneUnit) ≠
      @growth referenceSums almostFull .credit (plainTransfer 2 1 3 oneUnit) := by
    decide +kernel
  rcases @balanced_createTransfer_cases _ referenceSums balanced_almostFull (plainTransfer 2 1 3 oneUnit) with
    ⟨same, _⟩ | ⟨_, grown⟩
  · exact absurd (congrArg (·.transfers.length) same) (by decide)
  · exact uneven (grown.mp balanced)

end InMemoryLedgerClient

end Blazil.Ledger

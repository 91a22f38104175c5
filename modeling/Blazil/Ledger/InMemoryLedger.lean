import Blazil.Common.AmountSumsReference
import Blazil.Foundation.Entries
import Blazil.Foundation.Transition
import Blazil.Ledger.Transfer

/-! Accounts, the rules of double entry and the in-memory ledger (`account.rs`, `double_entry.rs`
and `mock.rs` of `core/ledger/src`). The constructor gives both totals the currency of the account
and a sum keeps it, so the totals are kept as plain decimals. The flag that links accounts in a
batch is left out. The lock on the accounts is held from the checks to the second posting, and
nothing fails after it is released, so a call is one step.

What a call leaves behind in the in-memory ledger: when a refused transfer changes nothing, and when
the totals of the accounts are those of the stored transfers. -/

set_option autoImplicit false

namespace Blazil.Ledger

open Blazil.Common

structure AccountFlags where
  debitsMustNotExceedCredits : Bool := false
  creditsMustNotExceedDebits : Bool := false
deriving DecidableEq

inductive Leg where
  | debit
  | credit
deriving DecidableEq

def Leg.accountId (leg : Leg) (transfer : Transfer) : AccountId :=
  match leg with
  | .debit => transfer.debitAccountId
  | .credit => transfer.creditAccountId

structure Account where
  id : AccountId
  currency : Currency
  flags : AccountFlags
  debits : Decimal
  credits : Decimal
deriving DecidableEq

namespace Account

def new (id : AccountId) (currency : Currency) (flags : AccountFlags) : Account :=
  ⟨id, currency, flags, .zero, .zero⟩

def posted (account : Account) : Leg → Amount
  | .debit => ⟨account.debits, account.currency⟩
  | .credit => ⟨account.credits, account.currency⟩

def debitsPosted (account : Account) : Amount := account.posted .debit

def creditsPosted (account : Account) : Amount := account.posted .credit

def setPosted (account : Account) (leg : Leg) (value : Decimal) : Account :=
  match leg with
  | .debit => { account with debits := value }
  | .credit => { account with credits := value }

variable [DecimalSums]

def balance (account : Account) : BlazerResult Amount :=
  match account.creditsPosted.checkedSub account.debitsPosted with
  | .ok balance => .ok balance
  | .error _ => .error .amountOverflow

def canDebit (account : Account) (amount : Amount) : Bool :=
  if account.flags.debitsMustNotExceedCredits then
    match account.balance with
    | .ok balance => !balance.value.blt amount.value
    | .error _ => false
  else true

/-- The common body of `apply_debit` and `apply_credit`. -/
def apply (leg : Leg) (account : Account) (amount : Amount) : BlazerResult Account :=
  match (account.posted leg).checkedAdd amount with
  | .error cause => .error cause
  | .ok sum => .ok (account.setPosted leg sum.value)

def applyDebit (account : Account) (amount : Amount) : BlazerResult Account :=
  account.apply .debit amount

def applyCredit (account : Account) (amount : Amount) : BlazerResult Account :=
  account.apply .credit amount

end Account

def validateTransfer [DecimalSums] (transfer : Transfer) (debitAccount creditAccount : Account) : BlazerResult Unit :=
  if transfer.debitAccountId = transfer.creditAccountId then
    .error (.validationError "self-transfer not allowed")
  else if transfer.amount.value.isZero then
    .error (.validationError "zero amount transfer")
  else if transfer.amount.currency ≠ debitAccount.currency then
    .error (.currencyMismatch debitAccount.currency.code transfer.amount.currency.code)
  else if transfer.amount.currency ≠ creditAccount.currency then
    .error (.currencyMismatch creditAccount.currency.code transfer.amount.currency.code)
  else if debitAccount.canDebit transfer.amount then .ok ()
  else
    let available := match debitAccount.balance with
      | .ok balance => DecimalSums.display balance.value
      | .error _ => "0"
    .error (.insufficientFunds available (DecimalSums.display transfer.amount.value))

open Foundation

structure InMemoryLedgerClient where
  accounts : AccountId → Option Account
  transfers : List Transfer
  unbounded : Bool

/-- Insert into the map of transfers: one that is stored under the same id is replaced. -/
def insertTransfer (transfer : Transfer) (transfers : List Transfer) : List Transfer :=
  transfers.filter (fun stored => stored.id ≠ transfer.id) ++ [transfer]

def accountNotFound (id : AccountId) : BlazerError :=
  .notFound "Account" (toString id.value.toNat)

namespace InMemoryLedgerClient

def new : InMemoryLedgerClient := ⟨fun _ => none, [], false⟩

/-- A ledger for benchmarks, which posts nothing. -/
def newUnbounded : InMemoryLedgerClient := ⟨fun _ => none, [], true⟩

def setAccount (client : InMemoryLedgerClient) (id : AccountId) (account : Account) : InMemoryLedgerClient :=
  { client with
    accounts := fun other => if other = id then some account else client.accounts other }

def createAccount (client : InMemoryLedgerClient) (account : Account) : InMemoryLedgerClient × BlazerResult AccountId :=
  if (client.accounts account.id).isSome then
    (client, .error (.duplicate "Account" (toString account.id.value.toNat)))
  else (client.setAccount account.id account, .ok account.id)

variable [DecimalSums]

/-- The checks of `create_transfer`. -/
def validated (client : InMemoryLedgerClient) (transfer : Transfer) : BlazerResult Unit :=
  match client.accounts transfer.debitAccountId with
  | none => .error (accountNotFound transfer.debitAccountId)
  | some debitAccount =>
    match client.accounts transfer.creditAccountId with
    | none => .error (accountNotFound transfer.creditAccountId)
    | some creditAccount => validateTransfer transfer debitAccount creditAccount

def post (client : InMemoryLedgerClient) (transfer : Transfer) (leg : Leg) (vanished : String) :
    InMemoryLedgerClient × BlazerResult Unit :=
  match client.accounts (leg.accountId transfer) with
  | none => (client, .error (.internal vanished))
  | some account =>
    match account.apply leg transfer.amount with
    | .error cause => (client, .error cause)
    | .ok posted => (client.setAccount (leg.accountId transfer) posted, .ok ())

def createTransfer (client : InMemoryLedgerClient) (transfer : Transfer) : InMemoryLedgerClient × BlazerResult TransferId :=
  if client.unbounded then (client, .ok transfer.id)
  else
    match client.validated transfer with
    | .error cause => (client, .error cause)
    | .ok () =>
      match client.post transfer .debit "debit account vanished under lock" with
      | (after, .error cause) => (after, .error cause)
      | (debited, .ok ()) =>
        match debited.post transfer .credit "credit account vanished under lock" with
        | (after, .error cause) => (after, .error cause)
        | (credited, .ok ()) =>
          ({ credited with transfers := insertTransfer transfer credited.transfers },
            .ok transfer.id)

end InMemoryLedgerClient

inductive LedgerCall where
  | createAccount (account : Account)
  | createTransfer (transfer : Transfer)
deriving DecidableEq

def InMemoryLedgerClient.step [DecimalSums] (client : InMemoryLedgerClient) : LedgerCall → Option InMemoryLedgerClient
  | .createAccount account => some (client.createAccount account).1
  | .createTransfer transfer => some (client.createTransfer transfer).1

def InMemoryLedgerClient.system [DecimalSums] : System InMemoryLedgerClient LedgerCall := ⟨step⟩

open Foundation

variable {account : Account}

namespace Account

@[simp] theorem posted_setPosted (account : Account) (leg other : Leg) (value : Decimal) :
    ((account.setPosted leg value).posted other).value =
      if other = leg then value else (account.posted other).value := by
  cases leg <;> cases other <;> rfl

@[simp] theorem posted_currency (account : Account) (leg : Leg) : (account.posted leg).currency = account.currency := by
  cases leg <;> rfl

variable [DecimalSums]

theorem apply_eq {leg : Leg} {amount : Amount} (currency : amount.currency = account.currency) :
    account.apply leg amount =
      match DecimalSums.checkedAdd (account.posted leg).value amount.value with
      | none => .error .amountOverflow
      | some sum => .ok (account.setPosted leg sum) := by
  simp only [apply, Amount.checkedAdd, posted_currency, currency, ne_eq, not_true_eq_false, if_false]
  cases DecimalSums.checkedAdd (account.posted leg).value amount.value <;> rfl

theorem apply_exact {leg : Leg} {amount : Amount} (currency : amount.currency = account.currency)
    (representable : Decimal.Representable ((account.posted leg).value.value + amount.value.value)) :
    ∃ posted, account.apply leg amount = .ok posted ∧
      ∀ other, (posted.posted other).value.value = (account.posted other).value.value +
        if other = leg then amount.value.value else 0 := by
  obtain ⟨sum, added, value⟩ := DecimalSums.add_exact _ _ representable
  refine ⟨account.setPosted leg sum, ?_, ?_⟩
  · rw [apply_eq currency, added]
  · intro other
    rw [posted_setPosted]
    split
    · next same => rw [value, same]
    · rw [add_zero]

end Account

variable {transfer : Transfer} {transfers : List Transfer}

theorem validateTransfer_ok [DecimalSums] {debit credit : Account} (valid : validateTransfer transfer debit credit = .ok ()) :
    transfer.debitAccountId ≠ transfer.creditAccountId ∧ transfer.amount.currency = debit.currency ∧
      transfer.amount.currency = credit.currency ∧ debit.canDebit transfer.amount = true := by
  unfold validateTransfer at valid
  split at valid
  · cases valid
  · next different =>
    split at valid
    · cases valid
    · split at valid
      · cases valid
      · next debitCurrency =>
        split at valid
        · cases valid
        · next creditCurrency =>
          split at valid
          · next allowed => exact ⟨different, not_not.mp debitCurrency, not_not.mp creditCurrency, allowed⟩
          · cases valid

namespace InMemoryLedgerClient

theorem accounts_setAccount (client : InMemoryLedgerClient) (id other : AccountId)
    (account : Account) : (client.setAccount id account).accounts other =
      if other = id then some account else client.accounts other := rfl

theorem setAccount_self {client : InMemoryLedgerClient} {id : AccountId}
    (found : client.accounts id = some account) : client.setAccount id account = client := by
  have same : (fun other => if other = id then some account else client.accounts other) =
      client.accounts := by
    funext other
    split
    · next own => rw [own, found]
    · rfl
  unfold setAccount
  rw [same]

variable [DecimalSums] {client : InMemoryLedgerClient} {transfer : Transfer}

def passes (client : InMemoryLedgerClient) (transfer : Transfer) : Bool :=
  !client.unbounded && (client.validated transfer).isOk

theorem passes_iff : client.passes transfer = true ↔ client.unbounded = false ∧ client.validated transfer = .ok () := by
  unfold passes
  cases client.validated transfer <;> simp [Except.isOk, Except.toBool]

theorem createTransfer_refused (refused : client.passes transfer = false) : (client.createTransfer transfer).1 = client := by
  unfold createTransfer
  split
  · rfl
  · next bounded =>
    split
    · rfl
    · next valid =>
      rw [passes_iff.mpr ⟨Bool.not_eq_true _ |>.mp bounded, valid⟩] at refused
      cases refused

/-- What the checks of a transfer establish about its two accounts. -/
structure Checked (client : InMemoryLedgerClient) (transfer : Transfer) (debit credit : Account) : Prop where
  debitFound : client.accounts transfer.debitAccountId = some debit
  creditFound : client.accounts transfer.creditAccountId = some credit
  different : transfer.debitAccountId ≠ transfer.creditAccountId
  debitCurrency : transfer.amount.currency = debit.currency
  creditCurrency : transfer.amount.currency = credit.currency
  allowed : debit.canDebit transfer.amount = true

theorem checked_of_valid (valid : client.validated transfer = .ok ()) : ∃ debit credit, client.Checked transfer debit credit := by
  unfold validated at valid
  cases debitFound : client.accounts transfer.debitAccountId with
  | none =>
    rw [debitFound] at valid
    cases valid
  | some debit =>
    cases creditFound : client.accounts transfer.creditAccountId with simp only [debitFound, creditFound] at valid
    | none =>
      cases valid
    | some credit =>
      obtain ⟨different, debitCurrency, creditCurrency, allowed⟩ := validateTransfer_ok valid
      exact ⟨debit, credit, debitFound, creditFound, different, debitCurrency, creditCurrency, allowed⟩

def afterPosting (client : InMemoryLedgerClient) (transfer : Transfer) (debited credited : Account) : InMemoryLedgerClient :=
  { (client.setAccount transfer.debitAccountId debited).setAccount transfer.creditAccountId credited with
    transfers := insertTransfer transfer client.transfers }

theorem Checked.createTransfer_eq {debit credit : Account} (checked : client.Checked transfer debit credit)
    (passed : client.passes transfer = true) :
    client.createTransfer transfer = match debit.apply .debit transfer.amount with
      | .error cause => (client, .error cause)
      | .ok debited => match credit.apply .credit transfer.amount with
        | .error cause => (client.setAccount transfer.debitAccountId debited, .error cause)
        | .ok credited => (client.afterPosting transfer debited credited, .ok transfer.id) := by
  have kept : ∀ debited, (client.setAccount transfer.debitAccountId debited).accounts transfer.creditAccountId = some credit := by
    intro debited
    rw [accounts_setAccount, if_neg (Ne.symm checked.different), checked.creditFound]
  obtain ⟨bounded, valid⟩ := passes_iff.mp passed
  simp only [createTransfer, bounded, valid, post, Leg.accountId, checked.debitFound, Bool.false_eq_true, if_false]
  cases debit.apply .debit transfer.amount with
  | error => rfl
  | ok debited =>
    simp only [kept]
    cases credit.apply .credit transfer.amount <;> rfl

/-- The transfer passes the checks. With its amount, the debits stay in the range of decimals and
are not rounded to what they were, and the credits leave that range. -/
structure HalfPosted [DecimalOverflow] (client : InMemoryLedgerClient) (transfer : Transfer)
    (debit credit : Account) : Prop where
  bounded : client.unbounded = false
  valid : client.validated transfer = .ok ()
  debitFound : client.accounts transfer.debitAccountId = some debit
  creditFound : client.accounts transfer.creditAccountId = some credit
  fits : |debit.debits.value + transfer.amount.value.value| < DecimalOverflow.limit
  grows : DecimalSums.checkedAdd debit.debits transfer.amount.value ≠ some debit.debits
  overflows : DecimalOverflow.limit ≤ |credit.credits.value + transfer.amount.value.value|

/-- A refused transfer leaves the ledger as it was unless its debit is posted before the credit
overflows. -/
theorem createTransfer_refused_unchanged_iff [DecimalOverflow] {cause : BlazerError}
    (refused : (client.createTransfer transfer).2 = .error cause) :
    (client.createTransfer transfer).1 = client ↔ ¬∃ debit credit, client.HalfPosted transfer debit credit := by
  cases passed : client.passes transfer with
  | false =>
    refine iff_of_true (createTransfer_refused passed) ?_
    rintro ⟨_, _, half⟩
    rw [passes_iff.mpr ⟨half.bounded, half.valid⟩] at passed
    cases passed
  | true =>
    obtain ⟨bounded, valid⟩ := passes_iff.mp passed
    obtain ⟨debit, credit, checked⟩ := checked_of_valid valid
    rw [checked.createTransfer_eq passed, Account.apply_eq checked.debitCurrency,
      Account.apply_eq checked.creditCurrency] at refused ⊢
    cases added : DecimalSums.checkedAdd (debit.posted .debit).value transfer.amount.value with simp only [added] at refused ⊢
    | none =>
      refine iff_of_true trivial ?_
      rintro ⟨_, _, half⟩
      cases checked.debitFound.symm.trans half.debitFound
      exact absurd half.fits (not_lt.mpr ((DecimalOverflow.add_none_iff _ _).mp added))
    | some sum =>
      cases overflows : DecimalSums.checkedAdd (credit.posted .credit).value transfer.amount.value with
        simp only [overflows] at refused ⊢
      | some => cases refused
      | none =>
        constructor
        · rintro unchanged ⟨_, _, half⟩
          cases checked.debitFound.symm.trans half.debitFound
          have stored := congrArg (fun ledger => ledger.accounts transfer.debitAccountId) unchanged
          simp only [accounts_setAccount, if_true, checked.debitFound, Option.some.injEq] at stored
          exact half.grows (added.trans (congrArg some (congrArg Account.debits stored)))
        · intro whole
          by_cases same : sum = debit.debits
          · subst same
            exact setAccount_self checked.debitFound
          · refine absurd ⟨debit, credit, bounded, valid, checked.debitFound, checked.creditFound, ?_, ?_, ?_⟩ whole
            · exact not_le.mp fun large => nomatch added.symm.trans ((DecimalOverflow.add_none_iff _ _).mpr large)
            · exact fun lost => same (Option.some.inj (added.symm.trans lost))
            · exact (DecimalOverflow.add_none_iff _ _).mp overflows

end InMemoryLedgerClient

def usd : Currency := ⟨"USD"⟩

def plainAccount (id : UInt64) : Account := .new ⟨id⟩ usd {}

def plainTransfer (id : Uuid) (debit credit : UInt64) (amount : Decimal) : Transfer :=
  ⟨⟨id⟩, ⟨debit⟩, ⟨credit⟩, ⟨amount, usd⟩, .usd, 1, {}, none⟩

def almostHalf : Decimal :=
  { Decimal.zero with mantissa := 39614081257132168796771975167, mantissa_lt := by decide }

def tenDollars : Decimal := ⟨false, 1000, 2, by decide, by decide⟩

def twentyDollars : Decimal := ⟨false, 2000, 2, by decide, by decide⟩

namespace InMemoryLedgerClient

def twicePaid : InMemoryLedgerClient :=
  [plainTransfer 1 1 2 almostHalf, plainTransfer 2 1 2 almostHalf].foldl (fun client transfer =>
      (@createTransfer referenceSums client transfer).1)
    ([1, 2, 3].foldl (fun client id => (client.createAccount (plainAccount id)).1) new)

/-- A further payment passes the checks, but not the debit. -/
theorem third_payment_unchanged :
    (@createTransfer referenceSums twicePaid (plainTransfer 3 1 3 almostHalf)).2 = .error .amountOverflow ∧
      (@createTransfer referenceSums twicePaid (plainTransfer 3 1 3 almostHalf)).1 = twicePaid := by
  refine ⟨by decide, (@createTransfer_refused_unchanged_iff referenceSums _ _ referenceOverflow .amountOverflow
    (by decide)).mpr ?_⟩
  rintro ⟨debit, _, half⟩
  have found : (twicePaid.accounts ⟨1⟩).map Account.debits = some debit.debits :=
    congrArg (Option.map Account.debits) (@HalfPosted.debitFound referenceSums referenceOverflow _ _ _ _ half)
  have debits : debit.debits = ⟨false, 79228162514264337593543950334, 0, by decide, by decide⟩ :=
    (Option.some.inj found).symm
  have fits := (@HalfPosted.fits referenceSums referenceOverflow _ _ _ _ half).trans_le
    (@DecimalOverflow.limit_le referenceSums referenceOverflow)
  rw [debits] at fits
  norm_num [plainTransfer, almostHalf, Decimal.zero, Decimal.value, Decimal.signed] at fits

/-- Two transfers bring the credits of an account close to the largest decimal. A third one
is refused there, after it has been posted to the account that it debits. -/
theorem refused_transfer_changes_debits : ∃ client, (@system referenceSums).Reachable .new client ∧
    (@createTransfer referenceSums client (plainTransfer 3 3 2 almostHalf)).2.toOption = none ∧
    (client.accounts ⟨3⟩).map Account.debits = some .zero ∧ ((@createTransfer referenceSums client
      (plainTransfer 3 3 2 almostHalf)).1.accounts ⟨3⟩).map Account.debits = some almostHalf :=
  System.exists_reachable_of_run _ _ [.createAccount (plainAccount 1),
    .createAccount (plainAccount 2), .createAccount (plainAccount 3),
    .createTransfer (plainTransfer 1 1 2 almostHalf),
    .createTransfer (plainTransfer 2 1 2 almostHalf)] _ (by decide)

end InMemoryLedgerClient

def postedTotal (leg : Leg) (id : AccountId) : List Transfer → ℚ
  | [] => 0
  | transfer :: rest =>
    (if leg.accountId transfer = id then transfer.amount.value.value else 0) +
      postedTotal leg id rest

def Transfer.adds (transfer : Transfer) (leg : Leg) (id : AccountId) : ℚ :=
  if leg.accountId transfer = id then transfer.amount.value.value else 0

theorem postedTotal_append (leg : Leg) (id : AccountId) (transfers : List Transfer) (transfer : Transfer) :
    postedTotal leg id (transfers ++ [transfer]) = postedTotal leg id transfers + transfer.adds leg id := by
  induction transfers with
  | nil => simp [postedTotal, Transfer.adds]
  | cons _ _ ih =>
    simp only [List.cons_append, postedTotal, ih]
    ring

theorem insertTransfer_fresh
    (fresh : ∀ stored ∈ transfers, stored.id ≠ transfer.id) : insertTransfer transfer transfers = transfers ++ [transfer] := by
  unfold insertTransfer
  rw [List.filter_eq_self.mpr]
  intro stored member
  simpa using fresh stored member

namespace InMemoryLedgerClient

/-- The totals of every account are those of the stored transfers. -/
def Booked (client : InMemoryLedgerClient) : Prop :=
  ∀ id account, client.accounts id = some account → ∀ leg, (account.posted leg).value.value = postedTotal leg id client.transfers

def postedOn (client : InMemoryLedgerClient) (leg : Leg) (id : AccountId) : ℚ :=
  match client.accounts id with
  | none => 0
  | some account => (account.posted leg).value.value

/-- The accounts are booked, and no stored transfer is about another one. -/
def Posted (client : InMemoryLedgerClient) : Prop :=
  ∀ leg id, client.postedOn leg id = postedTotal leg id client.transfers

variable {client : InMemoryLedgerClient}

theorem Posted.booked (posted : client.Posted) : client.Booked := by
  intro id account found leg
  rw [← posted leg id, postedOn, found]

theorem postedOn_setAccount {id other : AccountId} {account : Account} (leg : Leg) :
    (client.setAccount id account).postedOn leg other =
      if other = id then (account.posted leg).value.value else client.postedOn leg other := by
  unfold postedOn
  rw [accounts_setAccount]
  by_cases own : other = id <;> simp [own]

theorem Posted.createAccount (posted : client.Posted)
    (empty : ∀ leg, (account.posted leg).value.value = 0) : (client.createAccount account).1.Posted := by
  unfold InMemoryLedgerClient.createAccount
  cases found : client.accounts account.id with
  | some => exact posted
  | none =>
    intro leg id
    refine Eq.trans ?_ (posted leg id)
    simp only [Option.isSome_none, Bool.false_eq_true, if_false, postedOn_setAccount]
    split
    · next own => rw [empty, own, postedOn, found]
    · rfl

variable {transfer : Transfer}

theorem posted_created (created : client = .new ∨ client = .newUnbounded) : client.Posted := by
  rcases created with rfl | rfl <;> exact fun _ _ => rfl

/-- Both exact sums of a transfer are decimals. -/
def SumsDecimal (client : InMemoryLedgerClient) (transfer : Transfer) : Prop :=
  ∀ leg account, client.accounts (Leg.accountId leg transfer) = some account →
    Decimal.Representable ((account.posted leg).value.value + transfer.amount.value.value)

theorem sumsDecimal_of_empty {client : InMemoryLedgerClient} {transfer : Transfer}
    (empty : ∀ leg account, client.accounts (Leg.accountId leg transfer) = some account → (account.posted leg).value = .zero) :
    client.SumsDecimal transfer := by
  intro leg account found
  rw [empty leg account found, Decimal.value_zero, zero_add]
  exact ⟨transfer.amount.value, rfl⟩

variable [DecimalSums]

/-- An account comes without postings. A transfer that passes the checks has a new id, and
both exact sums are decimals. -/
def Permitted (client : InMemoryLedgerClient) : LedgerCall → Prop
  | .createAccount account => ∀ leg, (account.posted leg).value.value = 0
  | .createTransfer transfer => client.validated transfer = .ok () →
      (∀ stored ∈ client.transfers, stored.id ≠ transfer.id) ∧ client.SumsDecimal transfer

theorem createTransfer_exact (passed : client.passes transfer = true) (sums : client.SumsDecimal transfer) :
    ∃ debit debited credit credited, client.Checked transfer debit credit ∧
      client.createTransfer transfer = (client.afterPosting transfer debited credited, .ok transfer.id) ∧
      (∀ leg, (debited.posted leg).value.value = (debit.posted leg).value.value +
        if leg = .debit then transfer.amount.value.value else 0) ∧
      ∀ leg, (credited.posted leg).value.value = (credit.posted leg).value.value +
        if leg = .credit then transfer.amount.value.value else 0 := by
  obtain ⟨debit, credit, checked⟩ := checked_of_valid (passes_iff.mp passed).2
  obtain ⟨debited, debitPosted, debitAdds⟩ := Account.apply_exact checked.debitCurrency (sums .debit debit checked.debitFound)
  obtain ⟨credited, creditPosted, creditAdds⟩ :=
    Account.apply_exact checked.creditCurrency (sums .credit credit checked.creditFound)
  refine ⟨debit, debited, credit, credited, checked, ?_, debitAdds, creditAdds⟩
  rw [checked.createTransfer_eq passed, debitPosted, creditPosted]

theorem postedOn_createTransfer (sums : client.passes transfer = true → client.SumsDecimal transfer) (leg : Leg)
    (id : AccountId) : (client.createTransfer transfer).1.postedOn leg id =
      client.postedOn leg id + if client.passes transfer then transfer.adds leg id else 0 := by
  cases passed : client.passes transfer with
  | false => simp [createTransfer_refused passed]
  | true =>
    obtain ⟨debit, debited, credit, credited, checked, done, debitAdds, creditAdds⟩ := createTransfer_exact passed (sums passed)
    have debits : client.postedOn leg transfer.debitAccountId = (debit.posted leg).value.value := by
      simp [postedOn, checked.debitFound]
    have credits : client.postedOn leg transfer.creditAccountId = (credit.posted leg).value.value := by
      simp [postedOn, checked.creditFound]
    have set : (client.createTransfer transfer).1.postedOn leg id =
        ((client.setAccount transfer.debitAccountId debited).setAccount transfer.creditAccountId credited).postedOn leg id := by
      rw [done]
      rfl
    have different := checked.different
    rw [set, postedOn_setAccount, postedOn_setAccount, debitAdds, creditAdds, if_pos rfl, Transfer.adds]
    by_cases own : id = transfer.creditAccountId
    · subst own
      cases leg <;> simp [credits, Leg.accountId, different]
    · by_cases other : id = transfer.debitAccountId
      · subst other
        cases leg <;> simp [debits, Leg.accountId, own, Ne.symm different]
      · cases leg <;> simp [Leg.accountId, own, other, Ne.symm own, Ne.symm other]

theorem Posted.createTransfer (posted : client.Posted)
    (permitted : client.Permitted (.createTransfer transfer)) : (client.createTransfer transfer).1.Posted := by
  cases passed : client.passes transfer with
  | false =>
    rw [createTransfer_refused passed]
    exact posted
  | true =>
    obtain ⟨fresh, sums⟩ := permitted (passes_iff.mp passed).2
    obtain ⟨_, _, _, _, _, done, _⟩ := createTransfer_exact passed sums
    have stored : (client.createTransfer transfer).1.transfers = client.transfers ++ [transfer] := by
      rw [done]
      exact insertTransfer_fresh fresh
    intro leg id
    rw [stored, postedTotal_append, ← posted leg id, postedOn_createTransfer (fun _ => sums), if_pos passed]

/-- In every run of permitted calls the totals of all accounts stay those of the stored
transfers. -/
theorem permitted_calls_stay_booked {start : InMemoryLedgerClient} (created : start = .new ∨ start = .newUnbounded)
    (reached : system.Reaches (fun before call => before.Permitted call) start client) : client.Booked := by
  suffices posted : client.Posted from posted.booked
  apply reached.invariant Posted (posted_created created)
  intro before call after permitted stepped posted
  cases call with
  | createAccount =>
    obtain rfl := Option.some.inj stepped
    exact posted.createAccount permitted
  | createTransfer =>
    obtain rfl := Option.some.inj stepped
    exact posted.createTransfer permitted

omit [DecimalSums]

def twoAccounts : InMemoryLedgerClient :=
  ((new.createAccount (plainAccount 1)).1.createAccount (plainAccount 2)).1

theorem permitted_plainAccount (client : InMemoryLedgerClient) (id : UInt64) :
    @Permitted referenceSums client (.createAccount (plainAccount id)) := by
  intro leg
  cases leg <;> exact Decimal.value_zero

theorem permitted_tenDollars : @Permitted referenceSums twoAccounts (.createTransfer (plainTransfer 1 1 2 tenDollars)) := by
  have none : twoAccounts.transfers = [] := rfl
  refine fun _ => ⟨by simp [none], sumsDecimal_of_empty fun leg account found => ?_⟩
  cases leg <;> cases found <;> rfl

theorem tenDollars_stays_booked : ∃ client : InMemoryLedgerClient, client.transfers = [plainTransfer 1 1 2 tenDollars] ∧
      (client.accounts ⟨1⟩).map Account.debits = some tenDollars ∧ client.Booked := by
  have one : (@system referenceSums).Reaches (@Permitted referenceSums) .new _ :=
    .step .refl (permitted_plainAccount .new 1) rfl
  have two := System.Reaches.step one (permitted_plainAccount _ 2) rfl
  have three := System.Reaches.step two permitted_tenDollars rfl
  exact ⟨_, rfl, rfl, @permitted_calls_stay_booked _ referenceSums _ (.inl rfl) three⟩

/-- A transfer that is sent again is posted again, but stored once. -/
theorem resubmitted_posted_twice : ∃ client, (@system referenceSums).Reachable .new client ∧
    (client.accounts ⟨1⟩).map Account.debits = some twentyDollars ∧
    client.transfers = [plainTransfer 1 1 2 tenDollars] :=
  System.exists_reachable_of_run _ _ [.createAccount (plainAccount 1),
    .createAccount (plainAccount 2), .createTransfer (plainTransfer 1 1 2 tenDollars),
    .createTransfer (plainTransfer 1 1 2 tenDollars)] _ (by decide)

theorem resubmitted_not_booked : ∃ client, (@system referenceSums).Reachable .new client ∧ ¬client.Booked := by
  obtain ⟨client, reached, debits, transfers⟩ := resubmitted_posted_twice
  refine ⟨client, reached, fun booked => ?_⟩
  obtain ⟨account, found, twice⟩ := Option.map_eq_some_iff.mp debits
  have total := booked _ _ found .debit
  have stored : postedTotal .debit ⟨1⟩ client.transfers = tenDollars.value := by
    rw [transfers]
    exact add_zero _
  rw [stored, show (account.posted .debit).value = account.debits from rfl, twice] at total
  norm_num [twentyDollars, tenDollars, Decimal.value, Decimal.signed] at total

end InMemoryLedgerClient

end Blazil.Ledger

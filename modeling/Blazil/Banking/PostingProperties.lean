import Blazil.Foundation.Entries
import Blazil.Banking.CallsProperties
import Blazil.Foundation.Totals

/-! Credits and debits: what is left when one of them fails, and what the balance is after
many of them have run at once. -/

set_option autoImplicit false

namespace Blazil.Banking

open Foundation

variable {id : AccountId} {balance : Balance} {later : Phase} {backend : Backend} {request : CallRequest} {direction : Direction}
  {amount : Int}

section Alone

variable {stores before after : Stores} {accesses : List Access} {cause : BankError}

/-- The account is active and has what is asked for, and no access before that to the history fails. -/
structure WritesBalance (request : CallRequest) (direction : Direction) (amount : Int) (before : Stores)
    (accesses : List Access) : Prop where
  nonneg : 0 ≤ amount
  enough : ∃ account balance, before.accounts request.accountId = some account ∧ account.status = .active ∧
    before.balances request.accountId = some balance ∧
    ¬(direction = .debit ∧ account.type ≠ .loan ∧ balance.minorUnits < amount)
  works : ∀ access ∈ accesses.take 3, access.fault = none

theorem setBalance_written_eq_iff (stored : stores.balances id = some balance) :
    (stores.setBalance id (direction.written amount balance)).balances = stores.balances ↔ amount = 0 := by
  constructor
  · intro same
    have units := congrFun same id
    simp only [Stores.setBalance_balances, if_true, stored, Option.some.injEq] at units
    have sum : balance.minorUnits + direction.signed amount = balance.minorUnits :=
      congrArg Balance.minorUnits units
    cases direction <;> simp only [Direction.signed] at sum <;> omega
  · rintro rfl
    have same : direction.written 0 balance = balance := by
      cases direction <;> simp [Direction.written, Direction.signed]
    funext other
    rw [Stores.setBalance_balances, same]
    split
    · next own => rw [own, stored]
    · rfl

theorem runAlone_returned (posting : request.operation = .post direction amount) {phase : Phase}
    (returned : phase.returned = true)
    (accesses : List Access) : runAlone backend request stores phase accesses = (stores, phase) := by
  cases accesses with
  | nil => rfl
  | cons =>
    cases phase with
    | succeeded | failed => simp [runAlone, callStep, posting, postingStep]
    | _ => cases returned

/-- A credit or debit that fails leaves balances and history as they were, unless it has written the
balance and only the history failed. -/
theorem failed_posting_unchanged_iff (posting : request.operation = .post direction amount)
    (failed : runAlone backend request before .begun accesses = (after, .failed cause)) :
    (after.balances = before.balances ∧ after.history = before.history) ↔
      ¬(WritesBalance request direction amount before accesses ∧ amount ≠ 0) := by
  -- where the call ends before it writes, what kept it from writing contradicts the condition
  have early : ∀ {reason rest}, runAlone backend request before (.failed reason) rest = (after, .failed cause) →
      ¬WritesBalance request direction amount before accesses →
      ((after.balances = before.balances ∧ after.history = before.history) ↔
        ¬(WritesBalance request direction amount before accesses ∧ amount ≠ 0)) := by
    intro reason rest ended never
    rw [runAlone_returned posting rfl] at ended
    cases ended
    exact iff_of_true ⟨rfl, rfl⟩ fun both => never both.1
  rcases accesses with _ | ⟨first, rest⟩
  · cases failed
  simp only [runAlone, callStep, posting, postingStep, Stores.getAccount] at failed
  by_cases negative : amount < 0
  · simp only [negative, if_true] at failed
    exact early failed fun writes => absurd writes.nonneg (by omega)
  simp only [negative, if_false] at failed
  cases looked : first.fault with simp only [looked] at failed
  | some => exact early failed fun writes => by simpa [looked] using writes.works first (by simp)
  | none =>
  cases known : before.accounts request.accountId with simp only [known] at failed
  | none => exact early failed fun writes => by simpa [known] using writes.enough
  | some account =>
  by_cases active : account.status = .active
  swap
  · simp only [active, if_false] at failed
    exact early failed fun writes => by simpa [known, active] using writes.enough
  simp only [active, if_true] at failed
  rcases rest with _ | ⟨second, rest⟩
  · cases failed
  simp only [runAlone, callStep, posting, postingStep, Stores.getBalance] at failed
  cases read : second.fault with simp only [read] at failed
  | some => exact early failed fun writes => by simpa [read] using writes.works second (by simp)
  | none =>
  cases stored : before.balances request.accountId with simp only [stored] at failed
  | none =>
    cases backend with simp only at failed
    | memory | postgres => exact early failed fun writes => by simpa [stored] using writes.enough
  | some balance =>
  by_cases short : direction = .debit ∧ account.type ≠ .loan ∧ balance.minorUnits < amount
  · rw [if_pos short] at failed
    refine early failed fun writes => ?_
    obtain ⟨_, _, sameAccount, _, sameBalance, enough⟩ := writes.enough
    cases known.symm.trans sameAccount
    cases stored.symm.trans sameBalance
    exact enough short
  rw [if_neg short] at failed
  rcases rest with _ | ⟨third, rest⟩
  · cases failed
  simp only [runAlone, callStep, posting, postingStep] at failed
  cases set : third.fault with simp only [set] at failed
  | some => exact early failed fun writes => by simpa [set] using writes.works third (by simp)
  | none =>
  have writes : WritesBalance request direction amount before (first :: second :: third :: rest) :=
    ⟨Int.not_lt.mp negative, ⟨account, balance, known, active, stored, short⟩, by simp [looked, read, set]⟩
  rcases rest with _ | ⟨fourth, rest⟩
  · cases failed
  simp only [runAlone, callStep, posting, postingStep] at failed
  cases recorded : (before.setBalance request.accountId (direction.written amount balance)).append backend
      (request.transaction direction amount (direction.written amount balance) fourth.transactionId) fourth with
    simp only [recorded] at failed
  | ok =>
    rw [runAlone_returned posting rfl] at failed
    cases failed
  | error =>
    rw [runAlone_returned posting rfl] at failed
    cases failed
    rw [setBalance_written_eq_iff stored]
    simp [writes]

end Alone

def posting (direction : Direction) (amount : Int) : CallRequest :=
  ⟨.post direction amount, "acc-1", "USD", "transfer", "pay-1"⟩

def oneAccount : Stores where
  accounts id := if id = "acc-1" then some ⟨.checking, .active⟩ else none
  balances id := if id = "acc-1" then some ⟨100, "USD"⟩ else none
  history := []

def works (transactionId : TransactionId) : Access := ⟨none, transactionId⟩

def fails : Access := ⟨some "connection reset", ""⟩

/-- A debit of all that is there fails when the balance is written. -/
theorem refused_debit_unchanged : (runAlone .postgres (posting .debit 100) oneAccount .begun [works "", works "", fails]).2 =
      .failed (.wrapped "Debit store" (.wrapped "set balance" (.store "connection reset"))) ∧
    (runAlone .postgres (posting .debit 100) oneAccount .begun [works "", works "", fails]).1.balances = oneAccount.balances := by
  have refused : (runAlone .postgres (posting .debit 100) oneAccount .begun [works "", works "", fails]).2 =
      .failed (.wrapped "Debit store" (.wrapped "set balance" (.store "connection reset"))) := by decide
  refine ⟨refused, ((failed_posting_unchanged_iff rfl (Prod.ext rfl refused)).mpr fun writes => ?_).1⟩
  cases writes.1.works fails (by simp)

/-- The transaction of a credit cannot be recorded: the call fails, and the balance has
grown. -/
theorem failed_credit_changes_balance : (runAlone .postgres (posting .credit 10) oneAccount .begun
      [works "", works "", works "", fails]).2 = .failed (.wrapped "Credit history"
          (.wrapped "append transaction" (.store "connection reset"))) ∧
    oneAccount.balances "acc-1" = some ⟨100, "USD"⟩ ∧ (runAlone .postgres (posting .credit 10) oneAccount .begun
      [works "", works "", works "", fails]).1.balances "acc-1" = some ⟨110, "USD"⟩ := by
  decide

namespace Call

def effect (call : Call) : Int :=
  match call.request.operation, call.phase with
  | .post direction amount, .posted _ => direction.signed amount
  | .post direction amount, .succeeded _ => direction.signed amount
  | _, _ => 0

def succeededAmount (call : Call) : Int :=
  match call.request.operation, call.phase with
  | .post direction amount, .succeeded _ => direction.signed amount
  | _, _ => 0

def effectOn (id : AccountId) (call : Call) : Int :=
  if call.request.accountId = id then call.effect else 0

theorem effect_of_close {request} (closing : request.operation = .close)
    (phase : Phase) : effect ⟨request, phase⟩ = 0 := by
  simp [effect, closing]

theorem effect_posted (posting : request.operation = .post direction amount) (written : Balance) :
    effect ⟨request, .posted written⟩ = direction.signed amount := by
  simp [effect, posting]

theorem effect_succeeded (posting : request.operation = .post direction amount) (written : Option Balance) :
    effect ⟨request, .succeeded written⟩ = direction.signed amount := by
  simp [effect, posting]

theorem effect_of_returned {call : Call} (returned : call.phase.returned = true) : call.effect = call.succeededAmount := by
  unfold effect succeededAmount
  cases call.request.operation <;> cases phase : call.phase <;> simp_all [Phase.returned]

end Call

namespace Bank

/-- No call writes a balance that has changed since it was read, and a transaction is
recorded whenever a balance has been written. -/
def undisturbed (bank : Bank) : BankLabel → Bool
  | .begin _ => true
  | .access index access =>
    match bank.calls[index]? with
    | none => true
    | some call =>
      match call.phase with
      | .read balance => bank.stores.balances call.request.accountId = some balance
      | .posted _ => access.fault = none ∧ ∀ stored ∈ bank.stores.history, stored.id ≠ access.transactionId
      | _ => true

/-- The balance of an account is what it was plus what the calls have added. -/
def AddsUp (start : Stores) (bank : Bank) : Prop :=
  ∀ id before after, start.balances id = some before → bank.stores.balances id = some after →
    after.minorUnits = before.minorUnits + total (Call.effectOn id) bank.calls

variable {bank : Bank} {access : Access} {current phase : Phase} {stores : Stores}

theorem units_of_advances {index : Nat} (found : bank.calls[index]? = some ⟨request, current⟩)
    (permitted : bank.undisturbed (.access index access) = true)
    (advances : Advances backend request bank.stores access current stores phase)
    {after : Balance} (stored : stores.balances id = some after) :
    ∃ before, bank.stores.balances id = some before ∧ after.minorUnits = before.minorUnits +
        (Call.effectOn id ⟨request, phase⟩ - Call.effectOn id ⟨request, current⟩) := by
  simp only [undisturbed, found] at permitted
  -- Most steps touch neither the balances nor what the call has added to them.
  have unchanged : ∀ later : Phase, stores.balances = bank.stores.balances →
      Call.effect ⟨request, later⟩ = Call.effect ⟨request, current⟩ →
      ∃ before, bank.stores.balances id = some before ∧ after.minorUnits = before.minorUnits +
          (Call.effectOn id ⟨request, later⟩ - Call.effectOn id ⟨request, current⟩) := by
    intro later kept same
    rw [kept] at stored
    refine ⟨after, stored, ?_⟩
    simp [Call.effectOn, same]
  cases advances with
  | refused early running =>
    apply unchanged _ rfl
    cases current with
    | posted written => exact absurd rfl (early written)
    | succeeded => cases running
    | begun | found _ | read _ | checked | failed _ => simp [Call.effect]
  | found | read | closeFound => exact unchanged _ rfl (by simp [Call.effect])
  | @posted direction amount balance posting =>
    have same : bank.stores.balances request.accountId = some balance :=
      of_decide_eq_true permitted
    rw [Stores.setBalance_balances] at stored
    split at stored
    · next own =>
      subst own
      obtain rfl := Option.some.inj stored
      have added := Call.effect_posted posting (direction.written amount balance)
      have nothing : Call.effect ⟨request, .read balance⟩ = 0 := by simp [Call.effect]
      refine ⟨balance, same, ?_⟩
      simp only [Call.effectOn, if_true, added, nothing, Int.sub_zero]
      rfl
    · next other =>
      refine ⟨after, stored, ?_⟩
      simp [Call.effectOn, Ne.symm other]
  | recorded posting =>
    exact unchanged _ rfl ((Call.effect_succeeded posting _).trans (Call.effect_posted posting _).symm)
  | unrecorded _ fails =>
    obtain ⟨works, fresh⟩ := of_decide_eq_true permitted
    rcases fails with fault | ⟨transaction, member, same⟩
    · exact absurd works fault
    · exact absurd same (fresh transaction member)
  | closeChecked closing | closed closing =>
    exact unchanged _ rfl ((Call.effect_of_close closing _).trans (Call.effect_of_close closing _).symm)

variable {label : BankLabel} {next : Stores}

theorem AddsUp.step {start : Stores} {next : Bank} (addsUp : AddsUp start bank)
    (permitted : bank.undisturbed label = true) (stepped : (system backend).step bank label = some next) : AddsUp start next := by
  intro id before after beforeStored afterStored
  rcases step_cases stepped with
    ⟨request, rfl, rfl⟩ | ⟨index, access, call, stores, phase, rfl, found, advances, rfl⟩
  · have begun : Call.effectOn id ⟨request, .begun⟩ = 0 := by
      simp [Call.effectOn, Call.effect]
    simp only [total_append, total_cons, total_nil, begun]
    have sum := addsUp id before after beforeStored afterStored
    omega
  · obtain ⟨current, currentStored, _⟩ :=
      units_of_advances found permitted advances afterStored
    have sum := addsUp id before current beforeStored currentStored
    rw [total_set found]
    change after.minorUnits = _ + (_ + (_ - Call.effectOn id ⟨call.request, call.phase⟩))
    omega

def typeOf (stores : Stores) (id : AccountId) : Option AccountType :=
  (stores.accounts id).map Account.type

def Covers (stores : Stores) (call : Call) : Prop :=
  match call.request.operation, call.phase with
  | .post _ amount, .found type => 0 ≤ amount ∧ typeOf stores call.request.accountId = some type
  | .post direction amount, .read balance =>
    typeOf stores call.request.accountId ≠ some .loan → 0 ≤ balance.minorUnits + direction.signed amount
  | _, _ => True

/-- No balance is negative but those of loans, and no call is about to make one so. -/
structure Covered (bank : Bank) : Prop where
  balances : ∀ id balance, bank.stores.balances id = some balance → typeOf bank.stores id ≠ some .loan → 0 ≤ balance.minorUnits
  calls : ∀ call ∈ bank.calls, Covers bank.stores call

theorem typeOf_of_advances
    (advances : Advances backend request stores access phase next later) : typeOf next = typeOf stores := by
  cases advances with
  | closed =>
    funext id
    unfold typeOf
    rw [Stores.setStatus_accounts]
    split
    · next own =>
      subst own
      cases stores.accounts request.accountId <;> rfl
    · rfl
  | refused | found | read | posted | recorded | unrecorded | closeFound | closeChecked => rfl

theorem Covers.of_typeOf {call : Call} (covers : Covers stores call) (same : typeOf next = typeOf stores) : Covers next call := by
  unfold Covers at covers ⊢
  rw [same]
  exact covers

section

variable (covered : bank.Covered) (covers : Covers bank.stores ⟨request, current⟩)
  (advances : Advances backend request bank.stores access current stores phase)
include covered covers advances

theorem covers_of_advances : Covers bank.stores ⟨request, phase⟩ := by
  cases advances with
  | found posting nonneg known =>
    simp only [Covers, posting]
    exact ⟨nonneg, by simp [typeOf, known]⟩
  | @read direction _ _ balance posting stored enough =>
    simp only [Covers, posting] at covers ⊢
    obtain ⟨_, typed⟩ := covers
    intro notLoan
    have before := covered.balances _ balance stored notLoan
    cases direction with
    | credit =>
      simp only [Direction.signed]
      omega
    | debit =>
      have within := enough rfl fun loan => notLoan (loan ▸ typed)
      simp only [Direction.signed]
      omega
  | closeFound closing => simp only [Covers, closing]
  | refused | posted | recorded | unrecorded | closeChecked | closed => simp [Covers]

theorem balances_of_advances (stored : stores.balances id = some balance)
    (notLoan : typeOf bank.stores id ≠ some .loan) : 0 ≤ balance.minorUnits := by
  cases advances with
  | posted posting =>
    simp only [Covers, posting] at covers
    rw [Stores.setBalance_balances] at stored
    split at stored
    · next own =>
      subst own
      obtain rfl := Option.some.inj stored
      exact covers notLoan
    · exact covered.balances id balance stored notLoan
  | refused | found | read | recorded | unrecorded | closeFound | closeChecked | closed =>
    exact covered.balances id balance stored notLoan

end

theorem Covered.step {next : Bank} (covered : bank.Covered)
    (stepped : (system backend).step bank label = some next) : next.Covered := by
  rcases step_cases stepped with
    ⟨request, rfl, rfl⟩ | ⟨index, access, call, stores, phase, rfl, found, advances, rfl⟩
  · refine ⟨covered.balances, ?_⟩
    exact holds_after_concat covered.calls (by simp [Covers])
  · have covers := covered.calls call (List.mem_of_getElem? found)
    have types := typeOf_of_advances advances
    refine ⟨?_, ?_⟩
    · intro id balance stored notLoan
      rw [types] at notLoan
      exact balances_of_advances covered covers advances stored notLoan
    · exact holds_after_set (fun other member => (covered.calls other member).of_typeOf types)
        ((covers_of_advances covered covers advances).of_typeOf types)

/-- Whatever calls run at once, no account but a loan is overdrawn. In runs in which no
balance changes between the read and the write of a call and every written balance is
recorded, the calls that succeeded add up to the change of the balance. -/
theorem balances_covered_and_add_up {start bank : Bank} (idle : start.calls = [])
    (covered : ∀ id balance, start.stores.balances id = some balance →
      typeOf start.stores id ≠ some .loan → 0 ≤ balance.minorUnits)
    (reached : (system backend).Reachable start bank) :
    (∀ id balance, bank.stores.balances id = some balance → typeOf bank.stores id ≠ some .loan → 0 ≤ balance.minorUnits) ∧
    ((system backend).Reaches (fun before label => before.undisturbed label = true) start bank →
      ∀ id before after, start.stores.balances id = some before → bank.stores.balances id = some after →
        (∀ call ∈ bank.calls, call.request.accountId = id → call.phase.returned = true) →
        after.minorUnits = before.minorUnits + total (fun call => if call.request.accountId = id then call.succeededAmount else 0)
            bank.calls) := by
  refine ⟨?_, ?_⟩
  · have kept : bank.Covered := by
      apply reached.invariant Covered ⟨covered, by simp [idle]⟩
      intro before label after _ stepped covered
      exact covered.step stepped
    exact kept.balances
  · intro undisturbed id before after beforeStored afterStored returned
    have sum : AddsUp start.stores bank := by
      apply undisturbed.invariant (AddsUp start.stores)
      · intro id before after beforeStored afterStored
        rw [beforeStored, Option.some.injEq] at afterStored
        simp [idle, afterStored]
      · intro before label after permitted stepped addsUp
        exact addsUp.step permitted stepped
    rw [sum id before after beforeStored afterStored]
    congr 1
    apply total_congr
    intro call member
    unfold Call.effectOn
    split
    · next own => exact Call.effect_of_returned (returned call member own)
    · rfl

def oneByOne : List BankLabel :=
  [.begin (posting .credit 10), .begin (posting .debit 30),
   .access 0 (works ""), .access 0 (works ""), .access 0 (works ""), .access 0 (works "t-1"),
   .access 1 (works ""), .access 1 (works ""), .access 1 (works ""), .access 1 (works "t-2")]

def bothRead : List BankLabel :=
  [.begin (posting .credit 10), .begin (posting .credit 10),
   .access 0 (works ""), .access 1 (works ""), .access 0 (works ""), .access 1 (works ""),
   .access 0 (works ""), .access 1 (works ""), .access 0 (works "t-1"), .access 1 (works "t-2")]

theorem oneByOne_covered_and_adds_up : ∃ bank : Bank, (system .postgres).Reachable ⟨oneAccount, []⟩ bank ∧
    bank.calls = [⟨posting .credit 10, .succeeded (some ⟨110, "USD"⟩)⟩,
      ⟨posting .debit 30, .succeeded (some ⟨80, "USD"⟩)⟩] ∧
    ∀ balance, bank.stores.balances "acc-1" = some balance → 0 ≤ balance.minorUnits ∧ balance.minorUnits = 100 + (10 + -30) := by
  obtain ⟨bank, reaches, calls, type⟩ := System.exists_reaches_of_run (system .postgres)
    (fun before label => before.undisturbed label = true) ⟨oneAccount, []⟩ oneByOne
    (fun bank => bank.calls = [⟨posting .credit 10, .succeeded (some ⟨110, "USD"⟩)⟩,
        ⟨posting .debit 30, .succeeded (some ⟨80, "USD"⟩)⟩] ∧
      typeOf bank.stores "acc-1" = some .checking) (by decide) (by decide)
  have start : ∀ id balance, oneAccount.balances id = some balance →
      typeOf oneAccount id ≠ some .loan → 0 ≤ balance.minorUnits := by
    intro id balance stored _
    simp only [oneAccount] at stored
    split at stored
    · obtain rfl := Option.some.inj stored
      decide
    · cases stored
  obtain ⟨covered, sums⟩ := balances_covered_and_add_up rfl start reaches.reachable
  refine ⟨bank, reaches.reachable, calls, ?_⟩
  intro balance stored
  refine ⟨covered _ _ stored (by simp [type]), ?_⟩
  rw [sums reaches "acc-1" ⟨100, "USD"⟩ balance rfl stored (by simp [calls, Phase.returned]), calls]
  decide

/-- Both credits of 10 succeed on a balance of 100, and 110 is left. -/
theorem bothRead_loses_credit : ∃ bank : Bank, (system .postgres).Reachable ⟨oneAccount, []⟩ bank ∧
    bank.calls = [⟨posting .credit 10, .succeeded (some ⟨110, "USD"⟩)⟩,
      ⟨posting .credit 10, .succeeded (some ⟨110, "USD"⟩)⟩] ∧ oneAccount.balances "acc-1" = some ⟨100, "USD"⟩ ∧
    bank.stores.balances "acc-1" = some ⟨110, "USD"⟩ :=
  System.exists_reachable_of_run (system .postgres) ⟨oneAccount, []⟩ bothRead
    (fun bank => bank.calls = [⟨posting .credit 10, .succeeded (some ⟨110, "USD"⟩)⟩,
        ⟨posting .credit 10, .succeeded (some ⟨110, "USD"⟩)⟩] ∧
      oneAccount.balances "acc-1" = some ⟨100, "USD"⟩ ∧
      bank.stores.balances "acc-1" = some ⟨110, "USD"⟩) (by decide +kernel)

end Bank

end Blazil.Banking

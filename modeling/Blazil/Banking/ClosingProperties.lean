import Blazil.Banking.PostingProperties

/-! The closing of accounts beside credits and debits. The balance is checked before the
status is changed, and a posting looks at the status before it changes the balance: a
closed account is empty in the runs in which the two do not overlap. -/

set_option autoImplicit false

namespace Blazil.Banking

open Foundation

variable {request : CallRequest} {id : AccountId}

namespace Call

/-- The call has found the account active and may still write its balance. -/
def posts (id : AccountId) (call : Call) : Bool :=
  call.request.accountId = id &&
    match call.request.operation, call.phase with
    | .post _ _, .found _ => true
    | .post _ _, .read _ => true
    | _, _ => false

/-- The call has checked the balance and may still close the account. -/
def closes (id : AccountId) (call : Call) : Bool :=
  call.request.accountId = id &&
    match call.request.operation, call.phase with
    | .close, .checked => true
    | _, _ => false

theorem posts_found {direction amount} (posting : request.operation = .post direction amount) (type : AccountType) :
    posts request.accountId ⟨request, .found type⟩ = true := by
  simp [posts, posting]

theorem closes_of_unchecked {phase : Phase} (other : phase ≠ .checked) : closes id ⟨request, phase⟩ = false := by
  unfold closes
  cases request.operation <;> cases phase <;> simp_all

end Call

namespace Bank

/-- A posting looks an account up only while no call has checked it for closing, and a closing
reads the balance, without a failure in the database, only while no posting is under way. -/
def exclusive (backend : Backend) (bank : Bank) : BankLabel → Bool
  | .begin _ => true
  | .access index access =>
    match bank.calls[index]? with
    | none => true
    | some call =>
      match call.request.operation, call.phase with
      | .post _ _, .begun => bank.calls.all fun other => !other.closes call.request.accountId
      | .close, .begun => backend = .postgres || bank.calls.all fun other => !other.posts call.request.accountId
      | .close, .found _ => access.fault = none && bank.calls.all fun other => !other.posts call.request.accountId
      | _, _ => true

/-- The account is closed, or a call may close it without another look at the balance. -/
def Ending (bank : Bank) (id : AccountId) : Prop :=
  (∃ account, bank.stores.accounts id = some account ∧ account.status = .closed) ∨ ∃ call ∈ bank.calls, call.closes id = true

/-- An account that is ending is empty and stays so. -/
def Settled (bank : Bank) (id : AccountId) : Prop :=
  bank.Ending id → (∀ balance, bank.stores.balances id = some balance → balance.minorUnits = 0) ∧
    ∀ call ∈ bank.calls, call.posts id = false

variable {backend : Backend} {bank : Bank} {index : Nat} {current phase : Phase} {stores : Stores}

theorem Settled.begin (settled : bank.Settled id) : Settled { bank with calls := bank.calls ++ [⟨request, .begun⟩] } id := by
  intro ending
  have before : bank.Ending id := by
    rcases ending with closed | ⟨call, member, closes⟩
    · exact .inl closed
    · rcases mem_concat.mp member with earlier | rfl
      · exact .inr ⟨call, earlier, closes⟩
      · rw [Call.closes_of_unchecked (by simp)] at closes
        cases closes
  refine ⟨(settled before).1, ?_⟩
  exact holds_after_concat ((settled before).2) (by simp [Call.posts])

theorem Ending.of_set (ending : Ending ⟨stores, bank.calls.set index ⟨request, phase⟩⟩ id)
    (kept : stores.accounts id = bank.stores.accounts id)
    (unclosing : Call.closes id ⟨request, phase⟩ = false) : bank.Ending id := by
  rcases ending with ⟨account, known, closed⟩ | ⟨call, member, closes⟩
  · exact .inl ⟨account, kept ▸ known, closed⟩
  · rcases List.mem_or_eq_of_mem_set member with earlier | rfl
    · exact .inr ⟨call, earlier, closes⟩
    · rw [unclosing] at closes
      cases closes

theorem Settled.of_set (settled : bank.Settled id) (found : bank.calls[index]? = some ⟨request, current⟩)
    (accounts : stores.accounts id = bank.stores.accounts id) (balances : stores.balances id = bank.stores.balances id)
    (closes : Call.closes id ⟨request, phase⟩ = false)
    (posts : Call.posts id ⟨request, phase⟩ = true → Call.posts id ⟨request, current⟩ = true) :
    Settled ⟨stores, bank.calls.set index ⟨request, phase⟩⟩ id := by
  intro ending
  obtain ⟨empty, idle⟩ := settled (ending.of_set accounts closes)
  refine ⟨?_, ?_⟩
  · intro balance stored
    exact empty balance (balances ▸ stored)
  · refine holds_after_set idle ?_
    have before := idle _ (List.mem_of_getElem? found)
    exact Bool.eq_false_iff.mpr fun posting => by simp [posts posting] at before

theorem frame_of_advances {access} (advances : Advances backend request bank.stores access current stores phase)
    (other : request.accountId ≠ id) :
    stores.accounts id = bank.stores.accounts id ∧ stores.balances id = bank.stores.balances id := by
  cases advances with
  | posted | closed => simp [Ne.symm other]
  | refused | found | read | recorded | unrecorded | closeFound | closeChecked => exact ⟨rfl, rfl⟩

theorem Settled.advance (settled : bank.Settled id) (found : bank.calls[index]? = some ⟨request, current⟩)
    {access : Access} (permitted : bank.exclusive backend (.access index access) = true)
    (advances : Advances backend request bank.stores access current stores phase) :
    Settled ⟨stores, bank.calls.set index ⟨request, phase⟩⟩ id := by
  by_cases own : request.accountId = id
  swap
  · obtain ⟨accounts, balances⟩ := frame_of_advances advances own
    exact settled.of_set found accounts balances (by simp [Call.closes, own]) (by simp [Call.posts, own])
  subst own
  simp only [exclusive, found] at permitted
  have member := List.mem_of_getElem? found
  cases advances with
  | refused | recorded | unrecorded =>
    exact settled.of_set found rfl rfl (Call.closes_of_unchecked (by simp)) (by simp [Call.posts])
  | @found _ _ account posting _ known active =>
    rw [posting] at permitted
    -- The account was found active, and no call is about to close it.
    intro ending
    rcases ending.of_set rfl (Call.closes_of_unchecked (by simp)) with
      ⟨other, same, closed⟩ | ⟨call, earlier, closes⟩
    · rw [known, Option.some.injEq] at same
      rw [← same, active] at closed
      cases closed
    · have not := List.all_eq_true.mp permitted call earlier
      simp [closes] at not
  | read posting =>
    exact settled.of_set found rfl rfl (Call.closes_of_unchecked (by simp)) fun _ => Call.posts_found posting _
  | posted posting =>
    intro ending
    have before := ending.of_set rfl (Call.closes_of_unchecked (by simp))
    have idle := (settled before).2 _ member
    simp [Call.posts, posting] at idle
  | closeFound closing =>
    refine settled.of_set found rfl rfl (Call.closes_of_unchecked (by simp)) ?_
    simp [Call.posts, closing]
  | closeChecked closing reading zero =>
    intro _
    have checked : (∀ balance, bank.stores.balances request.accountId = some balance → balance.minorUnits = 0) ∧
        ∀ call ∈ bank.calls, call.posts request.accountId = false := by
      rw [closing] at permitted
      rcases reading with ⟨rfl, rfl⟩ | ⟨⟨_, rfl⟩, rfl⟩
      · refine ⟨zero.resolve_right (by simp), ?_⟩
        simpa using permitted
      · obtain ⟨works, free⟩ := Bool.and_eq_true_iff.mp permitted
        refine ⟨zero.resolve_right (by simp [of_decide_eq_true works]), ?_⟩
        simpa using free
    exact ⟨checked.1, holds_after_set checked.2 (by simp [Call.posts])⟩
  | closed closing =>
    intro _
    have before : bank.Ending request.accountId :=
      .inr ⟨_, member, by simp [Call.closes, closing]⟩
    obtain ⟨empty, idle⟩ := settled before
    exact ⟨empty, holds_after_set idle (by simp [Call.posts])⟩

/-- In runs in which postings and the closing of an account exclude each other and no lookup
of a balance for a closing fails in the database, a closed account is empty. -/
theorem closed_accounts_empty {start : Bank} (idle : start.calls = [])
    (empty : ∀ id account balance, start.stores.accounts id = some account →
      account.status = .closed → start.stores.balances id = some balance → balance.minorUnits = 0)
    (reached : (system backend).Reaches (fun before label => before.exclusive backend label = true) start bank) :
    ∀ id account balance, bank.stores.accounts id = some account → account.status = .closed →
      bank.stores.balances id = some balance → balance.minorUnits = 0 := by
  have settled : ∀ id, bank.Settled id := by
    apply reached.invariant fun bank => ∀ id, bank.Settled id
    · intro id ending
      rcases ending with ⟨account, known, closed⟩ | ⟨_, member, _⟩
      · exact ⟨fun balance stored => empty id account balance known closed stored, by simp [idle]⟩
      · simp [idle] at member
    · intro before label after permitted stepped settled id
      rcases step_cases stepped with
        ⟨request, rfl, rfl⟩ | ⟨index, access, call, stores, phase, rfl, found, advances, rfl⟩
      · exact (settled id).begin
      · exact (settled id).advance found permitted advances
  intro id account balance known closed stored
  exact (settled id (.inl ⟨account, known, closed⟩)).1 balance stored

def closing : CallRequest := ⟨.close, "acc-1", "", "", ""⟩

def emptyAccount : Stores :=
  oneAccount.setBalance "acc-1" ⟨0, "USD"⟩

def emptiedAndClosed : List BankLabel :=
  [.begin (posting .debit 100), .access 0 (works ""), .access 0 (works ""), .access 0 (works ""),
   .access 0 (works "t-1"), .begin closing, .access 1 (works ""), .access 1 (works ""),
   .access 1 (works "")]

def closedUnderCredit (backend : Backend) : List BankLabel :=
  [.begin (posting .credit 10), .access 0 (works ""), .begin closing] ++ (match backend with
      | .memory => [.access 1 (works ""), .access 1 (works "")]
      | .postgres => [.access 1 (works ""), .access 1 (works ""), .access 1 (works "")]) ++
    [.access 0 (works ""), .access 0 (works ""), .access 0 (works "t-1")]

theorem emptied_account_empty : ∃ bank : Bank, (system .postgres).Reachable ⟨oneAccount, []⟩ bank ∧
    bank.stores.accounts "acc-1" = some ⟨.checking, .closed⟩ ∧
    ∀ balance, bank.stores.balances "acc-1" = some balance → balance.minorUnits = 0 := by
  obtain ⟨bank, reaches, closed⟩ := System.exists_reaches_of_run (system .postgres)
    (fun before label => before.exclusive .postgres label = true) ⟨oneAccount, []⟩
    emptiedAndClosed (fun bank => bank.stores.accounts "acc-1" = some ⟨.checking, .closed⟩)
    (by decide) (by decide)
  have start : ∀ id account balance, oneAccount.accounts id = some account →
      account.status = .closed → oneAccount.balances id = some balance →
      balance.minorUnits = 0 := by
    intro id account balance known closed _
    simp only [oneAccount] at known
    split at known
    · obtain rfl := Option.some.inj known
      cases closed
    · cases known
  exact ⟨bank, reaches.reachable, closed, fun balance stored =>
    closed_accounts_empty rfl start reaches "acc-1" _ balance closed rfl stored⟩

/-- Both calls return and a closed account is left with 10, in memory and in the database; and
when the lookup of the balance fails in the database, an account with 100 is closed. -/
theorem closed_account_with_balance : (∀ backend, ∃ bank : Bank, (system backend).Reachable ⟨emptyAccount, []⟩ bank ∧
      bank.calls.map Call.phase = [.succeeded (some ⟨10, "USD"⟩), .succeeded none] ∧
      bank.stores.accounts "acc-1" = some ⟨.checking, .closed⟩ ∧ bank.stores.balances "acc-1" = some ⟨10, "USD"⟩) ∧
    ∃ bank : Bank, (system .postgres).Reachable ⟨oneAccount, []⟩ bank ∧ bank.calls.map Call.phase = [.succeeded none] ∧
      bank.stores.accounts "acc-1" = some ⟨.checking, .closed⟩ ∧
      bank.stores.balances "acc-1" = some ⟨100, "USD"⟩ := by
  refine ⟨?_, ?_⟩
  · intro backend
    apply System.exists_reachable_of_run (system backend) ⟨emptyAccount, []⟩ (closedUnderCredit backend)
    cases backend <;> decide +kernel
  · apply System.exists_reachable_of_run (system .postgres) ⟨oneAccount, []⟩
      [.begin closing, .access 0 (works ""), .access 0 fails, .access 0 (works "")]
    decide

end Bank

end Blazil.Banking

import Blazil.Banking.Calls

/-! Everything that one step of a call can do. -/

set_option autoImplicit false

namespace Blazil.Banking

inductive Advances (backend : Backend) (request : CallRequest) (stores : Stores)
    (access : Access) : Phase → Stores → Phase → Prop where
  | refused {phase cause} (early : ∀ written, phase ≠ .posted written) (running : phase.returned = false) :
      Advances backend request stores access phase stores (.failed cause)
  | found {direction amount account} (posting : request.operation = .post direction amount) (nonneg : 0 ≤ amount)
      (known : stores.accounts request.accountId = some account)
      (active : account.status = .active) :
      Advances backend request stores access .begun stores (.found account.type)
  | read {direction amount type balance} (posting : request.operation = .post direction amount)
      (stored : stores.balances request.accountId = some balance)
      (covered : direction = .debit → type ≠ .loan → amount ≤ balance.minorUnits) :
      Advances backend request stores access (.found type) stores (.read balance)
  | posted {direction amount balance} (posting : request.operation = .post direction amount) :
      Advances backend request stores access (.read balance)
        (stores.setBalance request.accountId (direction.written amount balance))
        (.posted (direction.written amount balance))
  | recorded {direction amount written}
      (posting : request.operation = .post direction amount) (works : access.fault = none)
      (fresh : ∀ stored ∈ stores.history, stored.id ≠ access.transactionId) :
      Advances backend request stores access (.posted written) (stores.addTransaction
          (request.transaction direction amount written access.transactionId))
        (.succeeded (some written))
  | unrecorded {direction amount written reason} (posting : request.operation = .post direction amount)
      (fails : access.fault ≠ none ∨ ∃ stored ∈ stores.history, stored.id = access.transactionId) :
      Advances backend request stores access (.posted written) stores
        (.failed (.wrapped (direction.name ++ " history") reason))
  | closeFound {account : Account} (closing : request.operation = .close) (postgres : backend = .postgres) :
      Advances backend request stores access .begun stores (.found account.type)
  | closeChecked {phase} (closing : request.operation = .close) (reading : phase = .begun ∧ backend = .memory ∨
        (∃ type, phase = .found type) ∧ backend = .postgres)
      (zero : (∀ balance, stores.balances request.accountId = some balance →
        balance.minorUnits = 0) ∨ backend = .postgres ∧ access.fault ≠ none) :
      Advances backend request stores access phase stores .checked
  | closed (closing : request.operation = .close) : Advances backend request stores access .checked
        (stores.setStatus request.accountId .closed) (.succeeded none)

section Inversion

variable {backend : Backend} {request : CallRequest} {stores next : Stores} {access : Access} {phase later : Phase}
  {id : AccountId} {balance : Balance}

theorem Stores.getAccount_ok {account : Account}
    (found : stores.getAccount id access = .ok account) : stores.accounts id = some account := by
  unfold Stores.getAccount at found
  split at found
  · cases found
  · split at found
    · cases found
    · next known => rw [known, Except.ok.inj found]

theorem Stores.getBalance_ok (found : stores.getBalance backend id access = .ok balance) : stores.balances id = some balance := by
  unfold Stores.getBalance at found
  split at found
  · cases found
  · split at found
    · next known => rw [known, Except.ok.inj found]
    · split at found <;> cases found

theorem Stores.zero_of_getBalance (found : stores.getBalance backend id access = .ok balance)
    (zero : balance.minorUnits = 0) : ∀ stored, stores.balances id = some stored → stored.minorUnits = 0 := by
  intro stored known
  rw [Stores.getBalance_ok found, Option.some.injEq] at known
  rw [← known]
  exact zero

theorem Stores.getBalance_error {cause : BankError} (failed : stores.getBalance backend id access = .error cause) :
    stores.balances id = none ∨ access.fault ≠ none := by
  unfold Stores.getBalance at failed
  split at failed
  · next fault => exact .inr (by rw [fault]; exact Option.some_ne_none _)
  · split at failed
    · cases failed
    · next unknown => exact .inl unknown

theorem postingStep_advances {direction : Direction} {amount : Int} (posting : request.operation = .post direction amount)
    (stepped : postingStep backend request direction amount stores access phase =
      some (next, later)) : Advances backend request stores access phase next later := by
  unfold postingStep at stepped
  split at stepped
  · split at stepped
    · cases stepped
      exact .refused (by simp) rfl
    · next nonneg =>
      split at stepped
      · cases stepped
        exact .refused (by simp) rfl
      · next account found =>
        split at stepped
        · next active =>
          cases stepped
          exact .found posting (Int.not_lt.mp nonneg) (Stores.getAccount_ok found) active
        · cases stepped
          exact .refused (by simp) rfl
  · split at stepped
    · cases stepped
      exact .refused (by simp) rfl
    · next type balance found =>
      split at stepped
      · cases stepped
        exact .refused (by simp) rfl
      · next covered =>
        cases stepped
        refine .read posting (Stores.getBalance_ok found) ?_
        intro debits notLoan
        exact Int.not_lt.mp fun less => covered ⟨debits, notLoan, less⟩
  · split at stepped
    · cases stepped
      exact .refused (by simp) rfl
    · cases stepped
      exact .posted posting
  · split at stepped
    · next refused =>
      cases stepped
      refine .unrecorded posting ?_
      unfold Stores.append at refused
      split at refused
      · next fault => exact .inl (by rw [fault]; exact Option.some_ne_none _)
      · split at refused
        · next stored =>
          rw [List.any_eq_true] at stored
          obtain ⟨transaction, member, same⟩ := stored
          exact .inr ⟨transaction, member, of_decide_eq_true same⟩
        · cases refused
    · next recorded =>
      cases stepped
      unfold Stores.append at recorded
      split at recorded
      · cases recorded
      · next works =>
        split at recorded
        · split at recorded <;> cases recorded
        · next fresh =>
          obtain rfl := Except.ok.inj recorded
          refine .recorded posting works ?_
          intro stored member same
          apply fresh
          rw [List.any_eq_true]
          exact ⟨stored, member, decide_eq_true same⟩
  · cases stepped

theorem closingStep_advances (closing : request.operation = .close)
    (stepped : closingStep backend request stores access phase = some (next, later)) :
    Advances backend request stores access phase next later := by
  unfold closingStep at stepped
  split at stepped
  · split at stepped
    · cases stepped
      exact .refused (by simp) rfl
    · next balance found =>
      split at stepped
      · cases stepped
        exact .refused (by simp) rfl
      · next zero =>
        cases stepped
        exact .closeChecked closing (.inl ⟨rfl, rfl⟩) (.inl (Stores.zero_of_getBalance found (not_not.mp zero)))
  · split at stepped
    · cases stepped
      exact .refused (by simp) rfl
    · split at stepped
      · cases stepped
        exact .refused (by simp) rfl
      · cases stepped
        exact .closed closing
  · split at stepped
    · cases stepped
      exact .refused (by simp) rfl
    · split at stepped
      · cases stepped
        exact .refused (by simp) rfl
      · cases stepped
        exact .closeFound closing rfl
  · split at stepped
    · next failed =>
      cases stepped
      refine .closeChecked closing (.inr ⟨⟨_, rfl⟩, rfl⟩) ?_
      rcases Stores.getBalance_error failed with unknown | fault
      · exact .inl (by simp [unknown])
      · exact .inr ⟨rfl, fault⟩
    · next balance found =>
      split at stepped
      · cases stepped
        exact .refused (by simp) rfl
      · next zero =>
        cases stepped
        exact .closeChecked closing (.inr ⟨⟨_, rfl⟩, rfl⟩) (.inl (Stores.zero_of_getBalance found (not_not.mp zero)))
  · split at stepped
    · cases stepped
      exact .refused (by simp) rfl
    · cases stepped
      exact .closed closing
  · cases stepped

theorem callStep_advances (stepped : callStep backend request stores access phase = some (next, later)) :
    Advances backend request stores access phase next later := by
  unfold callStep at stepped
  cases operation : request.operation with rw [operation] at stepped
  | post =>
    exact postingStep_advances operation stepped
  | close =>
    exact closingStep_advances operation stepped

end Inversion

theorem Bank.step_cases {backend : Backend} {bank next : Bank} {label : BankLabel}
    (stepped : (Bank.system backend).step bank label = some next) :
    (∃ request, label = .begin request ∧ next = { bank with calls := bank.calls ++ [⟨request, .begun⟩] }) ∨
    ∃ index access call stores phase, label = .access index access ∧ bank.calls[index]? = some call ∧
      Advances backend call.request bank.stores access call.phase stores phase ∧
      next = ⟨stores, bank.calls.set index { call with phase := phase }⟩ := by
  cases label with
  | begin request => exact .inl ⟨request, rfl, (Option.some.inj stepped).symm⟩
  | access index access =>
    obtain ⟨call, found, rest⟩ := Option.bind_eq_some_iff.mp stepped
    obtain ⟨result, advanced, made⟩ := Option.map_eq_some_iff.mp rest
    exact .inr ⟨index, access, call, result.1, result.2, rfl, found, callStep_advances advanced, made.symm⟩

end Blazil.Banking

import Blazil.Foundation.Transition
import Mathlib.Tactic.Simps.Basic

/-! Credits, debits and the closing of accounts (`services/banking/internal/domain`, `balances` and
`accounts`). Owners and timestamps are read by no call here. Amounts are integers: sums are taken
not to overflow. Each access to a store is one step, together with the code up to the next one; an
access may fail without an effect. An account that is looked up in memory is shared, but only its
status changes, and it is read at once. -/

set_option autoImplicit false

namespace Blazil.Banking

abbrev AccountId := String

abbrev TransactionId := String

inductive AccountStatus where
  | active
  | closed
  | frozen
deriving DecidableEq

inductive AccountType where
  | checking
  | savings
  | loan
deriving DecidableEq

structure Account where
  type : AccountType
  status : AccountStatus
deriving DecidableEq

structure Balance where
  minorUnits : Int
  currencyCode : String
deriving DecidableEq

inductive Direction where
  | credit
  | debit
deriving DecidableEq

structure Transaction where
  id : TransactionId
  accountId : AccountId
  type : Direction
  amountMinorUnits : Int
  currencyCode : String
  balanceAfterMinorUnits : Int
  description : String
  reference : String
deriving DecidableEq

inductive BankError where
  | accountNotFound
  | insufficientFunds
  | accountClosed
  | accountFrozen
  | accountNotActive
  | accountHasBalance
  | negativeAmount
  | transactionExists (id : TransactionId)
  | store (text : String)
  | wrapped (context : String) (cause : BankError)
deriving DecidableEq

def accountStatusErr : AccountStatus → BankError
  | .closed => .accountClosed
  | .frozen => .accountFrozen
  | .active => .accountNotActive

open Foundation

inductive Backend where
  | memory
  | postgres
deriving DecidableEq

structure Stores where
  accounts : AccountId → Option Account
  balances : AccountId → Option Balance
  history : List Transaction

/-- What decides one access: whether it fails, and with which text, and the id that is
generated for a transaction. -/
structure Access where
  fault : Option String
  transactionId : TransactionId
deriving DecidableEq

namespace Stores

@[simps]
def setBalance (stores : Stores) (id : AccountId) (balance : Balance) : Stores :=
  { stores with
    balances := fun other => if other = id then some balance else stores.balances other }

@[simps]
def setStatus (stores : Stores) (id : AccountId) (status : AccountStatus) : Stores :=
  { stores with
    accounts := fun other =>
      if other = id then (stores.accounts id).map fun account => { account with status := status }
      else stores.accounts other }

@[simps]
def addTransaction (stores : Stores) (transaction : Transaction) : Stores :=
  { stores with history := stores.history ++ [transaction] }

def getAccount (stores : Stores) (id : AccountId) (access : Access) : Except BankError Account :=
  match access.fault with
  | some text => .error (.wrapped "get account" (.store text))
  | none =>
    match stores.accounts id with
    | none => .error (.wrapped ("account " ++ id) .accountNotFound)
    | some account => .ok account

def getBalance (stores : Stores) (backend : Backend) (id : AccountId) (access : Access) : Except BankError Balance :=
  match access.fault with
  | some text => .error (.wrapped "get balance" (.store text))
  | none =>
    match stores.balances id with
    | some balance => .ok balance
    | none =>
      match backend with
      | .memory => .error (.wrapped ("balance for account " ++ id) .accountNotFound)
      | .postgres => .error .accountNotFound

/-- A transaction whose id is taken is refused, by the database as any failed insert. -/
def append (stores : Stores) (backend : Backend) (transaction : Transaction) (access : Access) : Except BankError Stores :=
  match access.fault with
  | some text => .error (.wrapped "append transaction" (.store text))
  | none =>
    if stores.history.any fun stored => stored.id = transaction.id then
      match backend with
      | .memory => .error (.transactionExists transaction.id)
      | .postgres => .error (.wrapped "append transaction" (.store "duplicate key"))
    else .ok (stores.addTransaction transaction)

end Stores

inductive Operation where
  | post (direction : Direction) (amountMinorUnits : Int)
  | close
deriving DecidableEq

structure CallRequest where
  operation : Operation
  accountId : AccountId
  currencyCode : String
  reference : String
  paymentId : String
deriving DecidableEq

inductive Phase where
  | begun
  | found (type : AccountType)
  | read (balance : Balance)
  | posted (written : Balance)
  /-- The balance allows the account to be closed. -/
  | checked
  | succeeded (balance : Option Balance)
  | failed (cause : BankError)
deriving DecidableEq

def Phase.returned : Phase → Bool
  | .succeeded _ => true
  | .failed _ => true
  | _ => false

def Direction.name : Direction → String
  | .credit => "Credit"
  | .debit => "Debit"

def Direction.signed (direction : Direction) (amountMinorUnits : Int) : Int :=
  match direction with
  | .credit => amountMinorUnits
  | .debit => -amountMinorUnits

def Direction.written (direction : Direction) (amountMinorUnits : Int) (balance : Balance) : Balance :=
  { balance with minorUnits := balance.minorUnits + direction.signed amountMinorUnits }

def CallRequest.transaction (request : CallRequest) (direction : Direction)
    (amountMinorUnits : Int) (written : Balance) (id : TransactionId) : Transaction where
  id := id
  accountId := request.accountId
  type := direction
  amountMinorUnits := amountMinorUnits
  currencyCode := request.currencyCode
  balanceAfterMinorUnits := written.minorUnits
  description := request.reference
  reference := request.paymentId

/-- The next step of `Credit` or `Debit`; only a debit looks at the funds. -/
def postingStep (backend : Backend) (request : CallRequest) (direction : Direction)
    (amountMinorUnits : Int) (stores : Stores) (access : Access) :
    Phase → Option (Stores × Phase)
  | .begun =>
    if amountMinorUnits < 0 then some (stores, .failed .negativeAmount)
    else
      match stores.getAccount request.accountId access with
      | .error cause => some (stores, .failed (.wrapped direction.name cause))
      | .ok account =>
        if account.status = .active then some (stores, .found account.type)
        else some (stores, .failed (accountStatusErr account.status))
  | .found type =>
    match stores.getBalance backend request.accountId access with
    | .error cause => some (stores, .failed (.wrapped direction.name cause))
    | .ok balance =>
      if direction = .debit ∧ type ≠ .loan ∧ balance.minorUnits < amountMinorUnits then
        some (stores, .failed .insufficientFunds)
      else some (stores, .read balance)
  | .read balance =>
    match access.fault with
    | some text =>
      some (stores, .failed (.wrapped (direction.name ++ " store")
        (.wrapped "set balance" (.store text))))
    | none =>
      let written := direction.written amountMinorUnits balance
      some (stores.setBalance request.accountId written, .posted written)
  | .posted written =>
    match stores.append backend
        (request.transaction direction amountMinorUnits written access.transactionId)
        access with
    | .error cause => some (stores, .failed (.wrapped (direction.name ++ " history") cause))
    | .ok recorded => some (recorded, .succeeded (some written))
  | _ => none

/-- The next step of `CloseAccount` with a balance checker. -/
def closingStep (backend : Backend) (request : CallRequest) (stores : Stores) (access : Access)
    (phase : Phase) : Option (Stores × Phase) :=
  match backend, phase with
  | .memory, .begun =>
    match stores.getBalance .memory request.accountId access with
    | .error cause => some (stores, .failed (.wrapped "GetBalance" cause))
    | .ok balance =>
      if balance.minorUnits ≠ 0 then some (stores, .failed .accountHasBalance)
      else some (stores, .checked)
  | .memory, .checked =>
    match stores.accounts request.accountId with
    | none =>
      some (stores, .failed (.wrapped ("account " ++ request.accountId) .accountNotFound))
    | some account =>
      if account.status = .closed then some (stores, .failed .accountClosed)
      else some (stores.setStatus request.accountId .closed, .succeeded none)
  | .postgres, .begun =>
    match stores.getAccount request.accountId access with
    | .error cause => some (stores, .failed cause)
    | .ok account =>
      if account.status = .closed then some (stores, .failed .accountClosed)
      else some (stores, .found account.type)
  | .postgres, .found _ =>
    match stores.getBalance .postgres request.accountId access with
    | .error _ => some (stores, .checked)
    | .ok balance =>
      if balance.minorUnits ≠ 0 then some (stores, .failed .accountHasBalance)
      else some (stores, .checked)
  | .postgres, .checked =>
    match access.fault with
    | some text => some (stores, .failed (.wrapped "close account" (.store text)))
    | none => some (stores.setStatus request.accountId .closed, .succeeded none)
  | _, _ => none

def callStep (backend : Backend) (request : CallRequest) (stores : Stores) (access : Access)
    (phase : Phase) : Option (Stores × Phase) :=
  match request.operation with
  | .post direction amountMinorUnits =>
    postingStep backend request direction amountMinorUnits stores access phase
  | .close => closingStep backend request stores access phase

def runAlone (backend : Backend) (request : CallRequest) : Stores → Phase → List Access → Stores × Phase
  | stores, phase, [] => (stores, phase)
  | stores, phase, access :: rest =>
    match callStep backend request stores access phase with
    | none => (stores, phase)
    | some (next, later) => runAlone backend request next later rest

structure Call where
  request : CallRequest
  phase : Phase
deriving DecidableEq

structure Bank where
  stores : Stores
  calls : List Call

inductive BankLabel where
  | begin (request : CallRequest)
  | access (index : Nat) (access : Access)
deriving DecidableEq

namespace Bank

def step (backend : Backend) (bank : Bank) : BankLabel → Option Bank
  | .begin request => some { bank with calls := bank.calls ++ [⟨request, .begun⟩] }
  | .access index access =>
    (bank.calls[index]?).bind fun call =>
      (callStep backend call.request bank.stores access call.phase).map fun result =>
        ⟨result.1, bank.calls.set index { call with phase := result.2 }⟩

def system (backend : Backend) : System Bank BankLabel := ⟨step backend⟩

end Bank

end Blazil.Banking

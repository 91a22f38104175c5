/-! Payments of the Go service (`services/payments/internal/domain`) and the choice of a rail for
them (`internal/routing`). The creation and update times are read by no modelled function and are
left out. -/

set_option autoImplicit false

namespace Blazil.Payments

structure Money where
  minorUnits : Int64
  currencyCode : String
deriving DecidableEq

inductive PaymentStatus where
  | pending
  | authorized
  | cleared
  | settled
  | failed
  | reversed
deriving DecidableEq

inductive PaymentRails where
  | internal
  | ach
  | sepa
  | swift
  | crypto
deriving DecidableEq

structure Payment where
  id : String
  idempotencyKey : String
  debitAccountId : String
  creditAccountId : String
  amount : Money
  ledgerId : UInt32
  rails : PaymentRails := .internal
  status : PaymentStatus := .pending
  failureReason : String := ""
  metadata : List (String × String) := []
deriving DecidableEq

structure ProcessPaymentRequest where
  idempotencyKey : String
  debitAccountId : String
  creditAccountId : String
  amount : Money
  ledgerId : UInt32
  metadata : List (String × String) := []
deriving DecidableEq

structure RouterConfig where
  localAccounts : List String := []
  achLimitMinorUnits : Int64 := 2499999

namespace RouterConfig

variable (config : RouterConfig) (payment : Payment)

def internalRule : Option PaymentRails :=
  if payment.debitAccountId ∈ config.localAccounts ∧
      payment.creditAccountId ∈ config.localAccounts then some .internal
  else none

def achRule : Option PaymentRails :=
  if payment.amount.currencyCode = "USD" ∧
      payment.amount.minorUnits < config.achLimitMinorUnits then some .ach
  else none

def sepaRule : Option PaymentRails :=
  if payment.amount.currencyCode = "EUR" then some .sepa else none

def cryptoRule : Option PaymentRails :=
  if payment.amount.currencyCode = "BTC" ∨ payment.amount.currencyCode = "ETH" then some .crypto
  else none

def defaultRule : Option PaymentRails := some .swift

def rules : List (Option PaymentRails) :=
  [config.internalRule payment, config.achRule payment, sepaRule payment, cryptoRule payment, defaultRule]

def route : Except String PaymentRails :=
  match (config.rules payment).findSome? id with
  | some rails => .ok rails
  | none => .error ("no routing rule matched for payment " ++ payment.id)

end RouterConfig

end Blazil.Payments

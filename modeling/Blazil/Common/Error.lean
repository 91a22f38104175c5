import Mathlib.Logic.Basic

/-! The error type shared by the whole engine (`core/common/src/error.rs`). -/

set_option autoImplicit false

namespace Blazil.Common

inductive BlazerError where
  | invalidId (text : String)
  | currencyMismatch (expected actual : String)
  | insufficientFunds (available required : String)
  | amountOverflow
  | invalidAmountScale (scale : Nat)
  | negativeAmount
  | invalidCurrency (code : String)
  | validationError (message : String)
  | internal (message : String)
  | transport (message : String)
  | ringBufferFull (retryAfterMs : Nat)
  | ledger (message : String)
  | ledgerTransient (message : String)
  | notFound (resource id : String)
  | duplicate (resource id : String)
deriving DecidableEq

abbrev BlazerResult (Value : Type) := Except BlazerError Value

namespace BlazerError

def message : BlazerError → String
  | invalidId text => "Invalid UUID format: " ++ text
  | currencyMismatch expected actual =>
    "Currency mismatch: expected " ++ expected ++ ", got " ++ actual
  | insufficientFunds available required =>
    "Insufficient funds: available " ++ available ++ ", required " ++ required
  | amountOverflow => "Amount overflow: value exceeds maximum allowed"
  | invalidAmountScale scale =>
    "Invalid amount scale: " ++ toString scale ++ " decimal places exceeds maximum of 8"
  | negativeAmount => "Amount cannot be negative"
  | invalidCurrency code => "Invalid currency code: " ++ code
  | validationError message => "Validation failed: " ++ message
  | internal message => "Internal error: " ++ message
  | transport message => "Transport error: " ++ message
  | ringBufferFull retryAfterMs =>
    "Ring buffer full — retry after " ++ toString retryAfterMs ++ "ms"
  | ledger message => "Ledger error: " ++ message
  | ledgerTransient message => "Ledger transient error (retryable): " ++ message
  | notFound resource id => "Not found: " ++ resource ++ " with id " ++ id
  | duplicate resource id => "Duplicate: " ++ resource ++ " with id " ++ id ++ " already exists"

/-- Only a transport failure of the ledger may be retried. -/
def isTransient : BlazerError → Bool
  | ledgerTransient _ => true
  | _ => false

end BlazerError

theorem bind_eq_ok_iff {Value Result : Type} {first : BlazerResult Value} {second : Value → BlazerResult Result}
    {result : Result} : first >>= second = .ok result ↔ ∃ value, first = .ok value ∧ second value = .ok result := by
  cases first with
  | error | ok => simp [bind, Except.bind]

end Blazil.Common

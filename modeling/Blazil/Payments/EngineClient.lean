import Blazil.Payments.Domain
import Blazil.Sharding.CrossShard
import Blazil.Transport.Connection

/-! Requests that the payments service sends to the engine
(`services/payments/internal/engine/client.go` and `transfer_client.go`). The MessagePack encoding
carries the fields unchanged, so a request is its record. What the engine makes of the amounts that
the payments service sends. -/

set_option autoImplicit false

namespace Blazil.Payments

open Blazil.Sharding Blazil.Transport

def formatInt64 (number : Int64) : String := toString number.toInt

def formatUInt64 (number : UInt64) : String := toString number.toNat

def marshalRequest (payment : Payment) : TransactionRequest where
  requestId := payment.id
  debitAccountId := payment.debitAccountId
  creditAccountId := payment.creditAccountId
  amount := formatInt64 payment.amount.minorUnits
  currency := payment.amount.currencyCode
  ledgerId := payment.ledgerId
  code := 1
  flags := 0
  pendingTransferId := ""

def flagPending : UInt8 := 0x02

def flagPost : UInt8 := 0x08

def flagVoid : UInt8 := 0x10

def currencyToLedgerId (currency : String) : UInt32 :=
  if currency = "USD" then 1
  else if currency = "EUR" then 2
  else if currency = "GBP" then 3
  else if currency = "JPY" then 4
  else if currency = "VND" then 5
  else if currency = "BTC" then 6
  else if currency = "ETH" then 7
  else 1

/-- What a client remembers of a pending transfer, to post or void it later. -/
structure PendingInfo where
  debitAccountId : String
  creditAccountId : String
  amount : String
  currency : String
  ledgerId : UInt32
deriving DecidableEq

def pendingInfo (request : CrossShardRequest) : PendingInfo where
  debitAccountId := formatUInt64 request.fromAccountId
  creditAccountId := formatUInt64 request.toAccountId
  amount := formatInt64 request.amount
  currency := request.currency
  ledgerId := currencyToLedgerId request.currency

/-- The three phases send the same fields and differ in the flag and in the pending
transfer they name; every call draws its own request id. -/
def PendingInfo.engineRequest (info : PendingInfo) (requestId : String) (flags : UInt8)
    (pendingTransferId : String) : TransactionRequest where
  requestId := requestId
  debitAccountId := info.debitAccountId
  creditAccountId := info.creditAccountId
  amount := info.amount
  currency := info.currency
  ledgerId := info.ledgerId
  code := 1
  flags := flags
  pendingTransferId := pendingTransferId

def submitPendingRequest (requestId : String) (request : CrossShardRequest) : TransactionRequest :=
  (pendingInfo request).engineRequest requestId flagPending ""

def commitRequest (requestId transferId : String) (info : PendingInfo) : TransactionRequest :=
  info.engineRequest requestId flagPost transferId

def voidRequest (requestId transferId : String) (info : PendingInfo) : TransactionRequest :=
  info.engineRequest requestId flagVoid transferId

open Blazil.Common Blazil.Ledger

def fiatCodes : List String := ["USD", "EUR", "GBP", "JPY", "VND"]

variable {code : String} {number : Nat}

theorem ledgerCode_currencyToLedgerId (fiat : code ∈ fiatCodes) :
    ledgerCode (currencyToLedgerId code) = some code := by
  simp only [fiatCodes, List.mem_cons, List.not_mem_nil, or_false] at fiat
  rcases fiat with rfl | rfl | rfl | rfl | rfl <;> decide

theorem formatInt64_pos {number : Int64} (positive : 0 < number.toInt) : formatInt64 number = toString number.toInt.toNat := by
  unfold formatInt64
  conv_lhs => rw [← Int.toNat_of_nonneg positive.le]
  rfl

theorem currencyScale_fiat (fiat : code ∈ fiatCodes) :
    (currencyScale ⟨code⟩).toNat = if code = "JPY" ∨ code = "VND" then 1 else 100 := by
  simp only [fiatCodes, List.mem_cons, List.not_mem_nil, or_false] at fiat
  rcases fiat with rfl | rfl | rfl | rfl | rfl <;> decide

/-- A hundredfold amount never wraps around to the amount itself: otherwise 2^64 would
divide 99 times the amount, and so the amount. -/
private theorem hundredfold_not_wrapped (positive : 0 < number) (small : number < 2 ^ 63) : ¬number * 100 % 2 ^ 64 = number := by
  intro same
  have division := Nat.div_add_mod (number * 100) (2 ^ 64)
  rw [same] at division
  have total : number * 99 + number = 2 ^ 64 * (number * 100 / 2 ^ 64) + number :=
    (Nat.mul_succ number 99).symm.trans division.symm
  have divides : 2 ^ 64 ∣ number * 99 := ⟨_, Nat.add_right_cancel total⟩
  have coprime : Nat.Coprime (2 ^ 64) 99 := by decide
  have bound : 2 ^ 64 ≤ number := Nat.le_of_dvd positive (coprime.dvd_of_dvd_mul_right divides)
  have below : number < 2 ^ 64 := Nat.lt_trans small (by decide)
  exact Nat.not_le.mpr below bound

theorem scaled_mod_eq_iff (fiat : code ∈ fiatCodes) (positive : 0 < number)
    (small : number < 2 ^ 63) : number * (currencyScale ⟨code⟩).toNat % 2 ^ 64 = number ↔ code = "JPY" ∨ code = "VND" := by
  rw [currencyScale_fiat fiat]
  split
  · next minor =>
    simp only [minor, iff_true]
    omega
  · next major =>
    simp only [major, iff_false]
    intro same
    exact hundredfold_not_wrapped positive small same

theorem accountId_formatUInt64 [ExternalCrates] (number : UInt64) : AccountId.fromStr (formatUInt64 number) = .ok ⟨number⟩ := by
  simp only [AccountId.fromStr, parseU64Id, formatUInt64, parseU64_toString, Except.map]

section Amounts

variable [ExternalCrates]

/-- The engine reads the minor units as whole units of the currency, so it keeps the
amount only in currencies without decimals. -/
private theorem sent_amountUnits_eq_iff {request freshId debit credit number}
    (debitParsed : AccountId.fromStr request.debitAccountId = .ok debit)
    (creditParsed : AccountId.fromStr request.creditAccountId = .ok credit) (sent : request.amount = formatInt64 number)
    (positive : 0 < number.toInt) (fiat : code ∈ fiatCodes) (ledger : request.ledgerId = currencyToLedgerId code) :
    ∃ event, buildEvent freshId request = .ok event ∧
      ((event.amountUnits.toNat : Int) = number.toInt ↔ code = "JPY" ∨ code = "VND") := by
  have small : number.toInt.toNat < 2 ^ 63 := by
    have := number.toInt_lt
    omega
  obtain ⟨event, built, units⟩ := buildEvent_wholeAmount freshId debitParsed
    creditParsed (ledger ▸ ledgerCode_currencyToLedgerId fiat) fiat
    (sent.trans (formatInt64_pos positive)) small
  refine ⟨event, built, ?_⟩
  rw [units, ← scaled_mod_eq_iff fiat (Int.pos_iff_toNat_pos.mp positive) small]
  omega

/-- Both kinds of request reach the engine, and the event carries the payment's minor
units exactly in the currencies without decimals. -/
theorem sentRequest_amountUnits_eq_iff : (∀ (payment : Payment) (freshId : TransactionId) (debit credit : AccountId),
      0 < payment.amount.minorUnits.toInt → payment.amount.currencyCode ∈ fiatCodes →
      payment.ledgerId = currencyToLedgerId payment.amount.currencyCode →
      AccountId.fromStr payment.debitAccountId = .ok debit → AccountId.fromStr payment.creditAccountId = .ok credit →
      ∃ event, buildEvent freshId (marshalRequest payment) = .ok event ∧
        ((event.amountUnits.toNat : Int) = payment.amount.minorUnits.toInt ↔
          payment.amount.currencyCode = "JPY" ∨ payment.amount.currencyCode = "VND")) ∧
    (∀ (request : CrossShardRequest) (freshId : TransactionId) (requestId : String),
      0 < request.amount.toInt → request.currency ∈ fiatCodes →
      ∃ event, buildEvent freshId (submitPendingRequest requestId request) = .ok event ∧
        ((event.amountUnits.toNat : Int) = request.amount.toInt ↔
          request.currency = "JPY" ∨ request.currency = "VND")) := by
  constructor
  · intro payment freshId debit credit positive fiat ledger debitParsed creditParsed
    exact sent_amountUnits_eq_iff debitParsed creditParsed rfl positive fiat ledger
  · intro request freshId requestId positive fiat
    exact sent_amountUnits_eq_iff (accountId_formatUInt64 request.fromAccountId)
      (accountId_formatUInt64 request.toAccountId) rfl positive fiat rfl

end Amounts

def dollarPayment : Payment where
  id := "7"
  idempotencyKey := "order-7"
  debitAccountId := "1"
  creditAccountId := "2"
  amount := ⟨1050, "USD"⟩
  ledgerId := 1

def dollarTransfer : CrossShardRequest := ⟨1, 2, 1050, "USD", "order-7"⟩

attribute [local instance] referenceCrates

/-- The engine takes the 1050 cents for 1050 dollars. -/
theorem dollarPayment_hundredfold : 0 < dollarPayment.amount.minorUnits.toInt ∧
      dollarPayment.ledgerId = currencyToLedgerId dollarPayment.amount.currencyCode ∧
      (buildEvent ⟨9⟩ (marshalRequest dollarPayment)).toOption.map (·.amountUnits) = some 105000 ∧
      (buildEvent ⟨9⟩ (submitPendingRequest "8" dollarTransfer)).toOption.map (·.amountUnits) = some 105000 := by
  decide

def yenPayment : Payment := { dollarPayment with amount := ⟨1050, "JPY"⟩, ledgerId := 4 }

theorem yen_amountUnits : (∃ event, buildEvent ⟨9⟩ (marshalRequest yenPayment) = .ok event ∧
      ((event.amountUnits.toNat : Int) = 1050 ↔ "JPY" = "JPY" ∨ "JPY" = "VND")) ∧
    (∃ event, buildEvent ⟨9⟩ (submitPendingRequest "8" ⟨1, 2, 1050, "JPY", "order-7"⟩) = .ok event ∧
      ((event.amountUnits.toNat : Int) = 1050 ↔ "JPY" = "JPY" ∨ "JPY" = "VND")) :=
  ⟨(@sentRequest_amountUnits_eq_iff referenceCrates).1 yenPayment ⟨9⟩ ⟨1⟩ ⟨2⟩ (by decide)
      (by decide) (by decide) (by decide) (by decide),
    (@sentRequest_amountUnits_eq_iff referenceCrates).2 ⟨1, 2, 1050, "JPY", "order-7"⟩ ⟨9⟩ "8" (by decide) (by decide)⟩

end Blazil.Payments

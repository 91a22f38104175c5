import Blazil.Engine.LedgerHandler

/-! Requests on the wire (`core/transport/src/protocol.rs`), after decoding, and the conversion of
a request to an event and of an outcome to a response. The Aeron and io_uring transports
(`aeron/transport.rs`, `io_uring_transport.rs`) convert requests with functions of the same text,
which differ from the one of a TCP connection (`connection.rs`) in the currency that prices the
amount, in the order of the checks, and in that the event is always a plain one. The amount of a
request on its way from the decimal text to the transfer. -/

set_option autoImplicit false

namespace Blazil.Transport

structure TransactionRequest where
  requestId : String
  debitAccountId : String
  creditAccountId : String
  amount : String
  currency : String
  ledgerId : UInt32
  code : UInt16
  flags : UInt8
  pendingTransferId : String
deriving DecidableEq

structure TransactionResponse where
  requestId : String
  committed : Bool
  transferId : Option String
  error : Option String
deriving DecidableEq

open Blazil.Common Blazil.Engine Blazil.Ledger

/-- Replace the error of a failed step, as `map_err` does. -/
def orReject {Value : Type} (message : String) (result : BlazerResult Value) : BlazerResult Value :=
  match result with
  | .ok value => .ok value
  | .error _ => .error (.validationError message)

theorem orReject_ok {Value : Type} {message : String} {result} {value : Value} :
    orReject message result = .ok value ↔ result = .ok value := by
  cases result <;> simp [orReject]

section Requests

variable [ExternalCrates]

def parseAmount (text : String) : BlazerResult Decimal :=
  match ExternalCrates.decimalFromStr text with
  | some decimal => .ok decimal
  | none => .error (.validationError ("invalid amount: " ++ text))

/-- The ledger decides the currency; the request's own code is only a fallback. -/
def requestCurrency (ledgerId : LedgerId) (code : String) : BlazerResult Currency :=
  match ledgerIdToCurrency ledgerId with
  | .ok currency => .ok currency
  | .error _ => parseCurrency code

def requestPendingId (text : String) : TransferId :=
  if text.isEmpty then .nil
  else
    match TransferId.fromStr text with
    | .ok id => id
    | .error _ => .nil

/-- `freshId` is the id generated when the request's own id cannot be parsed. -/
def requestTransactionId (freshId : TransactionId) (requestId : String) : TransactionId :=
  match TransactionId.fromStr requestId with
  | .ok id => id
  | .error _ => freshId

/-- The conversion to `u64` keeps the low 64 bits of the minor units. -/
def buildEvent (freshId : TransactionId) (request : TransactionRequest) : BlazerResult TransactionEvent := do
  let debitAccountId ← orReject ("invalid debit_account_id: " ++ request.debitAccountId)
    (AccountId.fromStr request.debitAccountId)
  let creditAccountId ← orReject ("invalid credit_account_id: " ++ request.creditAccountId)
    (AccountId.fromStr request.creditAccountId)
  let ledgerId ← LedgerId.new request.ledgerId
  let decimal ← parseAmount request.amount
  let currency ← requestCurrency ledgerId request.currency
  let amount ← Amount.new decimal currency
  let minorUnits ← amountToMinorUnits amount
  .ok { TransactionEvent.new (requestTransactionId freshId request.requestId) debitAccountId
          creditAccountId (UInt64.ofNat minorUnits) ledgerId request.code with
        flags := ⟨request.flags⟩
        pendingTransferId := requestPendingId request.pendingTransferId }

end Requests

/-- Every way the conversion can succeed, with the parts of the event it fixes. -/
structure BuildsEvent [ExternalCrates] (freshId : TransactionId) (request : TransactionRequest)
    (event : TransactionEvent) (amount : Amount) (minorUnits : Nat) : Prop where
  debit : AccountId.fromStr request.debitAccountId = .ok event.debitAccountId
  credit : AccountId.fromStr request.creditAccountId = .ok event.creditAccountId
  ledger : event.ledgerId.value = request.ledgerId
  read : ExternalCrates.decimalFromStr request.amount = some amount.value
  currency : requestCurrency event.ledgerId request.currency = .ok amount.currency
  bounded : Amount.new amount.value amount.currency = .ok amount
  converted : amountToMinorUnits amount = .ok minorUnits
  event_eq : event = { TransactionEvent.new (requestTransactionId freshId request.requestId)
      event.debitAccountId event.creditAccountId (UInt64.ofNat minorUnits) event.ledgerId
      request.code with
    flags := ⟨request.flags⟩
    pendingTransferId := requestPendingId request.pendingTransferId }

variable {event : TransactionEvent} {currency : Currency} {amount : Amount} {text : String}

section Requests

variable [ExternalCrates] {decimal : Decimal} {request : TransactionRequest}

theorem parseAmount_ok : parseAmount text = .ok decimal ↔ ExternalCrates.decimalFromStr text = some decimal := by
  unfold parseAmount
  cases ExternalCrates.decimalFromStr text <;> simp

theorem buildEvent_spec {freshId} (built : buildEvent freshId request = .ok event) :
    ∃ amount minorUnits, BuildsEvent freshId request event amount minorUnits := by
  unfold buildEvent at built
  simp only [bind_eq_ok_iff, orReject_ok, parseAmount_ok] at built
  obtain ⟨debit, debitParsed, credit, creditParsed, ledgerId, ledger, decimal, read, currency,
    resolved, amount, bounded, minorUnits, converted, made⟩ := built
  cases made
  obtain ⟨rfl, _⟩ := Amount.new_spec bounded
  exact ⟨⟨decimal, currency⟩, minorUnits, debitParsed, creditParsed, LedgerId.new_value ledger,
    read, resolved, bounded, converted, rfl⟩

theorem buildEvent_of_steps {debit credit : AccountId} {ledgerId : LedgerId}
    {minorUnits : Nat} (freshId : TransactionId) (debitParsed : AccountId.fromStr request.debitAccountId = .ok debit)
    (creditParsed : AccountId.fromStr request.creditAccountId = .ok credit)
    (ledger : LedgerId.new request.ledgerId = .ok ledgerId) (read : ExternalCrates.decimalFromStr request.amount = some decimal)
    (resolved : requestCurrency ledgerId request.currency = .ok currency) (bounded : Amount.new decimal currency = .ok amount)
    (converted : amountToMinorUnits amount = .ok minorUnits) :
    buildEvent freshId request = .ok { TransactionEvent.new (requestTransactionId freshId request.requestId) debit credit
              (UInt64.ofNat minorUnits) ledgerId request.code with
            flags := ⟨request.flags⟩
            pendingTransferId := requestPendingId request.pendingTransferId } := by
  unfold buildEvent
  simp only [bind_eq_ok_iff, orReject_ok, parseAmount_ok]
  exact ⟨debit, debitParsed, credit, creditParsed, ledgerId, ledger, decimal, read, currency,
    resolved, amount, bounded, minorUnits, converted, rfl⟩

def buildResponse (requestId : String) : TransactionResult → TransactionResponse
  | .committed transferId =>
    ⟨requestId, true, some (ExternalCrates.uuidToString transferId.uuid), none⟩
  | .rejected reason => ⟨requestId, false, none, some reason.message⟩

end Requests

def errorResponse (requestId : String) (reason : BlazerError) : TransactionResponse :=
  let message := match reason with
    | .ringBufferFull retryAfterMs => "server busy, retry after " ++ toString retryAfterMs ++ "ms"
    | other => other.message
  ⟨requestId, false, none, some message⟩

def timeoutResponse (requestId : String) : TransactionResponse :=
  ⟨requestId, false, none, some "processing timeout"⟩

open Blazil.Common Blazil.Engine Blazil.Ledger

section Requests

variable [ExternalCrates]

/-- The flags and the pending transfer of the request are not read. -/
def buildPlainEvent (freshId : TransactionId) (request : TransactionRequest) : BlazerResult TransactionEvent := do
  let debitAccountId ← orReject ("invalid debit_account_id: " ++ request.debitAccountId)
    (AccountId.fromStr request.debitAccountId)
  let creditAccountId ← orReject ("invalid credit_account_id: " ++ request.creditAccountId)
    (AccountId.fromStr request.creditAccountId)
  let decimal ← parseAmount request.amount
  let currency ← parseCurrency request.currency
  let amount ← Amount.new decimal currency
  let minorUnits ← amountToMinorUnits amount
  let ledgerId ← LedgerId.new request.ledgerId
  .ok (TransactionEvent.new (requestTransactionId freshId request.requestId) debitAccountId
    creditAccountId (UInt64.ofNat minorUnits) ledgerId request.code)

def Aeron.buildEvent (freshId : TransactionId) (request : TransactionRequest) : BlazerResult TransactionEvent :=
  buildPlainEvent freshId request

def IoUring.buildEvent (freshId : TransactionId) (request : TransactionRequest) : BlazerResult TransactionEvent :=
  buildPlainEvent freshId request

end Requests

open Foundation

/-- Only a number of ten or more integral digits is rounded and still short enough to
be accepted: rounding fills all 96 bits, and at most eight digits may be fractional. -/
private theorem rounded_large {mantissa scale : Nat} {magnitude : ℚ} (short : scale ≤ 8) (full : 2 ^ 96 ≤ 10 * mantissa + 9)
    (bound : ((mantissa : ℚ) - 1) / 10 ^ scale ≤ magnitude) : 2 ^ 64 ≤ magnitude := by
  have power : (10 : ℚ) ^ scale ≤ 10 ^ 8 := pow_le_pow_right₀ (by norm_num) short
  have digits : (2 ^ 64 * 10 ^ 8 + 1 : ℚ) ≤ mantissa := by
    have least : 2 ^ 64 * 10 ^ 8 + 1 ≤ mantissa := by omega
    exact_mod_cast least
  refine le_trans ?_ bound
  rw [le_div_iff₀ (by positivity)]
  calc (2 ^ 64 : ℚ) * 10 ^ scale ≤ 2 ^ 64 * 10 ^ 8 := by gcongr
    _ ≤ mantissa - 1 := by linarith

section AmountPath

variable [ExternalCrates]

/-- A number that an amount is written as: a plain numeral, or scientific notation that fits a
`Decimal` with and without its exponent. -/
inductive Written (text : String) : Numeral → Prop where
  | plain {numeral} (parsed : Numeral.parse text = some numeral) : Written text numeral
  | scientific {base exponent} (parsed : Numeral.parseScientific text = some (base, exponent))
      (fits : Decimal.Holds base) (shifted : Decimal.Holds (base.shift exponent)) : Written text (base.shift exponent)

/-- A decimal that passes the amount checks has the written value, unless the
written value exceeds every 64-bit number. -/
theorem readAmount_exact_or_large [DecimalTexts] {decimal : Decimal} {numeral : Numeral} (written : Written text numeral)
    (read : ExternalCrates.decimalFromStr text = some decimal) (bounded : Amount.new decimal currency = .ok amount) :
    decimal.value = numeral.value ∨ 2 ^ 64 ≤ numeral.value := by
  obtain ⟨_, nonneg, short, _⟩ := Amount.new_spec bounded
  cases written with
  | scientific parsed fits shifted =>
    exact .inl (DecimalTexts.fromStr_scientific text _ _ decimal parsed fits shifted read)
  | plain parsed =>
    by_cases fits : Decimal.Holds numeral
    · obtain ⟨_, exactRead, value, _⟩ :=
        ExternalCrates.fromStr_exact text numeral parsed fits.1 fits.2
      rw [read] at exactRead
      cases exactRead
      exact .inl value
    · obtain ⟨sign, filled, bound⟩ :=
        DecimalTexts.fromStr_rounded text numeral decimal parsed fits read
      have full : 2 ^ 96 ≤ 10 * decimal.mantissa + 9 := by
        rcases filled with long | full
        · exact absurd (long ▸ short) (by decide)
        · exact full
      have mantissa : 0 < decimal.mantissa := by omega
      have positive : decimal.negative = false := by
        by_contra negative
        have mantissa : (0 : ℚ) < decimal.mantissa := by exact_mod_cast mantissa
        have below : decimal.value < 0 := by
          simp only [Decimal.value, Decimal.signed, Bool.not_eq_false] at negative ⊢
          rw [if_pos negative]
          push_cast
          exact div_neg_of_neg_of_pos (by linarith) (by positivity)
        exact absurd nonneg (not_le.mpr below)
      have unsigned : numeral.value = numeral.magnitude := by
        simp [Numeral.value, ← sign.resolve_right mantissa.ne', positive]
      exact .inr (unsigned ▸ rounded_large short full bound)

theorem transfer_value {transferId transfer code}
    (listed : ledgerCode event.ledgerId.value = some code) (fiat : code ∈ ["USD", "EUR", "GBP", "JPY", "VND"])
    (built : buildTransfer transferId event = .ok transfer) :
    transfer.amount.value.value = event.amountUnits.toNat / (currencyScale ⟨code⟩).toNat := by
  obtain ⟨reconstructed, _⟩ := buildTransfer_spec built
  obtain ⟨_, resolved, converted⟩ := bind_eq_ok_iff.mp reconstructed
  rw [ledgerIdToCurrency_fiat listed fiat] at resolved
  cases resolved
  exact minorUnitsToAmount_spec (Nat.lt_trans event.amountUnits.toNat_lt (by decide)) converted

/-- Between the request and the transfer, only the cut to 64 bits can change a value:
it is kept exactly when the written amount, in minor units, fits the event field. -/
theorem transfer_value_eq_written_iff [DecimalTexts] {request : TransactionRequest} {freshId : TransactionId}
    {event : TransactionEvent} {transferId : TransferId} {transfer : Transfer} {numeral : Numeral}
    (low : 1 ≤ request.ledgerId.toNat) (high : request.ledgerId.toNat ≤ 5) (written : Written request.amount numeral)
    (accepted : buildEvent freshId request = .ok event) (built : buildTransfer transferId event = .ok transfer) :
    ∃ code, ledgerCode request.ledgerId = some code ∧
      (transfer.amount.value.value = numeral.value ↔ numeral.value * (currencyScale ⟨code⟩).toNat < 2 ^ 64) := by
  obtain ⟨amount, minorUnits, parts⟩ := buildEvent_spec accepted
  obtain ⟨code, listed, fiat⟩ := ledgerCode_fiat low high
  have exactOrLarge := readAmount_exact_or_large written parts.read parts.bounded
  refine ⟨code, listed, ?_⟩
  have currency : amount.currency = ⟨code⟩ := by
    have resolved := parts.currency
    rw [requestCurrency, ledgerIdToCurrency_fiat (parts.ledger ▸ listed) fiat] at resolved
    exact (Except.ok.inj resolved).symm
  obtain ⟨_, nonneg, _⟩ := Amount.new_spec parts.bounded
  have units := amountToMinorUnits_spec nonneg parts.converted
  have field : event.amountUnits.toNat = minorUnits % 2 ^ 64 := by
    rw [parts.event_eq]
    exact UInt64.toNat_ofNat'
  have kept := transfer_value (parts.ledger ▸ listed) fiat built
  rw [kept, field]
  rw [currency] at units
  have positive := currencyScale_pos ⟨code⟩
  generalize (currencyScale ⟨code⟩).toNat = scale at *
  have scalePos : (0 : ℚ) < scale := by exact_mod_cast positive
  have scaleOne : (1 : ℚ) ≤ scale := by exact_mod_cast positive
  rcases exactOrLarge with same | _
  · rw [div_eq_iff scalePos.ne', ← same, units]
    have cut : minorUnits % 2 ^ 64 = minorUnits ↔ minorUnits < 2 ^ 64 :=
      ⟨fun whole => whole ▸ Nat.mod_lt _ (by decide), Nat.mod_eq_of_lt⟩
    exact_mod_cast cut
  · have small : ((minorUnits % 2 ^ 64 : Nat) : ℚ) < 2 ^ 64 := by
      exact_mod_cast Nat.mod_lt minorUnits (by decide)
    constructor
    · intro equal
      rw [div_eq_iff scalePos.ne'] at equal
      nlinarith
    · intro below
      nlinarith

theorem buildEvent_wholeAmount {request debit credit code number}
    (freshId : TransactionId) (debitParsed : AccountId.fromStr request.debitAccountId = .ok debit)
    (creditParsed : AccountId.fromStr request.creditAccountId = .ok credit) (listed : ledgerCode request.ledgerId = some code)
    (fiat : code ∈ ["USD", "EUR", "GBP", "JPY", "VND"]) (text : request.amount = toString number) (small : number < 2 ^ 63) :
    ∃ event, buildEvent freshId request = .ok event ∧
      event.amountUnits.toNat = number * (currencyScale ⟨code⟩).toNat % 2 ^ 64 := by
  have nonzero : request.ledgerId ≠ 0 := by
    intro zero
    rw [zero] at listed
    cases listed
  obtain ⟨decimal, read, value, written⟩ := ExternalCrates.fromStr_exact _ _
    (Numeral.parse_toString number) (Nat.lt_trans small (by decide)) (Nat.zero_le _)
  have value : decimal.value = number := by
    rw [value]
    simp [Numeral.value, Numeral.magnitude]
  have currency : requestCurrency ⟨request.ledgerId, nonzero⟩ request.currency = .ok ⟨code⟩ := by
    rw [requestCurrency, ledgerIdToCurrency_fiat listed fiat]
  have bounded : Amount.new decimal ⟨code⟩ = .ok ⟨decimal, ⟨code⟩⟩ := by
    apply Amount.new_ok
    · rw [value]
      positivity
    · rw [written]
      exact Nat.zero_le _
    · rw [value, Decimal.value_maxHalf]
      exact_mod_cast Nat.lt_trans small (by decide)
  have least : (currencyScale ⟨code⟩).toNat ≤ 100 := by
    simp only [List.mem_cons, List.not_mem_nil, or_false] at fiat
    rcases fiat with rfl | rfl | rfl | rfl | rfl <;> decide
  have units : amountToMinorUnits ⟨decimal, ⟨code⟩⟩ = .ok (number * (currencyScale ⟨code⟩).toNat) := by
    apply amountToMinorUnits_ok
    · calc number * (currencyScale ⟨code⟩).toNat ≤ number * 100 := Nat.mul_le_mul_left _ least
        _ < 2 ^ 96 := by omega
    · rw [value]
      push_cast
      rfl
  have ledger : LedgerId.new request.ledgerId = .ok ⟨request.ledgerId, nonzero⟩ := by
    simp [LedgerId.new, nonzero]
  exact ⟨_, buildEvent_of_steps freshId debitParsed creditParsed ledger (text ▸ read) currency bounded units, UInt64.toNat_ofNat'⟩

end AmountPath

/-- One yen more than the largest 64-bit number, between two accounts. -/
def wrappingRequest : TransactionRequest :=
  ⟨"7", "1", "2", "18446744073709551617", "JPY", 4, 1, 0, ""⟩

attribute [local instance] referenceCrates

/-- The transfer of the wrapping request is for one yen. -/
theorem wrappingRequest_value_lost : ∃ event transfer numeral, buildEvent ⟨9⟩ wrappingRequest = .ok event ∧
      buildTransfer ⟨1⟩ event = .ok transfer ∧ Numeral.parse wrappingRequest.amount = some numeral ∧
      transfer.amount.value.value = 1 ∧ numeral.value = 18446744073709551617 := by
  refine ⟨⟨-1, ⟨7⟩, ⟨1⟩, ⟨2⟩, 1, ⟨4, by decide⟩, 1, ⟨0⟩, ⟨0⟩⟩,
    ⟨⟨1⟩, ⟨1⟩, ⟨2⟩, ⟨⟨false, 1, 0, by decide, by decide⟩, ⟨"JPY"⟩⟩, ⟨4, by decide⟩, 1, {}, none⟩,
    ⟨false, 18446744073709551617, 0⟩, by decide, by decide, by decide,
    ?_, ?_⟩
  · norm_num [Decimal.value, Decimal.signed]
  · norm_num [Numeral.value, Numeral.magnitude]

/-- A request for `1.25e3` US dollars, whose 125000 cents fit, keeps its value. -/
theorem transfer_value_dollars : ∃ event transfer, buildEvent ⟨9⟩
        ⟨"7", "1", "2", "1.25e3", "USD", 1, 1, 0, ""⟩ = .ok event ∧
      buildTransfer ⟨1⟩ event = .ok transfer ∧ Written "1.25e3" ⟨false, 1250, 0⟩ ∧
      ∃ code, ledgerCode 1 = some code ∧ (transfer.amount.value.value = (⟨false, 1250, 0⟩ : Numeral).value ↔
        (⟨false, 1250, 0⟩ : Numeral).value * (currencyScale ⟨code⟩).toNat < 2 ^ 64) := by
  have accepted : buildEvent ⟨9⟩ ⟨"7", "1", "2", "1.25e3", "USD", 1, 1, 0, ""⟩ =
      .ok ⟨-1, ⟨7⟩, ⟨1⟩, ⟨2⟩, 125000, ⟨1, by decide⟩, 1, ⟨0⟩, ⟨0⟩⟩ := by decide
  have built : buildTransfer ⟨1⟩ ⟨-1, ⟨7⟩, ⟨1⟩, ⟨2⟩, 125000, ⟨1, by decide⟩, 1, ⟨0⟩, ⟨0⟩⟩ =
      .ok ⟨⟨1⟩, ⟨1⟩, ⟨2⟩, ⟨⟨false, 1250, 0, by decide, by decide⟩, ⟨"USD"⟩⟩, ⟨1, by decide⟩, 1, {}, none⟩ := by decide
  have written : Written "1.25e3" ⟨false, 1250, 0⟩ :=
    @Written.scientific "1.25e3" ⟨false, 125, 2⟩ 3 (by decide) ⟨by decide, by decide⟩ ⟨by decide, by decide⟩
  exact ⟨_, _, accepted, built, written, @transfer_value_eq_written_iff referenceCrates referenceTexts _ _ _ _ _ _
    (by decide) (by decide) written accepted built⟩

end Blazil.Transport

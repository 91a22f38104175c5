import Blazil.Transport.Connection

/-! What the three transports make of one request. -/

set_option autoImplicit false

namespace Blazil.Transport

open Blazil.Common Blazil.Engine Blazil.Ledger

variable {request : TransactionRequest}

/-- An amount is a whole number of minor units of a currency, in the 96 bits of a
decimal. -/
def WholeUnits (decimal : Decimal) (currency : Currency) (units : Nat) : Prop :=
  units < 2 ^ 96 ∧ decimal.value * (currencyScale currency).toNat = units

def Prices (decimal : Decimal) (currency : BlazerResult Currency) (units : Nat) : Prop :=
  ∃ known, currency = .ok known ∧ WholeUnits decimal known units

theorem Prices.unique {decimal currency first second}
    (one : Prices decimal currency first) (other : Prices decimal currency second) : second = first := by
  obtain ⟨_, resolved, _, value⟩ := one
  obtain ⟨_, alsoResolved, _, otherValue⟩ := other
  cases resolved.symm.trans alsoResolved
  exact_mod_cast otherValue.symm.trans value

section Agreement

variable [ExternalCrates]

/-- The parts of a request that all transports read alike. -/
structure Readable (request : TransactionRequest) (debit credit : AccountId)
    (ledgerId : LedgerId) (decimal : Decimal) : Prop where
  debit : AccountId.fromStr request.debitAccountId = .ok debit
  credit : AccountId.fromStr request.creditAccountId = .ok credit
  ledger : LedgerId.new request.ledgerId = .ok ledgerId
  read : ExternalCrates.decimalFromStr request.amount = some decimal
  nonneg : 0 ≤ decimal.value
  short : decimal.scale ≤ maxScale
  bounded : decimal.value < Decimal.maxHalf.value

theorem amountToMinorUnits_eq_ok_iff {decimal : Decimal} {currency : Currency} {units : Nat} (nonneg : 0 ≤ decimal.value) :
    amountToMinorUnits ⟨decimal, currency⟩ = .ok units ↔ WholeUnits decimal currency units := by
  constructor
  · intro converted
    have whole := @amountToMinorUnits_spec _ units ⟨decimal, currency⟩ nonneg converted
    refine ⟨?_, whole⟩
    by_contra large
    -- a product beyond 96 bits would have been refused
    have overflow : 2 ^ 96 ≤
        |decimal.value * (Decimal.ofUInt64 (currencyScale currency)).value| := by
      rw [Decimal.value_ofUInt64, whole, Nat.abs_cast]
      exact_mod_cast Nat.le_of_not_lt large
    have refused := ExternalCrates.mul_overflow _ _ overflow
    simp [amountToMinorUnits, refused] at converted
  · intro whole
    exact @amountToMinorUnits_ok _ units ⟨decimal, currency⟩ whole.1 whole.2

/-- A conversion that reads the request as all transports do, prices the amount in a
currency of its own and makes an event of the parts. -/
def Converts (request : TransactionRequest) (converted : BlazerResult TransactionEvent)
    (currency : LedgerId → BlazerResult Currency) (make : AccountId → AccountId → LedgerId → UInt64 → TransactionEvent) : Prop :=
  ∀ event, converted = .ok event ↔ ∃ debit credit ledgerId decimal units, Readable request debit credit ledgerId decimal ∧
      Prices decimal (currency ledgerId) units ∧
      event = make debit credit ledgerId (UInt64.ofNat units)

def flaggedEvent (freshId : TransactionId) (request : TransactionRequest)
    (debit credit : AccountId) (ledgerId : LedgerId) (units : UInt64) : TransactionEvent :=
  { TransactionEvent.new (requestTransactionId freshId request.requestId) debit credit units ledgerId request.code with
    flags := ⟨request.flags⟩
    pendingTransferId := requestPendingId request.pendingTransferId }

def plainEvent (freshId : TransactionId) (request : TransactionRequest)
    (debit credit : AccountId) (ledgerId : LedgerId) (units : UInt64) : TransactionEvent :=
  TransactionEvent.new (requestTransactionId freshId request.requestId) debit credit units ledgerId request.code

theorem converts_buildEvent (freshId : TransactionId) (request : TransactionRequest) :
    Converts request (buildEvent freshId request) (fun ledgerId => requestCurrency ledgerId request.currency)
      (flaggedEvent freshId request) := by
  intro event
  constructor
  · intro built
    unfold buildEvent at built
    simp only [bind_eq_ok_iff, orReject_ok, parseAmount_ok] at built
    obtain ⟨debit, debitParsed, credit, creditParsed, ledgerId, ledger, decimal, read, currency,
      resolved, amount, created, units, converted, made⟩ := built
    obtain ⟨rfl, nonneg, short, bounded⟩ := Amount.new_spec created
    exact ⟨debit, credit, ledgerId, decimal, units, ⟨debitParsed, creditParsed, ledger, read, nonneg, short, bounded⟩,
      ⟨currency, resolved, (amountToMinorUnits_eq_ok_iff nonneg).mp converted⟩,
      (Except.ok.inj made).symm⟩
  · intro parts
    obtain ⟨_, _, _, _, _, readable, priced, rfl⟩ := parts
    obtain ⟨_, resolved, whole⟩ := priced
    exact buildEvent_of_steps freshId readable.debit readable.credit readable.ledger readable.read
      resolved (Amount.new_ok readable.nonneg readable.short readable.bounded)
      ((amountToMinorUnits_eq_ok_iff readable.nonneg).mpr whole)

theorem converts_buildPlainEvent (freshId : TransactionId) (request : TransactionRequest) :
    Converts request (buildPlainEvent freshId request) (fun _ => parseCurrency request.currency)
      (plainEvent freshId request) := by
  intro event
  unfold buildPlainEvent
  simp only [bind_eq_ok_iff, orReject_ok, parseAmount_ok]
  constructor
  · intro built
    obtain ⟨debit, debitParsed, credit, creditParsed, decimal, read, currency, resolved, amount,
      created, units, converted, ledgerId, ledger, made⟩ := built
    obtain ⟨rfl, nonneg, short, bounded⟩ := Amount.new_spec created
    exact ⟨debit, credit, ledgerId, decimal, units, ⟨debitParsed, creditParsed, ledger, read, nonneg, short, bounded⟩,
      ⟨currency, resolved, (amountToMinorUnits_eq_ok_iff nonneg).mp converted⟩,
      (Except.ok.inj made).symm⟩
  · intro parts
    obtain ⟨debit, credit, ledgerId, decimal, units, readable, priced, rfl⟩ := parts
    obtain ⟨currency, resolved, whole⟩ := priced
    exact ⟨debit, readable.debit, credit, readable.credit, decimal, readable.read, currency, resolved, ⟨decimal, currency⟩,
      Amount.new_ok readable.nonneg readable.short readable.bounded, units,
      (amountToMinorUnits_eq_ok_iff readable.nonneg).mpr whole, ledgerId, readable.ledger, rfl⟩

theorem Readable.unique {request debit credit otherDebit otherCredit ledgerId otherLedger decimal otherDecimal}
    (first : Readable request debit credit ledgerId decimal)
    (second : Readable request otherDebit otherCredit otherLedger otherDecimal) :
    otherDebit = debit ∧ otherCredit = credit ∧ otherLedger = ledgerId ∧ otherDecimal = decimal :=
  ⟨Except.ok.inj (second.debit.symm.trans first.debit), Except.ok.inj (second.credit.symm.trans first.credit),
    Except.ok.inj (second.ledger.symm.trans first.ledger),
    Option.some.inj (second.read.symm.trans first.read)⟩

section Cases

variable {converted : BlazerResult TransactionEvent} {currency : LedgerId → BlazerResult Currency}
  {make : AccountId → AccountId → LedgerId → UInt64 → TransactionEvent}

theorem Converts.unreadable (converts : Converts request converted currency make) (unreadable : ¬ ∃ debit credit ledgerId decimal,
      Readable request debit credit ledgerId decimal) : ∃ reason, converted = .error reason := by
  cases built : converted with
  | error reason => exact ⟨reason, rfl⟩
  | ok event =>
    obtain ⟨debit, credit, ledgerId, decimal, _, readable, _⟩ := (converts event).mp built
    exact absurd ⟨debit, credit, ledgerId, decimal, readable⟩ unreadable

variable {debit credit : AccountId} {ledgerId : LedgerId} {decimal : Decimal}

section

variable (converts : Converts request converted currency make) (readable : Readable request debit credit ledgerId decimal)
include converts readable

theorem Converts.accepted {units : Nat} (priced : Prices decimal (currency ledgerId) units) :
    converted = .ok (make debit credit ledgerId (UInt64.ofNat units)) :=
  (converts _).mpr ⟨debit, credit, ledgerId, decimal, units, readable, priced, rfl⟩

theorem Converts.refused (unpriced : ¬ ∃ units, Prices decimal (currency ledgerId) units) :
    ∃ reason, converted = .error reason := by
  cases built : converted with
  | error reason => exact ⟨reason, rfl⟩
  | ok event =>
    obtain ⟨_, _, _, _, units, again, accepted, _⟩ := (converts event).mp built
    obtain ⟨_, _, rfl, rfl⟩ := readable.unique again
    exact absurd ⟨units, accepted⟩ unpriced

end

end Cases

end Agreement

def SameContent (first second : TransactionEvent) : Prop :=
  first.debitAccountId = second.debitAccountId ∧
    first.creditAccountId = second.creditAccountId ∧
    first.amountUnits = second.amountUnits ∧ first.ledgerId = second.ledgerId ∧
    first.code = second.code ∧ first.flags = second.flags ∧
    first.pendingTransferId = second.pendingTransferId

instance (first second : TransactionEvent) : Decidable (SameContent first second) :=
  inferInstanceAs (Decidable (_ ∧ _))

/-- The transports all reject a request, or all accept it with the same content. -/
def TransportsAgree (tcp aeron ioUring : BlazerResult TransactionEvent) : Prop :=
  match tcp, aeron, ioUring with
  | .error _, .error _, .error _ => True
  | .ok first, .ok second, .ok third => SameContent first second ∧ SameContent first third
  | _, _, _ => False

instance (tcp aeron ioUring : BlazerResult TransactionEvent) : Decidable (TransportsAgree tcp aeron ioUring) :=
  match tcp, aeron, ioUring with
  | .error _, .error _, .error _ => .isTrue trivial
  | .ok _, .ok _, .ok _ => inferInstanceAs (Decidable (_ ∧ _))
  | .error _, .error _, .ok _ | .error _, .ok _, _ | .ok _, .error _, _ | .ok _, .ok _, .error _ =>
    .isFalse id

section Agreement

variable [ExternalCrates]

/-- If the request can be read at all, neither the ledger's nor the requested currency
prices its amount, or both do with the same 64 bits and the request is a plain one. -/
def ReadAlike (request : TransactionRequest) : Prop :=
  ∀ debit credit ledgerId decimal, Readable request debit credit ledgerId decimal →
    (¬ (∃ units, Prices decimal (requestCurrency ledgerId request.currency) units) ∧
      ¬ ∃ units, Prices decimal (parseCurrency request.currency) units) ∨
    ∃ ledgerUnits requestUnits, Prices decimal (requestCurrency ledgerId request.currency) ledgerUnits ∧
      Prices decimal (parseCurrency request.currency) requestUnits ∧
      UInt64.ofNat ledgerUnits = UInt64.ofNat requestUnits ∧
      request.flags = 0 ∧ requestPendingId request.pendingTransferId = .nil

variable {debit credit : AccountId} {event : TransactionEvent}

theorem sameContent_flagged_plain {ledgerId : LedgerId} (tcpId otherId : TransactionId) (first second : UInt64) :
    SameContent (flaggedEvent tcpId request debit credit ledgerId first)
        (plainEvent otherId request debit credit ledgerId second) ↔
      first = second ∧ request.flags = 0 ∧ requestPendingId request.pendingTransferId = .nil := by
  simp [SameContent, flaggedEvent, plainEvent, TransactionEvent.new]

theorem Readable.readAlike_iff {ledgerId : LedgerId} {decimal : Decimal}
    (readable : Readable request debit credit ledgerId decimal) :
    ReadAlike request ↔ (¬ (∃ units, Prices decimal (requestCurrency ledgerId request.currency) units) ∧
        ¬ ∃ units, Prices decimal (parseCurrency request.currency) units) ∨
      ∃ ledgerUnits requestUnits, Prices decimal (requestCurrency ledgerId request.currency) ledgerUnits ∧
        Prices decimal (parseCurrency request.currency) requestUnits ∧
        UInt64.ofNat ledgerUnits = UInt64.ofNat requestUnits ∧
        request.flags = 0 ∧ requestPendingId request.pendingTransferId = .nil := by
  constructor
  · intro alike
    exact alike debit credit ledgerId decimal readable
  · intro here otherDebit otherCredit otherLedger otherDecimal again
    obtain ⟨rfl, rfl, rfl, rfl⟩ := readable.unique again
    exact here

/-- The three transports agree on a request exactly when they read it alike. -/
theorem transports_agree_iff_readAlike (request : TransactionRequest) (tcpId aeronId ioUringId : TransactionId) :
    TransportsAgree (buildEvent tcpId request) (Aeron.buildEvent aeronId request)
      (IoUring.buildEvent ioUringId request) ↔ ReadAlike request := by
  have tcp := converts_buildEvent tcpId request
  have aeron := converts_buildPlainEvent aeronId request
  have ioUring := converts_buildPlainEvent ioUringId request
  unfold Aeron.buildEvent IoUring.buildEvent
  by_cases readable : ∃ debit credit ledgerId decimal, Readable request debit credit ledgerId decimal
  · obtain ⟨_, _, ledgerId, decimal, readable⟩ := readable
    rw [readable.readAlike_iff]
    by_cases ledgerPriced : ∃ units, Prices decimal (requestCurrency ledgerId request.currency) units <;>
      by_cases requestPriced : ∃ units, Prices decimal (parseCurrency request.currency) units
    · obtain ⟨ledgerUnits, ledgerPriced⟩ := ledgerPriced
      obtain ⟨requestUnits, requestPriced⟩ := requestPriced
      rw [tcp.accepted readable ledgerPriced, aeron.accepted readable requestPriced, ioUring.accepted readable requestPriced]
      simp only [TransportsAgree, sameContent_flagged_plain, and_self]
      constructor
      · intro same
        exact .inr ⟨ledgerUnits, requestUnits, ledgerPriced, requestPriced, same⟩
      · intro alike
        rcases alike with unpriced | ⟨_, _, ledgerAgain, requestAgain, same⟩
        · exact absurd ⟨ledgerUnits, ledgerPriced⟩ unpriced.1
        · cases ledgerPriced.unique ledgerAgain
          cases requestPriced.unique requestAgain
          exact same
    · obtain ⟨ledgerUnits, accepted⟩ := ledgerPriced
      obtain ⟨_, aeronRefused⟩ := aeron.refused readable requestPriced
      rw [tcp.accepted readable accepted, aeronRefused]
      refine iff_of_false id ?_
      intro alike
      rcases alike with unpriced | ⟨_, requestUnits, _, priced, _⟩
      · exact unpriced.1 ⟨ledgerUnits, accepted⟩
      · exact requestPriced ⟨requestUnits, priced⟩
    · obtain ⟨requestUnits, accepted⟩ := requestPriced
      obtain ⟨_, tcpRefused⟩ := tcp.refused readable ledgerPriced
      rw [tcpRefused, aeron.accepted readable accepted]
      refine iff_of_false id ?_
      intro alike
      rcases alike with unpriced | ⟨ledgerUnits, _, priced, _⟩
      · exact unpriced.2 ⟨requestUnits, accepted⟩
      · exact ledgerPriced ⟨ledgerUnits, priced⟩
    · obtain ⟨_, tcpRefused⟩ := tcp.refused readable ledgerPriced
      obtain ⟨_, aeronRefused⟩ := aeron.refused readable requestPriced
      obtain ⟨_, ioUringRefused⟩ := ioUring.refused readable requestPriced
      rw [tcpRefused, aeronRefused, ioUringRefused]
      exact iff_of_true trivial (.inl ⟨ledgerPriced, requestPriced⟩)
  · obtain ⟨_, tcpRefused⟩ := tcp.unreadable readable
    obtain ⟨_, aeronRefused⟩ := aeron.unreadable readable
    obtain ⟨_, ioUringRefused⟩ := ioUring.unreadable readable
    rw [tcpRefused, aeronRefused, ioUringRefused]
    refine iff_of_true trivial ?_
    intro debit credit ledgerId decimal present
    exact absurd ⟨debit, credit, ledgerId, decimal, present⟩ readable

theorem Converts.ledgerId {converted currency make}
    (converts : Converts request converted currency make) (accepted : converted = .ok event)
    (kept : ∀ debit credit ledgerId units, (make debit credit ledgerId units).ledgerId = ledgerId) :
    event.ledgerId.value = request.ledgerId := by
  obtain ⟨_, _, _, _, _, readable, _, rfl⟩ := (converts event).mp accepted
  rw [kept]
  exact LedgerId.new_value readable.ledger

theorem ledgerCode_of_buildTransfer {transferId transfer} (built : buildTransfer transferId event = .ok transfer) :
    ledgerCode event.ledgerId.value = some transfer.amount.currency.code := by
  obtain ⟨reconstructed, _⟩ := buildTransfer_spec built
  obtain ⟨currency, resolved, converted⟩ := bind_eq_ok_iff.mp reconstructed
  rw [minorUnitsToAmount_currency converted]
  unfold ledgerIdToCurrency Currency.fromStr at resolved
  cases listed : ledgerCode event.ledgerId.value with
  | none => simp [listed] at resolved
  | some =>
    simp only [listed] at resolved
    split at resolved
    · next found =>
      split at found
      · cases found
        cases resolved
        rfl
      · cases found
    · cases resolved

/-- A transfer is in the currency that its request names exactly when the ledger of the
request is. -/
theorem transfer_currency_eq_requested_iff {request : TransactionRequest} {freshId : TransactionId}
    {event : TransactionEvent} {transferId : TransferId} {transfer : Transfer}
    (accepted : buildEvent freshId request = .ok event ∨ Aeron.buildEvent freshId request = .ok event)
    (built : buildTransfer transferId event = .ok transfer) :
    transfer.amount.currency.code = request.currency ↔ ledgerCode request.ledgerId = some request.currency := by
  have ledger : event.ledgerId.value = request.ledgerId := by
    rcases accepted with tcp | aeron
    · exact (converts_buildEvent freshId request).ledgerId tcp fun _ _ _ _ => rfl
    · exact (converts_buildPlainEvent freshId request).ledgerId aeron fun _ _ _ _ => rfl
  rw [← ledger, ledgerCode_of_buildTransfer built, Option.some.injEq]

end Agreement

def pendingDollars : TransactionRequest := ⟨"7", "1", "2", "10.50", "USD", 1, 1, 0x02, ""⟩

attribute [local instance] referenceCrates

/-- Only the TCP event is a pending one; the others move the money at once. -/
theorem pendingDollars_disagree : ¬ TransportsAgree (buildEvent ⟨9⟩ pendingDollars)
        (Aeron.buildEvent ⟨9⟩ pendingDollars)
        (IoUring.buildEvent ⟨9⟩ pendingDollars) ∧
      (buildEvent ⟨9⟩ pendingDollars).toOption.map (·.flags.isPending) = some true ∧
      (Aeron.buildEvent ⟨9⟩ pendingDollars).toOption.map (·.flags.isPending) = some false := by
  decide

def yenOnDollarLedger : TransactionRequest := ⟨"7", "1", "2", "500", "JPY", 1, 1, 0, ""⟩

/-- The yen become dollars on both transports: 500 of them on one, five on the other. -/
theorem yenOnDollarLedger_transferred :
    (buildEvent ⟨9⟩ yenOnDollarLedger).toOption.map (·.amountUnits) = some 50000 ∧
      (Aeron.buildEvent ⟨9⟩ yenOnDollarLedger).toOption.map (·.amountUnits) = some 500 ∧
      (buildEvent ⟨9⟩ yenOnDollarLedger >>=
        buildTransfer ⟨1⟩).toOption.map (·.amount.currency.code) = some "USD" ∧
      (Aeron.buildEvent ⟨9⟩ yenOnDollarLedger >>=
        buildTransfer ⟨1⟩).toOption.map (·.amount.currency.code) = some "USD" := by
  decide

/-- US dollars for their own ledger stay US dollars. -/
theorem dollarsOnDollarLedger_transferred : ∃ event transfer, Aeron.buildEvent ⟨9⟩
        ⟨"7", "1", "2", "12.50", "USD", 1, 1, 0, ""⟩ = .ok event ∧
      buildTransfer ⟨1⟩ event = .ok transfer ∧ transfer.amount.currency.code = "USD" := by
  have accepted : Aeron.buildEvent ⟨9⟩
      ⟨"7", "1", "2", "12.50", "USD", 1, 1, 0, ""⟩ =
      .ok ⟨-1, ⟨7⟩, ⟨1⟩, ⟨2⟩, 1250, .usd, 1, ⟨0⟩, ⟨0⟩⟩ := by decide
  have built : buildTransfer ⟨1⟩ ⟨-1, ⟨7⟩, ⟨1⟩, ⟨2⟩, 1250, .usd, 1, ⟨0⟩, ⟨0⟩⟩ =
      .ok ⟨⟨1⟩, ⟨1⟩, ⟨2⟩, ⟨⟨false, 125, 1, by decide, by decide⟩, ⟨"USD"⟩⟩, .usd, 1, {}, none⟩ := by
    decide
  exact ⟨_, _, accepted, built, (@transfer_currency_eq_requested_iff referenceCrates _ _ _ _ _ (.inr accepted) built).mpr rfl⟩

end Blazil.Transport

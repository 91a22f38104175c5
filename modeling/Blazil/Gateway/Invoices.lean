import Blazil.Foundation.Transition
import Mathlib.Data.List.Nodup

/-! Invoices and the webhook that settles them (`services/gateway/internal/billing`). Times are
carried as numbers. The creation time and the line items of an invoice are read by no function here
and are left out, as are the entries of the log. -/

set_option autoImplicit false

namespace Blazil.Gateway

open Foundation

inductive InvoiceStatus where
  | draft
  | opened
  | paid
  | void
deriving DecidableEq

structure Invoice where
  id : String
  tenantId : String
  stripeInvoiceId : Option String
  periodStart : Nat
  periodEnd : Nat
  totalMicroUsd : Int
  status : InvoiceStatus
  paidAt : Option Nat
deriving DecidableEq

@[simps]
def Invoice.setStatus (status : InvoiceStatus) (paidAt : Option Nat) (invoice : Invoice) : Invoice :=
  { invoice with status := status, paidAt := paidAt }

def updateRows (id : String) (status : InvoiceStatus) (paidAt : Option Nat) (rows : List Invoice) : List Invoice :=
  rows.map fun invoice => if invoice.id = id then invoice.setStatus status paidAt else invoice

theorem map_id_updateRows (id : String) (status : InvoiceStatus) (paidAt : Option Nat)
    (rows : List Invoice) : (updateRows id status paidAt rows).map Invoice.id = rows.map Invoice.id := by
  unfold updateRows
  rw [List.map_map]
  apply List.map_congr_left
  intro invoice _
  simp only [Function.comp_apply]
  split <;> rfl

structure InvoiceTable where
  rows : List Invoice
  distinct : (rows.map Invoice.id).Nodup

structure StoreAccess where
  selectId : Bool
  selectInvoice : Bool
  selectLineItems : Bool
  update : Bool
deriving DecidableEq

namespace InvoiceTable

def find (table : InvoiceTable) (id : String) : Option Invoice :=
  table.rows.find? fun invoice => invoice.id = id

def getInvoice (table : InvoiceTable) (id : String) (access : StoreAccess) : Option Invoice :=
  if access.selectInvoice then
    match table.find id with
    | none => none
    | some invoice => if access.selectLineItems then some invoice else none
  else none

def getInvoiceByStripeId (table : InvoiceTable) (stripeInvoiceId : String) (access : StoreAccess) : Option Invoice :=
  if access.selectId then
    match table.rows.find? fun invoice => invoice.stripeInvoiceId = some stripeInvoiceId with
    | none => none
    | some row => table.getInvoice row.id access
  else none

def updateStatus (table : InvoiceTable) (id : String) (status : InvoiceStatus) (paidAt : Option Nat) : InvoiceTable where
  rows := updateRows id status paidAt table.rows
  distinct := (map_id_updateRows id status paidAt table.rows).symm ▸ table.distinct

end InvoiceTable

inductive EventType where
  | invoicePaymentSucceeded
  | invoicePaymentFailed
  | customerSubscriptionDeleted
  | unhandled (name : String)
deriving DecidableEq

/-- An event whose signature is valid, with the id of the invoice in it unless the invoice
cannot be decoded. -/
structure Event where
  type : EventType
  invoiceId : Option String
deriving DecidableEq

/-- The common body of the handlers of invoices. An update that fails is only logged. -/
def onInvoice (status : InvoiceStatus) (paidAt : Option Nat) (table : InvoiceTable)
    (event : Event) (access : StoreAccess) : InvoiceTable :=
  match event.invoiceId with
  | none => table
  | some id =>
    if id = "" then table
    else
      match table.getInvoiceByStripeId id access with
      | none => table
      | some existing =>
        if access.update then table.updateStatus existing.id status paidAt else table

def onInvoicePaid (now : Nat) : InvoiceTable → Event → StoreAccess → InvoiceTable :=
  onInvoice .paid (some now)

def onInvoicePaymentFailed : InvoiceTable → Event → StoreAccess → InvoiceTable :=
  onInvoice .opened none

inductive Delivery where
  | tooLarge
  | invalidSignature
  | valid (event : Event)
deriving DecidableEq

structure Handling where
  delivery : Delivery
  now : Nat
  access : StoreAccess
deriving DecidableEq

/-- The table after a request to the webhook, and the status code of the reply. -/
def serveHttp (table : InvoiceTable) (handling : Handling) : InvoiceTable × Nat :=
  match handling.delivery with
  | .tooLarge => (table, 413)
  | .invalidSignature => (table, 400)
  | .valid event =>
    match event.type with
    | .invoicePaymentSucceeded => (onInvoicePaid handling.now table event handling.access, 200)
    | .invoicePaymentFailed => (onInvoicePaymentFailed table event handling.access, 200)
    | .customerSubscriptionDeleted => (table, 200)
    | .unhandled _ => (table, 200)

def webhook : System InvoiceTable Handling := ⟨fun table handling =>
  some (serveHttp table handling).1⟩

namespace InvoiceTable

variable {table : InvoiceTable} {id : String} {invoice : Invoice}

theorem mem_of_find (found : table.find id = some invoice) : invoice ∈ table.rows ∧ invoice.id = id :=
  ⟨List.mem_of_find?_eq_some found, by simpa using List.find?_some found⟩

theorem find_updateStatus (status : InvoiceStatus) (paidAt : Option Nat) (target : String)
    (found : table.find id = some invoice) : (table.updateStatus target status paidAt).find id =
      some (if id = target then invoice.setStatus status paidAt else invoice) := by
  have own := (mem_of_find found).2
  have same : ((fun invoice : Invoice => decide (invoice.id = id)) ∘ fun invoice =>
      if invoice.id = target then invoice.setStatus status paidAt else invoice) =
        fun invoice => decide (invoice.id = id) := by
    funext other
    by_cases hit : other.id = target <;> simp [hit]
  unfold find at found
  unfold find updateStatus updateRows
  rw [List.find?_map, same, found, Option.map_some, own]

theorem getInvoiceByStripeId_spec {stripeInvoiceId access}
    (found : table.getInvoiceByStripeId stripeInvoiceId access = some invoice) :
    table.find invoice.id = some invoice ∧ invoice.stripeInvoiceId = some stripeInvoiceId := by
  unfold getInvoiceByStripeId at found
  split at found
  · split at found
    · cases found
    · next row selected =>
      unfold getInvoice at found
      split at found
      · split at found
        · cases found
        · next other stored =>
          split at found
          · obtain rfl := Option.some.inj found
            obtain ⟨member, same⟩ := mem_of_find stored
            have selectedMember := List.mem_of_find?_eq_some selected
            have equal : other = row :=
              List.inj_on_of_nodup_map table.distinct member selectedMember same
            rw [same]
            exact ⟨stored, by simpa [equal] using List.find?_some selected⟩
          · cases found
      · cases found
  · cases found

end InvoiceTable

theorem serveHttp_cases (table : InvoiceTable) (handling : Handling) : (serveHttp table handling).1 = table ∨
    ∃ event existing stripeInvoiceId, handling.delivery = .valid event ∧
      event.invoiceId = some stripeInvoiceId ∧ table.find existing.id = some existing ∧
      existing.stripeInvoiceId = some stripeInvoiceId ∧
      (event.type = .invoicePaymentSucceeded ∧ (serveHttp table handling).1 =
          table.updateStatus existing.id .paid (some handling.now) ∨
        event.type = .invoicePaymentFailed ∧ (serveHttp table handling).1 = table.updateStatus existing.id .opened none) := by
  have settles : ∀ (status : InvoiceStatus) (paidAt : Option Nat) (event : Event),
      onInvoice status paidAt table event handling.access = table ∨
      ∃ existing stripeInvoiceId, event.invoiceId = some stripeInvoiceId ∧ table.find existing.id = some existing ∧
        existing.stripeInvoiceId = some stripeInvoiceId ∧
        onInvoice status paidAt table event handling.access = table.updateStatus existing.id status paidAt := by
    intro status paidAt event
    unfold onInvoice
    split
    · exact .inl rfl
    · next id decoded =>
      split
      · exact .inl rfl
      · split
        · exact .inl rfl
        · next existing found =>
          split
          · obtain ⟨stored, stripe⟩ := InvoiceTable.getInvoiceByStripeId_spec found
            exact .inr ⟨existing, id, decoded, stored, stripe, rfl⟩
          · exact .inl rfl
  unfold serveHttp
  split
  · exact .inl rfl
  · exact .inl rfl
  · next event delivered =>
    split
    · next succeeded =>
      rcases settles .paid (some handling.now) event with same | changed
      · exact .inl same
      · obtain ⟨existing, id, decoded, stored, stripe, done⟩ := changed
        exact .inr ⟨event, existing, id, delivered, decoded, stored, stripe, .inl ⟨succeeded, done⟩⟩
    · next failed =>
      rcases settles .opened none event with same | changed
      · exact .inl same
      · obtain ⟨existing, id, decoded, stored, stripe, done⟩ := changed
        exact .inr ⟨event, existing, id, delivered, decoded, stored, stripe, .inr ⟨failed, done⟩⟩
    · exact .inl rfl
    · exact .inl rfl

/-- A delivery comes in time: a failed payment finds its invoice neither paid nor void, and
a payment does not find it void. -/
def Timely (table : InvoiceTable) (handling : Handling) : Prop :=
  ∀ event stripeInvoiceId, handling.delivery = .valid event → event.invoiceId = some stripeInvoiceId →
    ∀ invoice ∈ table.rows, invoice.stripeInvoiceId = some stripeInvoiceId →
      (event.type = .invoicePaymentFailed → invoice.status ≠ .paid ∧ invoice.status ≠ .void) ∧
      (event.type = .invoicePaymentSucceeded → invoice.status ≠ .void)

/-- An invoice keeps a status that is final, and paid ones the time of the payment. -/
def Final (status : InvoiceStatus) (before after : Invoice) : Prop :=
  after.status = status ∧ (before.paidAt.isSome = true → after.paidAt.isSome = true)

theorem final_step {table handling id status first invoice} (final : status = .paid ∨ status = .void)
    (timely : Timely table handling) (found : table.find id = some invoice) (kept : Final status first invoice) :
    ∃ after, (serveHttp table handling).1.find id = some after ∧ Final status first after := by
  rcases serveHttp_cases table handling with same | changed
  · rw [same]
    exact ⟨invoice, found, kept⟩
  · obtain ⟨event, existing, stripeInvoiceId, delivered, decoded, stored, stripe, done⟩ := changed
    obtain ⟨member, _⟩ := InvoiceTable.mem_of_find stored
    obtain ⟨failure, payment⟩ :=
      timely event stripeInvoiceId delivered decoded existing member stripe
    have owns : id = existing.id → existing = invoice := by
      intro own
      rw [← own, found] at stored
      exact (Option.some.inj stored).symm
    rcases done with ⟨succeeded, done⟩ | ⟨failed, done⟩
    · rw [done, InvoiceTable.find_updateStatus _ _ _ found]
      refine ⟨_, rfl, ?_⟩
      split
      · next own =>
        have notVoid := payment succeeded
        rw [owns own, kept.1] at notVoid
        rcases final with rfl | rfl
        · exact ⟨rfl, fun _ => rfl⟩
        · exact absurd rfl notVoid
      · exact kept
    · rw [done, InvoiceTable.find_updateStatus _ _ _ found]
      refine ⟨_, rfl, ?_⟩
      split
      · next own =>
        obtain ⟨notPaid, notVoid⟩ := failure failed
        rw [owns own, kept.1] at notPaid notVoid
        rcases final with rfl | rfl
        · exact absurd rfl notPaid
        · exact absurd rfl notVoid
      · exact kept

/-- Along timely deliveries an invoice that is paid or void stays so. -/
theorem timely_deliveries_keep_final {table later : InvoiceTable} (between : webhook.Reaches Timely table later) {id : String}
    {invoice : Invoice} (found : table.find id = some invoice) (final : invoice.status = .paid ∨ invoice.status = .void) :
    ∃ after, later.find id = some after ∧ after.status = invoice.status ∧
      (invoice.paidAt.isSome = true → after.paidAt.isSome = true) := by
  apply between.invariant (fun table => ∃ after, table.find id = some after ∧
    Final invoice.status invoice after) ⟨invoice, found, rfl, fun isSet => isSet⟩
  intro before handling next timely stepped kept
  obtain ⟨_, stored, kept⟩ := kept
  obtain rfl := Option.some.inj stepped
  exact final_step final timely stored kept

def pushedInvoice (status : InvoiceStatus) (paidAt : Option Nat) : Invoice :=
  ⟨"invoice", "tenant", some "stripe", 0, 1, 1000, status, paidAt⟩

theorem pushedInvoice_distinct (status : InvoiceStatus) (paidAt : Option Nat) :
    ([pushedInvoice status paidAt].map Invoice.id).Nodup :=
  List.nodup_singleton _

def pushedTable (status : InvoiceStatus) (paidAt : Option Nat) : InvoiceTable :=
  ⟨[pushedInvoice status paidAt], pushedInvoice_distinct status paidAt⟩

def handled (type : EventType) (now : Nat) : Handling :=
  ⟨.valid ⟨type, some "stripe"⟩, now, ⟨true, true, true, true⟩⟩

theorem repeated_payment_stays_paid : ∃ later, webhook.Reaches Timely (pushedTable .paid (some 5)) later ∧
    later.rows = [pushedInvoice .paid (some 6)] ∧
    ∃ after, later.find "invoice" = some after ∧ after.status = .paid ∧ after.paidAt.isSome = true := by
  have timely : Timely (pushedTable .paid (some 5)) (handled .invoicePaymentSucceeded 6) := by
    intro event _ delivered _ invoice member _
    obtain rfl : (⟨.invoicePaymentSucceeded, some "stripe"⟩ : Event) = event :=
      Delivery.valid.inj delivered
    obtain rfl := List.mem_singleton.mp member
    exact ⟨fun failed => (nomatch failed), fun _ => by decide⟩
  have reached : webhook.Reaches Timely (pushedTable .paid (some 5))
      (serveHttp (pushedTable .paid (some 5)) (handled .invoicePaymentSucceeded 6)).1 :=
    .step .refl timely rfl
  have found : (pushedTable .paid (some 5)).find "invoice" = some (pushedInvoice .paid (some 5)) := rfl
  obtain ⟨after, stored, status, paidAt⟩ := timely_deliveries_keep_final reached found (.inl rfl)
  exact ⟨_, reached, by decide, after, stored, status, paidAt rfl⟩

/-- A failed attempt that is delivered after the payment opens the invoice again, and a
payment makes a void invoice paid. -/
theorem late_deliveries_undo_final : (serveHttp (pushedTable .opened none) (handled .invoicePaymentSucceeded 5)).1.rows =
      [pushedInvoice .paid (some 5)] ∧
    (serveHttp (pushedTable .paid (some 5)) (handled .invoicePaymentFailed 6)).1.rows = [pushedInvoice .opened none] ∧
    (serveHttp (pushedTable .void none) (handled .invoicePaymentSucceeded 5)).1.rows = [pushedInvoice .paid (some 5)] := by
  decide

end Blazil.Gateway

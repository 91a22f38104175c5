import Blazil.Payments.PaymentService

/-! On which rails a payment is when funds are moved for it. The engine is asked only for
internal payments; the coordinator is asked before the rail is looked at. -/

set_option autoImplicit false

namespace Blazil.Payments

open Foundation Foundation.System

def authorizedPayment (request : ProcessPaymentRequest) (paymentId : String) : Payment :=
  { newPayment request paymentId with status := .authorized }

variable {collaborators : Collaborators} {request : ProcessPaymentRequest} {payment : Payment}

structure Collaborators.Routed (collaborators : Collaborators) (request : ProcessPaymentRequest)
    (paymentId : String) (payment : Payment) : Prop where
  approved : (collaborators.authorize (newPayment request paymentId)).approved = true
  routed : collaborators.route (authorizedPayment request paymentId) = .ok payment.rails
  payment : payment = { authorizedPayment request paymentId with rails := payment.rails }

theorem Collaborators.prepare_asks {paymentId : String} {phase : CallPhase}
    (prepared : collaborators.prepare (newPayment request paymentId) = phase) :
    (phase = .executing payment → collaborators.Routed request paymentId payment ∧
      collaborators.crossesShards payment = true ∧ collaborators.hasCoordinator = true) ∧
    (phase = .submitting payment → collaborators.Routed request paymentId payment ∧ payment.rails = .internal) := by
  unfold prepare at prepared
  dsimp only at prepared
  split at prepared
  · next approved =>
    split at prepared
    · subst prepared
      simp
    · next routed =>
      split at prepared
      · next crosses =>
        subst prepared
        refine ⟨fun same => ?_, fun other => by cases other⟩
        cases same
        exact ⟨⟨approved, routed, rfl⟩, Bool.and_eq_true_iff.mp crosses⟩
      · split at prepared
        · next internal =>
          subst prepared
          refine ⟨(fun other => by cases other), fun same => ?_⟩
          cases same
          exact ⟨⟨approved, routed, rfl⟩, internal⟩
        · subst prepared
          simp
  · subst prepared
    simp

theorem Collaborators.Routed.prepare {paymentId : String} (routed : collaborators.Routed request paymentId payment)
    (crosses : collaborators.crossesShards payment = true) (coordinated : collaborators.hasCoordinator = true) :
    collaborators.prepare (newPayment request paymentId) = .executing payment := by
  have selected := routed.routed
  unfold authorizedPayment at selected
  simp only [Collaborators.prepare, routed.approved, if_true, selected]
  have same : { authorizedPayment request paymentId with rails := payment.rails } = payment :=
    routed.payment.symm
  unfold authorizedPayment at same
  rw [same, crosses, coordinated]
  rfl

namespace Processor

/-- The step asks the coordinator or the engine to move the funds of the payment. -/
inductive Asks (processor : Processor) (payment : Payment) : ProcessorLabel → Prop where
  | execute {index applied failure} (present : processor.InPhase index (.executing payment)) :
      Asks processor payment (.execute index applied failure)
  | submit {index applied reply} (present : processor.InPhase index (.submitting payment)) :
      Asks processor payment (.submit index applied reply)

/-- A call that waits for an answer waits for what was prepared. -/
def Prepared (collaborators : Collaborators) (processor : Processor) : Prop :=
  ∀ index phase, processor.InPhase index phase → phase.awaited ≠ none →
    ∃ request paymentId, collaborators.prepare (newPayment request paymentId) = phase

variable {processor next : Processor} {label : ProcessorLabel}

theorem Prepared.setPhase {index : Nat} {after : CallPhase} (prepared : processor.Prepared collaborators)
    (answered : after.awaited = none) : (processor.setPhase index after).Prepared collaborators := by
  intro other phase present awaited
  rcases inPhase_setPhase present with ⟨_, rfl⟩ | before
  · exact absurd answered awaited
  · exact prepared other phase before awaited

theorem Prepared.step (prepared : processor.Prepared collaborators)
    (stepped : processor.step collaborators label = some next) : next.Prepared collaborators := by
  cases step_moves stepped with
  | begin =>
    rintro index phase ⟨request, found⟩ awaited
    rcases entry_of_concat found with ⟨_, earlier⟩ | ⟨_, new⟩
    · exact prepared index phase ⟨request, earlier⟩ awaited
    · cases new
      exact absurd rfl awaited
  | get => exact prepared.setPhase (awaited_afterGet ..)
  | @build _ paymentId request _ =>
    intro other phase present awaited
    rcases inPhase_setPhase present with ⟨_, rfl⟩ | before
    · exact ⟨request, paymentId, rfl⟩
    · exact prepared other phase before awaited
  | execute => exact Prepared.setPhase prepared (awaited_afterExecute ..)
  | submit => exact Prepared.setPhase prepared (awaited_afterSubmit ..)
  | expire | set | save => exact Prepared.setPhase prepared rfl
  | cleanup | wait => exact prepared

theorem prepared_of_reachable {ttl : Nat} (reached : (system collaborators).Reachable (started ttl) processor) :
    processor.Prepared collaborators := by
  apply reached.invariant (Prepared collaborators)
  · rintro _ _ ⟨_, found⟩
    cases found
  · intro before label after _ stepped prepared
    exact prepared.step stepped

theorem Asks.routed {ttl : Nat} (asks : processor.Asks payment label)
    (reached : (system collaborators).Reachable (started ttl) processor) :
    ∃ request paymentId, collaborators.Routed request paymentId payment ∧
      (payment.rails = .internal ∨ collaborators.crossesShards payment = true ∧ collaborators.hasCoordinator = true ∧
        ∃ index applied failure, label = .execute index applied failure) := by
  have prepared := prepared_of_reachable reached
  cases asks with
  | execute present =>
    obtain ⟨request, paymentId, chosen⟩ := prepared _ _ present (by simp [CallPhase.awaited])
    obtain ⟨routed, crosses, coordinated⟩ := (Collaborators.prepare_asks chosen).1 rfl
    exact ⟨request, paymentId, routed, .inr ⟨crosses, coordinated, _, _, _, rfl⟩⟩
  | submit present =>
    obtain ⟨request, paymentId, chosen⟩ := prepared _ _ present (by simp [CallPhase.awaited])
    obtain ⟨routed, internal⟩ := (Collaborators.prepare_asks chosen).2 rfl
    exact ⟨request, paymentId, routed, .inl internal⟩

/-- Funds are moved only for payments whose rail the router has selected, and the engine is
asked only if that rail is the internal one. This is so of the coordinator as well exactly if
the router selects the internal rail for every payment that the coordinator is given. -/
theorem asks_internal_iff (collaborators : Collaborators) :
    (∀ ttl processor label payment, (system collaborators).Reachable (started ttl) processor →
      processor.Asks payment label → (∃ request paymentId, collaborators.Routed request paymentId payment) ∧
        ((∃ index applied reply, label = .submit index applied reply) → payment.rails = .internal)) ∧
    ((∀ ttl processor label payment, (system collaborators).Reachable (started ttl) processor →
        processor.Asks payment label → payment.rails = .internal) ↔
      ∀ request paymentId payment, collaborators.Routed request paymentId payment →
        collaborators.crossesShards payment = true → collaborators.hasCoordinator = true →
        payment.rails = .internal) := by
  refine ⟨fun ttl processor label payment reached asks => ?_, fun always => ?_, fun given => ?_⟩
  · obtain ⟨request, paymentId, routed, rail⟩ := asks.routed reached
    refine ⟨⟨request, paymentId, routed⟩, ?_⟩
    rintro ⟨_, _, _, rfl⟩
    rcases rail with internal | ⟨_, _, _, _, _, other⟩
    · exact internal
    · cases other
  · intro request paymentId payment routed crosses coordinated
    have executed : (system collaborators).run (started 0) [.begin request, .get 0, .build 0 paymentId] =
          some ⟨⟨fun _ => none, 0⟩, 0, [⟨request, .executing payment⟩], []⟩ := by
      rw [← routed.prepare crosses coordinated]
      rfl
    exact always 0 _ (.execute 0 true none) payment (reachable_of_run executed) (.execute ⟨request, rfl⟩)
  · intro ttl processor label payment reached asks
    obtain ⟨request, paymentId, routed, internal | ⟨crosses, coordinated, _⟩⟩ := asks.routed reached
    · exact internal
    · exact given request paymentId payment routed crosses coordinated

/-- Every payment is approved, the router has its default rules, and the accounts of a
payment are always on two shards. -/
def spread : Collaborators :=
  ⟨fun _ => ⟨true, ""⟩, RouterConfig.route {}, some fun _ _ => true, true⟩

def euroPayment : ProcessPaymentRequest := ⟨"order-8", "1", "9", ⟨5000, "EUR"⟩, 1, []⟩

/-- The coordinator moves the funds of a payment for which the router has selected SEPA, and
the payment is then as settled as an internal one. -/
theorem euroPayment_executed : ∃ processor payment, (system spread).Reachable (started 10) processor ∧
      processor.Asks payment (.execute 0 true none) ∧ payment.rails = .sepa ∧
      (processor.step spread (.execute 0 true none)).map (·.transfers) = some [("order-8", payment)] :=
  ⟨⟨⟨fun _ => none, 10⟩, 0, [⟨euroPayment, .executing
      { newPayment euroPayment "pay-2" with status := .authorized, rails := .sepa }⟩], []⟩, _,
    reachable_of_run (show (system spread).run (started 10)
      [.begin euroPayment, .get 0, .build 0 "pay-2"] = _ by rfl),
    .execute ⟨euroPayment, rfl⟩, rfl, rfl⟩

end Processor

end Blazil.Payments

import Blazil.Transport.AeronServerProperties

/-! The request ids in the responses of the Aeron serve loop. The loop keeps the number that
a request's id is read as, and writes that number into the response. -/

set_option autoImplicit false

namespace Blazil.Transport

open Blazil.Common Blazil.Engine Foundation Foundation.System

/-- An id comes back as it was sent exactly if it is written as the number it is read as;
an id that is no number is read as a generated one. -/
theorem requestTransactionId_echoed_iff [ExternalCrates] {text : String} (freshId : TransactionId) :
    toString (requestTransactionId freshId text).value.toNat = text ↔ DecimalId text := by
  constructor
  · intro same
    exact ⟨_, same.symm⟩
  · intro decimal
    exact (decimal.requestTransactionId freshId).symm

def ReadFrom [ExternalCrates] (reqId : UInt64) (request : TransactionRequest) : Prop :=
  ∃ freshId, reqId = (requestTransactionId freshId request.requestId).value

theorem ReadFrom.echoed_iff [ExternalCrates] {reqId request}
    (read : ReadFrom reqId request) : toString reqId.toNat = request.requestId ↔ DecimalId request.requestId := by
  obtain ⟨freshId, rfl⟩ := read
  exact requestTransactionId_echoed_iff freshId

namespace AeronServer

variable {numShards : Nat}

/-- A new sequence is published only while both tables have room for it. -/
def Spaced (server : AeronServer numShards) : AeronLabel numShards → Prop
  | .publish => server.HasRoom
  | _ => True

instance (server : AeronServer numShards) (label : AeronLabel numShards) : Decidable (server.Spaced label) :=
  match label with
  | .publish => inferInstanceAs (Decidable (_ < _))
  | .turn _ | .drain _ | .poll _ | .pump _ | .spin _ | .check _ | .engine _ => .isTrue trivial

/-- The request that a response made in a step is for: the next fragment's, that of the event
which waits to be published, or that of the sequence which is drained. -/
def Concerns (server : AeronServer numShards) (label : AeronLabel numShards) (request : TransactionRequest) : Prop :=
  match label with
  | .pump _ => server.phase.nextRequest = some request
  | .check _ => ∃ reqId job, server.phase.held = some (reqId, job) ∧ job.tag = some request
  | .drain _ | .spin _ => ∃ source ∈ server.engine.runtime.pipeline.published,
      source.sequence = server.nextToDrain ∧ source.event.tag = some request
  | .turn _ | .poll _ | .publish | .engine _ => False

def Undecoded (server : AeronServer numShards) (label : AeronLabel numShards) : Prop :=
  ∃ taken fragment rest reason, label = .pump taken ∧ server.phase = .pumping (fragment :: rest) ∧
    fragment.payload = .error reason

private theorem not_offered {offers} {offer : Offer} (same : offers = offers ++ [offer]) : False := by
  simp at same

section Steps

variable [ExternalCrates]

inductive Offered (server : AeronServer numShards) : AeronLabel numShards → Offer → Prop where
  | undecoded {taken fragment rest reason} (pumping : server.phase = .pumping (fragment :: rest))
      (malformed : fragment.payload = .error reason) :
      Offered server (.pump taken) ⟨none, errorResponse "" (.transport reason.message), taken⟩
  | refused {taken fragment rest reason request} (pumping : server.phase = .pumping (fragment :: rest))
      (accepted : fragment.payload = .ok request) :
      Offered server (.pump taken) ⟨none, errorResponse
        (toString (requestTransactionId fragment.responseId request.requestId).value.toNat) reason,
        taken⟩
  | full {taken reqId job rest} (calling : server.phase = .calling reqId job rest) :
      Offered server (.check taken) ⟨none, errorResponse (toString reqId.toNat) (.ringBufferFull 1), taken⟩
  | drained {label taken result engine} (origin : label = .drain taken ∨ label = .spin taken)
      (took : server.engine.take server.nextToDrain = some (result, engine)) :
      Offered server label ⟨some server.nextToDrain, buildResponse
        (toString (server.reqIdSlots.get server.nextToDrain).toNat) result, taken⟩

variable {server next : AeronServer numShards} {label : AeronLabel numShards} {offer : Offer} {risk : RiskHandler}

private theorem drainOne_offered {taken : Bool} (origin : label = .drain taken ∨ label = .spin taken)
    (drained : server.drainOne taken = some next)
    (offered : next.offers = server.offers ++ [offer]) : server.Offered label offer := by
  obtain ⟨_, _, took, rfl⟩ := drainOne_some drained
  have own := List.append_cancel_left offered
  rw [← (List.cons.inj own).1]
  exact .drained origin took

theorem step_offered (stepped : server.step risk label = some next)
    (offered : next.offers = server.offers ++ [offer]) : server.Offered label offer := by
  cases label with simp only [step] at stepped
  | turn =>
    split at stepped <;> cases stepped
    exact (not_offered offered).elim
  | drain =>
    split at stepped
    · split at stepped
      · split at stepped
        · next drained =>
          cases stepped
          exact drainOne_offered (.inl rfl) drained offered
        · cases stepped
          exact (not_offered offered).elim
      · cases stepped
        exact (not_offered offered).elim
    · cases stepped
  | poll =>
    split at stepped
    · split at stepped <;> cases stepped
      exact (not_offered offered).elim
    · cases stepped
  | pump =>
    split at stepped
    · cases stepped
      exact (not_offered offered).elim
    · next fragment rest pumping =>
      cases stepped
      unfold pump at offered
      split at offered
      · next malformed =>
        have own := List.append_cancel_left offered
        rw [← (List.cons.inj own).1]
        exact .undecoded pumping malformed
      · next accepted =>
        split at offered
        · have own := List.append_cancel_left offered
          rw [← (List.cons.inj own).1]
          exact .refused pumping accepted
        · exact (not_offered offered).elim
    · cases stepped
  | spin taken =>
    split at stepped
    · split at stepped
      · cases stepped
        exact (not_offered offered).elim
      · cases drained : server.drainOne taken with rw [drained] at stepped
        | none =>
          cases stepped
          exact (not_offered offered).elim
        | some =>
          cases stepped
          exact drainOne_offered (.inr rfl) drained offered
    · cases stepped
  | check =>
    split at stepped
    · next calling =>
      split at stepped
      · obtain ⟨_, _, rfl⟩ := Option.map_eq_some_iff.mp stepped
        exact (not_offered offered).elim
      · cases stepped
        have own := List.append_cancel_left offered
        rw [← (List.cons.inj own).1]
        exact .full calling
    · cases stepped
  | publish | engine =>
    split at stepped
    · obtain ⟨_, _, rfl⟩ := Option.map_eq_some_iff.mp stepped
      exact (not_offered offered).elim
    · cases stepped

theorem marks_of_reaches {capacity blank pipeline} (built : Pipeline.build Unit numShards capacity blank = .ok pipeline)
    (reached : (system risk).Reaches Spaced (started pipeline) server) : ∃ history, server.Marks ReadFrom history := by
  refine reached.invariant (fun server => ∃ history, server.Marks ReadFrom history) ⟨_, marks_started built⟩ ?_
  intro before label after spaced stepped invariant
  obtain ⟨_, marks⟩ := invariant
  refine marks.step (fun _ fragment _ _ _ _ _ => ⟨fragment.responseId, rfl⟩) ?_ stepped
  rintro rfl
  exact spaced

/-- In a run that publishes only while the tables have room, a response to a request carries
the request's id exactly if the id is written as the number it is read as. -/
theorem response_echoes_requestId_iff {risk : RiskHandler} {capacity : Nat} {blank : Nat → AeronJob}
    {pipeline : Pipeline Unit AeronJob numShards} {server next : AeronServer numShards} {label : AeronLabel numShards}
    {offer : Offer} (built : Pipeline.build Unit numShards capacity blank = .ok pipeline)
    (reached : (system risk).Reaches Spaced (started pipeline) server) (stepped : server.step risk label = some next)
    (offered : next.offers = server.offers ++ [offer]) :
    server.Undecoded label ∨ (∃ request, server.Concerns label request) ∧ ∀ request, server.Concerns label request →
        (offer.response.requestId = request.requestId ↔ DecimalId request.requestId) := by
  obtain ⟨_, marks⟩ := marks_of_reaches built reached
  cases step_offered stepped offered with
  | @undecoded taken fragment rest reason pumping malformed =>
    exact .inl ⟨taken, fragment, rest, reason, rfl, pumping, malformed⟩
  | @refused _ fragment _ _ request pumping accepted =>
    have own : server.phase.nextRequest = some request := by
      rw [pumping, ServePhase.nextRequest, accepted]
      rfl
    refine .inr ⟨⟨request, own⟩, fun other concerned => ?_⟩
    cases entry_unique own concerned
    exact requestTransactionId_echoed_iff fragment.responseId
  | @full _ reqId job _ calling =>
    have held : server.phase.held = some (reqId, job) := congrArg ServePhase.held calling
    obtain ⟨request, tagged, read⟩ := marks.held reqId job held
    refine .inr ⟨⟨request, reqId, job, held, tagged⟩, ?_⟩
    rintro _ ⟨_, _, otherHeld, otherTagged⟩
    cases held.symm.trans otherHeld
    cases tagged.symm.trans otherTagged
    exact read.echoed_iff
  | @drained _ _ result _ origin took =>
    obtain ⟨known, _⟩ := marks.tracks.take_some took
    obtain ⟨source, member, same, request, tagged, read⟩ := marks.drained_request known
    have unique : ∀ other ∈ server.engine.runtime.pipeline.published,
        other.sequence = server.nextToDrain → other = source := fun other listed sequence =>
      marks.tracks.invariant.solo.published_unique listed member (sequence.trans same.symm)
    have echoed : (buildResponse (toString (server.reqIdSlots.get server.nextToDrain).toNat)
        result).requestId = request.requestId ↔ DecimalId request.requestId := by
      cases result with
      | committed | rejected => exact read.echoed_iff
    have answer : ∀ other, (∃ entry ∈ server.engine.runtime.pipeline.published,
        entry.sequence = server.nextToDrain ∧ entry.event.tag = some other) →
        other = request := by
      rintro _ ⟨entry, listed, sequence, otherTagged⟩
      cases unique entry listed sequence
      exact entry_unique otherTagged tagged
    rcases origin with rfl | rfl
    · refine .inr ⟨⟨request, source, member, same, tagged⟩, fun other concerned => ?_⟩
      rw [answer other concerned]
      exact echoed
    · refine .inr ⟨⟨request, source, member, same, tagged⟩, fun other concerned => ?_⟩
      rw [answer other concerned]
      exact echoed

end Steps

open Blazil.Engine.Runtime (unlimited)

def beforeDrain (requestId : String) : List (AeronLabel 1) :=
  polling [fragmentOf requestId] ++ publishing ++ handling [⟨10⟩] ++ committing 0 [(0, ⟨10⟩)] ++ [.pump true, .turn false]

theorem decimalId_echoed : ∃ server next offer, (@system 1 referenceCrates unlimited).Reaches Spaced
        (started singleWorker) server ∧ @step 1 referenceCrates unlimited server (.drain true) = some next ∧
      next.offers = server.offers ++ [offer] ∧
      ∃ request, server.Concerns (.drain true) request ∧ request.requestId = "100" ∧
        offer.response.requestId = "100" := by
  obtain ⟨server, reached, empty, ⟨source, member, same, named⟩, moved⟩ := exists_reaches_of_run
    (@system 1 referenceCrates unlimited) Spaced (started singleWorker) (beforeDrain "100")
    (fun server => server.offers.length = 0 ∧ (∃ source ∈ server.engine.runtime.pipeline.published,
        source.sequence = server.nextToDrain ∧
          source.event.tag.map (fun request => request.requestId) = some "100") ∧
      (@step 1 referenceCrates unlimited server (.drain true)).any (fun next => next.offers.length = 1) = true)
    (by decide) (by decide)
  cases stepped : @step 1 referenceCrates unlimited server (.drain true) with
  | none => simp [stepped] at moved
  | some next =>
    have one : next.offers.length = 1 := by simpa [stepped] using moved
    obtain ⟨offer, only⟩ := List.length_eq_one_iff.mp one
    have offered : next.offers = server.offers ++ [offer] := by
      rw [List.eq_nil_of_length_eq_zero empty, only, List.nil_append]
    obtain ⟨request, tagged, id⟩ := Option.map_eq_some_iff.mp named
    have concerned : server.Concerns (.drain true) request := ⟨source, member, same, tagged⟩
    rcases @response_echoes_requestId_iff _ referenceCrates unlimited _ _ _ _ _ _ _ singleWorker_built reached
      stepped offered with undecoded | ⟨_, echoed⟩
    · obtain ⟨_, _, _, _, pumped, _⟩ := undecoded
      cases pumped
    · have back := (echoed request concerned).mpr (by rw [id]; exact ⟨100, rfl⟩)
      exact ⟨server, next, offer, reached, stepped, offered, request, concerned, id, back.trans id⟩

/-- The request with id "007" is committed and answered under the id "7". -/
theorem leadingZeros_lost : ∃ server, (@system 1 referenceCrates unlimited).Reaches Spaced (started singleWorker) server ∧
      (∃ source ∈ server.engine.runtime.pipeline.published, source.sequence = 0 ∧
        source.event.tag.map (fun request => request.requestId) = some "007") ∧
      ∃ offer ∈ server.offers, offer.sequence = some 0 ∧ offer.response.committed = true ∧
        offer.response.requestId = "7" :=
  exists_reaches_of_run (@system 1 referenceCrates unlimited) Spaced (started singleWorker)
    (beforeDrain "007" ++ [.drain true]) _ (by decide) (by decide)

end AeronServer

end Blazil.Transport

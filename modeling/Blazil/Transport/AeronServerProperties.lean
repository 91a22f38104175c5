import Blazil.Transport.AeronMarks

/-! The responses of the Aeron serve loop. The ring buffer takes a new event as soon as
an old one has been handled, whether or not its result was drained; so the sequences
without a response can outgrow the result ring and the table of request ids. In runs
where they do not, each response belongs to its sequence, and a loop at rest has
answered every published sequence once. -/

set_option autoImplicit false

namespace Blazil.Transport

open Blazil.Common Blazil.Engine Blazil.Ledger Foundation Foundation.System

/-- Ids that are written as the decimal number they are read as. -/
def DecimalId (text : String) : Prop := ∃ number : UInt64, text = toString number.toNat

theorem decimalId_iff {text : String} : DecimalId text ↔ ∃ number ∈ parseU64 text, text = toString number.toNat := by
  constructor
  · intro decimal
    obtain ⟨number, rfl⟩ := decimal
    exact ⟨number, parseU64_toString number, rfl⟩
  · intro parsed
    obtain ⟨number, _, same⟩ := parsed
    exact ⟨number, same⟩

instance (text : String) : Decidable (DecimalId text) :=
  decidable_of_iff _ decimalId_iff.symm

theorem DecimalId.requestTransactionId [ExternalCrates] {text : String} (decimal : DecimalId text)
    (freshId : TransactionId) : text = toString (requestTransactionId freshId text).value.toNat := by
  obtain ⟨number, rfl⟩ := decimal
  have read : TransactionId.fromStr (toString number.toNat) = .ok ⟨number⟩ := by
    unfold TransactionId.fromStr parseU64Id
    rw [parseU64_toString]
    rfl
  rw [Transport.requestTransactionId, read]

def ServePhase.nextRequest : ServePhase → Option TransactionRequest
  | .pumping (fragment :: _) => fragment.payload.toOption
  | _ => none

namespace AeronServer

variable {numShards : Nat}

def responsesFor (server : AeronServer numShards) (sequence : Int) : Nat :=
  server.offers.countP fun offer => offer.sequence = some sequence ∧ offer.taken = true

/-- A response for a sequence names the request published at it and reports the ledger's
one reply for it, or the refusal of an event that was not sent to the ledger. -/
def Matches [ExternalCrates] (server : AeronServer numShards) (sequence : Int) (response : TransactionResponse) : Prop :=
  ∃ source ∈ server.engine.runtime.pipeline.published, source.sequence = sequence ∧
    ∃ request, source.event.tag = some request ∧ ((∃ reply, server.engine.runtime.Answered sequence reply ∧
          (∀ other, server.engine.runtime.Answered sequence other → other = reply) ∧
          response = buildResponse request.requestId (resultOf reply)) ∨
        server.engine.runtime.timesDispatched sequence = 0 ∧
          ∃ reason, response = buildResponse request.requestId (.rejected reason))

/-- The workers have handled every published event, the batch tasks are finished, and
the loop finds no result to drain. -/
def AtRest (server : AeronServer numShards) : Prop :=
  server.engine.runtime.pipeline.Drained ∧ (∀ task ∈ server.engine.runtime.tasks, task.phase.isActive = false) ∧
    (server.engine.take server.nextToDrain).isNone = true

instance (server : AeronServer numShards) : Decidable server.AtRest :=
  inferInstanceAs (Decidable (_ ∧ _ ∧ _))

/-- Offers are taken, ids are decimal numbers, a closing event flushes the queue, and an
event is published only while both tables have room for all sequences not yet drained. -/
def Careful (risk : RiskHandler) (server : AeronServer numShards) : AeronLabel numShards → Prop
  | .drain taken | .spin taken => taken = true
  | .pump _ => ∀ request ∈ server.phase.nextRequest, DecimalId request.requestId
  | .publish => server.engine.runtime.pipeline.ring.cursor + 1 < server.nextToDrain + min server.engine.ring.capacity reqSlotsCap
  | .engine label => server.engine.runtime.ClosesCleanly risk label
  | .turn _ | .poll _ | .check _ => True

instance (risk : RiskHandler) (server : AeronServer numShards) (label : AeronLabel numShards) :
    Decidable (server.Careful risk label) :=
  match label with
  | .drain taken | .spin taken => inferInstanceAs (Decidable (taken = true))
  | .pump _ => inferInstanceAs (Decidable (∀ request ∈ server.phase.nextRequest, _))
  | .publish => inferInstanceAs (Decidable (_ < _))
  | .engine label => inferInstanceAs (Decidable (server.engine.runtime.ClosesCleanly risk label))
  | .turn _ | .poll _ | .check _ => .isTrue trivial

/-- The loop against an engine that keeps every result: `history` has the result of each
drained sequence. -/
structure Serves [ExternalCrates] (server : AeronServer numShards) (history : Results) : Prop where
  tracks : server.engine.Tracks history server.nextToDrain
  waits : server.engine.runtime.WaitsWhileDraining
  slots : server.reqIdSlots.capacity = reqSlotsCap
  lap : server.engine.runtime.pipeline.ring.cursor < server.nextToDrain + reqSlotsCap
  calling : (server.engine.runtime.pipeline.publishers ()).event? = server.phase.underWay
  held : ∀ reqId job, server.phase.held = some (reqId, job) →
    ∃ request, job.tag = some request ∧ request.requestId = toString reqId.toNat
  marked : ∀ source ∈ server.engine.runtime.pipeline.published,
    ∃ request, source.event.tag = some request ∧ (server.nextToDrain ≤ source.sequence →
      request.requestId = toString (server.reqIdSlots.get source.sequence).toNat)
  numbered : server.offers.filterMap (fun offer => offer.sequence) = stride (-1) 1 server.nextToDrain.toNat
  taken : ∀ offer ∈ server.offers, ∀ sequence, offer.sequence = some sequence → offer.taken = true
  answered : ∀ offer ∈ server.offers, ∀ sequence, offer.sequence = some sequence →
    ∃ source ∈ server.engine.runtime.pipeline.published, source.sequence = sequence ∧
      ∃ request result, source.event.tag = some request ∧ history sequence = some result ∧
        offer.response = buildResponse request.requestId result

/-- The id is the number that the request's own id writes. -/
def Names (reqId : UInt64) (request : TransactionRequest) : Prop :=
  request.requestId = toString reqId.toNat

theorem Serves.marks [ExternalCrates] {server : AeronServer numShards} {history : Results}
    (serves : server.Serves history) : server.Marks Names history :=
  ⟨serves.tracks, serves.slots, serves.lap, serves.calling, serves.held, serves.marked⟩

variable {pipeline : Pipeline Unit AeronJob numShards} {blank : Nat → AeronJob} {capacity : Nat}

theorem serves_started [ExternalCrates]
    (built : Pipeline.build Unit numShards capacity blank = .ok pipeline) : (started pipeline).Serves fun _ => none := by
  have marks : (started pipeline).Marks Names fun _ => none := marks_started built
  refine { marks with waits := ?_, numbered := rfl, taken := ?_, answered := ?_ }
  · exact fun worker waiting => absurd rfl waiting
  · intro offer member
    cases member
  · intro offer member
    cases member

section Steps

variable [ExternalCrates] {risk : RiskHandler} {server next : AeronServer numShards} {history : Results}
  {label : AeronLabel numShards}

section

variable (serves : server.Serves history)
include serves

private theorem serves_inside {phase : ServePhase} {refusals : List Offer}
    (careful : server.Careful risk label) (quiet : server.phase.underWay = none) (after : phase.underWay = none)
    (held : ∀ pair, phase.held = some pair → server.HeldBy label pair)
    (unnumbered : ∀ refusal ∈ refusals, refusal.sequence = none) :
    Serves { server with phase := phase, offers := server.offers ++ refusals } history := by
  have old : ∀ offer ∈ server.offers ++ refusals, ∀ sequence, offer.sequence = some sequence → offer ∈ server.offers := by
    intro offer member sequence numbered
    rcases List.mem_append.mp member with earlier | refusal
    · exact earlier
    · rw [unnumbered offer refusal] at numbered
      cases numbered
  have marks := @Marks.inside _ _ Names server history phase serves.marks label refusals (by
      rintro _ fragment _ request rfl pumping accepted
      have decimal : DecimalId request.requestId := by
        refine careful request ?_
        rw [pumping, ServePhase.nextRequest, accepted]
        rfl
      exact decimal.requestTransactionId fragment.responseId)
    quiet after held
  refine { marks with waits := serves.waits, numbered := ?_, taken := ?_, answered := ?_ }
  · have nothing : refusals.filterMap (fun offer => offer.sequence) = [] :=
      List.filterMap_eq_nil_iff.mpr unnumbered
    rw [List.filterMap_append, nothing, List.append_nil]
    exact serves.numbered
  · intro offer member sequence numbered
    exact serves.taken offer (old offer member sequence numbered) sequence numbered
  · intro offer member sequence numbered
    exact serves.answered offer (old offer member sequence numbered) sequence numbered

private theorem serves_answer {phase : ServePhase} {taken : Bool} {result : TransactionResult}
    {engine : RingEngine Unit (Option TransactionRequest) numShards}
    (careful : server.Careful risk label) (origin : label = .drain taken ∨ label = .spin taken)
    (quiet : server.phase.underWay = none) (after : phase.underWay = none) (held : phase.held = server.phase.held)
    (took : server.engine.take server.nextToDrain = some (result, engine)) : Serves { server with
      engine := engine
      nextToDrain := server.nextToDrain + 1
      phase := phase
      offers := server.offers ++ [⟨some server.nextToDrain, buildResponse
        (toString (server.reqIdSlots.get server.nextToDrain).toNat) result, taken⟩] }
      history := by
  obtain ⟨known, _, kept⟩ := serves.tracks.take_some took
  have pipeline : engine.runtime.pipeline = server.engine.runtime.pipeline := by
    simpa using congrArg Runtime.pipeline kept
  have handlers : engine.runtime.handlers = server.engine.runtime.handlers := by
    simpa using congrArg Runtime.handlers kept
  have accepted : taken = true := by
    rcases origin with rfl | rfl <;> exact careful
  refine { serves.marks.answer quiet after held took with
    waits := ?_, numbered := ?_, taken := ?_, answered := ?_ }
  · intro worker waiting
    rw [handlers] at waiting
    simp only [pipeline]
    exact serves.waits worker waiting
  · rw [List.filterMap_append, serves.numbered, stride_upTo serves.tracks.nonneg]
    rfl
  · exact holds_after_concat serves.taken fun _ _ => accepted
  · intro offer listed sequence numbered
    simp only [pipeline]
    rcases mem_concat.mp listed with earlier | rfl
    · exact serves.answered offer earlier sequence numbered
    · cases numbered
      obtain ⟨source, member, same, request, tagged, named⟩ := serves.marks.drained_request known
      exact ⟨source, member, same, request, result, tagged, known, by rw [named]⟩

private theorem serves_advance {after label}
    (simulated : (server.engine.runtime.withResults history).step risk label = some (next.engine.runtime.withResults after))
    (closes : server.engine.runtime.ClosesCleanly risk label)
    (grown : ∀ source ∈ server.engine.runtime.pipeline.published,
      source ∈ next.engine.runtime.pipeline.published) (marks : next.Marks Names after)
    (drained : next.nextToDrain = server.nextToDrain) (offers : next.offers = server.offers) : next.Serves after := by
  have invariant := serves.tracks.invariant
  have waits : (server.engine.runtime.withResults history).WaitsWhileDraining := serves.waits
  refine { marks with waits := ?_, numbered := ?_, taken := ?_, answered := ?_ }
  · have kept := waits.step invariant.onStride invariant.accounting closes simulated
    exact kept
  · rw [offers, drained]
    exact serves.numbered
  · rw [offers]
    exact serves.taken
  · intro offer listed sequence numbered
    rw [offers] at listed
    obtain ⟨source, member, same, request, result, tagged, known, response⟩ :=
      serves.answered offer listed sequence numbered
    have kept : after sequence = some result :=
      invariant.settling.results_kept invariant.onStride invariant.accounting simulated known
    exact ⟨source, grown source member, same, request, result, tagged, kept, response⟩

theorem Serves.step (careful : server.Careful risk label)
    (stepped : server.step risk label = some next) : ∃ after, next.Serves after := by
  cases step_moves stepped with
  | inside _ _ quiet after held unnumbered =>
    exact ⟨history, serves_inside serves careful quiet after held unnumbered⟩
  | answer _ origin quiet after held took =>
    exact ⟨history, serves_answer serves careful origin quiet after held took⟩
  | check calling room moved =>
    obtain ⟨after, simulated, published, marks⟩ := serves.marks.check calling room moved
    refine ⟨after, serves_advance serves simulated trivial ?_ marks rfl rfl⟩
    exact fun source member => published ▸ member
  | publish publishing seen moved =>
    obtain ⟨after, simulated, grown, marks⟩ := serves.marks.publish careful publishing seen moved
    exact ⟨after, serves_advance serves simulated trivial grown marks rfl rfl⟩
  | engine background moved =>
    obtain ⟨after, simulated, published, marks⟩ := serves.marks.engine background moved
    refine ⟨after, serves_advance serves simulated careful ?_ marks rfl rfl⟩
    exact fun source member => published ▸ member

end

theorem serves_of_reaches (built : Pipeline.build Unit numShards capacity blank = .ok pipeline)
    (reached : (system risk).Reaches (Careful risk) (started pipeline) server) : ∃ history, server.Serves history := by
  refine reached.invariant (fun server => ∃ history, server.Serves history) ⟨_, serves_started built⟩ ?_
  intro before label after careful stepped invariant
  obtain ⟨_, serves⟩ := invariant
  exact serves.step careful stepped

theorem Serves.responsesFor_eq (serves : server.Serves history) (sequence : Int) :
    server.responsesFor sequence = (stride (-1) 1 server.nextToDrain.toNat).count sequence := by
  rw [← serves.numbered, List.count_filterMap, responsesFor]
  refine List.countP_congr fun offer member => ?_
  simp only [decide_eq_true_eq, beq_iff_eq]
  constructor
  · intro answered
    exact answered.1
  · intro numbered
    exact ⟨numbered, serves.taken offer member sequence numbered⟩

theorem Serves.all_drained {server : AeronServer 1} (serves : server.Serves history)
    (rest : server.AtRest) : server.engine.runtime.pipeline.ring.cursor < server.nextToDrain := by
  obtain ⟨drained, finished, nothing⟩ := rest
  have invariant := serves.tracks.invariant
  by_contra published
  have handled : 0 < server.engine.runtime.pipeline.timesHandled server.nextToDrain := by
    have once := invariant.onStride.oneShard drained serves.tracks.nonneg (Int.not_lt.mp published)
    rw [Runtime.withResults_pipeline] at once
    omega
  obtain ⟨entry, member, same⟩ := List.countP_pos_iff.mp handled
  have flushed : (server.engine.runtime.handlers entry.worker).deferred = [] := by
    by_contra waiting
    obtain ⟨cursor, draining, _⟩ := serves.waits entry.worker waiting
    have limit := invariant.solo.reading entry.worker cursor draining
    have passed := drained entry.worker
    rw [Runtime.withResults_pipeline] at limit
    omega
  have settled := serves.tracks.recorded.settled invariant member flushed finished
  rw [of_decide_eq_true same, Runtime.withResults_results,
    serves.tracks.take_none (Option.isNone_iff_eq_none.mp nothing)] at settled
  cases settled

/-- In a careful run every response for a sequence matches it, no sequence is answered
twice, and a loop with one worker has answered each published sequence when it rests. -/
theorem carefulRun_answers_match_once {risk : RiskHandler} {capacity : Nat} {blank : Nat → AeronJob}
    {pipeline : Pipeline Unit AeronJob numShards} {server : AeronServer numShards}
    (built : Pipeline.build Unit numShards capacity blank = .ok pipeline)
    (reached : (system risk).Reaches (Careful risk) (started pipeline) server) :
    (∀ offer ∈ server.offers, ∀ sequence, offer.sequence = some sequence → server.Matches sequence offer.response) ∧
    ∀ source ∈ server.engine.runtime.pipeline.published, server.responsesFor source.sequence ≤ 1 ∧
        (numShards = 1 → server.AtRest → server.responsesFor source.sequence = 1) := by
  obtain ⟨_, serves⟩ := serves_of_reaches built reached
  constructor
  · intro offer listed sequence numbered
    obtain ⟨source, member, same, request, _, tagged, known, response⟩ :=
      serves.answered offer listed sequence numbered
    refine ⟨source, member, same, request, tagged, ?_⟩
    rcases serves.tracks.recorded.source serves.tracks.invariant known with
      ⟨reply, answered, rfl⟩ | ⟨undispatched, reason, rfl⟩
    · refine .inl ⟨reply, answered, fun other again => ?_, response⟩
      exact serves.tracks.invariant.accounting.answered_unique again answered
    · exact .inr ⟨undispatched, reason, response⟩
  · intro source member
    rw [serves.responsesFor_eq]
    constructor
    · have distinct : (stride (-1) 1 server.nextToDrain.toNat).Nodup :=
        (stride_sorted Nat.one_pos _).imp fun less => less.ne
      exact List.nodup_iff_count_le_one.mp distinct source.sequence
    · intro single rest
      subst single
      have bounds := serves.tracks.invariant.solo.published_bounds member
      have beyond := serves.all_drained rest
      rw [Runtime.withResults_pipeline] at bounds
      have position : (-1 : Int) + (1 : Nat) * ((source.sequence.toNat : Int) + 1) = source.sequence := by omega
      have once := @count_stride (-1) 1 server.nextToDrain.toNat Nat.one_pos source.sequence.toNat (by omega)
      rwa [position] at once

end Steps

open Blazil.Engine.Runtime (unlimited)

def fiveDollars (requestId : String) : TransactionRequest :=
  ⟨requestId, "1", "2", "5.00", "USD", 1, 1, 0, ""⟩

def fragmentOf (requestId : String) : Fragment := ⟨.ok (fiveDollars requestId), ⟨8⟩, ⟨9⟩⟩

def fiveDollarTransfer (id : TransferId) : Transfer :=
  ⟨id, ⟨1⟩, ⟨2⟩, ⟨.ofUInt64 5, ⟨"USD"⟩⟩, .usd, 1, {}, none⟩

def singleWorker : Pipeline Unit AeronJob 1 :=
  .started Unit (.fresh 1 isPowerOfTwo_four fun _ =>
    ⟨none, .new ⟨0⟩ ⟨0⟩ ⟨0⟩ 0 .usd 0⟩)

theorem singleWorker_built : Pipeline.build Unit 1 4 (fun _ => ⟨none, .new ⟨0⟩ ⟨0⟩ ⟨0⟩ 0 .usd 0⟩) = .ok singleWorker := rfl

def sole : Fin 1 := ⟨0, Nat.one_pos⟩

def polling (fragments : List Fragment) : List (AeronLabel 1) :=
  [.turn false, .drain true, .poll fragments]

def publishing : List (AeronLabel 1) :=
  [.pump true, .spin true, .check true, .engine (.pipeline (.claim ())), .engine (.pipeline (.write ())), .publish]

def handling (ids : List TransferId) : List (AeronLabel 1) :=
  [.engine (.pipeline (.poll sole))] ++ ids.map (fun id => .engine (.drain sole id 0)) ++
    [.engine (.drain sole ⟨99⟩ 0), .engine (.pipeline (.gate sole))]

def committing (task : Nat) (batch : List (Int × TransferId)) : List (AeronLabel 1) :=
  .engine (.attempt task (batch.map fun item => (item.1, fiveDollarTransfer item.2)) (batch.map fun item => .ok item.2)) ::
  List.replicate (batch.length + 1) (.engine (.record task))

def draining (results : Nat) : List (AeronLabel 1) :=
  [.pump true, .turn false] ++ List.replicate (results + 1) (.drain true)

/-- Five fragments of one poll are published before the loop drains again, and the
result of sequence 4 overwrites that of sequence 0. -/
def lappingRun : List (AeronLabel 1) :=
  polling [fragmentOf "100", fragmentOf "101", fragmentOf "102", fragmentOf "103",
    fragmentOf "104"] ++ publishing ++ publishing ++ publishing ++ handling [⟨10⟩, ⟨11⟩, ⟨12⟩] ++
    committing 0 [(0, ⟨10⟩), (1, ⟨11⟩), (2, ⟨12⟩)] ++ publishing ++ publishing ++
    handling [⟨13⟩, ⟨14⟩] ++ committing 1 [(3, ⟨13⟩), (4, ⟨14⟩)] ++ draining 4

/-- The response for sequence 0 carries the transfer of sequence 4, which itself gets no
response. -/
theorem lappedRing_answers_swapped : ∃ server, (@system 1 referenceCrates unlimited).Reachable (started singleWorker) server ∧
      server.AtRest ∧ server.engine.runtime.Answered 0 (.ok ⟨10⟩) ∧
      (∃ offer ∈ server.offers, offer.sequence = some 0 ∧ offer.response.transferId = some (referenceCrates.uuidToString 14) ∧
        ¬@Matches _ referenceCrates server 0 offer.response) ∧
      (∃ source ∈ server.engine.runtime.pipeline.published, source.sequence = 4) ∧ server.responsesFor 4 = 0 := by
  obtain ⟨server, reached, rest, ⟨task, present, pair, member, own, replied⟩,
      ⟨offer, listed, numbered, foreign⟩, published, unanswered⟩ :=
    exists_reachable_of_run (@system 1 referenceCrates unlimited) (started singleWorker) lappingRun
      (fun server => server.AtRest ∧ (∃ task ∈ server.engine.runtime.tasks, ∃ pair ∈ task.batch.zip task.phase.replies,
          pair.1.1 = 0 ∧ pair.2.toOption = some ⟨10⟩) ∧
        (∃ offer ∈ server.offers, offer.sequence = some 0 ∧ offer.response.transferId = some (referenceCrates.uuidToString 14)) ∧
        (∃ source ∈ server.engine.runtime.pipeline.published, source.sequence = 4) ∧
        server.responsesFor 4 = 0)
      (by decide +kernel)
  have answered : server.engine.runtime.Answered 0 (.ok ⟨10⟩) := by
    obtain ⟨index, found⟩ := List.mem_iff_getElem?.mp present
    obtain ⟨⟨_, transfer⟩, reply⟩ := pair
    cases own
    cases reply with
    | error => cases replied
    | ok =>
      cases replied
      exact ⟨index, task, transfer, found, member⟩
  refine ⟨server, reached, rest, answered, ⟨offer, listed, numbered, foreign, ?_⟩, published, unanswered⟩
  intro matching
  obtain ⟨_, _, _, _, _, reported⟩ := matching
  rcases reported with ⟨_, _, only, same⟩ | ⟨_, _, same⟩
  · rw [same, ← only _ answered] at foreign
    have equal : some (referenceCrates.uuidToString 10) = some (referenceCrates.uuidToString 14) := foreign
    exact absurd equal (by decide)
  · rw [same] at foreign
    cases foreign

def carefulRun : List (AeronLabel 1) :=
  polling [fragmentOf "100", fragmentOf "101", fragmentOf "102"] ++
    publishing ++ publishing ++ publishing ++ handling [⟨10⟩, ⟨11⟩, ⟨12⟩] ++
    committing 0 [(0, ⟨10⟩), (1, ⟨11⟩), (2, ⟨12⟩)] ++ draining 3

theorem drainedRing_answers_match : ∃ server, (@system 1 referenceCrates unlimited).Reaches (Careful unlimited)
        (started singleWorker) server ∧ server.engine.runtime.pipeline.published.length = 3 ∧
      (∀ offer ∈ server.offers, ∀ sequence, offer.sequence = some sequence →
        @Matches _ referenceCrates server sequence offer.response) ∧
      ∀ source ∈ server.engine.runtime.pipeline.published, server.responsesFor source.sequence = 1 := by
  obtain ⟨server, reached, rest, three⟩ := exists_reaches_of_run
    (@system 1 referenceCrates unlimited) (Careful unlimited) (started singleWorker) carefulRun
    (fun server => server.AtRest ∧ server.engine.runtime.pipeline.published.length = 3)
    (by decide +kernel) (by decide)
  obtain ⟨matching, once⟩ :=
    @carefulRun_answers_match_once _ referenceCrates unlimited _ _ _ _ singleWorker_built reached
  exact ⟨server, reached, three, matching, fun source member => (once source member).2 rfl rest⟩

end AeronServer

end Blazil.Transport

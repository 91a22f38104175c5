import Blazil.Engine.ResultRingProperties
import Blazil.Transport.AeronServer

/-! The ids that the Aeron serve loop keeps for its responses. Each published sequence has
the id of its response in a slot of its own as long as the sequences not yet drained span at
most one lap of the table; how an id stems from its request is left open here. -/

set_option autoImplicit false

namespace Blazil.Transport.AeronServer

open Blazil.Common Blazil.Engine Foundation

variable {numShards : Nat}

/-- The result ring and the table of ids have room for the next sequence beside all those
not yet drained. -/
def HasRoom (server : AeronServer numShards) : Prop :=
  server.engine.runtime.pipeline.ring.cursor + 1 < server.nextToDrain + min server.engine.ring.capacity reqSlotsCap

/-- The loop against an engine that keeps every result. `Fits` relates an id to the request
it was made from: it holds of the event under way and of the slots of all sequences not yet
drained. -/
structure Marks [ExternalCrates] (Fits : UInt64 → TransactionRequest → Prop)
    (server : AeronServer numShards) (history : Results) : Prop where
  tracks : server.engine.Tracks history server.nextToDrain
  slots : server.reqIdSlots.capacity = reqSlotsCap
  lap : server.engine.runtime.pipeline.ring.cursor < server.nextToDrain + reqSlotsCap
  calling : (server.engine.runtime.pipeline.publishers ()).event? = server.phase.underWay
  held : ∀ reqId job, server.phase.held = some (reqId, job) → ∃ request, job.tag = some request ∧ Fits reqId request
  marked : ∀ source ∈ server.engine.runtime.pipeline.published,
    ∃ request, source.event.tag = some request ∧ (server.nextToDrain ≤ source.sequence →
      Fits (server.reqIdSlots.get source.sequence) request)

section Steps

variable [ExternalCrates] {Fits : UInt64 → TransactionRequest → Prop} {risk : RiskHandler} {server : AeronServer numShards}
  {history : Results}

theorem marks_started {capacity blank pipeline}
    (built : Pipeline.build Unit numShards capacity blank = .ok pipeline) : (started pipeline).Marks Fits fun _ => none := by
  have tracks := RingEngine.tracks_started built
  obtain ⟨_, rfl⟩ := Pipeline.build_eq built
  refine ⟨tracks, rfl, ?_, rfl, ?_, ?_⟩
  · change (-1 : Int) < 0 + reqSlotsCap
    omega
  · intro reqId job held
    cases held
  · intro source member
    cases member

variable {phase : ServePhase} {next : RingEngine Unit (Option TransactionRequest) numShards} {reqId : UInt64}

section

variable (marks : server.Marks Fits history)
include marks

variable {label : AeronLabel numShards} {result : TransactionResult} {job : AeronJob} {rest : List Fragment} {sequence : Int}

theorem Marks.inside {refusals} (fits : ∀ taken fragment rest request, label = .pump taken →
      server.phase = .pumping (fragment :: rest) → fragment.payload = .ok request →
      Fits (requestTransactionId fragment.responseId request.requestId).value request)
    (quiet : server.phase.underWay = none) (after : phase.underWay = none)
    (held : ∀ pair, phase.held = some pair → server.HeldBy label pair) :
    Marks Fits { server with phase := phase, offers := server.offers ++ refusals } history := by
  refine { marks with calling := ?_, held := ?_ }
  · exact marks.calling.trans (quiet.trans after.symm)
  · intro reqId job pending
    rcases held _ pending with before | ⟨taken, fragment, rest, request, _, pumped, pumping, accepted, same⟩
    · exact marks.held reqId job before
    · cases same
      exact ⟨request, rfl, fits taken fragment rest request pumped pumping accepted⟩

theorem Marks.drained_request (known : history server.nextToDrain = some result) :
    ∃ source ∈ server.engine.runtime.pipeline.published, source.sequence = server.nextToDrain ∧
      ∃ request, source.event.tag = some request ∧ Fits (server.reqIdSlots.get server.nextToDrain) request := by
  obtain ⟨_, published⟩ := marks.tracks.invariant.touched_bounds fun untouched => by
    have undecided : history server.nextToDrain = none := untouched.undecided
    rw [known] at undecided
    cases undecided
  obtain ⟨source, member, same⟩ :=
    marks.tracks.invariant.solo.exists_published marks.tracks.nonneg published
  obtain ⟨request, tagged, fits⟩ := marks.marked source member
  refine ⟨source, member, same, request, tagged, ?_⟩
  rw [← same]
  exact fits (Int.le_of_eq same.symm)

theorem Marks.answer {offers engine}
    (quiet : server.phase.underWay = none) (after : phase.underWay = none) (held : phase.held = server.phase.held)
    (took : server.engine.take server.nextToDrain = some (result, engine)) : Marks Fits { server with
      engine := engine
      nextToDrain := server.nextToDrain + 1
      phase := phase
      offers := offers } history := by
  obtain ⟨_, tracks, kept⟩ := marks.tracks.take_some took
  have pipeline : engine.runtime.pipeline = server.engine.runtime.pipeline := by
    simpa using congrArg Runtime.pipeline kept
  refine ⟨tracks, marks.slots, ?_, ?_, ?_, ?_⟩
  · have lap := marks.lap
    simp only [pipeline]
    omega
  · simp only [pipeline]
    exact marks.calling.trans (quiet.trans after.symm)
  · intro reqId job pending
    exact marks.held reqId job (held ▸ pending)
  · intro source member
    simp only [pipeline] at member
    obtain ⟨request, tagged, fits⟩ := marks.marked source member
    refine ⟨request, tagged, fun ahead => fits ?_⟩
    have ahead : server.nextToDrain + 1 ≤ source.sequence := ahead
    omega

theorem Marks.unpublished {after : Results} (tracks : next.Tracks after server.nextToDrain)
    (cursor : next.runtime.pipeline.ring.cursor = server.engine.runtime.pipeline.ring.cursor)
    (published : next.runtime.pipeline.published = server.engine.runtime.pipeline.published)
    (calling : (next.runtime.pipeline.publishers ()).event? = phase.underWay) (held : phase.held = server.phase.held) :
    ((server.setEngine next).setPhase phase).Marks Fits after := by
  refine ⟨tracks, marks.slots, ?_, calling, ?_, ?_⟩
  · exact cursor ▸ marks.lap
  · intro reqId job pending
    exact marks.held reqId job (held ▸ pending)
  · intro source member
    exact marks.marked source (published ▸ member)

theorem Marks.check (calling : server.phase = .calling reqId job rest)
    (room : server.engine.runtime.pipeline.ring.hasAvailableCapacity = true)
    (stepped : server.engine.step risk (.pipeline (.check () job)) = some next) :
    ∃ after, (server.engine.runtime.withResults history).step risk (.pipeline (.check () job)) =
        some (next.runtime.withResults after) ∧
      next.runtime.pipeline.published = server.engine.runtime.pipeline.published ∧
      ((server.setEngine next).setPhase (.publishing reqId job rest)).Marks Fits after := by
  have idle : server.engine.runtime.pipeline.publishers () = .idle := by
    have nothing := marks.calling
    rw [calling] at nothing
    cases publisher : server.engine.runtime.pipeline.publishers () with
    | idle => rfl
    | checked | claimed | written =>
      rw [publisher] at nothing
      cases nothing
  have alone : server.engine.runtime.Solo (.pipeline (.check () job)) := fun _ => idle
  obtain ⟨after, simulated, tracks⟩ := marks.tracks.step alone trivial stepped
  rw [← Runtime.withResults_pipeline server.engine.runtime history] at room
  have pipeline : next.runtime.pipeline = server.engine.runtime.pipeline.setPublisher () (.checked job) := by
    simpa using congrArg Runtime.pipeline (Runtime.step_check room simulated)
  refine ⟨after, simulated, by rw [pipeline]; rfl, marks.unpublished tracks ?_ ?_ ?_ ?_⟩
  · rw [pipeline]
    rfl
  · rw [pipeline]
    rfl
  · rw [pipeline]
    rfl
  · rw [calling]
    rfl

theorem Marks.engine {label}
    (background : isBackground label = true) (stepped : server.engine.step risk label = some next) :
    ∃ after, (server.engine.runtime.withResults history).step risk label = some (next.runtime.withResults after) ∧
      next.runtime.pipeline.published = server.engine.runtime.pipeline.published ∧
      (server.setEngine next).Marks Fits after := by
  have begins : ∀ task job, label ≠ .pipeline (.check task job) := by
    intro task job same
    subst same
    cases background
  have ends : ∀ task, label ≠ .pipeline (.publish task) := by
    intro task same
    subst same
    cases background
  have alone : server.engine.runtime.Solo label := by
    cases label with
    | pipeline label =>
      cases label with
      | check task job => exact absurd rfl (begins task job)
      | _ => trivial
    | _ => trivial
  have roomy : server.engine.Roomy server.nextToDrain label := by
    cases label with
    | pipeline label =>
      cases label with
      | publish task => exact absurd rfl (ends task)
      | _ => trivial
    | _ => trivial
  obtain ⟨after, simulated, tracks⟩ := marks.tracks.step alone roomy stepped
  obtain ⟨published, carried⟩ := Runtime.publishers_of_step begins ends simulated
  refine ⟨after, simulated, published, marks.unpublished tracks ?_ published ?_ rfl⟩
  · rcases marks.tracks.invariant.cursor_of_step simulated with level | ⟨⟨task, same⟩, _⟩
    · exact level
    · exact absurd same (ends task)
  · exact (carried ()).trans marks.calling

/-- The slot of a new sequence is none of those whose sequences wait to be drained. -/
private theorem Marks.marked_publish (position : sequence = server.engine.runtime.pipeline.ring.cursor + 1)
    (room : sequence < server.nextToDrain + reqSlotsCap) {source}
    (member : source ∈ server.engine.runtime.pipeline.published) :
    ∃ request, source.event.tag = some request ∧ (server.nextToDrain ≤ source.sequence →
      Fits ((server.reqIdSlots.set sequence reqId).get source.sequence) request) := by
  obtain ⟨request, tagged, fits⟩ := marks.marked source member
  refine ⟨request, tagged, fun undrained => ?_⟩
  have bounds := marks.tracks.invariant.solo.published_bounds member
  rw [Runtime.withResults_pipeline] at bounds
  have capacity := marks.slots
  rw [SlotTable.get_set_other _ (by omega) (by omega) (by omega)]
  exact fits undrained

theorem Marks.publish {written : AeronJob} (room : server.HasRoom) (publishing : server.phase = .publishing reqId job rest)
    (seen : server.engine.runtime.pipeline.publishers () = .written written sequence)
    (stepped : server.engine.step risk (.pipeline (.publish ())) = some next) :
    ∃ after, (server.engine.runtime.withResults history).step risk (.pipeline (.publish ())) =
        some (next.runtime.withResults after) ∧
      (∀ source ∈ server.engine.runtime.pipeline.published, source ∈ next.runtime.pipeline.published) ∧
      (((server.setEngine next).setReqId sequence reqId).setPhase (.pumping rest)).Marks Fits after := by
  have room : server.engine.runtime.pipeline.ring.cursor + 1 <
      server.nextToDrain + min server.engine.ring.capacity reqSlotsCap := room
  have roomy : server.engine.Roomy server.nextToDrain (.pipeline (.publish ())) := by
    change _ < _
    omega
  have alone : server.engine.runtime.Solo (.pipeline (.publish ())) := trivial
  obtain ⟨after, simulated, tracks⟩ := marks.tracks.step alone roomy stepped
  have same : written = job := by
    have carried := marks.calling
    rw [seen, publishing] at carried
    exact Option.some.inj carried
  subst same
  obtain ⟨request, tagged, fits⟩ := marks.held reqId written (congrArg _ publishing)
  have stage := marks.tracks.invariant.solo.consistent ()
  rw [← Runtime.withResults_pipeline server.engine.runtime history] at seen
  rw [seen] at stage
  obtain ⟨claimed, ahead, _⟩ := stage
  have position : sequence = server.engine.runtime.pipeline.ring.cursor + 1 := claimed.trans ahead
  have pipeline := congrArg Runtime.pipeline (Runtime.step_publish seen simulated)
  simp only [Runtime.withResults_pipeline] at pipeline
  refine ⟨after, simulated, ?_, tracks, marks.slots, ?_, ?_, ?_, ?_⟩
  · intro source member
    rw [pipeline]
    exact List.mem_append_left _ member
  · change next.runtime.pipeline.ring.cursor < server.nextToDrain + reqSlotsCap
    rw [pipeline]
    change sequence < server.nextToDrain + reqSlotsCap
    omega
  · change (next.runtime.pipeline.publishers ()).event? = none
    rw [pipeline]
    rfl
  · intro reqId job pending
    cases pending
  · intro source member
    change source ∈ next.runtime.pipeline.published at member
    rw [pipeline] at member
    rcases mem_concat.mp member with old | rfl
    · exact marks.marked_publish position (by omega) old
    · refine ⟨request, tagged, fun _ => ?_⟩
      simp only [setPhase_reqIdSlots, setReqId_reqIdSlots, SlotTable.get_set_same]
      exact fits

/-- The ids stay with their requests if an id is made to fit and the tables have room for
each new sequence. -/
theorem Marks.step {next} (fits : ∀ taken fragment rest request, label = .pump taken →
      server.phase = .pumping (fragment :: rest) → fragment.payload = .ok request →
      Fits (requestTransactionId fragment.responseId request.requestId).value request)
    (room : label = .publish → server.HasRoom) (stepped : server.step risk label = some next) :
    ∃ after, next.Marks Fits after := by
  cases step_moves stepped with
  | inside _ _ quiet after held =>
    exact ⟨history, marks.inside fits quiet after held⟩
  | answer _ _ quiet after held took => exact ⟨history, marks.answer quiet after held took⟩
  | check calling free moved =>
    obtain ⟨after, _, _, marks⟩ := marks.check calling free moved
    exact ⟨after, marks⟩
  | publish publishing seen moved =>
    obtain ⟨after, _, _, marks⟩ := marks.publish (room rfl) publishing seen moved
    exact ⟨after, marks⟩
  | engine background moved =>
    obtain ⟨after, _, _, marks⟩ := marks.engine background moved
    exact ⟨after, marks⟩

end

end Steps

end Blazil.Transport.AeronServer

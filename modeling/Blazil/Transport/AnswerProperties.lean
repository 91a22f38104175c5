import Blazil.Transport.Server

/-! What a negative answer of the server says about the ledger. -/

set_option autoImplicit false

namespace Blazil.Transport.Server

open Blazil.Common Blazil.Engine Blazil.Ledger Foundation Foundation.System

variable {Connection : Type} {numShards : Nat} {server : Server Connection numShards}

/-- The ledger has committed a transfer that was built from the event of the exchange. -/
def CommittedFor (server : Server Connection numShards) (index : Nat) : Prop :=
  ∃ item ∈ server.runtime.committed, ∃ entry ∈ server.runtime.pipeline.handled,
    entry.sequence = item.1 ∧ entry.event.tag = some index

instance (server : Server Connection numShards) (index : Nat) : Decidable (server.CommittedFor index) :=
  inferInstanceAs (Decidable (∃ item ∈ server.runtime.committed, ∃ entry ∈ server.runtime.pipeline.handled, _))

/-- Calls of `publish_event` do not overlap, no wait times out, and the ledger reports a
final failure only for what it has not committed. -/
def Prudent (server : Server Connection numShards) : ServerLabel Connection numShards → Prop
  | .timeout _ => False
  | .engine label => server.runtime.Reliable label
  | label => server.Solo label

instance (server : Server Connection numShards) (label : ServerLabel Connection numShards) : Decidable (server.Prudent label) :=
  match label with
  | .timeout _ => .isFalse id
  | .engine label => inferInstanceAs (Decidable (server.runtime.Reliable label))
  | .receive _ _ _ | .publish _ | .poll _ => .isTrue trivial
  | .check index => inferInstanceAs (Decidable (server.Solo (.check index)))

theorem Prudent.solo {label} (prudent : server.Prudent label) : server.Solo label := by
  cases label with
  | check => exact prudent
  | _ => trivial

/-- The event of an exchange with a negative answer was rejected, if there was one. -/
def Refused (server : Server Connection numShards) : Prop :=
  ∀ index response, server.stageAt index = some (.answered response) →
    response.committed = false → ∀ source ∈ server.runtime.pipeline.published, source.task = index → ∃ reason,
        server.runtime.results source.sequence = some (.rejected reason)

theorem Linked.unpublished (linked : server.Linked) {index}
    (before : ∀ stage, server.stageAt index = some stage → stage.isPast = false) {source}
    (member : source ∈ server.runtime.pipeline.published) : source.task ≠ index := by
  intro same
  subst same
  obtain ⟨stage, found, past⟩ := linked.published source member
  rw [before stage found] at past
  cases past

private theorem refused_setStage {index : Nat} {stage : Stage} (refused : server.Refused)
    (settled : ∀ response, stage = .answered response → response.committed = false →
      ∀ source ∈ server.runtime.pipeline.published, source.task = index → ∃ reason,
      server.runtime.results source.sequence = some (.rejected reason)) : (server.setStage index stage).Refused := by
  intro other response answered negative source member owner
  rw [stageAt_setStage] at answered
  split at answered
  · next same =>
    obtain ⟨_, _, rfl⟩ := Option.map_eq_some_iff.mp answered
    exact settled response rfl negative source member (owner.trans same)
  · exact refused other response answered negative source member owner

section Steps

variable [ExternalCrates]

theorem buildResponse_negative {requestId result}
    (negative : (buildResponse requestId result).committed = false) : ∃ reason, result = .rejected reason := by
  cases result with
  | committed => cases negative
  | rejected reason => exact ⟨reason, rfl⟩

variable [DecidableEq Connection] {next : Server Connection numShards} {label : ServerLabel Connection numShards}
  {risk : RiskHandler}

theorem Refused.step (refused : server.Refused) (invariant : server.Invariant)
    (prudent : server.Prudent label) (stepped : server.step risk label = some next) : next.Refused := by
  have linked := invariant.linked
  cases step_moves stepped with
  | receive =>
    intro index response answered negative source member owner
    rw [stageAt_addExchange] at answered
    split at answered
    · next last =>
      refine absurd (owner.trans last) (linked.unpublished (fun stage found => ?_) member)
      rw [stageAt_length] at found
      cases found
    · exact refused index response answered negative source member owner
  | check _ room moved =>
    cases Runtime.step_check room moved
    exact refused_setStage refused (by simp)
  | busy ready =>
    refine refused_setStage refused fun response _ _ source member owner => ?_
    refine absurd owner (linked.unpublished (fun stage found => ?_) member)
    rw [ready] at found
    cases found
    rfl
  | @publish _ _ _ _ publishing written moved =>
    cases Runtime.step_publish written moved
    intro other response answered negative source member owner
    rw [stageAt_setStage] at answered
    split at answered
    · simp [publishing] at answered
    · next different =>
      rcases mem_concat.mp member with old | rfl
      · exact refused other response answered negative source old owner
      · exact absurd owner.symm different
  | answer waiting known =>
    refine refused_setStage refused fun response same negative source member owner => ?_
    cases same
    obtain ⟨reason, rfl⟩ := buildResponse_negative negative
    exact ⟨reason, by rw [linked.waiting _ _ waiting source member owner, known]⟩
  | pending => exact refused
  | timeout => exact prudent.elim
  | engine internal moved =>
    intro index response answered negative source member owner
    obtain ⟨published, _⟩ := publishers_of_internal internal moved
    rw [setRuntime_runtime, published] at member
    obtain ⟨reason, known⟩ := refused index response answered negative source member owner
    have engine := invariant.engine
    exact ⟨reason, engine.settling.results_kept engine.onStride engine.accounting moved known⟩

theorem truthful_step (truthful : server.runtime.Truthful) (invariant : server.Invariant)
    (prudent : server.Prudent label) (stepped : server.step risk label = some next) : next.runtime.Truthful := by
  have engine := invariant.engine
  rcases (step_moves stepped).project invariant.linked prudent.solo with
    same | ⟨inner, _, moved, origin⟩
  · exact same ▸ truthful
  · refine truthful.step engine.onStride engine.accounting engine.settling ?_ moved
    rcases origin with rfl | ⟨_, rfl⟩
    · exact prudent
    · trivial

/-- In a prudent run, a request that is answered with `committed = false` has no
transfer in the ledger, neither before nor after the answer. -/
theorem negativeAnswer_not_committed {risk : RiskHandler} {capacity : Nat} {blank : Nat → Job (Option Nat)}
    {pipeline : Pipeline Nat (Job (Option Nat)) numShards} {state : Server Connection numShards} {index : Nat}
    {response : TransactionResponse} (built : Pipeline.build Nat numShards capacity blank = .ok pipeline)
    (reached : (system risk).Reaches Prudent (started pipeline) state)
    (answered : state.stageAt index = some (.answered response)) (negative : response.committed = false) :
    ¬state.CommittedFor index := by
  have unanswered : (started pipeline : Server Connection numShards).Refused := by
    intro index response answered
    simp [started, stageAt] at answered
  obtain ⟨invariant, truthful, refused⟩ := reached.invariant
    (fun server => server.Invariant ∧ server.runtime.Truthful ∧ server.Refused)
    ⟨invariant_started built, Runtime.truthful_started pipeline, unanswered⟩
    (by
      intro before label after prudent stepped holds
      obtain ⟨invariant, truthful, refused⟩ := holds
      exact ⟨invariant.step prudent.solo stepped,
        truthful_step truthful invariant prudent stepped, refused.step invariant prudent stepped⟩)
  intro already
  obtain ⟨item, committed, _, handled, sequence, made⟩ := already
  obtain ⟨source, member, sourceSequence, owner⟩ := invariant.published_by handled made
  obtain ⟨reason, known⟩ := refused index response answered negative source member owner
  rw [sourceSequence, sequence] at known
  exact truthful.rejected item.1 reason known (List.mem_map.mpr ⟨item, committed, rfl⟩)

end Steps

def fiveDollars : TransactionRequest := ⟨"7", "1", "2", "5.00", "USD", 1, 1, 0, ""⟩

def fiveDollarTransfer (id : TransferId) : Transfer :=
  ⟨id, ⟨1⟩, ⟨2⟩, ⟨.ofUInt64 5, ⟨"USD"⟩⟩, .usd, 1, {}, none⟩

def singleWorker : Pipeline Nat (Job (Option Nat)) 1 :=
  .started Nat (.fresh 1 isPowerOfTwo_four fun _ =>
    ⟨none, .new ⟨0⟩ ⟨0⟩ ⟨0⟩ 0 .usd 0⟩)

theorem singleWorker_built : Pipeline.build Nat 1 4 (fun _ => ⟨none, .new ⟨0⟩ ⟨0⟩ ⟨0⟩ 0 .usd 0⟩) = .ok singleWorker := rfl

def unlimited : RiskHandler := ⟨100000000000000, fun _ _ => none⟩

def sending (index : Nat) (request : TransactionRequest) : List (ServerLabel Unit 1) :=
  [.receive () (.ok request) ⟨9⟩, .check index, .engine (.pipeline (.claim index)),
    .engine (.pipeline (.write index)), .publish index]

def sole : Fin 1 := ⟨0, Nat.one_pos⟩

def handling (id : TransferId) : List (ServerLabel Unit 1) :=
  [.engine (.pipeline (.poll sole)), .engine (.drain sole id 0), .engine (.drain sole id 0), .engine (.pipeline (.gate sole))]

/-- The wait ends before the worker has looked at the event, and the ledger commits the
transfer after the negative answer. -/
theorem timedOut_then_committed : ∃ state, (@system Unit 1 referenceCrates _ unlimited).Reachable (started singleWorker) state ∧
      state.stageAt 0 = some (.answered (timeoutResponse "7")) ∧ state.CommittedFor 0 :=
  exists_reachable_of_run _ _ (sending 0 fiveDollars ++ [.timeout 0] ++ handling ⟨11⟩ ++
    [.engine (.attempt 0 [(0, fiveDollarTransfer ⟨11⟩)] [.ok ⟨11⟩])]) _ (by decide +kernel)

/-- The ledger refuses the transfer, and the request is answered accordingly. -/
theorem refusedTransfer_not_committed : ∃ state, (@system Unit 1 referenceCrates _ unlimited).Reaches Prudent
        (started singleWorker) state ∧
      state.stageAt 0 = some (.answered ⟨"7", false, none, some "Ledger error: frozen"⟩) ∧ ¬state.CommittedFor 0 := by
  obtain ⟨state, reached, answered⟩ := exists_reaches_of_run
    (@system Unit 1 referenceCrates _ unlimited) Prudent (started singleWorker)
    (sending 0 fiveDollars ++ handling ⟨11⟩ ++
      [.engine (.attempt 0 [] [.error (.ledger "frozen")]), .engine (.record 0), .poll 0])
    (fun state => state.stageAt 0 =
      some (.answered ⟨"7", false, none, some "Ledger error: frozen"⟩))
    (by decide +kernel) (by decide)
  exact ⟨state, reached, answered,
    @negativeAnswer_not_committed _ _ referenceCrates _ unlimited _ _ _ _ _ _ singleWorker_built reached answered
      rfl⟩

end Blazil.Transport.Server

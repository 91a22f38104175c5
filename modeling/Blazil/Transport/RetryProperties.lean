import Blazil.Transport.AnswerProperties

/-! Requests that are sent again. The server keeps no record of the requests it has
published, so two equal requests lead to two transfers unless the first one is known
to have failed when the second is published. -/

set_option autoImplicit false

namespace Blazil.Engine.Runtime

variable {Task Tag : Type} {numShards : Nat}

/-- The sequence was rejected and the ledger has committed nothing for it. -/
def Dead (runtime : Runtime Task Tag numShards) (sequence : Int) : Prop :=
  (∃ result ∈ runtime.results sequence, result.isRejected = true) ∧ sequence ∉ runtime.committedSequences

instance (runtime : Runtime Task Tag numShards) (sequence : Int) : Decidable (runtime.Dead sequence) :=
  inferInstanceAs (Decidable (_ ∧ _))

theorem Invariant.dead_kept [Common.ExternalCrates] [DecidableEq Task] {risk : RiskHandler}
    {runtime next : Runtime Task Tag numShards} {label : RuntimeLabel Task Tag numShards}
    {sequence : Int} (invariant : runtime.Invariant) (stepped : runtime.step risk label = some next)
    (dead : runtime.Dead sequence) : next.Dead sequence := by
  obtain ⟨⟨result, known, rejected⟩, uncommitted⟩ := dead
  have settling := invariant.settling
  have kept := settling.results_kept invariant.onStride invariant.accounting stepped known
  exact ⟨⟨result, kept, rejected⟩, fun committed => uncommitted (settling.committed_kept stepped known committed)⟩

theorem Invariant.committed_unique {runtime : Runtime Task Tag numShards} (invariant : runtime.Invariant)
    {first second : Int × Ledger.Transfer} (firstMember : first ∈ runtime.committed)
    (secondMember : second ∈ runtime.committed) (same : first.1 = second.1) : first = second := by
  have distinct := invariant.accounting.sequences_nodup
  have flat : (runtime.tasks.map fun task => task.batch.map fun item => item.1).flatten =
      runtime.dispatched.map fun item => item.1 := by
    rw [dispatched, List.map_flatten, List.map_map]
    rfl
  rw [flat] at distinct
  exact List.inj_on_of_nodup_map distinct (invariant.settling.dispatched first firstMember)
    (invariant.settling.dispatched second secondMember) same

end Blazil.Engine.Runtime

namespace Blazil.Transport.Server

open Blazil.Common Blazil.Engine Blazil.Ledger Foundation Foundation.System

variable {Connection : Type} {numShards : Nat}

/-- The transfer was built from the event of an exchange with this request. -/
def Serves (server : Server Connection numShards) (request : TransactionRequest) (item : Int × Transfer) : Prop :=
  ∃ entry ∈ server.runtime.pipeline.handled, entry.sequence = item.1 ∧
    ∃ index ∈ entry.event.tag, server.payloadAt index = some (.ok request)

instance (server : Server Connection numShards) (request : TransactionRequest)
    (item : Int × Transfer) : Decidable (server.Serves request item) :=
  inferInstanceAs (Decidable (∃ entry ∈ server.runtime.pipeline.handled, _ ∧ ∃ index ∈ _, _))

def Superseded (server : Server Connection numShards) (index : Nat) : Prop :=
  ∀ source ∈ server.runtime.pipeline.published,
    server.payloadAt source.task = server.payloadAt index → server.runtime.Dead source.sequence

/-- Calls of `publish_event` do not overlap, and a request is published only when every
equal request published before it is dead. -/
def RetriesSafely (server : Server Connection numShards) : ServerLabel Connection numShards → Prop
  | .check index => server.Solo (.check index) ∧ server.Superseded index
  | _ => True

instance (server : Server Connection numShards) (label : ServerLabel Connection numShards) :
    Decidable (server.RetriesSafely label) :=
  match label with
  | .check index =>
    inferInstanceAs (Decidable (server.Solo (.check index) ∧ ∀ source ∈ server.runtime.pipeline.published,
        server.payloadAt source.task = server.payloadAt index → server.runtime.Dead source.sequence))
  | .receive _ _ _ | .publish _ | .poll _ | .timeout _ | .engine _ => .isTrue trivial

variable {server : Server Connection numShards} {label : ServerLabel Connection numShards}

theorem RetriesSafely.solo (safe : server.RetriesSafely label) : server.Solo label := by
  cases label with
  | check => exact safe.1
  | _ => trivial

/-- Of two exchanges with one request that have published, one is dead, and so are all
that have published when a further one is about to. -/
structure Deduplicated (server : Server Connection numShards) : Prop where
  publishing : ∀ index, server.stageAt index = some .publishing → server.Superseded index
  published : ∀ first ∈ server.runtime.pipeline.published,
    ∀ second ∈ server.runtime.pipeline.published, first.task ≠ second.task →
      server.payloadAt first.task = server.payloadAt second.task →
        server.runtime.Dead first.sequence ∨ server.runtime.Dead second.sequence

variable {next : Server Connection numShards}

section

variable (deduplicated : server.Deduplicated)
include deduplicated

private theorem deduplicated_kept
    (linked : server.Linked) (published : next.runtime.pipeline.published = server.runtime.pipeline.published)
    (dead : ∀ sequence, server.runtime.Dead sequence → next.runtime.Dead sequence)
    (payloads : ∀ index stage, server.stageAt index = some stage → next.payloadAt index = server.payloadAt index)
    (begins : ∀ index, next.stageAt index = some .publishing → server.stageAt index = some .publishing) : next.Deduplicated := by
  have known : ∀ source ∈ server.runtime.pipeline.published,
      next.payloadAt source.task = server.payloadAt source.task := by
    intro source member
    obtain ⟨stage, found, _⟩ := linked.published source member
    exact payloads source.task stage found
  constructor
  · intro index publishing source member same
    rw [published] at member
    have before := begins index publishing
    rw [known source member, payloads index _ before] at same
    exact dead _ (deduplicated.publishing index before source member same)
  · intro first firstMember second secondMember different same
    rw [published] at firstMember secondMember
    rw [known first firstMember, known second secondMember] at same
    exact (deduplicated.published first firstMember second secondMember different same).imp (dead _) (dead _)

private theorem deduplicated_check {index event} (superseded : server.Superseded index) :
    ((server.setRuntime { server.runtime with
      pipeline := server.runtime.pipeline.setPublisher index
        (.checked ⟨some index, event⟩) }).setStage index .publishing).Deduplicated := by
  constructor
  · intro other publishing source member same
    simp only [payloadAt_setStage, payloadAt_setRuntime] at same
    rw [stageAt_setStage] at publishing
    split at publishing
    · next equal =>
      rw [equal] at same
      exact superseded source member same
    · exact deduplicated.publishing other publishing source member same
  · intro first firstMember second secondMember different same
    simp only [payloadAt_setStage, payloadAt_setRuntime] at same
    exact deduplicated.published first firstMember second secondMember different same

private theorem deduplicated_publish {index job sequence}
    (invariant : server.Invariant) (publishing : server.stageAt index = some .publishing)
    (written : server.runtime.pipeline.publishers index = .written job sequence) :
    ((server.setRuntime { server.runtime with
      pipeline := ((server.runtime.pipeline.setRing (server.runtime.pipeline.ring.publish sequence)).recordPublished
          ⟨index, sequence, job⟩).setPublisher index .idle }).setStage index (.waiting sequence)).Deduplicated := by
  have superseded := deduplicated.publishing index publishing
  constructor
  · intro other otherPublishing
    rw [stageAt_setStage] at otherPublishing
    split at otherPublishing
    · simp [publishing] at otherPublishing
    · next different =>
      have busy := (invariant.linked.publishing other).mp otherPublishing
      have idle := invariant.engine.solo.others_idle (by simp [written]) _ different
      rw [idle] at busy
      cases busy
  · intro first firstMember second secondMember different same
    simp only [payloadAt_setStage, payloadAt_setRuntime] at same
    rcases List.mem_append.mp firstMember with firstOld | firstNew
    · rcases mem_concat.mp secondMember with secondOld | rfl
      · exact deduplicated.published first firstOld second secondOld different same
      · exact .inl (superseded first firstOld same)
    · rcases List.mem_append.mp secondMember with secondOld | secondNew
      · rw [List.mem_singleton.mp firstNew] at same
        exact .inr (superseded second secondOld same.symm)
      · rw [List.mem_singleton.mp firstNew, List.mem_singleton.mp secondNew] at different
        exact absurd rfl different

end

section Steps

variable [ExternalCrates] [DecidableEq Connection]

theorem Deduplicated.step {risk : RiskHandler} (deduplicated : server.Deduplicated) (invariant : server.Invariant)
    (safe : server.RetriesSafely label) (stepped : server.step risk label = some next) : next.Deduplicated := by
  have linked := invariant.linked
  have answers : ∀ index response, (server.setStage index (.answered response)).Deduplicated := by
    intro index response
    refine deduplicated_kept deduplicated linked rfl (fun _ dead => dead) (by simp) ?_
    intro other publishing
    rw [stageAt_setStage] at publishing
    split at publishing
    · simp at publishing
    · exact publishing
  cases step_moves stepped with
  | receive =>
    refine deduplicated_kept deduplicated linked rfl (fun _ dead => dead) (fun _ _ => payloadAt_addExchange _) ?_
    intro index publishing
    rw [stageAt_addExchange] at publishing
    split at publishing
    · exact absurd (Option.some.inj publishing) (received_before _ _).1
    · exact publishing
  | check _ room moved =>
    cases Runtime.step_check room moved
    exact deduplicated_check deduplicated safe.2
  | busy | answer | timeout => exact answers _ _
  | publish publishing written moved =>
    cases Runtime.step_publish written moved
    exact deduplicated_publish deduplicated invariant publishing written
  | pending => exact deduplicated
  | engine internal moved =>
    exact deduplicated_kept deduplicated linked (publishers_of_internal internal moved).1
      (fun _ => invariant.engine.dead_kept moved) (fun _ _ _ => rfl)
      (fun _ publishing => publishing)

/-- In a run of safe retries, equal requests lead to at most one committed transfer. -/
theorem equalRequests_oneTransfer {risk : RiskHandler} {capacity : Nat} {blank : Nat → Job (Option Nat)}
    {pipeline : Pipeline Nat (Job (Option Nat)) numShards} {state : Server Connection numShards} {request : TransactionRequest}
    {first second : Int × Transfer} (built : Pipeline.build Nat numShards capacity blank = .ok pipeline)
    (reached : (system risk).Reaches RetriesSafely (started pipeline) state) (firstCommitted : first ∈ state.runtime.committed)
    (secondCommitted : second ∈ state.runtime.committed) (firstServes : state.Serves request first)
    (secondServes : state.Serves request second) : first = second := by
  have fresh : (started pipeline : Server Connection numShards).Deduplicated := by
    obtain ⟨_, rfl⟩ := Pipeline.build_eq built
    constructor
    · intro index publishing
      simp [started, stageAt] at publishing
    · intro first member
      cases member
  obtain ⟨invariant, deduplicated⟩ := reached.invariant
    (fun server => server.Invariant ∧ server.Deduplicated) ⟨invariant_started built, fresh⟩
    (by
      intro before label after safe stepped holds
      obtain ⟨invariant, deduplicated⟩ := holds
      exact ⟨invariant.step safe.solo stepped, deduplicated.step invariant safe stepped⟩)
  obtain ⟨_, handled, sequence, _, made, payload⟩ := firstServes
  obtain ⟨_, otherHandled, otherSequence, _, otherMade, otherPayload⟩ :=
    secondServes
  obtain ⟨source, member, sourceSequence, rfl⟩ := invariant.published_by handled made
  obtain ⟨other, otherMember, otherSourceSequence, rfl⟩ :=
    invariant.published_by otherHandled otherMade
  have committedSequence : ∀ {item : Int × Transfer}, item ∈ state.runtime.committed →
      item.1 ∈ state.runtime.committedSequences :=
    fun committed => List.mem_map.mpr ⟨_, committed, rfl⟩
  apply invariant.engine.committed_unique firstCommitted secondCommitted
  by_cases same : source.task = other.task
  · rw [← sequence, ← otherSequence, ← sourceSequence, ← otherSourceSequence]
    exact invariant.linked.single source member other otherMember same
  · rcases deduplicated.published source member other otherMember same (payload.trans otherPayload.symm) with dead | dead
    · rw [sourceSequence, sequence] at dead
      exact absurd (committedSequence firstCommitted) dead.2
    · rw [otherSourceSequence, otherSequence] at dead
      exact absurd (committedSequence secondCommitted) dead.2

end Steps

/-- The request is sent, the wait times out, and the client sends the request again:
both transfers are committed, under ids of their own. -/
theorem retriedRequest_committed_twice :
    ∃ state, (@system Unit 1 referenceCrates _ unlimited).Reachable (started singleWorker) state ∧
      state.stageAt 0 = some (.answered (timeoutResponse "7")) ∧
      state.runtime.committed = [(0, fiveDollarTransfer ⟨11⟩), (1, fiveDollarTransfer ⟨12⟩)] ∧
      ∀ item ∈ state.runtime.committed, state.Serves fiveDollars item :=
  exists_reachable_of_run _ _ (sending 0 fiveDollars ++ [.timeout 0] ++ handling ⟨11⟩ ++
    [.engine (.attempt 0 [(0, fiveDollarTransfer ⟨11⟩)] [.ok ⟨11⟩])] ++ sending 1 fiveDollars ++
    handling ⟨12⟩ ++ [.engine (.attempt 1 [(1, fiveDollarTransfer ⟨12⟩)] [.ok ⟨12⟩])]) _
    (by decide)

/-- A request that is sent again after the ledger has refused it is committed once. -/
theorem retryAfterRefusal_committed_once : ∃ state, (@system Unit 1 referenceCrates _ unlimited).Reaches RetriesSafely
        (started singleWorker) state ∧
      (0 < state.runtime.committed.length ∧ ∀ item ∈ state.runtime.committed, state.Serves fiveDollars item) ∧
      ∀ first ∈ state.runtime.committed, ∀ second ∈ state.runtime.committed, first = second := by
  obtain ⟨state, reached, positive, serves⟩ := exists_reaches_of_run
    (@system Unit 1 referenceCrates _ unlimited) RetriesSafely (started singleWorker)
    (sending 0 fiveDollars ++ handling ⟨11⟩ ++
      [.engine (.attempt 0 [] [.error (.ledger "frozen")]), .engine (.record 0), .poll 0] ++
      sending 1 fiveDollars ++ handling ⟨12⟩ ++
      [.engine (.attempt 1 [(1, fiveDollarTransfer ⟨12⟩)] [.ok ⟨12⟩])])
    (fun state => 0 < state.runtime.committed.length ∧ ∀ item ∈ state.runtime.committed, state.Serves fiveDollars item)
    (by decide +kernel) (by decide +kernel)
  refine ⟨state, reached, ⟨positive, serves⟩, fun first firstMember second secondMember => ?_⟩
  exact @equalRequests_oneTransfer _ _ referenceCrates _ unlimited _ _ _ _ _ _ _ singleWorker_built reached
    firstMember secondMember (serves first firstMember) (serves second secondMember)

end Blazil.Transport.Server

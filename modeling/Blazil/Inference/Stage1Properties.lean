import Blazil.Inference.Stage1

/-! Which requests leave the table of decode states unanswered. A response is handed over only
when a token ends the request; the threads whose forward pass fails take the request out of the
table and say nothing. -/

set_option autoImplicit false

namespace Blazil.Inference.Stage1

open Foundation

def answers (state : Stage1) (requestId : String) : Nat :=
  state.responses.countP fun response => response.requestId = requestId

def Settled (state : Stage1) (requestId : String) : Prop :=
  (state.decodeStates requestId).isSome = false ∨ state.answers requestId = 1

instance (state : Stage1) (requestId : String) : Decidable (state.Settled requestId) :=
  inferInstanceAs (Decidable (_ ∨ _))

def passOf (state : Stage1) : Label → Option Pass
  | .prefill index fault =>
    match state.threads[index]? with
    | some (.prefill requestId tokens) => some (.prefill requestId tokens fault)
    | _ => none
  | .decode index fault =>
    match state.threads[index]? with
    | some (.ready requestId lastToken position) =>
      some (.decode requestId lastToken position fault)
    | _ => none
  | _ => none

def losesResponse (state : Stage1) : Label → Bool
  | .token response serialized =>
    !serialized && (state.decodeStates response.requestId).any fun decoding =>
      (decoding.push response).shouldTerminate response
  | _ => false

def accepts : Label → Option String
  | .accept requestId _ => some requestId
  | _ => none

def Distinct (state : Stage1) (label : Label) : Prop :=
  ∀ requestId ∈ accepts label, requestId ∉ state.accepted

/-- A forward pass fails only for a request that is settled, and final responses serialize. -/
def Sound (stage : Stage) (state : Stage1) (label : Label) : Prop :=
  (∀ pass ∈ state.passOf label, (pass.executed stage state.engine.model).outcome = .completed ∨ state.Settled pass.requestId) ∧
    state.losesResponse label = false

instance (state : Stage1) (label : Label) : Decidable (Distinct state label) :=
  inferInstanceAs (Decidable (∀ _ ∈ _, _))

instance (stage : Stage) (state : Stage1) (label : Label) : Decidable (Sound stage state label) :=
  inferInstanceAs (Decidable (_ ∧ _))

/-! ### What a step can do -/

inductive Moves (stage : Stage) (state : Stage1) : Label → Stage1 → Prop where
  | accept {requestId tokens} (polling : state.phase = .polling) (given : tokens ≠ []) :
      Moves stage state (.accept requestId tokens) ((state.insert requestId).spawn (.prefill requestId tokens))
  | prefill {index fault requestId tokens} (found : state.threads[index]? = some (.prefill requestId tokens)) :
      Moves stage state (.prefill index fault)
        (state.runPass stage index (.prefill requestId tokens fault) (.prefilled requestId tokens))
  | update {index requestId tokens} (found : state.threads[index]? = some (.prefilled requestId tokens)) :
      Moves stage state (.update index) ((state.modify requestId fun decoding => decoding.prefilled tokens).setThread index
          (.forwarding ⟨requestId, 0, tokens⟩))
  | snapshot {index requestId} (found : state.threads[index]? = some (.decode requestId)) :
      Moves stage state (.snapshot index) (state.onSnapshot index requestId)
  | decode {index fault requestId lastToken position}
      (found : state.threads[index]? = some (.ready requestId lastToken position)) :
      Moves stage state (.decode index fault) (state.runPass stage index (.decode requestId lastToken position fault)
          (.forwarding ⟨requestId, position, [lastToken]⟩))
  | forward {index serialized activation} (found : state.threads[index]? = some (.forwarding activation)) :
      Moves stage state (.forward index serialized)
        { state.setThread index .finished with
          activations := state.activations ++ if serialized then [activation] else [] }
  | abandon {index requestId} (found : state.threads[index]? = some (.failing requestId)) :
      Moves stage state (.abandon index) ((state.remove requestId).setThread index .finished)
  | token {response serialized} (polling : state.phase = .polling) :
      Moves stage state (.token response serialized) (state.onToken response serialized)
  | respond {requestId response} (responding : state.phase = .responding requestId response) :
      Moves stage state .respond { state.handOver response with phase := .cleaning requestId }
  | cleanup {requestId} (cleaning : state.phase = .cleaning requestId) :
      Moves stage state .cleanup { state.remove requestId with phase := .polling }
  | continueDecode {requestId} (continuing : state.phase = .continuing requestId) : Moves stage state .continueDecode
        { state.spawn (.decode requestId) with phase := .polling }

theorem step_moves {stage : Stage} {state next : Stage1} {label : Label}
    (stepped : state.step stage label = some next) : Moves stage state label next := by
  cases label with simp only [step] at stepped
  | accept =>
    split at stepped
    · split at stepped
      · cases stepped
      · cases stepped
        exact .accept ‹_› ‹_›
    · cases stepped
  | prefill | update | snapshot | decode | forward | abandon | token | respond | cleanup
  | continueDecode =>
    split at stepped
    · cases stepped
      constructor
      assumption
    · cases stepped

/-! ### Runs in which only settled requests fail -/

/-- What holds of a thread: a request it may still fail for was accepted, and one that it is
about to take out of the table is settled. -/
def ThreadSafe (state : Stage1) : Thread → Prop
  | .prefill requestId _ => requestId ∈ state.accepted
  | .ready requestId _ _ => requestId ∈ state.accepted
  | .failing requestId => requestId ∈ state.accepted ∧ state.Settled requestId
  | _ => True

structure Lawful (state : Stage1) : Prop where
  present : ∀ requestId, (state.decodeStates requestId).isSome = true → requestId ∈ state.accepted ∧ requestId ∉ state.removed
  removed : ∀ requestId ∈ state.removed, requestId ∈ state.accepted ∧ state.answers requestId = 1
  answered : ∀ requestId, state.answers requestId ≠ 0 → requestId ∈ state.accepted ∧ state.answers requestId = 1 ∧
      ((state.decodeStates requestId).isSome = true → state.phase = .cleaning requestId)
  responding : ∀ requestId response, state.phase = .responding requestId response →
    requestId ∈ state.accepted ∧ state.answers requestId = 0 ∧ ∃ final, response = some final ∧ final.requestId = requestId
  cleaning : ∀ requestId, state.phase = .cleaning requestId → state.answers requestId = 1
  threads : ∀ thread ∈ state.threads, state.ThreadSafe thread

structure Keeps (before after : Stage1) : Prop where
  table : ∀ requestId, (after.decodeStates requestId).isSome = (before.decodeStates requestId).isSome
  accepted : after.accepted = before.accepted
  removed : after.removed = before.removed
  responses : after.responses = before.responses

variable {pass : Pass}

section Laws

variable {before after : Stage1} {requestId : String}

theorem Keeps.answers (keeps : Keeps before after) (requestId : String) : after.answers requestId = before.answers requestId := by
  rw [Stage1.answers, keeps.responses, Stage1.answers]

theorem Keeps.settled (keeps : Keeps before after) (settled : before.Settled requestId) : after.Settled requestId := by
  rw [Settled, keeps.table, keeps.answers]
  exact settled

variable {thread : Thread} {index : Nat}

theorem ThreadSafe.mono (safe : before.ThreadSafe thread) (accepted : before.accepted ⊆ after.accepted)
    (settled : ∀ requestId ∈ before.accepted, before.Settled requestId → after.Settled requestId) : after.ThreadSafe thread := by
  cases thread with
  | prefill | ready => exact accepted safe
  | failing requestId => exact ⟨accepted safe.1, settled requestId safe.1 safe.2⟩
  | prefilled | decode | forwarding | finished => trivial

theorem Keeps.threadSafe (keeps : Keeps before after) (safe : before.ThreadSafe thread) : after.ThreadSafe thread :=
  safe.mono (keeps.accepted ▸ List.Subset.refl _) fun _ _ settled => keeps.settled settled

theorem Lawful.keep (lawful : Lawful before) (keeps : Keeps before after)
    (cleaning : ∀ requestId, after.phase = .cleaning requestId ↔ before.phase = .cleaning requestId)
    (responding : ∀ requestId response, after.phase = .responding requestId response →
      requestId ∈ before.accepted ∧ before.answers requestId = 0 ∧ ∃ final, response = some final ∧ final.requestId = requestId)
    (threads : ∀ thread ∈ after.threads, after.ThreadSafe thread) : Lawful after := by
  refine ⟨?_, ?_, ?_, ?_, ?_, threads⟩
  · intro requestId present
    rw [keeps.accepted, keeps.removed]
    rw [keeps.table] at present
    exact lawful.present requestId present
  · intro requestId removed
    rw [keeps.accepted, keeps.answers]
    rw [keeps.removed] at removed
    exact lawful.removed requestId removed
  · intro requestId answered
    rw [keeps.answers] at answered
    rw [keeps.accepted, keeps.answers, keeps.table, cleaning]
    exact lawful.answered requestId answered
  · intro requestId response phase
    rw [keeps.accepted, keeps.answers]
    exact responding requestId response phase
  · intro requestId phase
    rw [keeps.answers]
    exact lawful.cleaning requestId ((cleaning requestId).mp phase)

theorem Lawful.keep_thread (lawful : Lawful before) (keeps : Keeps before after) (phase : after.phase = before.phase)
    (threads : after.threads = before.threads.set index thread) (safe : after.ThreadSafe thread) : Lawful after := by
  refine lawful.keep keeps (fun requestId => by rw [phase]) (fun requestId response => ?_) ?_
  · rw [phase]
    exact lawful.responding requestId response
  · rw [threads]
    exact holds_after_set (fun thread member => keeps.threadSafe (lawful.threads thread member)) safe

theorem Keeps.of_same (table : after.decodeStates = before.decodeStates) (accepted : after.accepted = before.accepted)
    (removed : after.removed = before.removed) (responses : after.responses = before.responses) : Keeps before after :=
  ⟨fun requestId => by rw [table], accepted, removed, responses⟩

theorem Keeps.modify {change}
    (table : after.decodeStates = (before.modify requestId change).decodeStates) (accepted : after.accepted = before.accepted)
    (removed : after.removed = before.removed) (responses : after.responses = before.responses) : Keeps before after := by
  refine ⟨fun other => ?_, accepted, removed, responses⟩
  rw [table, Stage1.modify]
  by_cases same : other = requestId
  · subst same
    simp
  · simp [Function.update_of_ne same]

theorem Lawful.runPass {stage : Stage} {next : Thread} (lawful : Lawful before)
    (sound : (pass.executed stage before.engine.model).outcome = .completed ∨
      before.Settled pass.requestId) (accepted : pass.requestId ∈ before.accepted)
    (harmless : ∀ state, ThreadSafe state next) : Lawful (before.runPass stage index pass next) := by
  have keeps : Keeps before (before.runPass stage index pass next) := .of_same rfl rfl rfl rfl
  refine lawful.keep_thread keeps rfl rfl ?_
  split
  · exact harmless _
  · rename_i failed
    exact ⟨accepted, keeps.settled (sound.resolve_left failed)⟩

theorem Lawful.accept {tokens} (lawful : Lawful before) (polling : before.phase = .polling)
    (fresh : requestId ∉ before.accepted) : Lawful ((before.insert requestId).spawn (.prefill requestId tokens)) := by
  have elsewhere : ∀ other, other ≠ requestId →
      (((before.insert requestId).spawn (.prefill requestId tokens)).decodeStates other) = before.decodeStates other :=
    fun other different => Function.update_of_ne different _ _
  have earlier : ∀ other ∈ before.accepted, other ≠ requestId := fun other known same => fresh (same ▸ known)
  have grows : before.accepted ⊆ before.accepted ++ [requestId] := List.subset_append_left _ _
  refine ⟨?_, ?_, ?_, ?_, ?_, ?_⟩
  · intro other present
    by_cases new : other = requestId
    · subst new
      exact ⟨List.mem_append_right _ (List.mem_singleton_self _), fun gone => fresh (lawful.removed _ gone).1⟩
    · rw [elsewhere other new] at present
      exact (lawful.present other present).imp_left fun known => grows known
  · intro other gone
    exact ⟨grows (lawful.removed other gone).1, (lawful.removed other gone).2⟩
  · intro other answered
    obtain ⟨known, once, clean⟩ := lawful.answered other answered
    rw [elsewhere other (earlier other known)]
    exact ⟨grows known, once, clean⟩
  · intro other response phase
    cases polling.symm.trans phase
  · intro other phase
    cases polling.symm.trans phase
  · intro thread member
    rcases mem_concat.mp member with old | rfl
    · refine (lawful.threads thread old).mono grows ?_
      intro other known settled
      rw [Settled, elsewhere other (earlier other known)]
      exact settled
    · exact List.mem_append_right _ (List.mem_singleton_self _)

/-- A settled request may be taken out of the table. -/
structure Drops (requestId : String) (before after : Stage1) : Prop where
  table : after.decodeStates = (before.remove requestId).decodeStates
  accepted : after.accepted = before.accepted
  removed : after.removed = (before.remove requestId).removed
  responses : after.responses = before.responses

section

variable (drops : Drops requestId before after)
include drops

theorem Drops.absent : (after.decodeStates requestId).isSome = false := by
  rw [drops.table, Stage1.remove]
  simp

theorem Drops.elsewhere {other : String} (different : other ≠ requestId) :
    after.decodeStates other = before.decodeStates other := by
  rw [drops.table]
  exact Function.update_of_ne different _ _

theorem Drops.answers (other : String) : after.answers other = before.answers other := by
  rw [Stage1.answers, drops.responses, Stage1.answers]

theorem Drops.mem_removed {other : String} : other ∈ after.removed ↔ other ∈ before.removed ∨
      other = requestId ∧ (before.decodeStates requestId).isSome = true := by
  rw [drops.removed, Stage1.remove]
  split
  · simp [*]
  · simp [*]

end

theorem Lawful.drop (lawful : Lawful before) (drops : Drops requestId before after) (settled : before.Settled requestId)
    (cleaning : ∀ other, after.phase = .cleaning other → before.phase = .cleaning other)
    (kept : ∀ other, other ≠ requestId → before.phase = .cleaning other → after.phase = .cleaning other)
    (responding : ∀ other response, after.phase = .responding other response → before.phase = .responding other response)
    (threads : ∀ thread ∈ after.threads, thread ∈ before.threads ∨ thread = .finished) : Lawful after := by
  refine ⟨?_, ?_, ?_, ?_, ?_, ?_⟩
  · intro other present
    by_cases same : other = requestId
    · rw [same, drops.absent] at present
      cases present
    · rw [drops.elsewhere same] at present
      rw [drops.accepted, drops.mem_removed]
      obtain ⟨known, remains⟩ := lawful.present other present
      exact ⟨known, by simp [remains, same]⟩
  · intro other gone
    rw [drops.accepted, drops.answers]
    rcases drops.mem_removed.mp gone with earlier | ⟨rfl, present⟩
    · exact lawful.removed other earlier
    · refine ⟨(lawful.present other present).1, ?_⟩
      rcases settled with absent | answered
      · rw [present] at absent
        cases absent
      · exact answered
  · intro other answered
    rw [drops.answers] at answered
    obtain ⟨known, once, clean⟩ := lawful.answered other answered
    rw [drops.accepted, drops.answers]
    refine ⟨known, once, fun present => ?_⟩
    by_cases same : other = requestId
    · rw [same, drops.absent] at present
      cases present
    · rw [drops.elsewhere same] at present
      exact kept other same (clean present)
  · intro other response phase
    rw [drops.accepted, drops.answers]
    exact lawful.responding other response (responding other response phase)
  · intro other phase
    rw [drops.answers]
    exact lawful.cleaning other (cleaning other phase)
  · intro thread member
    rcases threads thread member with earlier | rfl
    · refine (lawful.threads thread earlier).mono (drops.accepted ▸ List.Subset.refl _) ?_
      intro other known settled
      rw [Settled, drops.answers]
      by_cases same : other = requestId
      · exact .inl (same ▸ drops.absent)
      · rw [drops.elsewhere same]
        exact settled
    · trivial

theorem answers_handOver (final : InferenceResponse) (other : String) : (before.handOver (some final)).answers other =
      before.answers other + if final.requestId = other then 1 else 0 := by
  simp [answers, handOver, List.countP_singleton]

theorem Lawful.respond {response} (lawful : Lawful before) (phase : before.phase = .responding requestId response) :
    Lawful { before.handOver response with phase := .cleaning requestId } := by
  obtain ⟨known, unanswered, final, rfl, own⟩ := lawful.responding requestId response phase
  have now : (before.handOver (some final)).answers requestId = 1 := by
    rw [answers_handOver, unanswered, if_pos own]
  have elsewhere : ∀ other, other ≠ requestId → (before.handOver (some final)).answers other = before.answers other := by
    intro other different
    rw [answers_handOver, own, if_neg (Ne.symm different), Nat.add_zero]
  have once : ∀ other, before.answers other = 1 → (before.handOver (some final)).answers other = 1 := by
    intro other answered
    by_cases same : other = requestId
    · rw [same, unanswered] at answered
      cases answered
    · rw [elsewhere other same, answered]
  refine ⟨lawful.present, ?_, ?_, ?_, ?_, ?_⟩
  · intro other gone
    exact ⟨(lawful.removed other gone).1, once other (lawful.removed other gone).2⟩
  · intro other answered
    by_cases same : other = requestId
    · subst same
      exact ⟨known, now, fun _ => rfl⟩
    · have earlier : before.answers other ≠ 0 := by
        rw [← elsewhere other same]
        exact answered
      obtain ⟨accepted, first, clean⟩ := lawful.answered other earlier
      refine ⟨accepted, once other first, fun present => ?_⟩
      cases phase.symm.trans (clean present)
  · intro other response phase
    cases phase
  · intro other phase
    cases phase
    exact now
  · intro thread member
    refine (lawful.threads thread member).mono (List.Subset.refl _) ?_
    rintro other _ (absent | answered)
    · exact .inl absent
    · exact .inr (once other answered)

theorem Lawful.unanswered (lawful : Lawful before) (polling : before.phase = .polling)
    (present : (before.decodeStates requestId).isSome = true) : before.answers requestId = 0 := by
  by_contra answered
  obtain ⟨-, -, clean⟩ := lawful.answered requestId answered
  cases polling.symm.trans (clean present)

section

variable (response : TokenResponse) (serialized : Bool)
include response serialized

theorem onToken_eq : ∃ phase, before.onToken response serialized =
      { before.modify response.requestId fun state => state.push response with phase := phase } ∧
    (phase = .continuing response.requestId ∨ ∃ decoding, before.decodeStates response.requestId = some decoding ∧
      (decoding.push response).shouldTerminate response = true ∧ phase = .responding response.requestId
        (if serialized then some ((decoding.push response).finalResponse response.requestId) else none)) := by
  unfold onToken
  dsimp only
  split
  · next absent =>
    refine ⟨_, ?_, .inl rfl⟩
    rw [modify, absent, Option.map_none, ← absent, Function.update_eq_self]
  · next decoding found =>
    split
    · next ends => exact ⟨_, rfl, .inr ⟨decoding, found, ends, rfl⟩⟩
    · exact ⟨_, rfl, .inl rfl⟩

theorem keeps_onToken : Keeps before (before.onToken response serialized) := by
  obtain ⟨_, same, -⟩ := @onToken_eq before response serialized
  rw [same]
  exact .modify rfl rfl rfl rfl

end

section

variable (lawful : Lawful before)
include lawful

theorem Lawful.token {response serialized} (polling : before.phase = .polling)
    (kept : before.losesResponse (.token response serialized) = false) : Lawful (before.onToken response serialized) := by
  have keeps := @keeps_onToken before response serialized
  obtain ⟨_, same, origin⟩ := @onToken_eq before response serialized
  rw [same] at keeps ⊢
  refine lawful.keep keeps ?_ ?_ ?_
  · intro other
    rw [polling]
    rcases origin with goes | ⟨_, -, -, ends⟩
    · simp [goes]
    · simp [ends]
  · intro other final phase
    rcases origin with goes | ⟨_, found, ends, answering⟩
    · cases goes.symm.trans phase
    · have present : (before.decodeStates response.requestId).isSome = true := by rw [found]; rfl
      have fine : serialized = true := by
        simpa [losesResponse, found, ends] using kept
      rw [fine] at answering
      cases answering.symm.trans phase
      exact ⟨(lawful.present _ present).1, lawful.unanswered polling present, _, rfl, rfl⟩
  · exact fun thread member => keeps.threadSafe (lawful.threads thread member)

theorem Lawful.continueDecode (continuing : before.phase = .continuing requestId) :
    Lawful { before.spawn (.decode requestId) with phase := .polling } := by
  have keeps : Keeps before { before.spawn (.decode requestId) with phase := .polling } :=
    .of_same rfl rfl rfl rfl
  refine lawful.keep keeps ?_ ?_ ?_
  · intro other
    simp [continuing]
  · intro other response phase
    cases phase
  · exact holds_after_concat (fun thread member => keeps.threadSafe (lawful.threads thread member)) trivial

theorem Lawful.snapshot : Lawful (before.onSnapshot index requestId) := by
  unfold onSnapshot
  split
  · exact lawful.keep_thread (.of_same rfl rfl rfl rfl) rfl rfl trivial
  · rename_i decoding found
    refine lawful.keep_thread (.of_same rfl rfl rfl rfl) rfl rfl ?_
    exact (lawful.present requestId (by rw [found]; rfl)).1

theorem Lawful.step {stage : Stage} {label : Label} (distinct : Distinct before label)
    (sound : Sound stage before label) (moves : Moves stage before label after) : Lawful after := by
  cases moves with
  | accept polling => exact lawful.accept polling (distinct _ rfl)
  | @prefill index fault requestId tokens found =>
    have pass : before.passOf (.prefill index fault) = some (.prefill requestId tokens fault) := by
      simp only [passOf, found]
    exact lawful.runPass (sound.1 _ pass) (lawful.threads _ (List.mem_of_getElem? found)) fun _ => trivial
  | @decode index fault requestId lastToken position found =>
    have pass : before.passOf (.decode index fault) = some (.decode requestId lastToken position fault) := by
      simp only [passOf, found]
    exact lawful.runPass (sound.1 _ pass) (lawful.threads _ (List.mem_of_getElem? found)) fun _ => trivial
  | update => exact lawful.keep_thread (.modify rfl rfl rfl rfl) rfl rfl trivial
  | snapshot => exact lawful.snapshot
  | forward => exact lawful.keep_thread (.of_same rfl rfl rfl rfl) rfl rfl trivial
  | abandon found =>
    refine lawful.drop ⟨rfl, rfl, rfl, rfl⟩ (lawful.threads _ (List.mem_of_getElem? found)).2
      (fun _ phase => phase) (fun _ _ phase => phase) (fun _ _ phase => phase) ?_
    intro thread member
    exact List.mem_or_eq_of_mem_set member
  | token polling => exact lawful.token polling sound.2
  | respond responding => exact lawful.respond responding
  | @cleanup _ cleaning =>
    refine lawful.drop ⟨rfl, rfl, rfl, rfl⟩ (.inr (lawful.cleaning _ cleaning)) ?_ ?_ ?_ ?_
    · intro other phase
      cases phase
    · intro other different phase
      cases cleaning.symm.trans phase
      exact absurd rfl different
    · intro other response phase
      cases phase
    · exact fun thread member => .inl member
  | continueDecode continuing => exact lawful.continueDecode continuing

end

end Laws

variable {stage : Stage} {layers : Nat} {snapshot : Option (List (List CacheEntry))}
  {state next : Stage1} {label : Label}

theorem lawful_of_reaches (reached : (system stage).Reaches (fun state label => Distinct state label ∧
      Sound stage state label) (started (.loaded layers snapshot)) state) : Lawful state := by
  refine reached.invariant Lawful ?_ ?_
  · refine ⟨?_, List.forall_mem_nil _, ?_, ?_, ?_, List.forall_mem_nil _⟩
    · intro requestId present
      cases present
    · intro requestId answered
      exact absurd rfl answered
    · intro requestId response phase
      cases phase
    · intro requestId phase
      cases phase
  · intro before label after allowed stepped lawful
    exact lawful.step allowed.1 allowed.2 (step_moves stepped)

/-! ### What follows an unsound step -/

/-- A request can leave the table from here on without a response. -/
def Silenced (stage : Stage) (state : Stage1) : Prop :=
  ∃ later, (system stage).Reachable state later ∧ ∃ requestId ∈ later.removed, later.answers requestId = 0

variable {requestId : String} {index : Nat} {thread : Thread}

theorem mem_removed_remove (present : (state.decodeStates requestId).isSome = true) :
    requestId ∈ (state.remove requestId).removed := by
  simp [remove, present]

theorem silenced_of_failing (failing : state.threads[index]? = some (.failing requestId))
    (present : (state.decodeStates requestId).isSome = true)
    (unanswered : state.answers requestId = 0) : Silenced stage state := by
  have stepped : (system stage).step state (.abandon index) = some ((state.remove requestId).setThread index .finished) := by
    simp only [system, step, failing]
  exact ⟨_, .step .refl trivial stepped, requestId, mem_removed_remove present, unanswered⟩

theorem silenced_of_responding (phase : state.phase = .responding requestId none)
    (present : (state.decodeStates requestId).isSome = true)
    (unanswered : state.answers requestId = 0) : Silenced stage state := by
  have responded : (system stage).step state .respond = some { state.handOver none with phase := .cleaning requestId } := by
    simp only [system, step, phase]
  have answers : (state.handOver none).answers requestId = 0 := by
    simpa [Stage1.answers, handOver] using unanswered
  have cleaned : (system stage).step { state.handOver none with phase := .cleaning requestId }
      .cleanup = some { (state.handOver none).remove requestId with phase := .polling } := rfl
  exact ⟨_, .step (.step .refl trivial responded) trivial cleaned, requestId,
    @mem_removed_remove (state.handOver none) requestId present, answers⟩

theorem silenced_of_runPass {before : Thread} (lawful : Lawful state) (found : state.threads[index]? = some before)
    (failed : (pass.executed stage state.engine.model).outcome ≠ .completed) (unsettled : ¬state.Settled pass.requestId) :
    Silenced stage (state.runPass stage index pass thread) := by
  have bound := entry_lt found
  have failing : (state.runPass stage index pass thread).threads[index]? = some (.failing pass.requestId) := by
    simp [runPass, setThread, failed, bound]
  have present : (state.decodeStates pass.requestId).isSome = true := by
    by_contra absent
    exact unsettled (.inl (by simpa using absent))
  have unanswered : state.answers pass.requestId = 0 := by
    by_contra answered
    exact unsettled (.inr (lawful.answered _ answered).2.1)
  exact silenced_of_failing failing present unanswered

theorem silenced_of_token {response serialized} (lawful : Lawful state)
    (polling : state.phase = .polling) (lost : state.losesResponse (.token response serialized) = true) :
    Silenced stage (state.onToken response serialized) := by
  have keeps := @keeps_onToken state response serialized
  simp only [losesResponse, Bool.and_eq_true, Bool.not_eq_true', Option.any_eq_true] at lost
  obtain ⟨unserialized, _, found, ends⟩ := lost
  subst unserialized
  have present : (state.decodeStates response.requestId).isSome = true := by rw [found]; rfl
  have phase : (state.onToken response false).phase = .responding response.requestId none := by
    simp [onToken, found, ends]
  exact silenced_of_responding phase (by rw [keeps.table, present])
    (by rw [keeps.answers, lawful.unanswered polling present])

theorem silenced_of_unsound (lawful : Lawful state) (unsound : ¬Sound stage state label)
    (moves : Moves stage state label next) : Silenced stage next := by
  have failure : ∀ pass, state.passOf label = some pass → state.losesResponse label = false →
      (pass.executed stage state.engine.model).outcome ≠ .completed ∧ ¬state.Settled pass.requestId := by
    intro pass runs kept
    rw [← not_or]
    intro fine
    refine unsound ⟨fun other same => ?_, kept⟩
    cases runs.symm.trans same
    exact fine
  cases moves with
  | @prefill _ fault requestId tokens found =>
    obtain ⟨failed, unsettled⟩ := failure (.prefill requestId tokens fault) (by simp only [passOf, found]) rfl
    exact silenced_of_runPass lawful found failed unsettled
  | @decode _ fault requestId lastToken position found =>
    obtain ⟨failed, unsettled⟩ := failure (.decode requestId lastToken position fault) (by simp only [passOf, found]) rfl
    exact silenced_of_runPass lawful found failed unsettled
  | @token response serialized polling =>
    have lost : state.losesResponse (.token response serialized) = true := by
      by_contra kept
      exact unsound ⟨by simp [passOf], by simpa using kept⟩
    exact silenced_of_token lawful polling lost
  | accept | update | snapshot | forward | abandon | respond | cleanup | continueDecode =>
    exact absurd ⟨by simp [passOf], rfl⟩ unsound

/-- As long as forward passes fail only for settled requests and final responses serialize,
every request that has left the table has exactly one response. A step that breaks this lets a
request leave the table with none. -/
theorem removed_answered_once (reached : (system stage).Reaches (fun state label => Distinct state label ∧
      Sound stage state label) (started (.loaded layers snapshot)) state) :
    (∀ requestId ∈ state.removed, state.answers requestId = 1) ∧
      ∀ label next, (system stage).step state label = some next → ¬Sound stage state label → Silenced stage next := by
  have lawful := lawful_of_reaches reached
  refine ⟨fun requestId gone => (lawful.removed requestId gone).2, ?_⟩
  intro label next stepped unsound
  exact silenced_of_unsound lawful unsound (step_moves stepped)

/-! ### The passes of the stage -/

def Given : Thread → Prop
  | .prefill _ tokens => tokens ≠ []
  | _ => True

/-- The passes so far are a run of the model of the stage. -/
structure Tracked (stage : Stage) (engine : StageState) (state : Stage1) : Prop where
  reached : (stageSystem stage).Reachable engine state.engine
  given : ∀ thread ∈ state.threads, Given thread

variable {engine : StageState}

section

variable (tracked : Tracked stage engine state)
include tracked

theorem Tracked.setThread (same : next.engine = state.engine) (threads : next.threads = state.threads.set index thread)
    (given : Given thread) : Tracked stage engine next := by
  refine ⟨same ▸ tracked.reached, ?_⟩
  rw [threads]
  exact holds_after_set tracked.given given

theorem Tracked.spawn (same : next.engine = state.engine) (threads : next.threads = state.threads ++ [thread])
    (given : Given thread) : Tracked stage engine next := by
  refine ⟨same ▸ tracked.reached, ?_⟩
  rw [threads]
  exact holds_after_concat tracked.given given

theorem Tracked.runPass (tokens : pass.tokens ≠ []) (given : Given thread) :
    Tracked stage engine (state.runPass stage index pass thread) := by
  have stepped : (stageSystem stage).step state.engine pass = some (state.engine.execute stage pass) := if_neg tokens
  refine ⟨.step tracked.reached trivial stepped, ?_⟩
  refine holds_after_set tracked.given ?_
  split
  · exact given
  · trivial

theorem Tracked.taken : Tracked stage engine (state.onSnapshot index requestId) := by
  unfold onSnapshot
  split <;> exact tracked.setThread rfl rfl trivial

end

theorem Tracked.step (tracked : Tracked stage engine state)
    (moves : Moves stage state label next) : Tracked stage engine next := by
  cases moves with
  | accept _ given => exact tracked.spawn rfl rfl given
  | prefill found =>
    exact tracked.runPass (tracked.given _ (List.mem_of_getElem? found)) trivial
  | decode => exact tracked.runPass (List.cons_ne_nil _ _) trivial
  | update found | forward found | abandon found => exact tracked.setThread rfl rfl trivial
  | snapshot => exact tracked.taken
  | @token response serialized _ =>
    obtain ⟨_, same, -⟩ := @onToken_eq state response serialized
    rw [same]
    exact ⟨tracked.reached, tracked.given⟩
  | respond | cleanup => exact ⟨tracked.reached, tracked.given⟩
  | continueDecode => exact tracked.spawn rfl rfl trivial

/-- Whatever the main loop and the threads do, the forward passes are a run of the stage's
model. -/
theorem engine_reachable (reached : (system stage).Reachable (started engine) state) :
    (stageSystem stage).Reachable engine state.engine := by
  have tracked : Tracked stage engine state := by
    refine reached.invariant (Tracked stage engine) ⟨.refl, List.forall_mem_nil _⟩ ?_
    intro before label after _ stepped tracked
    exact tracked.step (step_moves stepped)
  exact tracked.reached

def endingRun : List Label :=
  [.accept "a" [1, 2], .prefill 0 none, .update 0, .forward 0 true,
    .token ⟨"a", 3, "x", false⟩ true, .continueDecode, .snapshot 1, .decode 1 none,
    .forward 1 true, .token ⟨"a", 4, "y", true⟩ true, .respond, .cleanup]

theorem endingRun_passes : ∃ state, (system firstStage).Reachable (started (.loaded 3 none)) state ∧
    state.engine.passes.map (fun executed => executed.pass) = [.prefill "a" [1, 2] none, .decode "a" 3 3 none] ∧
    (stageSystem firstStage).Reachable (.loaded 3 none) state.engine := by
  obtain ⟨state, reached, passes⟩ := System.exists_reachable_of_run (system firstStage) (started (.loaded 3 none)) endingRun
    (fun state => state.engine.passes.map (fun executed => executed.pass) = [.prefill "a" [1, 2] none, .decode "a" 3 3 none])
    (by decide)
  exact ⟨state, reached, passes, engine_reachable reached⟩

theorem endingRun_answered_once : ∃ state, (system firstStage).Reaches (fun state label => Distinct state label ∧
        Sound firstStage state label) (started (.loaded 3 none)) state ∧
      state.removed = ["a"] ∧ state.answers "a" = 1 := by
  obtain ⟨state, reached, removed⟩ := System.exists_reaches_of_run (system firstStage)
    (fun state label => Distinct state label ∧ Sound firstStage state label)
    (started (.loaded 3 none)) endingRun (fun state => state.removed = ["a"])
    (by decide) (by decide)
  have once := (removed_answered_once reached).1 "a" (by simp [removed])
  exact ⟨state, reached, removed, once⟩

/-- A prefill that fails, and a decode step that fails after the first token. -/
theorem failedPass_unanswered : (∃ state, (system firstStage).Reaches Distinct (started (.loaded 3 none)) state ∧
      state.removed = ["a"] ∧ state.answers "a" = 0) ∧
    ∃ state, (system firstStage).Reaches Distinct (started (.loaded 3 none)) state ∧
      state.activations.length = 1 ∧ state.removed = ["a"] ∧ state.answers "a" = 0 :=
  ⟨System.exists_reaches_of_run _ _ _
      [.accept "a" [1, 2], .prefill 0 (some .mask), .abandon 0] _
      (by decide) (by decide +kernel),
    System.exists_reaches_of_run _ _ _
      [.accept "a" [1, 2], .prefill 0 none, .update 0, .forward 0 true,
        .token ⟨"a", 3, "x", false⟩ true, .continueDecode, .snapshot 1,
        .decode 1 (some (.beforeCache 0)), .abandon 1] _
      (by decide) (by decide)⟩

end Blazil.Inference.Stage1

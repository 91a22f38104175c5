import Blazil.Inference.Stage1Properties

/-! The position at which the first stage runs a generated token, against that of the
single-process `generate_streaming`. -/

set_option autoImplicit false

namespace Blazil.Inference

open Foundation

/-- `pos` of `generate_streaming` for the last of the tokens: the number of tokens before it. -/
def streamingPosition (tokens : List UInt32) : Nat := tokens.length - 1

def DecodeState.Counts (decoding : DecodeState) : Prop :=
  0 < decoding.tokensGenerated → decoding.currentPosition = decoding.tokens.length

variable {decoding : DecodeState}

theorem DecodeState.Counts.of_none (none : decoding.tokens.length = decoding.promptLength) : decoding.Counts := by
  intro generated
  rw [tokensGenerated, none, Nat.sub_self] at generated
  cases generated

theorem DecodeState.counts_push (decoding : DecodeState) (response : TokenResponse) : (decoding.push response).Counts := by
  intro _
  rw [push, List.length_append, List.length_singleton]

namespace Stage1

def Counting (state : Stage1) : Prop := ∀ requestId, ∀ decoding ∈ state.decodeStates requestId, decoding.Counts

variable {stage : Stage} {engine : StageState} {state next : Stage1} {label : Label} {index : Nat} {requestId : String}

section

variable (counting : state.Counting)
include counting

theorem Counting.update {entry} (counts : ∀ decoding ∈ entry, decoding.Counts)
    (table : next.decodeStates = Function.update state.decodeStates requestId entry) : next.Counting := by
  intro other
  rw [table, Function.update_apply]
  split
  · exact counts
  · exact counting other

theorem Counting.modify {change} (counts : ∀ decoding, (change decoding).Counts)
    (table : next.decodeStates = (state.modify requestId change).decodeStates) : next.Counting := by
  refine counting.update (fun decoding changed => ?_) table
  obtain ⟨before, _, rfl⟩ := Option.map_eq_some_iff.mp changed
  exact counts before

theorem Counting.step (moves : Moves stage state label next) : next.Counting := by
  cases moves with
  | accept =>
    refine counting.update (fun decoding initial => ?_) rfl
    cases initial
    exact .of_none rfl
  | update => exact counting.modify (fun _ => .of_none rfl) rfl
  | @token response serialized =>
    obtain ⟨_, same, -⟩ := @onToken_eq state response serialized
    rw [same]
    exact counting.modify (fun decoding => decoding.counts_push response) rfl
  | abandon | cleanup => exact counting.update (fun _ absent => by cases absent) rfl
  | snapshot =>
    unfold onSnapshot
    split <;> exact counting
  | prefill | decode | forward | respond | continueDecode => exact counting

end

theorem counting_of_reachable (reached : (system stage).Reachable (started engine) state) : state.Counting := by
  refine reached.invariant Counting (fun _ _ absent => by cases absent) ?_
  intro before label after _ stepped counting
  exact counting.step (step_moves stepped)

def TakesUp (state : Stage1) (index : Nat) (requestId : String) (decoding : DecodeState) : Prop :=
  state.threads[index]? = some (.decode requestId) ∧ state.decodeStates requestId = some decoding

/-- With `n` tokens in the prompt and `k` generated, the thread runs the last one at `n + k - 1`,
as `generate_streaming` does. -/
def AsStreaming (state next : Stage1) (index : Nat) : Prop :=
  ∀ requestId decoding fault, state.TakesUp index requestId decoding → 0 < decoding.tokensGenerated →
    streamingPosition decoding.tokens = decoding.promptLength + decoding.tokensGenerated - 1 ∧
      next.passOf (.decode index fault) =
        some (.decode requestId (decoding.tokens.getLast?.getD 0) (streamingPosition decoding.tokens) fault)

theorem passOf_onSnapshot (takes : state.TakesUp index requestId decoding) (fault : Option Fault) :
    (state.onSnapshot index requestId).passOf (.decode index fault) =
      some (.decode requestId (decoding.tokens.getLast?.getD 0) decoding.currentPosition fault) := by
  simp [onSnapshot, takes.2, passOf, setThread, entry_lt takes.1]

/-- A generated token is run one position beyond that of `generate_streaming`, so that the two
agree just where no generated token is run. -/
theorem asStreaming_iff (reached : (system stage).Reachable (started engine) state)
    (stepped : (system stage).step state (.snapshot index) = some next) :
    (∀ requestId decoding fault, state.TakesUp index requestId decoding → 0 < decoding.tokensGenerated →
      next.passOf (.decode index fault) =
        some (.decode requestId (decoding.tokens.getLast?.getD 0) (streamingPosition decoding.tokens + 1) fault)) ∧
    (AsStreaming state next index ↔
      ∀ requestId decoding, state.TakesUp index requestId decoding → decoding.tokensGenerated = 0) := by
  have late : ∀ requestId decoding fault, state.TakesUp index requestId decoding → 0 < decoding.tokensGenerated →
      next.passOf (.decode index fault) =
        some (.decode requestId (decoding.tokens.getLast?.getD 0) (streamingPosition decoding.tokens + 1) fault) := by
    intro requestId decoding fault takes generated
    have counts := counting_of_reachable reached requestId decoding takes.2 generated
    have moves : Moves stage state (.snapshot index) next := step_moves stepped
    cases moves with
    | snapshot found =>
      cases takes.1.symm.trans found
      rw [passOf_onSnapshot takes, counts, streamingPosition, Nat.sub_add_cancel]
      unfold DecodeState.tokensGenerated at generated
      omega
  refine ⟨late, fun streaming requestId decoding takes => ?_, fun fresh requestId decoding fault takes generated => ?_⟩
  · by_contra generated
    have positive := Nat.pos_of_ne_zero generated
    have pass := (late requestId decoding none takes positive).symm.trans (streaming requestId decoding none takes positive).2
    simp at pass
  · exact absurd (fresh requestId decoding takes) (Nat.ne_of_gt generated)

/-- The prompt has two tokens, so `generate_streaming` would run the first generated one at position two. -/
theorem firstToken_late : ∃ state next, (system firstStage).Reachable (started (.loaded 3 none)) state ∧
    (system firstStage).step state (.snapshot 1) = some next ∧
    next.passOf (.decode 1 none) = some (.decode "a" 7 3 none) ∧ ¬ AsStreaming state next 1 := by
  obtain ⟨state, reached, thread, known⟩ := System.exists_reachable_of_run (system firstStage) (started (.loaded 3 none))
    [.accept "a" [1, 2], .prefill 0 none, .update 0, .forward 0 true, .token ⟨"a", 7, "x", false⟩ true, .continueDecode]
    (fun state => state.threads[1]? = some (.decode "a") ∧
      (state.decodeStates "a").map (fun decoding => (decoding.tokens, decoding.tokensGenerated)) = some ([1, 2, 7], 1))
    (by decide)
  obtain ⟨decoding, found, parts⟩ := Option.map_eq_some_iff.mp known
  obtain ⟨tokens, generated⟩ := Prod.mk.inj parts
  have stepped : (system firstStage).step state (.snapshot 1) = some (state.onSnapshot 1 "a") := by
    simp [system, step, thread]
  obtain ⟨late, streaming⟩ := asStreaming_iff reached stepped
  have pass := late "a" decoding none ⟨thread, found⟩ (by omega)
  rw [tokens] at pass
  refine ⟨state, _, reached, stepped, pass, fun agrees => ?_⟩
  have fresh := streaming.mp agrees "a" decoding ⟨thread, found⟩
  omega

/-- The prompt has two tokens, and the first generated token is run at position three. -/
theorem firstToken_position : ∃ state, (system firstStage).Reachable (started (.loaded 3 none)) state ∧
    state.passOf (.decode 1 none) = some (.decode "a" 7 3 none) ∧ (state.decodeStates "a").map (fun decoding =>
      (decoding.promptLength, decoding.tokensGenerated, streamingPosition decoding.tokens)) = some (2, 1, 2) :=
  System.exists_reachable_of_run _ _ [.accept "a" [1, 2], .prefill 0 none, .update 0, .forward 0 true,
    .token ⟨"a", 7, "x", false⟩ true, .continueDecode, .snapshot 1] _ (by decide)

end Stage1

end Blazil.Inference

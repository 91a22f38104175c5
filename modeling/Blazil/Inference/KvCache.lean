import Blazil.Foundation.Entries
import Blazil.Foundation.Transition

/-! The key/value caches of a pipeline stage. A stage runs its range of layers for one request at a
time, under the lock of its model, and all requests share one cache in each layer. The entries are
modelled by what they were computed from.

Nothing in the caches says whose they are, so a decode step attends to whatever the last prefill at
the stage has left. -/

set_option autoImplicit false

namespace Blazil.Inference

open Foundation

inductive Origin where
  | systemPrefix
  | request (requestId : String)
deriving DecidableEq

structure CacheEntry where
  origin : Origin
  token : UInt32
  position : Nat
deriving DecidableEq

abbrev KvCache := Option (List CacheEntry)

/-- The layers of the model, with the caches captured at startup if the system prefix was
warmed up. -/
structure ModelWeights where
  layers : List KvCache
  prefixKvSnapshot : Option (List (List CacheEntry))
deriving DecidableEq

/-- Where a forward pass fails: before the model is used, at the causal mask, at the
embeddings, in a layer before or after its cache is written, or after the last layer. -/
inductive Fault where
  | tokenization
  | mask
  | embeddings
  | beforeCache (layer : Nat)
  | afterCache (layer : Nat)
  | projection
deriving DecidableEq

inductive ForwardError where
  | tokenizationFailed
  | promptTooLong (tokens maxSeqLen : Nat)
  | invalidLayerRange (layerStart layerEnd : Nat)
  | layerEndExceeds (layerEnd count : Nat)
  | unexpectedRank
  | operationFailed
deriving DecidableEq

/-- How a forward pass ends. A rejected one has not touched the caches. -/
inductive Outcome where
  | rejected (error : ForwardError)
  | failed (error : ForwardError)
  | completed
deriving DecidableEq

/-- What a forward pass leaves, with the entries that were attended to in each layer. -/
structure Forward where
  model : ModelWeights
  attended : List (List CacheEntry)
  outcome : Outcome
deriving DecidableEq

def Forward.rejected (model : ModelWeights) (error : ForwardError) : Forward :=
  ⟨model, [], .rejected error⟩

/-- The keys a layer attends to, which also become its cache. -/
def forwardAttn (cache : KvCache) (fresh : List CacheEntry) (indexPos : Nat) : List CacheEntry :=
  match cache with
  | none => fresh
  | some cached => if indexPos = 0 then fresh else cached ++ fresh

namespace ModelWeights

def shouldClearKvCache (seqLen layerStart : Nat) : Bool := 1 < seqLen && layerStart == 0

def clearAllKvCaches (model : ModelWeights) : ModelWeights :=
  { model with layers := model.layers.map fun _ => none }

/-- The snapshot is written to as many layers as it has. -/
def restoreKvSnapshot (model : ModelWeights) : ModelWeights :=
  match model.prefixKvSnapshot with
  | none => model
  | some layerKvs =>
    { model with
      layers := layerKvs.zipWith (fun kv _ => some kv) model.layers ++ model.layers.drop layerKvs.length }

structure LayerRun where
  layers : List KvCache
  attended : List (List CacheEntry)
  finished : Bool

/-- The loop over the layers, of which the first has number `layer`. -/
def runLayers (fresh : List CacheEntry) (indexPos : Nat) (fault : Option Fault) : Nat → List KvCache → LayerRun
  | _, [] => ⟨[], [], true⟩
  | layer, cache :: rest =>
    if fault = some (.beforeCache layer) then ⟨cache :: rest, [], false⟩
    else
      let keys := forwardAttn cache fresh indexPos
      if fault = some (.afterCache layer) then ⟨some keys :: rest, [keys], false⟩
      else
        let later := runLayers fresh indexPos fault (layer + 1) rest
        ⟨some keys :: later.layers, keys :: later.attended, later.finished⟩

def caches (model : ModelWeights) (layerStart layerEnd : Nat) : List KvCache :=
  (model.layers.drop layerStart).take (layerEnd - layerStart)

def executeLayers (model : ModelWeights) (fresh : List CacheEntry)
    (layerStart layerEnd indexPos : Nat) (fault : Option Fault) : Forward :=
  let executed := runLayers fresh indexPos fault layerStart (model.caches layerStart layerEnd)
  { model := { model with
      layers := model.layers.take layerStart ++ executed.layers ++ model.layers.drop layerEnd }
    attended := executed.attended
    outcome := if executed.finished = true ∧ fault ≠ some .projection then .completed
      else .failed .operationFailed }

/-- The mask is made between the clearing and the restoring of the caches, and only for more
than one token. -/
def forwardLayerRange (model : ModelWeights) (fresh : List CacheEntry) (layerStart layerEnd indexPos : Nat)
    (applyEmbeddings : Bool) (fault : Option Fault) : Forward :=
  if layerEnd ≤ layerStart then .rejected model (.invalidLayerRange layerStart layerEnd)
  else if model.layers.length < layerEnd then
    .rejected model (.layerEndExceeds layerEnd model.layers.length)
  else
    let cleared :=
      if shouldClearKvCache fresh.length layerStart then model.clearAllKvCaches else model
    if fresh.length ≠ 1 ∧ fault = some .mask then ⟨cleared, [], .failed .operationFailed⟩
    else
      let restored :=
        if applyEmbeddings && shouldClearKvCache fresh.length layerStart
        then cleared.restoreKvSnapshot else cleared
      if applyEmbeddings = true ∧ fault = some .embeddings
      then ⟨restored, [], .failed .operationFailed⟩
      else restored.executeLayers fresh layerStart layerEnd indexPos fault

end ModelWeights

def freshEntries (requestId : String) (tokens : List UInt32) (indexPos : Nat) : List CacheEntry :=
  (tokens.zipIdx indexPos).map fun item => ⟨.request requestId, item.1, item.2⟩

/-- The layers of a stage and the context length of its model. The first stage starts from
tokens, the others from the hidden states of the stage before. -/
structure Stage where
  first : Bool
  layerStart : Nat
  layerEnd : Nat
  maxSeqLen : Nat
deriving DecidableEq

namespace Stage

variable (stage : Stage) (model : ModelWeights) (requestId : String)

/-- `GgufModel::forward_layer_range`, from tokens. A first stage that does not start at layer
0 has no hidden states to start from. -/
def forwardTokens (tokens : List UInt32) (position : Nat) (fault : Option Fault) : Forward :=
  if stage.layerEnd ≤ stage.layerStart then
    .rejected model (.invalidLayerRange stage.layerStart stage.layerEnd)
  else if stage.layerStart ≠ 0 then
    if model.layers.length < stage.layerEnd then
      .rejected model (.layerEndExceeds stage.layerEnd model.layers.length)
    else .rejected model .unexpectedRank
  else
    model.forwardLayerRange (freshEntries requestId tokens position) stage.layerStart stage.layerEnd position true fault

def generateFromTokensLayerRange (tokens : List UInt32) (fault : Option Fault) : Forward :=
  if fault = some .tokenization then .rejected model .tokenizationFailed
  else if stage.maxSeqLen ≤ tokens.length then
    .rejected model (.promptTooLong tokens.length stage.maxSeqLen)
  else stage.forwardTokens model requestId tokens 0 fault

def decodeSingleToken (token : UInt32) (position : Nat) (fault : Option Fault) : Forward :=
  stage.forwardTokens model requestId [token] position fault

/-- `generate_from_activation`, which never applies the embeddings. -/
def generateFromActivation (tokens : List UInt32) (position : Nat) (fault : Option Fault) : Forward :=
  model.forwardLayerRange (freshEntries requestId tokens position) stage.layerStart stage.layerEnd position false fault

end Stage

inductive Pass where
  | prefill (requestId : String) (tokens : List UInt32) (fault : Option Fault)
  | decode (requestId : String) (token : UInt32) (position : Nat) (fault : Option Fault)
deriving DecidableEq

namespace Pass

def requestId : Pass → String
  | .prefill requestId _ _ => requestId
  | .decode requestId _ _ _ => requestId

def position : Pass → Nat
  | .prefill _ _ _ => 0
  | .decode _ _ position _ => position

def tokens : Pass → List UInt32
  | .prefill _ tokens _ => tokens
  | .decode _ token _ _ => [token]

def fault : Pass → Option Fault
  | .prefill _ _ fault => fault
  | .decode _ _ _ fault => fault

def run (stage : Stage) (model : ModelWeights) : Pass → Forward
  | .prefill requestId tokens fault =>
    if stage.first then stage.generateFromTokensLayerRange model requestId tokens fault
    else stage.generateFromActivation model requestId tokens 0 fault
  | .decode requestId token position fault =>
    if stage.first then stage.decodeSingleToken model requestId token position fault
    else stage.generateFromActivation model requestId [token] position fault

end Pass

structure Executed where
  pass : Pass
  attended : List (List CacheEntry)
  outcome : Outcome
deriving DecidableEq

def Pass.executed (stage : Stage) (model : ModelWeights) (pass : Pass) : Executed :=
  ⟨pass, (pass.run stage model).attended, (pass.run stage model).outcome⟩

structure StageState where
  model : ModelWeights
  passes : List Executed
deriving DecidableEq

namespace StageState

/-- After loading, and after the warmup, all caches are empty. -/
def loaded (layers : Nat) (snapshot : Option (List (List CacheEntry))) : StageState :=
  ⟨⟨List.replicate layers none, snapshot⟩, []⟩

def execute (stage : Stage) (state : StageState) (pass : Pass) : StageState :=
  ⟨(pass.run stage state.model).model, state.passes ++ [pass.executed stage state.model]⟩

end StageState

/-- A stage under any order of passes. Every pass has a token: a prompt starts with the system
prefix. -/
def stageSystem (stage : Stage) : System StageState Pass where
  step state pass := if pass.tokens = [] then none else some (state.execute stage pass)

def OwnedBy (requestId : String) (keys : List CacheEntry) : Prop :=
  ∀ entry ∈ keys, entry.origin = .request requestId

instance (requestId : String) (keys : List CacheEntry) : Decidable (OwnedBy requestId keys) :=
  inferInstanceAs (Decidable (∀ _ ∈ _, _))

def Executed.Isolated (executed : Executed) : Prop :=
  ∀ keys ∈ executed.attended, OwnedBy executed.pass.requestId keys

instance (executed : Executed) : Decidable executed.Isolated :=
  inferInstanceAs (Decidable (∀ _ ∈ _, _))

/-- A pass at position 0 that touches the caches takes them over if it completes, and leaves
them to nobody if it fails. -/
def settle (holding : Option String) (executed : Executed) : Option String :=
  if executed.pass.position = 0 then
    match executed.outcome with
    | .rejected _ => holding
    | .failed _ => none
    | .completed => some executed.pass.requestId
  else holding

def holder (passes : List Executed) : Option String := passes.foldl settle none

/-- Decode steps are taken only for the request whose prefill the stage completed last. -/
def Exclusive (state : StageState) (pass : Pass) : Prop :=
  pass.position = 0 ∨ holder state.passes = some pass.requestId

instance (state : StageState) (pass : Pass) : Decidable (Exclusive state pass) :=
  inferInstanceAs (Decidable (_ ∨ _))

theorem holder_concat (passes : List Executed) (executed : Executed) :
    holder (passes ++ [executed]) = settle (holder passes) executed := by
  simp [holder]

/-! ### The loop over the layers -/

def Held (requestId : String) (cache : KvCache) : Prop :=
  ∃ keys, cache = some keys ∧ keys ≠ [] ∧ OwnedBy requestId keys

theorem forwardAttn_zero (cache : KvCache) (fresh : List CacheEntry) : forwardAttn cache fresh 0 = fresh := by
  cases cache <;> simp [forwardAttn]

variable {cached fresh : List CacheEntry} {holding : Option String} {state : StageState}

theorem forwardAttn_append {indexPos : Nat}
    (continues : indexPos ≠ 0) : forwardAttn (some cached) fresh indexPos = cached ++ fresh := by
  simp [forwardAttn, continues]

theorem owned_freshEntries (requestId : String) (tokens : List UInt32) (indexPos : Nat) :
    OwnedBy requestId (freshEntries requestId tokens indexPos) := by
  intro entry member
  obtain ⟨_, -, rfl⟩ := List.mem_map.mp member
  rfl

theorem length_freshEntries (requestId : String) (tokens : List UInt32) (indexPos : Nat) :
    (freshEntries requestId tokens indexPos).length = tokens.length := by
  simp [freshEntries]

theorem owned_append {requestId : String} (old : OwnedBy requestId cached)
    (new : OwnedBy requestId fresh) : OwnedBy requestId (cached ++ fresh) := by
  intro entry member
  rcases List.mem_append.mp member with earlier | later
  · exact old entry earlier
  · exact new entry later

namespace ModelWeights

variable {fresh : List CacheEntry} {indexPos layer : Nat} {fault : Option Fault} {requestId : String}

theorem length_runLayers (caches : List KvCache) :
    (runLayers fresh indexPos fault layer caches).layers.length = caches.length := by
  induction caches generalizing layer with
  | nil => rfl
  | cons _ _ ih =>
    simp only [runLayers]
    split
    · rfl
    · split
      · rfl
      · simp [ih]

theorem runLayers_opening (caches : List KvCache) : (∀ keys ∈ (runLayers fresh 0 fault layer caches).attended, keys = fresh) ∧
      ((runLayers fresh 0 fault layer caches).finished = true →
        ∀ cache ∈ (runLayers fresh 0 fault layer caches).layers, cache = some fresh) := by
  induction caches generalizing layer with
  | nil => simp [runLayers]
  | cons _ _ ih =>
    obtain ⟨attended, finished⟩ := @ih (layer + 1)
    simp only [runLayers, forwardAttn_zero]
    split
    · simp
    · split
      · simp
      · refine ⟨?_, ?_⟩
        · simpa using attended
        · intro complete
          simpa using finished complete

variable {caches : List KvCache}

theorem runLayers_held (continues : indexPos ≠ 0)
    (own : OwnedBy requestId fresh) (held : ∀ cache ∈ caches, Held requestId cache) :
    (∀ keys ∈ (runLayers fresh indexPos fault layer caches).attended, OwnedBy requestId keys) ∧
      ∀ cache ∈ (runLayers fresh indexPos fault layer caches).layers, Held requestId cache := by
  induction caches generalizing layer with
  | nil => simp [runLayers]
  | cons _ _ ih =>
    rw [List.forall_mem_cons] at held
    obtain ⟨⟨cached, rfl, nonempty, owned⟩, later⟩ := held
    obtain ⟨attended, layers⟩ := @ih (layer + 1) later
    have keys : OwnedBy requestId (cached ++ fresh) := owned_append owned own
    have kept : Held requestId (some (cached ++ fresh)) := ⟨_, rfl, by simp [nonempty], keys⟩
    simp only [runLayers, forwardAttn_append continues]
    split
    · refine ⟨by simp, ?_⟩
      rw [List.forall_mem_cons]
      exact ⟨⟨cached, rfl, nonempty, owned⟩, later⟩
    · split
      · exact ⟨by simpa using keys, List.forall_mem_cons.mpr ⟨kept, later⟩⟩
      · exact ⟨List.forall_mem_cons.mpr ⟨keys, attended⟩, List.forall_mem_cons.mpr ⟨kept, layers⟩⟩

theorem runLayers_foreign {owner : String} (continues : indexPos ≠ 0)
    (held : ∀ cache ∈ caches, Held owner cache) (attends : (runLayers fresh indexPos fault layer caches).attended ≠ []) :
    ∃ keys ∈ (runLayers fresh indexPos fault layer caches).attended, ∃ entry ∈ keys, entry.origin = .request owner := by
  cases caches with
  | nil => exact absurd rfl attends
  | cons cache rest =>
    obtain ⟨cached, rfl, nonempty, owned⟩ := held cache List.mem_cons_self
    obtain ⟨entry, member⟩ := List.exists_mem_of_ne_nil cached nonempty
    have reached : cached ++ fresh ∈ (runLayers fresh indexPos fault layer (some cached :: rest)).attended := by
      by_cases early : fault = some (.beforeCache layer)
      · simp [runLayers, early] at attends
      · by_cases late : fault = some (.afterCache layer) <;>
          simp [runLayers, early, late, forwardAttn_append continues]
    exact ⟨_, reached, entry, List.mem_append_left _ member, owned entry member⟩

variable {model : ModelWeights} {layerStart layerEnd : Nat}

theorem caches_executeLayers (ordered : layerStart ≤ layerEnd) (within : layerEnd ≤ model.layers.length) :
    (model.executeLayers fresh layerStart layerEnd indexPos fault).model.caches layerStart layerEnd =
      (runLayers fresh indexPos fault layerStart (model.caches layerStart layerEnd)).layers := by
  have length := @length_runLayers fresh indexPos layerStart fault (model.caches layerStart layerEnd)
  have size : (model.caches layerStart layerEnd).length = layerEnd - layerStart := by
    simp [caches]
    omega
  rw [size] at length
  simp only [executeLayers, caches, List.append_assoc]
  rw [List.drop_left' (by simp; omega)]
  exact List.take_left' length

theorem outcome_executeLayers : (model.executeLayers fresh layerStart layerEnd indexPos fault).outcome = .completed ∧
        (runLayers fresh indexPos fault layerStart (model.caches layerStart layerEnd)).finished = true ∨
      (model.executeLayers fresh layerStart layerEnd indexPos fault).outcome = .failed .operationFailed := by
  simp only [executeLayers]
  split
  · rename_i complete
    exact .inl ⟨rfl, complete.1⟩
  · exact .inr rfl

end ModelWeights

/-! ### One forward pass -/

/-- What a forward pass can do: refuse, stop before the first layer, or run the layers. Only a
pass over several tokens may find other caches than the pass before has left. -/
inductive PassRun (stage : Stage) (model : ModelWeights) (pass : Pass) : Forward → Prop where
  | rejected (error : ForwardError) : PassRun stage model pass (.rejected model error)
  | stopped (left : ModelWeights) (same : pass.tokens.length = 1 → left = model) :
      PassRun stage model pass ⟨left, [], .failed .operationFailed⟩
  | ran (prepared : ModelWeights) (same : pass.tokens.length = 1 → prepared = model) (ordered : stage.layerStart < stage.layerEnd)
      (within : stage.layerEnd ≤ prepared.layers.length) :
      PassRun stage model pass (prepared.executeLayers
        (freshEntries pass.requestId pass.tokens pass.position) stage.layerStart stage.layerEnd
        pass.position pass.fault)

theorem length_restoreKvSnapshot (model : ModelWeights) : model.restoreKvSnapshot.layers.length = model.layers.length := by
  unfold ModelWeights.restoreKvSnapshot
  split
  · rfl
  · simp
    omega

variable {stage : Stage} {model : ModelWeights} {pass : Pass} {forward : Forward}

theorem passRun_forwardLayerRange (applyEmbeddings : Bool) : PassRun stage model pass (model.forwardLayerRange
      (freshEntries pass.requestId pass.tokens pass.position) stage.layerStart stage.layerEnd
      pass.position applyEmbeddings pass.fault) := by
  unfold ModelWeights.forwardLayerRange
  rw [length_freshEntries]
  split
  · exact .rejected _
  · split
    · exact .rejected _
    · rename_i ordered within
      have single : pass.tokens.length = 1 → ModelWeights.shouldClearKvCache pass.tokens.length stage.layerStart = false := by
        intro one
        simp [ModelWeights.shouldClearKvCache, one]
      have cleared : (if ModelWeights.shouldClearKvCache pass.tokens.length stage.layerStart
          then model.clearAllKvCaches else model).layers.length = model.layers.length := by
        split
        · simp [ModelWeights.clearAllKvCaches]
        · rfl
      dsimp only
      split
      · rename_i several
        exact .stopped _ fun one => absurd one several.1
      · split
        · exact .stopped _ fun one => by simp [single one]
        · refine .ran _ (fun one => by simp [single one]) (by omega) ?_
          split
          · rw [length_restoreKvSnapshot, cleared]
            omega
          · omega

theorem passRun (stage : Stage) (model : ModelWeights) (pass : Pass) : PassRun stage model pass (pass.run stage model) := by
  cases pass with
  | prefill requestId tokens fault =>
    simp only [Pass.run, Stage.generateFromTokensLayerRange, Stage.forwardTokens, Stage.generateFromActivation]
    split
    · split
      · exact .rejected _
      · split
        · exact .rejected _
        · split
          · exact .rejected _
          · split
            · split <;> exact .rejected _
            · exact @passRun_forwardLayerRange stage model (.prefill requestId tokens fault) true
    · exact @passRun_forwardLayerRange stage model (.prefill requestId tokens fault) false
  | decode requestId token position fault =>
    simp only [Pass.run, Stage.decodeSingleToken, Stage.forwardTokens, Stage.generateFromActivation]
    split
    · split
      · exact .rejected _
      · split
        · split <;> exact .rejected _
        · exact @passRun_forwardLayerRange stage model (.decode requestId token position fault) true
    · exact @passRun_forwardLayerRange stage model (.decode requestId token position fault) false

theorem Pass.single_of_position (continues : pass.position ≠ 0) : pass.tokens.length = 1 := by
  cases pass with
  | prefill => exact absurd rfl continues
  | decode => rfl

/-! ### Runs in which every decode step belongs to the last prefill -/

/-- Every pass so far was isolated, and the caches of the range are those of the holder. -/
structure Guarded (stage : Stage) (state : StageState) : Prop where
  isolated : ∀ executed ∈ state.passes, executed.Isolated
  held : ∀ requestId, holder state.passes = some requestId →
    ∀ cache ∈ state.model.caches stage.layerStart stage.layerEnd, Held requestId cache

theorem PassRun.isolated (run : PassRun stage model pass forward) (exclusive : pass.position = 0 ∨ holding = some pass.requestId)
    (held : ∀ requestId, holding = some requestId →
      ∀ cache ∈ model.caches stage.layerStart stage.layerEnd, Held requestId cache) :
    ∀ keys ∈ forward.attended, OwnedBy pass.requestId keys := by
  cases run with
  | rejected | stopped => exact List.forall_mem_nil _
  | ran _ same =>
    have own := owned_freshEntries pass.requestId pass.tokens pass.position
    by_cases opening : pass.position = 0
    · intro keys attended
      simp only [opening, ModelWeights.executeLayers] at attended
      rw [(ModelWeights.runLayers_opening _).1 keys attended]
      exact owned_freshEntries _ _ _
    · have mine := exclusive.resolve_left opening
      rw [same (Pass.single_of_position opening)]
      exact (ModelWeights.runLayers_held opening own (held _ mine)).1

theorem PassRun.held (run : PassRun stage model pass forward)
    (exclusive : pass.position = 0 ∨ holding = some pass.requestId) (given : pass.tokens ≠ [])
    (held : ∀ requestId, holding = some requestId →
      ∀ cache ∈ model.caches stage.layerStart stage.layerEnd, Held requestId cache) :
    ∀ requestId, settle holding ⟨pass, forward.attended, forward.outcome⟩ = some requestId →
      ∀ cache ∈ forward.model.caches stage.layerStart stage.layerEnd, Held requestId cache := by
  intro requestId settled
  by_cases opening : pass.position = 0
  · simp only [settle, opening, if_true] at settled
    cases run with
    | rejected => exact held requestId settled
    | stopped => cases settled
    | ran _ _ ordered within =>
      rw [opening] at settled ⊢
      rcases ModelWeights.outcome_executeLayers with ⟨completed, finished⟩ | failed
      · rw [completed, Option.some.injEq] at settled
        subst settled
        rw [ModelWeights.caches_executeLayers (Nat.le_of_lt ordered) within]
        intro cache member
        refine ⟨_, (ModelWeights.runLayers_opening _).2 finished cache member, ?_, owned_freshEntries _ _ _⟩
        intro empty
        have length := length_freshEntries pass.requestId pass.tokens 0
        rw [empty] at length
        exact given (List.eq_nil_of_length_eq_zero length.symm)
      · rw [failed] at settled
        cases settled
  · simp only [settle, opening, if_false] at settled
    have mine := exclusive.resolve_left opening
    have single := Pass.single_of_position opening
    rw [mine, Option.some.injEq] at settled
    subst requestId
    cases run with
    | rejected => exact held _ mine
    | stopped _ same =>
      rw [same single]
      exact held _ mine
    | ran _ same ordered within =>
      obtain rfl := same single
      rw [ModelWeights.caches_executeLayers (Nat.le_of_lt ordered) within]
      exact (ModelWeights.runLayers_held opening (owned_freshEntries _ _ _) (held _ mine)).2

theorem Guarded.execute (guarded : Guarded stage state) (exclusive : Exclusive state pass)
    (given : pass.tokens ≠ []) : Guarded stage (state.execute stage pass) := by
  have run := passRun stage state.model pass
  refine ⟨?_, ?_⟩
  · exact holds_after_concat guarded.isolated (run.isolated exclusive guarded.held)
  · rw [StageState.execute, holder_concat]
    exact run.held exclusive given guarded.held

theorem guarded_of_reaches {layers snapshot}
    (reached : (stageSystem stage).Reaches Exclusive (.loaded layers snapshot) state) : Guarded stage state := by
  refine reached.invariant (Guarded stage) ⟨List.forall_mem_nil _, ?_⟩ ?_
  · intro requestId nobody
    cases nobody
  · intro before pass after exclusive stepped guarded
    simp only [stageSystem] at stepped
    split at stepped
    · cases stepped
    · rename_i given
      cases stepped
      exact guarded.execute exclusive given

/-- A decode step attends to the entries of the holder, whoever it is for. -/
theorem PassRun.foreign {owner : String} (run : PassRun stage model pass forward)
    (held : ∀ cache ∈ model.caches stage.layerStart stage.layerEnd, Held owner cache) (continues : pass.position ≠ 0)
    (attends : forward.attended ≠ []) : ∃ keys ∈ forward.attended, ∃ entry ∈ keys, entry.origin = .request owner := by
  cases run with
  | rejected | stopped => exact absurd rfl attends
  | ran _ same =>
    obtain rfl := same (Pass.single_of_position continues)
    exact ModelWeights.runLayers_foreign continues held attends

/-- If decode steps are taken only for the request that was prefilled last, every pass attends
only to the entries of its request. Any other decode step that attends to anything attends to
entries of another request. -/
theorem attends_own_entries {stage : Stage} {layers : Nat} {snapshot : Option (List (List CacheEntry))}
    {state : StageState} (reached : (stageSystem stage).Reaches Exclusive (.loaded layers snapshot) state) :
    (∀ executed ∈ state.passes, executed.Isolated) ∧
      ∀ (pass : Pass) (owner : String), holder state.passes = some owner → pass.position ≠ 0 →
        ((pass.executed stage state.model).Isolated ↔
          (pass.executed stage state.model).attended = [] ∨ pass.requestId = owner) := by
  have guarded := guarded_of_reaches reached
  refine ⟨guarded.isolated, ?_⟩
  intro pass owner holding continues
  have run := passRun stage state.model pass
  constructor
  · intro isolated
    by_cases attends : (pass.executed stage state.model).attended = []
    · exact .inl attends
    · obtain ⟨keys, attended, entry, member, foreign⟩ :=
        run.foreign (guarded.held owner holding) continues attends
      have own := isolated keys attended entry member
      rw [foreign, Origin.request.injEq] at own
      exact .inr own.symm
  · rintro (nothing | mine)
    · intro keys attended
      rw [nothing] at attended
      cases attended
    · exact run.isolated (.inr (mine ▸ holding)) guarded.held

def firstStage : Stage := ⟨true, 0, 2, 8⟩

theorem successive_requests_isolated : ∃ state, (stageSystem firstStage).Reaches Exclusive (.loaded 3 none) state ∧
      state.passes.length = 5 ∧ ∀ executed ∈ state.passes, executed.Isolated := by
  obtain ⟨state, reached, five⟩ := System.exists_reaches_of_run (stageSystem firstStage) Exclusive (.loaded 3 none)
    [.prefill "a" [1, 2] none, .decode "a" 3 3 none, .decode "a" 4 4 none,
      .prefill "b" [5, 6] none, .decode "b" 7 3 none]
    (fun state => state.passes.length = 5) (by decide) (by decide)
  exact ⟨state, reached, five, (attends_own_entries reached).1⟩

/-- Two requests are prefilled before the first of them is decoded. -/
theorem interleaved_request_attends_foreign : ∃ state, (stageSystem firstStage).Reachable (.loaded 3 none) state ∧
      ∃ executed ∈ state.passes, executed.pass = .decode "a" 3 3 none ∧ executed.outcome = .completed ∧ ¬executed.Isolated ∧
        ⟨.request "b", 5, 0⟩ ∈ executed.attended.flatten :=
  System.exists_reachable_of_run _ _
    [.prefill "a" [1, 2] none, .prefill "b" [5, 6] none, .decode "a" 3 3 none] _
    (by decide +kernel)

end Blazil.Inference

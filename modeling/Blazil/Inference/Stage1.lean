import Blazil.Inference.KvCache

/-! The first stage of the pipeline. Its main loop accepts requests and handles the tokens that
come back from the last stage; every prefill and every decode step runs on a thread of its own.
They meet in the table of decode states and at the lock of the model. -/

set_option autoImplicit false

namespace Blazil.Inference

open Foundation

/-- The tokens of the prompt are counted once they are known, so the generated ones are never
fewer than none. -/
structure DecodeState where
  requestId : String
  tokens : List UInt32
  generatedText : String
  currentPosition : Nat
  promptLength : Nat
  maxTokens : Nat
  prompt_within : promptLength ≤ tokens.length

structure TokenResponse where
  requestId : String
  tokenId : UInt32
  tokenText : String
  isEos : Bool
deriving DecidableEq

/-- The final answer. The raw output holds the bytes of the generated text. -/
structure InferenceResponse where
  requestId : String
  rawOutput : List UInt8
  error : String
deriving DecidableEq

structure ActivationTransfer where
  requestId : String
  position : Nat
  tokens : List UInt32
deriving DecidableEq

namespace DecodeState

def initial (requestId : String) : DecodeState := ⟨requestId, [], "", 0, 0, 32, Nat.zero_le _⟩

def prefilled (state : DecodeState) (tokens : List UInt32) : DecodeState :=
  { state with
    tokens := tokens
    currentPosition := 0
    promptLength := tokens.length
    prompt_within := Nat.le_refl _ }

theorem prompt_within_push (state : DecodeState) (token : UInt32) : state.promptLength ≤ (state.tokens ++ [token]).length := by
  have within := state.prompt_within
  rw [List.length_append]
  omega

def push (state : DecodeState) (response : TokenResponse) : DecodeState :=
  { state with
    tokens := state.tokens ++ [response.tokenId]
    generatedText := state.generatedText ++ response.tokenText
    currentPosition := state.tokens.length + 1
    prompt_within := state.prompt_within_push response.tokenId }

def tokensGenerated (state : DecodeState) : Nat := state.tokens.length - state.promptLength

def shouldTerminate (state : DecodeState) (response : TokenResponse) : Bool :=
  response.isEos || state.maxTokens ≤ state.tokensGenerated

def finalResponse (state : DecodeState) (requestId : String) : InferenceResponse :=
  ⟨requestId, state.generatedText.toByteArray.toList, ""⟩

end DecodeState

inductive Thread where
  | prefill (requestId : String) (tokens : List UInt32)
  | prefilled (requestId : String) (tokens : List UInt32)
  | decode (requestId : String)
  | ready (requestId : String) (lastToken : UInt32) (position : Nat)
  | forwarding (activation : ActivationTransfer)
  | failing (requestId : String)
  | finished
deriving DecidableEq

inductive Phase where
  | polling
  | responding (requestId : String) (response : Option InferenceResponse)
  | cleaning (requestId : String)
  | continuing (requestId : String)
deriving DecidableEq

/-- The stage, with the requests it has accepted, those that have been taken out of the table
and the responses handed to the client channel. -/
structure Stage1 where
  decodeStates : String → Option DecodeState
  engine : StageState
  threads : List Thread
  phase : Phase
  activations : List ActivationTransfer
  responses : List InferenceResponse
  accepted : List String
  removed : List String

namespace Stage1

def started (engine : StageState) : Stage1 := ⟨fun _ => none, engine, [], .polling, [], [], [], []⟩

def insert (state : Stage1) (requestId : String) : Stage1 :=
  { state with
    decodeStates := Function.update state.decodeStates requestId (some (.initial requestId))
    accepted := state.accepted ++ [requestId] }

def modify (state : Stage1) (requestId : String) (change : DecodeState → DecodeState) : Stage1 :=
  { state with
    decodeStates := Function.update state.decodeStates requestId ((state.decodeStates requestId).map change) }

def remove (state : Stage1) (requestId : String) : Stage1 :=
  { state with
    decodeStates := Function.update state.decodeStates requestId none
    removed := if (state.decodeStates requestId).isSome then state.removed ++ [requestId]
      else state.removed }

def setThread (state : Stage1) (index : Nat) (thread : Thread) : Stage1 :=
  { state with threads := state.threads.set index thread }

def spawn (state : Stage1) (thread : Thread) : Stage1 :=
  { state with threads := state.threads ++ [thread] }

def handOver (state : Stage1) (response : Option InferenceResponse) : Stage1 :=
  { state with responses := state.responses ++ response.toList }

/-- A forward pass on a thread, which goes on to `next` if the pass completes. -/
def runPass (stage : Stage) (state : Stage1) (index : Nat) (pass : Pass) (next : Thread) : Stage1 :=
  let thread :=
    if (pass.executed stage state.engine.model).outcome = .completed then next
    else .failing pass.requestId
  { state.setThread index thread with engine := state.engine.execute stage pass }

inductive Label where
  | accept (requestId : String) (tokens : List UInt32)
  | prefill (index : Nat) (fault : Option Fault)
  | update (index : Nat)
  | snapshot (index : Nat)
  | decode (index : Nat) (fault : Option Fault)
  | forward (index : Nat) (serialized : Bool)
  | abandon (index : Nat)
  | token (response : TokenResponse) (serialized : Bool)
  | respond
  | cleanup
  | continueDecode
deriving DecidableEq

/-- The critical section in which a token is handled. A token for a request that is not in the
table still goes on to a decode thread. -/
def onToken (state : Stage1) (response : TokenResponse) (serialized : Bool) : Stage1 :=
  let requestId := response.requestId
  match state.decodeStates requestId with
  | none => { state with phase := .continuing requestId }
  | some decoding =>
    let decoding := decoding.push response
    let pushed := state.modify requestId fun state => state.push response
    if decoding.shouldTerminate response then
      { pushed with
        phase := .responding requestId (if serialized then some (decoding.finalResponse requestId) else none) }
    else { pushed with phase := .continuing requestId }

def onSnapshot (state : Stage1) (index : Nat) (requestId : String) : Stage1 :=
  match state.decodeStates requestId with
  | none => state.setThread index .finished
  | some decoding =>
    state.setThread index (.ready requestId (decoding.tokens.getLast?.getD 0) decoding.currentPosition)

def step (stage : Stage) (state : Stage1) : Label → Option Stage1
  | .accept requestId tokens =>
    match state.phase with
    | .polling =>
      if tokens = [] then none
      else some ((state.insert requestId).spawn (.prefill requestId tokens))
    | _ => none
  | .prefill index fault =>
    match state.threads[index]? with
    | some (.prefill requestId tokens) =>
      some (state.runPass stage index (.prefill requestId tokens fault) (.prefilled requestId tokens))
    | _ => none
  | .update index =>
    match state.threads[index]? with
    | some (.prefilled requestId tokens) =>
      some ((state.modify requestId fun decoding => decoding.prefilled tokens).setThread index
        (.forwarding ⟨requestId, 0, tokens⟩))
    | _ => none
  | .snapshot index =>
    match state.threads[index]? with
    | some (.decode requestId) => some (state.onSnapshot index requestId)
    | _ => none
  | .decode index fault =>
    match state.threads[index]? with
    | some (.ready requestId lastToken position) =>
      some (state.runPass stage index (.decode requestId lastToken position fault)
        (.forwarding ⟨requestId, position, [lastToken]⟩))
    | _ => none
  | .forward index serialized =>
    match state.threads[index]? with
    | some (.forwarding activation) =>
      some { state.setThread index .finished with
        activations := state.activations ++ if serialized then [activation] else [] }
    | _ => none
  | .abandon index =>
    match state.threads[index]? with
    | some (.failing requestId) => some ((state.remove requestId).setThread index .finished)
    | _ => none
  | .token response serialized =>
    match state.phase with
    | .polling => some (state.onToken response serialized)
    | _ => none
  | .respond =>
    match state.phase with
    | .responding requestId response =>
      some { state.handOver response with phase := .cleaning requestId }
    | _ => none
  | .cleanup =>
    match state.phase with
    | .cleaning requestId => some { state.remove requestId with phase := .polling }
    | _ => none
  | .continueDecode =>
    match state.phase with
    | .continuing requestId => some { state.spawn (.decode requestId) with phase := .polling }
    | _ => none

def system (stage : Stage) : System Stage1 Label := ⟨step stage⟩

end Stage1

end Blazil.Inference

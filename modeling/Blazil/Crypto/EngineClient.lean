import Blazil.Transport.Message

/-! The engine client of the crypto service (`services/crypto/internal/engine/tcp_client.go`). A
field that a response does not have keeps its zero value. The client and the engine do not speak
the same protocol: no request is accepted, and no response is taken for a success. -/

set_option autoImplicit false

namespace Blazil.Crypto

open Foundation

structure EngineRequest where
  requestId : String
  accountId : String
  amount : Int64
  op : String
deriving DecidableEq

structure EngineResponse where
  requestId : String
  ok : Bool
  error : Option String
deriving DecidableEq

inductive EngineCallError where
  /-- A failed step of the exchange over the connection. -/
  | connection (text : String)
  | unmarshal (field : String)
  | engineError (text : String)
  | rejected
deriving DecidableEq

def marshalEngineRequest (request : EngineRequest) : Message :=
  [("request_id", .text request.requestId), ("account_id", .text request.accountId),
    ("amount", .int request.amount.toInt), ("op", .text request.op)]

def decodeString : Datum → Option String
  | .text value => some value
  | .null => some ""
  | _ => none

def decodeBool : Datum → Option Bool
  | .bool value => some value
  | .null => some false
  | _ => none

def decodeStringPointer : Datum → Option (Option String)
  | .text value => some (some value)
  | .null => some none
  | _ => none

namespace EngineResponse

def decodeField (response : EngineResponse) (name : String) (datum : Datum) : Option EngineResponse :=
  if name = "request_id" then
    (decodeString datum).map fun value => { response with requestId := value }
  else if name = "ok" then
    (decodeBool datum).map fun value => { response with ok := value }
  else if name = "error" then
    (decodeStringPointer datum).map fun value => { response with error := value }
  else some response

def decode (response : EngineResponse) : Message → Except EngineCallError EngineResponse
  | [] => .ok response
  | (name, datum) :: rest =>
    match response.decodeField name datum with
    | none => .error (.unmarshal name)
    | some next => next.decode rest

def unmarshal (message : Message) : Except EngineCallError EngineResponse :=
  decode ⟨"", false, none⟩ message

end EngineResponse

namespace TcpEngineClient

def receive (message : Message) : Except EngineCallError Unit :=
  match EngineResponse.unmarshal message with
  | .error cause => .error cause
  | .ok response =>
    if response.ok then .ok ()
    else
      match response.error with
      | some text => .error (.engineError text)
      | none => .error .rejected

/-- One call; the exchange fails with the text of the step that failed. -/
def call (exchange : Message → Except String Message) (request : EngineRequest) : Except EngineCallError Unit :=
  match exchange (marshalEngineRequest request) with
  | .error text => .error (.connection text)
  | .ok message => receive message

def request (op accountId : String) (amount : Int64) (unixNano : Int64) : EngineRequest :=
  ⟨op ++ "-" ++ accountId ++ "-" ++ toString unixNano.toInt, accountId, amount, op⟩

def debit (exchange : Message → Except String Message) (accountId : String) (amount : Int64)
    (unixNano : Int64) : Except EngineCallError Unit :=
  call exchange (request "debit" accountId amount unixNano)

def credit (exchange : Message → Except String Message) (accountId : String) (amount : Int64)
    (unixNano : Int64) : Except EngineCallError Unit :=
  call exchange (request "credit" accountId amount unixNano)

end TcpEngineClient

open Blazil.Common Blazil.Transport

/-- What the client reads of a response: the engine's `committed` is not among it. -/
theorem unmarshal_serializeResponse (response : TransactionResponse) (timestampNs : UInt64) :
    EngineResponse.unmarshal (serializeResponse response timestampNs) = .ok ⟨response.requestId, false, response.error⟩ := by
  have pointer : decodeStringPointer (optionalText response.error) = some response.error := by
    cases response.error <;> rfl
  simp [EngineResponse.unmarshal, serializeResponse, EngineResponse.decode, EngineResponse.decodeField, decodeString, pointer]

theorem receive_serializeResponse (response : TransactionResponse) (timestampNs : UInt64) :
    TcpEngineClient.receive (serializeResponse response timestampNs) =
      match response.error with
      | some text => .error (.engineError text)
      | none => .error .rejected := by
  unfold TcpEngineClient.receive
  rw [unmarshal_serializeResponse]
  rfl

/-- No request of the client names a debit account. -/
theorem marshalEngineRequest_refused (request : EngineRequest) :
    ∃ cause : ReadError, deserializeRequest (marshalEngineRequest request) =
      .error (.transport ("request deserialization failed: " ++ cause.message)) := by
  have field : ("debit_account_id", Kind.text) ∈ TransactionRequest.fields := by decide
  unfold deserializeRequest
  cases checked : Message.check TransactionRequest.fields (marshalEngineRequest request) with
  | error cause => exact ⟨cause, rfl⟩
  | ok =>
    have present := Message.present_of_check checked field
    cases present

/-- The engine refuses every request of the client. Whatever the engine answers, the client
returns an error, so what it returns fits the answer only when nothing was committed. -/
theorem engine_refuses_client_and_client_never_succeeds (op accountId : String) (amount unixNano : Int64) :
    (∃ cause : ReadError, deserializeRequest (marshalEngineRequest (TcpEngineClient.request op accountId amount unixNano)) =
          .error (.transport ("request deserialization failed: " ++ cause.message))) ∧
    (∀ (response : TransactionResponse) (timestampNs : UInt64),
      (∃ cause, TcpEngineClient.receive (serializeResponse response timestampNs) = .error cause) ∧
      ((TcpEngineClient.receive (serializeResponse response timestampNs) = .ok () ↔
        response.committed = true) ↔ response.committed = false)) ∧
    ∀ (process : TransactionRequest → TransactionResponse) (timestampNs : UInt64), ∃ cause : ReadError,
        TcpEngineClient.call (fun message => .ok (answer process timestampNs message))
          (TcpEngineClient.request op accountId amount unixNano) = .error (.engineError (BlazerError.transport
              ("request deserialization failed: " ++ cause.message)).message) := by
  obtain ⟨cause, refused⟩ :=
    marshalEngineRequest_refused (TcpEngineClient.request op accountId amount unixNano)
  have failed : ∀ (response : TransactionResponse) (timestampNs : UInt64), ∃ cause,
      TcpEngineClient.receive (serializeResponse response timestampNs) = .error cause := by
    intro response timestampNs
    rw [receive_serializeResponse]
    cases response.error with
    | none | some => exact ⟨_, rfl⟩
  refine ⟨⟨cause, refused⟩, ?_, ?_⟩
  · intro response timestampNs
    refine ⟨failed response timestampNs, ?_⟩
    obtain ⟨_, error⟩ := failed response timestampNs
    rw [error]
    cases response.committed <;> simp
  · intro process timestampNs
    refine ⟨cause, ?_⟩
    unfold TcpEngineClient.call
    dsimp only
    rw [answer_refused refused]
    exact receive_serializeResponse _ _

/-- A debit of 100 from an account, and an answer that says it was committed. -/
theorem debit_refused_and_commit_reported_as_error : (deserializeRequest (marshalEngineRequest
      (TcpEngineClient.request "debit" "acct-1" 100 1700000000000000000))).toOption = none ∧
    TcpEngineClient.receive (serializeResponse ⟨"debit-acct-1", true, some "7", none⟩ 0) = .error .rejected := by
  decide

end Blazil.Crypto

import Sspl.Messaging.Ack
import Sspl.Python.Text
import Sspl.Security.Library

/-!
# The ingress gate

`IngressProcessor._process_msg` reads the header of a message, asks the security
library about its signature, and hands the message to the handler of its request
type. A message the library answers with a value other than zero is dropped. The
library answers 1 for a signature that verifies, so the comparison lets through
exactly the messages whose signature is refused.

JSON parsing, the two request schemas and the tables of the environment are
parameters. Whatever `_process_msg` does to the outside is its `Outcome`.
-/

namespace Sspl

/-- The modules a message can be handed to. -/
inductive MsgHandler
  | threadController
  | serviceMsgHandler
  | nodeControllerMsgHandler
  | realStorActuatorMsgHandler
  | nodeDataMsgHandler
  | realStorEnclMsgHandler
  deriving DecidableEq

/-- What the message bus delivers: an object, or a text that has still to be parsed. -/
inductive Body
  | dict (fields : Fields)
  | text (text : String)

namespace Ingress

variable {Key Digest : Type}

/-- What the ingress processor asks of its surroundings: the security library, the schemas, the
node it runs on and the queues of the handlers. -/
structure Env (Key Digest : Type) where
  printable : Char → Bool
  loads : String → Except PyErr Json
  validateActuator : Json → Except PyErr Unit
  validateSensor : Json → Except PyErr Unit
  validateResponse : Json → Except PyErr Unit
  /-- The security library, when it could be loaded. -/
  securityLib : Option (SecLib Key Digest)
  nodeId : String
  /-- The module has a queue in `_msgQlist`. -/
  hasQueue : MsgHandler → Bool
  egressHasQueue : Bool

inductive Outcome
  | rejected
  | ignored
  | handed (handler : MsgHandler) (message : Json)
  | acknowledged (ack : Json)
  | raised (err : PyErr)
  /-- The security library ended the process. -/
  | crashed
  deriving DecidableEq

/-- A message whose header could be read. -/
structure Request where
  ingressMsg : Json
  username : Json
  signature : Json
  message : Json
  uuid : Json
  length : Nat

variable (env : Env Key Digest)

/-- The statements before the signature check. A failure comes with the value
that the variable `uuid` has at that point. -/
def readHeader (body : Body) : Except Json Request := do
  let ingressMsg ← match body with
    | .dict fields => pure (Json.dict fields)
    | .text text => (env.loads text).mapError (fun _ => Json.null)
  let username ← (ingressMsg.get "username").mapError (fun _ => Json.null)
  let signature ← (ingressMsg.get "signature").mapError (fun _ => Json.null)
  let message ← (ingressMsg.get "message").mapError (fun _ => Json.null)
  let uuid ← (ingressMsg.get "uuid").mapError (fun _ => Json.null)
  let length ← message.len.mapError (fun _ => uuid)
  return ⟨ingressMsg, username, signature, message,
    if uuid.isNone then .str "N/A" else uuid, length⟩

/-- The call of `sspl_verify_message`: an argument can be refused, and the call
can end the process. -/
def verifyMessage (printable : Char → Bool) (lib : SecLib Key Digest) (request : Request) :
    Except PyErr (Option Int) := do
  let msg ← CArg.ofText (request.message.strText printable)
  let username ← CArg.ofPython request.username
  let signature ← CArg.ofPython request.signature
  return lib.ssplVerifyMessage (unsignedInt (request.length + 1)) msg username signature

/-- The handler of the first request type that is present. -/
def msgHandler (msgType : Json) : Except PyErr (Option MsgHandler) := do
  if !(← msgType.get "thread_controller").isNone then
    return some .threadController
  else if !(← msgType.get "service_controller").isNone then
    return some .serviceMsgHandler
  else if !(← msgType.get "node_controller").isNone then
    return some .nodeControllerMsgHandler
  else if !(← msgType.get "storage_enclosure").isNone then
    return some .realStorActuatorMsgHandler
  else if !(← msgType.get "node_data").isNone then
    return some .nodeDataMsgHandler
  else if !(← msgType.get "enclosure_alert").isNone then
    return some .realStorEnclMsgHandler
  else if !(← msgType.get "storage_enclosure").isNone then
    return some .realStorActuatorMsgHandler
  else
    return none

/-- Put an acknowledgement in the queue of the `EgressProcessor`. -/
def writeAck (ackType ackMsg : String) (uuid : Json) : Except PyErr Outcome := do
  let ack ← ackJson env.validateResponse ackType ackMsg uuid
  if env.egressHasQueue then return .acknowledged ack else throw .keyError

def sendToMsgHandler (msgType message uuid : Json) : Except PyErr Outcome := do
  match ← msgHandler msgType with
  | some handler => if env.hasQueue handler then return .handed handler message else throw .keyError
  | none => writeAck env "Error Processing Message" "Message Handler Not Found" uuid

/-- The statements behind the signature check. -/
def handle (request : Request) : Except PyErr Outcome := do
  let actuatorType ← request.message.get "actuator_request_type"
  if !actuatorType.isNone then
    env.validateActuator request.ingressMsg
    let targetNodeId ← request.message.get "target_node_id"
    if targetNodeId.isNone then return .ignored
    else if targetNodeId = .str env.nodeId then
      sendToMsgHandler env actuatorType request.message request.uuid
    else return .ignored
  else
    let sensorType ← request.message.get "sensor_request_type"
    if !sensorType.isNone then
      env.validateSensor request.ingressMsg
      sendToMsgHandler env sensorType request.message request.uuid
    else return .ignored

/-- The `except` branch. -/
def fail (uuid : Json) : Outcome :=
  match writeAck env "Error Processing Msg" "Msg Handler Not Found" uuid with
  | .ok outcome => outcome
  | .error err => .raised err

def finish (request : Request) : Outcome :=
  match handle env request with
  | .ok outcome => outcome
  | .error _ => fail env request.uuid

def processMsg (body : Body) : Outcome :=
  match readHeader env body with
  | .error uuid => fail env uuid
  | .ok request => match env.securityLib with
    | none => finish env request
    | some lib => match verifyMessage env.printable lib request with
      | .error _ => fail env request.uuid
      | .ok none => .crashed
      | .ok (some result) => if result ≠ 0 then .rejected else finish env request

/-- The environment with the security library loaded. -/
def Env.load (lib : SecLib Key Digest) : Env Key Digest := { env with securityLib := some lib }

/-- The library is asked about the signature of the message and answers `result`; it is not asked
where the header cannot be read. -/
def Reports (lib : SecLib Key Digest) (body : Body) (result : Int) : Prop :=
  ∃ request, readHeader env body = .ok request ∧
    verifyMessage env.printable lib request = .ok (some result)

/-- The gate accepts exactly the verified messages: what reaches a handler was
reported as verified, and what is reported as verified is not rejected. -/
structure GateCorrect (lib : SecLib Key Digest) (body : Body) : Prop where
  verified : ∀ handler message, processMsg (env.load lib) body = .handed handler message →
    Reports env lib body 1
  accepted : Reports env lib body 1 → processMsg (env.load lib) body ≠ .rejected

/-- The request is valid, of a type with a known handler that has a queue, and meant for this node
if it is for an actuator. -/
def RoutesTo (request : Request) (handler : MsgHandler) : Prop :=
  ∃ msgType, msgType.isNone = false ∧ msgHandler msgType = .ok (some handler) ∧
    env.hasQueue handler ∧
    (request.message.get "actuator_request_type" = .ok msgType ∧
        env.validateActuator request.ingressMsg = .ok () ∧
        request.message.get "target_node_id" = .ok (.str env.nodeId) ∨
      request.message.get "actuator_request_type" = .ok .null ∧
        request.message.get "sensor_request_type" = .ok msgType ∧
        env.validateSensor request.ingressMsg = .ok ())

variable {env} {request : Request} {handler : MsgHandler} {message : Json} {outcome : Outcome}

theorem writeAck_eq_ok {ackType ackMsg : String} {uuid : Json}
    (h : writeAck env ackType ackMsg uuid = .ok outcome) : ∃ ack, outcome = .acknowledged ack := by
  obtain ⟨ack, -, write⟩ := bind_eq_ok.mp h
  split at write
  · cases write
    exact ⟨ack, rfl⟩
  · cases write

/-- The `except` branch answers with an acknowledgement or raises itself. -/
theorem fail_cases (env : Env Key Digest) (uuid : Json) :
    (∃ ack, fail env uuid = .acknowledged ack) ∨ ∃ err, fail env uuid = .raised err := by
  rw [fail]
  cases written : writeAck env "Error Processing Msg" "Msg Handler Not Found" uuid with
  | ok outcome => exact .inl (writeAck_eq_ok written)
  | error err => exact .inr ⟨err, rfl⟩

theorem sendToMsgHandler_eq_ok {msgType uuid : Json}
    (h : sendToMsgHandler env msgType message uuid = .ok outcome) :
    (∃ handler, outcome = .handed handler message ∧ msgHandler msgType = .ok (some handler) ∧
        env.hasQueue handler) ∨
      ∃ ack, outcome = .acknowledged ack := by
  obtain ⟨found, chosen, write⟩ := bind_eq_ok.mp h
  cases found with
  | none => exact .inr (writeAck_eq_ok write)
  | some handler =>
      by_cases queue : env.hasQueue handler
      · simp only [queue, if_true] at write
        cases write
        exact .inl ⟨handler, rfl, chosen, queue⟩
      · simp only [queue, Bool.false_eq_true, if_false] at write
        cases write

theorem sendToMsgHandler_of_handler {msgType uuid : Json}
    (chosen : msgHandler msgType = .ok (some handler)) (queue : env.hasQueue handler) :
    sendToMsgHandler env msgType message uuid = .ok (.handed handler message) := by
  rw [sendToMsgHandler, bind_eq_ok]
  refine ⟨some handler, chosen, ?_⟩
  simp only [queue, if_true]
  rfl

/-- What the statements behind the gate can end with. -/
theorem handle_eq_ok (h : handle env request = .ok outcome) :
    outcome = .ignored ∨
      (∃ handler, outcome = .handed handler request.message ∧ RoutesTo env request handler) ∨
      ∃ ack, outcome = .acknowledged ack := by
  rw [handle] at h
  obtain ⟨actuatorType, actuator, run⟩ := bind_eq_ok.mp h
  cases present : actuatorType.isNone with
  | false =>
      simp only [present, Bool.not_false, if_true] at run
      obtain ⟨⟨⟩, valid, run⟩ := bind_eq_ok.mp run
      obtain ⟨target, read, run⟩ := bind_eq_ok.mp run
      split at run
      · cases run
        exact .inl rfl
      · split at run
        · rename_i here
          refine .inr ((sendToMsgHandler_eq_ok run).imp_left ?_)
          rintro ⟨handler, same, chosen, queue⟩
          exact ⟨handler, same, actuatorType, present, chosen, queue,
            .inl ⟨actuator, valid, here ▸ read⟩⟩
        · cases run
          exact .inl rfl
  | true =>
      simp only [present, Bool.not_true, Bool.false_eq_true, if_false] at run
      obtain ⟨sensorType, sensor, run⟩ := bind_eq_ok.mp run
      cases requested : sensorType.isNone with
      | true =>
          simp only [requested, Bool.not_true, Bool.false_eq_true, if_false] at run
          cases run
          exact .inl rfl
      | false =>
          simp only [requested, Bool.not_false, if_true] at run
          obtain ⟨⟨⟩, valid, run⟩ := bind_eq_ok.mp run
          have absent : actuatorType = .null := by cases actuatorType <;> trivial
          refine .inr ((sendToMsgHandler_eq_ok run).imp_left ?_)
          rintro ⟨handler, same, chosen, queue⟩
          exact ⟨handler, same, sensorType, requested, chosen, queue,
            .inr ⟨absent ▸ actuator, sensor, valid⟩⟩

theorem handle_of_routesTo (h : RoutesTo env request handler) :
    handle env request = .ok (.handed handler request.message) := by
  obtain ⟨msgType, present, chosen, queue, ⟨actuator, valid, read⟩ | ⟨absent, sensor, valid⟩⟩ := h
  · rw [handle, bind_eq_ok]
    refine ⟨msgType, actuator, ?_⟩
    simp only [present, Bool.not_false, if_true]
    refine bind_eq_ok.mpr ⟨(), valid, bind_eq_ok.mpr ⟨_, read, ?_⟩⟩
    simpa [Json.isNone] using sendToMsgHandler_of_handler chosen queue
  · rw [handle, bind_eq_ok]
    refine ⟨.null, absent, ?_⟩
    simp only [Json.isNone_null, Bool.not_true, Bool.false_eq_true, if_false]
    rw [bind_eq_ok]
    refine ⟨msgType, sensor, ?_⟩
    simp only [present, Bool.not_false, if_true]
    exact bind_eq_ok.mpr ⟨(), valid, sendToMsgHandler_of_handler chosen queue⟩

/-- Only the gate rejects, and behind it a handler gets the message exactly when
its request is routed to that handler. -/
theorem finish_cases (env : Env Key Digest) (request : Request) :
    finish env request ≠ .rejected ∧
      ∀ handler message, finish env request = .handed handler message →
        RoutesTo env request handler := by
  rw [finish]
  cases run : handle env request with
  | error err =>
      obtain ⟨ack, failed⟩ | ⟨err, failed⟩ := fail_cases env request.uuid <;> simp [failed]
  | ok outcome =>
      obtain same | ⟨handler, same, routes⟩ | ⟨ack, same⟩ := handle_eq_ok run
      · simp [same]
      · subst same
        refine ⟨by simp, fun handler' message h => ?_⟩
        cases h
        exact routes
      · simp [same]

theorem processMsg_load (env : Env Key Digest) (lib : SecLib Key Digest) (body : Body) :
    processMsg (env.load lib) body = match readHeader env body with
      | .error uuid => fail (env.load lib) uuid
      | .ok request => match verifyMessage env.printable lib request with
        | .error _ => fail (env.load lib) request.uuid
        | .ok none => .crashed
        | .ok (some result) =>
          if result ≠ 0 then .rejected else finish (env.load lib) request := rfl

/-- A message that reaches a handler was refused by the library. -/
theorem reports_zero_of_handed {lib : SecLib Key Digest} {body : Body}
    (h : processMsg (env.load lib) body = .handed handler message) :
    Reports env lib body 0 ∧
      ∃ request, readHeader env body = .ok request ∧ RoutesTo env request handler := by
  rw [processMsg_load] at h
  cases read : readHeader env body with
  | error uuid =>
      rw [read] at h
      obtain ⟨ack, failed⟩ | ⟨err, failed⟩ := fail_cases (env.load lib) uuid <;> simp [failed] at h
  | ok request =>
      simp only [read] at h
      cases answer : verifyMessage env.printable lib request with
      | error err =>
          simp only [answer] at h
          obtain ⟨ack, failed⟩ | ⟨err, failed⟩ := fail_cases (env.load lib) request.uuid <;>
            simp [failed] at h
      | ok result =>
          cases result with
          | none => simp [answer] at h
          | some result =>
              by_cases zero : result = 0
              · simp only [answer, zero, ne_eq, not_true_eq_false, if_false] at h
                subst zero
                exact ⟨⟨request, read, answer⟩, request, rfl,
                  (finish_cases (env.load lib) request).2 handler message h⟩
              · simp [answer, zero] at h

/-- The gate is correct on a message exactly when the library does not report its
signature as verified and, if it refuses the signature, no handler would get the
message. -/
theorem gateCorrect_iff (env : Env Key Digest) (lib : SecLib Key Digest) (body : Body) :
    GateCorrect env lib body ↔
      ¬ Reports env lib body 1 ∧
        (Reports env lib body 0 → ∀ request handler, readHeader env body = .ok request →
          ¬ RoutesTo env request handler) := by
  constructor
  · intro correct
    constructor
    · rintro ⟨request, read, answer⟩
      refine correct.accepted ⟨request, read, answer⟩ ?_
      rw [processMsg_load, read]
      simp [answer]
    · rintro ⟨request, read, answer⟩ request' handler read' routes
      have same : request = request' := Except.ok.inj (read.symm.trans read')
      subst same
      have routes' : RoutesTo (env.load lib) request handler := routes
      have handed : processMsg (env.load lib) body = .handed handler request.message := by
        rw [processMsg_load, read]
        simp [answer, finish, handle_of_routesTo routes']
      obtain ⟨other, read', one⟩ := correct.verified handler request.message handed
      have same : request = other := Except.ok.inj (read.symm.trans read')
      subst same
      rw [answer] at one
      cases one
  · rintro ⟨unverified, unrouted⟩
    refine ⟨fun handler message handed => ?_, fun verified => (unverified verified).elim⟩
    obtain ⟨refused, request, read, routes⟩ := reports_zero_of_handed handed
    exact (unrouted refused request handler read routes).elim

/-- A node with a queue for every module, and schemas that accept every message. -/
def sampleEnv : Env Unit (List UInt8) where
  printable := fun _ => true
  loads := fun _ => .error .valueError
  validateActuator := fun _ => .ok ()
  validateSensor := fun _ => .ok ()
  validateResponse := fun _ => .ok ()
  securityLib := none
  nodeId := "SN01"
  hasQueue := fun _ => true
  egressHasQueue := true

/-- The pki method with one key for every user, which verifies the signatures
that begin with the byte of `genuine`. -/
def sampleLib (genuine : Char) : SecLib Unit (List UInt8) where
  method := .pki
  memory := ⟨fun _ => [], fun _ => List.replicate 128 0⟩
  pki := {
    hash := id
    rsaVerify := fun _ signature _ =>
      if signature.head? = some (UInt8.ofNat genuine.toNat) then 1 else 0
    keyDir := fun _ => some [⟨".", none⟩, ⟨"..", none⟩, ⟨"Ab12Cd", some ()⟩] }

/-- A request to a thread of this node, signed with the text `s`. -/
def sampleBody : Body :=
  .dict (.cons "username" (.str "sspl-ll") (.cons "signature" (.str "s")
    (.cons "message" (.ofEntries [
      ("actuator_request_type", .ofEntries [("thread_controller", .ofEntries [])]),
      ("target_node_id", .str "SN01")]) .nil)))

def sampleRequest : Request where
  ingressMsg := .ofEntries [("username", .str "sspl-ll"), ("signature", .str "s"),
    ("message", .ofEntries [
      ("actuator_request_type", .ofEntries [("thread_controller", .ofEntries [])]),
      ("target_node_id", .str "SN01")])]
  username := .str "sspl-ll"
  signature := .str "s"
  message := .ofEntries [
    ("actuator_request_type", .ofEntries [("thread_controller", .ofEntries [])]),
    ("target_node_id", .str "SN01")]
  uuid := .str "N/A"
  length := 2

/-- The genuine request is rejected, and the forged one reaches its handler. -/
theorem gate_inverted :
    ¬ GateCorrect sampleEnv (sampleLib 's') sampleBody ∧
      ¬ GateCorrect sampleEnv (sampleLib 'x') sampleBody := by
  have read : readHeader sampleEnv sampleBody = .ok sampleRequest := rfl
  constructor
  · intro correct
    exact correct.accepted ⟨sampleRequest, read, by decide +kernel⟩ (by decide +kernel)
  · intro correct
    obtain ⟨request, read', verified⟩ :=
      correct.verified .threadController sampleRequest.message (by decide +kernel)
    have same : request = sampleRequest := Except.ok.inj (read'.symm.trans read)
    subst same
    revert verified
    decide +kernel

end Ingress

end Sspl

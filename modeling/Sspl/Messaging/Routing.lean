import Sspl.Messaging.Ingress

/-!
# Where an authenticated request goes

A request for another node should be left alone, a valid request for this node should reach the
handler of its type, and every other request should be answered with one error. An actuator
request is validated before its node is looked at, so that every node answers one that is not
valid. The answer carries the `uuid` beside the message, not the one in the header of the message,
where the schema and the handlers have it.
-/

namespace Sspl

namespace Ingress

variable {Key Digest : Type}

/-- The header is read and the security library, if one is loaded, lets the message pass. -/
structure Authenticated (env : Env Key Digest) (body : Body) (request : Request) : Prop where
  read : readHeader env body = .ok request
  passed : ∀ lib, env.securityLib = some lib →
    verifyMessage env.printable lib request = .ok (some 0)

def HasType (request : Request) (key : String) (msgType : Json) : Prop :=
  request.message.get key = .ok msgType ∧ msgType.isNone = false

def IsActuatorRequest (request : Request) : Prop :=
  ∃ msgType, HasType request "actuator_request_type" msgType

/-- A message with both types is an actuator request. -/
def IsSensorRequest (request : Request) : Prop :=
  ¬ IsActuatorRequest request ∧ ∃ msgType, HasType request "sensor_request_type" msgType

/-- The actuator request names another node. -/
def Elsewhere (env : Env Key Digest) (request : Request) : Prop :=
  IsActuatorRequest request ∧ ∃ target, request.message.get "target_node_id" = .ok target ∧
    target.isNone = false ∧ target ≠ .str env.nodeId

/-- The request of this type is valid and for this node. -/
def ValidHere (env : Env Key Digest) (request : Request) (msgType : Json) : Prop :=
  HasType request "actuator_request_type" msgType ∧
      env.validateActuator request.ingressMsg = .ok () ∧
      request.message.get "target_node_id" = .ok (.str env.nodeId) ∨
    ¬ IsActuatorRequest request ∧ HasType request "sensor_request_type" msgType ∧
      env.validateSensor request.ingressMsg = .ok ()

/-- The request is for the handler. -/
def Due (env : Env Key Digest) (request : Request) (handler : MsgHandler) : Prop :=
  ∃ msgType, ValidHere env request msgType ∧ msgHandler msgType = .ok (some handler)

/-- The `uuid` in the header of a message. -/
def headerUuid (message : Json) : Option Json :=
  match message.get "sspl_ll_msg_header" with
  | .ok header => (header.get "uuid").toOption.filter (fun uuid => !uuid.isNone)
  | .error _ => none

def ackUuid (ack : Json) : Option Json := (ack.get "message").toOption.bind headerUuid

/-- The request is answered with one acknowledgement, with its own `uuid`. -/
def Answered (request : Request) (outcome : Outcome) : Prop :=
  ∃ ack, outcome = .acknowledged ack ∧
    ∀ uuid, headerUuid request.message = some uuid → ackUuid ack = some uuid

/-- What becomes of an authenticated message: it is ignored, handed to its handler, or answered. -/
structure Routes (env : Env Key Digest) (body : Body) : Prop where
  elsewhere : ∀ request, Authenticated env body request → Elsewhere env request →
    processMsg env body = .ignored
  due : ∀ request handler, Authenticated env body request → Due env request handler →
    processMsg env body = .handed handler request.message
  other : ∀ request, Authenticated env body request →
    IsActuatorRequest request ∨ IsSensorRequest request → ¬ Elsewhere env request →
    (∀ handler, ¬ Due env request handler) → Answered request (processMsg env body)

/-- A valid actuator request without a node. -/
def Unaddressed (env : Env Key Digest) (request : Request) : Prop :=
  IsActuatorRequest request ∧ env.validateActuator request.ingressMsg = .ok () ∧
    ∃ target, request.message.get "target_node_id" = .ok target ∧ target.isNone = true

/-- A valid request for this node of a type without a handler. -/
def Unclaimed (env : Env Key Digest) (request : Request) : Prop :=
  ∃ msgType, ValidHere env request msgType ∧ msgHandler msgType = .ok none

/-- The schema of the responses accepts the acknowledgement. -/
def Accepts (env : Env Key Digest) (ackType ackMsg : String) (uuid : Json) : Prop :=
  env.validateResponse (ackResponseMsg ackType ackMsg uuid).normalizeKv = .ok ()

/-- An acknowledgement can be sent, and the `uuid` beside the message, as it is normalized, is the
one in its header. -/
structure Answerable (env : Env Key Digest) (request : Request) : Prop where
  queue : env.egressHasQueue
  accepted : Accepts env "Error Processing Msg" "Msg Handler Not Found" request.uuid ∨
    Unclaimed env request ∧
      Accepts env "Error Processing Message" "Message Handler Not Found" request.uuid
  uuid : ∀ uuid, headerUuid request.message = some uuid → request.uuid.normalizeKv = uuid

/-- Requests for other nodes are valid, the handlers have queues, and the other requests can be
answered. -/
structure Orderly (env : Env Key Digest) (body : Body) : Prop where
  elsewhere : ∀ request, Authenticated env body request → Elsewhere env request →
    env.validateActuator request.ingressMsg = .ok ()
  due : ∀ request handler, Authenticated env body request → Due env request handler →
    env.hasQueue handler
  other : ∀ request, Authenticated env body request →
    IsActuatorRequest request ∨ IsSensorRequest request → ¬ Elsewhere env request →
    (∀ handler, ¬ Due env request handler) → ¬ Unaddressed env request ∧ Answerable env request

section

variable {env : Env Key Digest} {body : Body} {request : Request} {handler : MsgHandler}
  {msgType uuid : Json} {ackType ackMsg : String} {outcome : Outcome}

theorem ackUuid_ack (some_ : uuid.normalizeKv.isNone = false) :
    ackUuid (ackResponseMsg ackType ackMsg uuid).normalizeKv = some uuid.normalizeKv := by
  simp [ackResponseMsg, Json.ofEntries, Json.normalizeKv, Fields.normalizeKv, Fields.set,
    Fields.lookup, ackUuid, headerUuid, Json.get, Except.toOption, some_]

theorem isNone_normalizeKv (value : Json) : value.normalizeKv.isNone = value.isNone := by
  cases value with
  | str s =>
      rw [Json.normalizeKv]
      split <;> rfl
  | _ => rfl

/-- `uuid` is never `None` behind the header. -/
theorem isNone_uuid (read : readHeader env body = .ok request) : request.uuid.isNone = false := by
  obtain ⟨uuid, same⟩ : ∃ uuid : Json, request.uuid = if uuid.isNone then .str "N/A" else uuid := by
    cases body
    all_goals
      obtain ⟨ingressMsg, -, rest⟩ := bind_eq_ok.mp read
      obtain ⟨username, -, rest⟩ := bind_eq_ok.mp rest
      obtain ⟨signature, -, rest⟩ := bind_eq_ok.mp rest
      obtain ⟨message, -, rest⟩ := bind_eq_ok.mp rest
      obtain ⟨uuid, -, rest⟩ := bind_eq_ok.mp rest
      obtain ⟨length, -, rest⟩ := bind_eq_ok.mp rest
      cases rest
      exact ⟨uuid, rfl⟩
  rw [same]
  cases absent : uuid.isNone with
  | true => rfl
  | false => exact absent

theorem writeAck_eq_ok_iff : writeAck env ackType ackMsg uuid = .ok outcome ↔
    Accepts env ackType ackMsg uuid ∧ env.egressHasQueue ∧
      outcome = .acknowledged (ackResponseMsg ackType ackMsg uuid).normalizeKv := by
  rw [writeAck, ackJson, Accepts]
  cases env.validateResponse (ackResponseMsg ackType ackMsg uuid).normalizeKv with
  | error err =>
      refine iff_of_false ?_ ?_
      · intro h
        cases h
      · rintro ⟨h, -⟩
        cases h
  | ok valid =>
      show (if env.egressHasQueue then Except.ok _ else _) = _ ↔ _
      cases env.egressHasQueue with
      | true =>
          rw [if_pos rfl, Except.ok.injEq, eq_comm]
          simp
      | false =>
          refine iff_of_false ?_ (by simp)
          intro h
          cases h

/-- An acknowledgement carries the normalized `uuid`. -/
theorem answered_ack (some_ : request.uuid.isNone = false) :
    Answered request (.acknowledged (ackResponseMsg ackType ackMsg request.uuid).normalizeKv) ↔
      ∀ uuid, headerUuid request.message = some uuid → request.uuid.normalizeKv = uuid := by
  have own : ackUuid (ackResponseMsg ackType ackMsg request.uuid).normalizeKv =
      some request.uuid.normalizeKv := ackUuid_ack (by rw [isNone_normalizeKv, some_])
  constructor
  · rintro ⟨ack, same, carries⟩
    cases same
    intro uuid here
    have there := carries uuid here
    rw [own] at there
    exact Option.some.inj there
  · intro carries
    refine ⟨_, rfl, ?_⟩
    intro uuid here
    rw [own, carries uuid here]

/-- The answer of the `except` branch, if it gives one. -/
theorem answered_fail (some_ : request.uuid.isNone = false) :
    Answered request (fail env request.uuid) ↔
      Accepts env "Error Processing Msg" "Msg Handler Not Found" request.uuid ∧
        env.egressHasQueue ∧
        ∀ uuid, headerUuid request.message = some uuid → request.uuid.normalizeKv = uuid := by
  rw [fail]
  cases written : writeAck env "Error Processing Msg" "Msg Handler Not Found" request.uuid with
  | error err =>
      refine iff_of_false ?_ ?_
      · rintro ⟨ack, h, -⟩
        cases h
      · rintro ⟨accepted, queue, -⟩
        rw [writeAck_eq_ok_iff.mpr ⟨accepted, queue, rfl⟩] at written
        cases written
  | ok outcome =>
      obtain ⟨accepted, queue, rfl⟩ := writeAck_eq_ok_iff.mp written
      show Answered request (.acknowledged _) ↔ _
      rw [answered_ack some_]
      exact ⟨fun uuid => ⟨accepted, queue, uuid⟩, fun h => h.2.2⟩

theorem processMsg_of_authenticated (authenticated : Authenticated env body request) :
    processMsg env body = finish env request := by
  rw [processMsg, authenticated.read]
  cases loaded : env.securityLib with
  | none => rfl
  | some lib =>
      simp only [authenticated.passed lib loaded]
      rfl

theorem handle_actuator (type : HasType request "actuator_request_type" msgType) :
    handle env request = (do
      env.validateActuator request.ingressMsg
      let targetNodeId ← request.message.get "target_node_id"
      if targetNodeId.isNone then return .ignored
      else if targetNodeId = .str env.nodeId then
        sendToMsgHandler env msgType request.message request.uuid
      else return .ignored) := by
  rw [handle, type.1]
  show (if !msgType.isNone then _ else _) = _
  rw [type.2]
  rfl

/-- A message from which a key can be read is a dictionary. -/
theorem exists_get {message value : Json} {key : String} (read : message.get key = .ok value)
    (other : String) : ∃ value', message.get other = .ok value' := by
  cases message with
  | dict fields => exact ⟨_, rfl⟩
  | _ => cases read

theorem handle_sensor (sensor : ¬ IsActuatorRequest request)
    (type : HasType request "sensor_request_type" msgType) :
    handle env request = (do
      env.validateSensor request.ingressMsg
      sendToMsgHandler env msgType request.message request.uuid) := by
  obtain ⟨other, absent⟩ := exists_get type.1 "actuator_request_type"
  have none_ : other.isNone = true := by
    by_contra some_
    exact sensor ⟨other, absent, by simpa using some_⟩
  rw [handle, absent]
  show (if !other.isNone then _ else _) = _
  rw [none_, type.1]
  show (if !msgType.isNone then _ else _) = _
  rw [type.2]
  rfl

theorem handle_of_invalid {err : PyErr} (actuator : IsActuatorRequest request)
    (invalid : env.validateActuator request.ingressMsg = .error err) :
    handle env request = .error err := by
  obtain ⟨msgType, type⟩ := actuator
  rw [handle_actuator type, invalid]
  rfl

theorem handle_of_validHere (valid : ValidHere env request msgType) :
    handle env request = sendToMsgHandler env msgType request.message request.uuid := by
  obtain ⟨type, accepted, here⟩ | ⟨sensor, type, accepted⟩ := valid
  · rw [handle_actuator type, accepted, here]
    show (if Json.isNone (.str env.nodeId) then pure Outcome.ignored else if _ then _ else _) = _
    rw [if_neg (by simp [Json.isNone]), if_pos rfl]
  · rw [handle_sensor sensor type, accepted]
    rfl

theorem finish_of_ok {outcome : Outcome} (ran : handle env request = .ok outcome) :
    finish env request = outcome := by
  rw [finish, ran]

theorem finish_of_error {err : PyErr} (raised : handle env request = .error err) :
    finish env request = fail env request.uuid := by
  rw [finish, raised]

/-- A failure is told to the sender, or raised again. -/
theorem fail_ne {outcome : Outcome} (answered : ∀ ack, .acknowledged ack ≠ outcome)
    (raised : ∀ err, .raised err ≠ outcome) (uuid : Json) : fail env uuid ≠ outcome := by
  obtain ⟨ack, failed⟩ | ⟨err, failed⟩ := fail_cases env uuid
  · rw [failed]
    exact answered ack
  · rw [failed]
    exact raised err

/-- A request for another node is left alone if it is valid. -/
theorem finish_elsewhere (elsewhere : Elsewhere env request) :
    finish env request = .ignored ↔ env.validateActuator request.ingressMsg = .ok () := by
  obtain ⟨⟨msgType, type⟩, target, read, some_, other⟩ := elsewhere
  cases valid : env.validateActuator request.ingressMsg with
  | error err =>
      rw [finish_of_error (handle_of_invalid ⟨msgType, type⟩ valid)]
      exact iff_of_false (fail_ne (by simp) (by simp) _) (by simp)
  | ok done =>
      have left : handle env request = .ok .ignored := by
        rw [handle_actuator type, valid, read]
        show (if target.isNone then _ else if _ then _ else _) = _
        rw [some_, if_neg (by simp), if_neg other]
        rfl
      exact iff_of_true (finish_of_ok left) rfl

/-- A request for a handler reaches it if it has a queue. -/
theorem finish_due (due : Due env request handler) :
    finish env request = .handed handler request.message ↔ env.hasQueue handler := by
  obtain ⟨msgType, valid, chosen⟩ := due
  have left : handle env request =
      if env.hasQueue handler then .ok (.handed handler request.message)
      else .error .keyError := by
    rw [handle_of_validHere valid, sendToMsgHandler, chosen]
    rfl
  by_cases queue : env.hasQueue handler
  · exact iff_of_true (finish_of_ok (left.trans (if_pos queue))) queue
  · rw [finish_of_error (left.trans (if_neg queue))]
    exact iff_of_false (fail_ne (by simp) (by simp) _) queue

theorem HasType.unique {key : String} {other : Json} (first : HasType request key msgType)
    (second : HasType request key other) : msgType = other :=
  Except.ok.inj (first.1.symm.trans second.1)

theorem ValidHere.unique {other : Json} (first : ValidHere env request msgType)
    (second : ValidHere env request other) : msgType = other := by
  obtain ⟨type, -, -⟩ | ⟨sensor, type, -⟩ := first
  · obtain ⟨type', -, -⟩ | ⟨sensor, -, -⟩ := second
    · exact type.unique type'
    · exact absurd ⟨msgType, type⟩ sensor
  · obtain ⟨type', -, -⟩ | ⟨-, type', -⟩ := second
    · exact absurd ⟨other, type'⟩ sensor
    · exact type.unique type'

/-- A valid request without a handler is answered, or its type cannot be read. -/
theorem handle_of_not_due (valid : ValidHere env request msgType)
    (unhandled : ∀ handler, ¬ Due env request handler) :
    Unclaimed env request ∧ handle env request =
        writeAck env "Error Processing Message" "Message Handler Not Found" request.uuid ∨
      ¬ Unclaimed env request ∧ ∃ err, handle env request = .error err := by
  rw [handle_of_validHere valid, sendToMsgHandler]
  cases chosen : msgHandler msgType with
  | error err =>
      refine .inr ⟨?_, err, rfl⟩
      rintro ⟨other, valid', chosen'⟩
      rw [← valid.unique valid', chosen] at chosen'
      cases chosen'
  | ok found =>
      cases found with
      | none => exact .inl ⟨⟨msgType, valid, chosen⟩, rfl⟩
      | some handler => exact absurd ⟨msgType, valid, chosen⟩ (unhandled handler)

/-- The other requests are ignored without a node, answered without a handler, and stopped by an
exception otherwise. -/
theorem handle_other (typed : IsActuatorRequest request ∨ IsSensorRequest request)
    (here : ¬ Elsewhere env request) (unhandled : ∀ handler, ¬ Due env request handler) :
    Unaddressed env request ∧ handle env request = .ok .ignored ∨
      ¬ Unaddressed env request ∧ (Unclaimed env request ∧ handle env request =
          writeAck env "Error Processing Message" "Message Handler Not Found" request.uuid ∨
        ¬ Unclaimed env request ∧ ∃ err, handle env request = .error err) := by
  obtain ⟨msgType, type⟩ | ⟨sensor, msgType, type⟩ := typed
  · cases valid : env.validateActuator request.ingressMsg with
    | error err =>
        refine .inr ⟨?_, .inr ⟨?_, err, handle_of_invalid ⟨msgType, type⟩ valid⟩⟩
        · rintro ⟨-, valid', -⟩
          rw [valid] at valid'
          cases valid'
        · rintro ⟨other, ⟨-, valid', -⟩ | ⟨sensor, -, -⟩, -⟩
          · rw [valid] at valid'
            cases valid'
          · exact sensor ⟨msgType, type⟩
    | ok done =>
        obtain ⟨target, read⟩ := exists_get type.1 "target_node_id"
        cases missing : target.isNone with
        | true =>
            refine .inl ⟨⟨⟨msgType, type⟩, valid, target, read, missing⟩, ?_⟩
            rw [handle_actuator type, valid, read]
            show (if target.isNone then pure Outcome.ignored else if _ then _ else _) = _
            rw [if_pos missing]
            rfl
        | false =>
            have node : target = .str env.nodeId := by
              by_contra other
              exact here ⟨⟨msgType, type⟩, target, read, missing, other⟩
            rw [node] at read
            refine .inr ⟨?_, handle_of_not_due (.inl ⟨type, valid, read⟩) unhandled⟩
            rintro ⟨-, -, target', read', missing'⟩
            obtain rfl := Except.ok.inj (read.symm.trans read')
            cases missing'
  · refine .inr ⟨fun unaddressed => sensor unaddressed.1, ?_⟩
    cases valid : env.validateSensor request.ingressMsg with
    | error err =>
        refine .inr ⟨?_, err, ?_⟩
        · rintro ⟨other, ⟨type', -, -⟩ | ⟨-, -, valid'⟩, -⟩
          · exact sensor ⟨other, type'⟩
          · rw [valid] at valid'
            cases valid'
        · rw [handle_sensor sensor type, valid]
          rfl
    | ok done => exact handle_of_not_due (.inr ⟨sensor, type, valid⟩) unhandled

/-- The other requests are answered where an acknowledgement can be sent. -/
theorem answered_finish_iff (typed : IsActuatorRequest request ∨ IsSensorRequest request)
    (here : ¬ Elsewhere env request) (unhandled : ∀ handler, ¬ Due env request handler)
    (some_ : request.uuid.isNone = false) :
    Answered request (finish env request) ↔
      ¬ Unaddressed env request ∧ Answerable env request := by
  obtain ⟨unaddressed, ran⟩ | ⟨addressed, ⟨unclaimed, ran⟩ | ⟨claimed, err, ran⟩⟩ :=
    handle_other typed here unhandled
  · rw [finish, ran]
    refine iff_of_false ?_ (fun h => h.1 unaddressed)
    rintro ⟨ack, h, -⟩
    cases h
  · rw [finish, ran]
    cases written : writeAck env "Error Processing Message" "Message Handler Not Found"
        request.uuid with
    | error err =>
        show Answered request (fail env request.uuid) ↔ _
        rw [answered_fail some_]
        constructor
        · rintro ⟨accepted, queue, uuid⟩
          exact ⟨addressed, queue, .inl accepted, uuid⟩
        · rintro ⟨-, queue, accepted | ⟨-, accepted⟩, uuid⟩
          · exact ⟨accepted, queue, uuid⟩
          · rw [writeAck_eq_ok_iff.mpr ⟨accepted, queue, rfl⟩] at written
            cases written
    | ok outcome =>
        obtain ⟨accepted, queue, rfl⟩ := writeAck_eq_ok_iff.mp written
        show Answered request (.acknowledged _) ↔ _
        rw [answered_ack some_]
        constructor
        · intro uuid
          exact ⟨addressed, queue, .inr ⟨unclaimed, accepted⟩, uuid⟩
        · rintro ⟨-, -, -, uuid⟩
          exact uuid
  · rw [finish, ran]
    show Answered request (fail env request.uuid) ↔ _
    rw [answered_fail some_]
    constructor
    · rintro ⟨accepted, queue, uuid⟩
      exact ⟨addressed, queue, .inl accepted, uuid⟩
    · rintro ⟨-, queue, accepted | ⟨unclaimed, -⟩, uuid⟩
      · exact ⟨accepted, queue, uuid⟩
      · exact absurd unclaimed claimed

end

/-- Authenticated messages go where they should: requests for other nodes are ignored, those that
are due go to their handlers, and all other ones are answered with their own uuid. It is so exactly
where requests for other nodes are valid, the handlers have queues and the other requests can be
answered. -/
theorem routes_iff (env : Env Key Digest) (body : Body) : Routes env body ↔ Orderly env body := by
  constructor
  · intro routes
    constructor
    · intro request authenticated elsewhere
      rw [← finish_elsewhere elsewhere, ← processMsg_of_authenticated authenticated]
      exact routes.elsewhere request authenticated elsewhere
    · intro request handler authenticated due
      rw [← finish_due due, ← processMsg_of_authenticated authenticated]
      exact routes.due request handler authenticated due
    · intro request authenticated typed here unhandled
      rw [← answered_finish_iff typed here unhandled (isNone_uuid authenticated.read),
        ← processMsg_of_authenticated authenticated]
      exact routes.other request authenticated typed here unhandled
  · intro orderly
    constructor
    · intro request authenticated elsewhere
      rw [processMsg_of_authenticated authenticated, finish_elsewhere elsewhere]
      exact orderly.elsewhere request authenticated elsewhere
    · intro request handler authenticated due
      rw [processMsg_of_authenticated authenticated, finish_due due]
      exact orderly.due request handler authenticated due
    · intro request authenticated typed here unhandled
      rw [processMsg_of_authenticated authenticated,
        answered_finish_iff typed here unhandled (isNone_uuid authenticated.read)]
      exact orderly.other request authenticated typed here unhandled

/-- The schema wants the header of the message. -/
def strictEnv : Env Unit (List UInt8) :=
  { sampleEnv with
    validateActuator := fun ingressMsg => do
      let message ← ingressMsg.get "message"
      let header ← message.get "sspl_ll_msg_header"
      if header.isNone then throw .validationError else return () }

def requestBody (message : List (String × Json)) : Body :=
  .dict (.cons "username" (.str "sspl-ll") (.cons "signature" (.str "s")
    (.cons "message" (.ofEntries message) .nil)))

/-- A request for another node without a header. -/
def strayRequest : Body := requestBody [
  ("actuator_request_type", .ofEntries [("thread_controller", .ofEntries [])]),
  ("target_node_id", .str "SN02")]

def loginType : Json := .ofEntries [("login_controller", .ofEntries [])]

def loginMessage : List (String × Json) := [
  ("sspl_ll_msg_header", .ofEntries [("uuid", .str "16476007")]),
  ("actuator_request_type", loginType),
  ("target_node_id", .str "SN01")]

def loginHeader : Request where
  ingressMsg := .ofEntries [("username", .str "sspl-ll"), ("signature", .str "s"),
    ("message", .ofEntries loginMessage)]
  username := .str "sspl-ll"
  signature := .str "s"
  message := .ofEntries loginMessage
  uuid := .str "N/A"
  length := 3

/-- A request for this node of a type without a handler, with a `uuid`. -/
def loginRequest : Body := requestBody loginMessage

theorem authenticated_of_header {body : Body} {request : Request}
    (read : readHeader strictEnv body = .ok request) : Authenticated strictEnv body request := by
  refine ⟨read, ?_⟩
  intro lib loaded
  cases loaded

/-- This node answers the request for the other one, and the answer to the request for this one
has no `uuid` of its own. -/
theorem requests_misrouted :
    ¬ Routes strictEnv strayRequest ∧ ¬ Routes strictEnv loginRequest := by
  constructor
  · intro routes
    have ignored := routes.elsewhere _ (authenticated_of_header rfl)
      ⟨⟨_, rfl, rfl⟩, _, rfl, rfl, by decide⟩
    revert ignored
    decide +kernel
  · intro routes
    have type : HasType loginHeader "actuator_request_type" loginType := ⟨rfl, rfl⟩
    have here : ¬ Elsewhere strictEnv loginHeader := by
      rintro ⟨-, target, read, -, other⟩
      cases read
      exact other rfl
    have unhandled : ∀ handler, ¬ Due strictEnv loginHeader handler := by
      rintro handler ⟨msgType, ⟨type', -, -⟩ | ⟨sensor, -, -⟩, chosen⟩
      · obtain rfl := type.unique type'
        have none_ : msgHandler loginType = .ok none := by decide +kernel
        cases none_.symm.trans chosen
      · exact sensor ⟨loginType, type⟩
    obtain ⟨ack, answer, carries⟩ := routes.other loginHeader (authenticated_of_header rfl)
      (.inl ⟨loginType, type⟩) here unhandled
    have given : (match processMsg strictEnv loginRequest with
        | .acknowledged ack => ackUuid ack
        | _ => none) = some (.str "NA") := by decide +kernel
    rw [answer] at given
    exact absurd (given.symm.trans (carries (.str "16476007") rfl)) (by decide)

end Ingress

end Sspl

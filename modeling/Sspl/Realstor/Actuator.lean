import Sspl.Realstor.Attempts

/-!
# The answers of the enclosure actuator

`RealStorActuator` is one object for all requests. `make_response` takes the alert type and the
severity of an answer from the fields `ALERT_TYPE` and `SEVERITY`, which are those of a GET when
the object is made. A control request, shutdown or restart, puts its own values into these
fields, and nothing ever sets them back: every GET that is answered by `make_response` later on
carries the values of the last control request that was performed.

What the enclosure has to say is given by the functions that read it. They see its replies and
the request and none of the fields. The command of a control request goes through `ws_request`,
with its retries and its exceptions.
-/

namespace Sspl

namespace Realstor

open Iem (Text strip)

namespace Actuator

/-- The exceptions: those of a statement, and that of a control request with a wrong resource. -/
inductive RequestError
  | raised (error : PyErr)
  | notFound
  | invalidResource (resource enclosureRequest : Text)
  deriving DecidableEq

/-- A statement that raises one of Python's own exceptions. -/
def attempt {α : Type} (x : Except PyErr α) : Except RequestError α := x.mapError .raised

/-- What the enclosure has for the readers of the actuator, and the session with its web
service, which answers the control requests. -/
structure Enclosure where
  fru : Text → Json → Except RequestError Json
  sensorData : Text → Json → Except RequestError Json
  systemInfo : Except RequestError Json
  sasPortStatus : Json → Except RequestError (Option Json)
  config : WebService.Config
  answers : WebService.Answers
  session : WebService.State
  isStorageFru : Text → Text

/-- The fields `ALERT_TYPE` and `SEVERITY`. -/
structure Fields where
  alertType : String
  severity : String
  deriving DecidableEq

def Fields.get : Fields := ⟨"GET", "informational"⟩

/-- What `make_response` returns, without host, time and alert id. -/
structure Message where
  alertType : String
  severity : String
  resourceType : Text
  fru : Text
  resourceId : Json
  specificInfo : Json
  deriving DecidableEq

/-- What `_handle_ports_request` returns, without host, time and alert id. -/
structure PortsMessage where
  instanceId : Json
  alertType : String
  severity : String
  resourceType : Text
  resourceId : Json
  specificInfo : Option Json
  deriving DecidableEq

inductive Response
  | notAvailable
  | error (e : RequestError)
  | message (m : Message)
  | ports (m : PortsMessage)
  deriving DecidableEq

section Control

/-- `value == n`. -/
def equalsInt (n : Int) : Json → Bool
  | .int m => m = n
  | .bool b => (if b then 1 else 0) = n
  | .float text => n = 0 ∧ (text = "0.0" ∨ text = "-0.0") ∨ n = -1 ∧ text = "-1.0"
  | _ => false

/-- The loop of `get_api_status`. -/
def statusOf : Items → Except PyErr Json
  | .nil => .ok (.int (-1))
  | .cons status rest => do
    if (← status.item "response-type") ≠ .str "Info" then status.item "response-type-numeric"
    else statusOf rest

def getApiStatus : Json → Except PyErr Json
  | .list statuses => statusOf statuses
  | .dict .nil | .str "" => .ok (.int (-1))
  | _ => .error .typeError

/-- `MAX_RETRIES` of the enclosure. -/
def maxRetries : Nat := 2

/-- The GET request for a path, to the active controller. -/
def Enclosure.call (encl : Enclosure) (uri : Text) : WebService.Call where
  url := WebService.buildUrl encl.config.digits encl.session.active uri
  method := "GET".toList
  retryCount := maxRetries
  postData := []

/-- `_get_encl_response`: `None` without a response or with one whose status is from 400 to 599,
which counts as false, and `{}` for any other failure. -/
def getEnclResponse (encl : Enclosure) (uri : Text) : Except RequestError Json :=
  match ((encl.call uri).run encl.config encl.answers encl.session).1 with
  | .error e => .error (.raised e)
  | .ok none => .ok .null
  | .ok (some response) =>
    match response.statusCode with
    | none => .error (.raised .typeError)
    | some code =>
      if 400 ≤ code ∧ code < 600 then .ok .null
      else if code ≠ WebService.httpOk then .ok (.dict .nil)
      else
        match response.content with
        | none => .ok (.dict .nil)
        | some content => do
          let status ← attempt (content.get "status")
          let apiResponse ← attempt (getApiStatus status)
          if equalsInt 0 apiResponse ∨ equalsInt (-1) apiResponse then return content
          else return .dict .nil

/-- The text up to the first occurrence of the separator. -/
def upTo (separator : Text) : Text → Text
  | [] => []
  | c :: rest => if separator <+: c :: rest then [] else c :: upTo separator rest

/-- The name of the controller, if the resource has one. -/
def ctrlName (resource : Text) : Option Text :=
  if "controller_a".toList <+: resource ∨ "controller_b".toList <+: resource then
    some ((upTo "controller_".toList (resource.drop 11)).takeWhile (· ≠ ':'))
  else if resource = ['*'] then some "both".toList
  else none

def endsWithAny (endings : List String) (text : Text) : Bool :=
  endings.any (fun ending => decide (ending.toList <:+ text))

/-- An entry of `response_str`. -/
structure ControlInfo where
  message : String
  description : String
  command : Text
  fields : Fields
  resourceType : Text

def controlInfo (actionType command : Text) (severity message : String) :
    Except RequestError ControlInfo :=
  if actionType = "shutdown".toList then
    .ok { message := "Shutdown " ++ message
          description := "Shuts down the Storage Controller in a controller module. This " ++
            "ensures that a proper failover sequence is used, which includes stopping all I/O " ++
            "operations and writing any data in write cache to disk."
          command := command
          fields := ⟨"control:shutdown", severity⟩
          resourceType := "enclosure:hw:controller".toList }
  else if actionType = "restart sc".toList then
    .ok { message := "Restart / Start Storage Controller " ++ message
          description := "Restarts the Storage Controller in a controller module. When you " ++
            "restart a Storage Controller, it attempts to shut down with a proper failover " ++
            "sequence, which includes stopping all I/O operations and flushing the write cache " ++
            "to disk, and then the Storage Controller restarts. Restarting a Storage Controller " ++
            "restarts the corresponding Management Controller."
          command := command
          fields := ⟨"control:restart", severity⟩
          resourceType := "enclosure:hw:controller:sc".toList }
  else if actionType = "restart mc".toList then
    .ok { message := "Restart / Start Management Controller " ++ message
          description := "Restarts the Management Controller in a controller module. When you " ++
            "restart a Management Controller, communication with it is lost until it " ++
            "successfully restarts. If the restart fails, the partner Management Controller " ++
            "remains active with full ownership of operations and configuration information."
          command := command
          fields := ⟨"control:restart", severity⟩
          resourceType := "enclosure:hw:controller:mc".toList }
  else .error (.raised .keyError)

def actionTypeOf (ctrlAction ctrlType : Text) : Text :=
  if ctrlAction = "shutdown".toList then ctrlAction else ctrlAction ++ [' '] ++ ctrlType

def ctrlCmdOf (ctrlAction ctrlType resource : Text) : Text :=
  actionTypeOf ctrlAction ctrlType ++ [' '] ++ (ctrlName resource).getD []

/-- The path of a command, after `URI_CLIAPI_BASE`. -/
def uriOf (ctrlCmd : Text) : Text := '/' :: ctrlCmd.map fun c => if c = ' ' then '/' else c

/-- `invalid_args`. -/
def InvalidArgs (ctrlAction ctrlType resource : Text) : Prop :=
  ctrlName resource = none ∨
    (ctrlAction = "restart".toList ∧ ¬ endsWithAny ["sc", "mc", "*"] resource) ∨
    (ctrlAction = "shutdown".toList ∧ endsWithAny ["sc", "mc"] resource) ∨
    ¬ endsWithAny [" a", " b", " both"] (ctrlCmdOf ctrlAction ctrlType resource)

instance (ctrlAction ctrlType resource : Text) :
    Decidable (InvalidArgs ctrlAction ctrlType resource) :=
  inferInstanceAs (Decidable (_ ∨ _ ∨ _ ∨ _))

def putEnclosureAction (encl : Enclosure) (ctrlAction ctrlType resource enclosureRequest : Text) :
    Except RequestError ControlInfo :=
  if InvalidArgs ctrlAction ctrlType resource then
    .error (.invalidResource resource enclosureRequest)
  else do
    let ctrlCmd := ctrlCmdOf ctrlAction ctrlType resource
    let enclResponse ← getEnclResponse encl (uriOf ctrlCmd)
    let failed := enclResponse = .dict .nil
    controlInfo (actionTypeOf ctrlAction ctrlType) ctrlCmd
      (if failed then "warning" else "informational")
      (if failed then "request failed. Please try again...!" else "request performed successfully.")

end Control

section Answer

/-- `request_fru_func["ENCL"]` and `fru_response_manipulators`: the component types with the key
that the resource id is taken from. -/
def fruKey (componentType : Text) : Option String :=
  if componentType = "disk".toList then some "durable-id"
  else if componentType = "fan".toList then some "name"
  else if componentType = "controller".toList then some "durable-id"
  else if componentType = "psu".toList then some "name"
  else if componentType = "sideplane".toList then some "name"
  else none

/-- The loop of `make_response` over all components. -/
def addResourceIds (key : String) : Items → Except PyErr Items
  | .nil => .ok .nil
  | .cons comp rest => do
    let id ← comp.get key
    match comp with
    | .dict fields => return .cons (.dict (fields.set "resource_id" id)) (← addResourceIds key rest)
    | _ => .error .typeError

/-- The response manipulator of a component type, for a single component. -/
def resourceIdOf (componentType : Text) (key : String) (details : Json) : Except PyErr Json :=
  if componentType = "disk".toList then
    match details with
    | .list (.cons drive _) => drive.get key
    | .list .nil => .error .other
    | .dict _ => .error .keyError
    | _ => .error .typeError
  else details.get key

/-- `make_response` for a component of the hardware: the resource id and the details. -/
def hwDetails (componentType : Text) (key : String) (details resource : Json) :
    Except PyErr (Json × Json) :=
  if resource = .str "*" then
    match details with
    | .list items => do return (resource, .list (← addResourceIds key items))
    | .dict .nil => .ok (resource, details)
    | .dict _ => .error .attributeError
    | _ => .error .typeError
  else do return (← resourceIdOf componentType key details, details)

/-- The end of `make_response`, with the fields as they are then. -/
def respond (encl : Enclosure) (fields : Fields) (component componentType : Text)
    (resourceId details : Json) : Response :=
  .message { alertType := fields.alertType
             severity := fields.severity
             resourceType := "enclosure:".toList ++ component ++ [':'] ++ componentType
             fru := encl.isStorageFru componentType
             resourceId := resourceId
             specificInfo := details }

/-- `make_response` for a control action, which sets the fields. -/
def respondControl (encl : Enclosure) (info : ControlInfo) (componentType : Text)
    (resource : Json) : Response :=
  let command := Fields.cons "command" (.str (String.ofList info.command)) .nil
  .message { alertType := info.fields.alertType
             severity := info.fields.severity
             resourceType := info.resourceType
             fru := encl.isStorageFru componentType
             resourceId := resource
             specificInfo := .dict (.cons "message" (.str info.message)
               (if info.fields.severity = "warning" then command
                else .cons "description" (.str info.description) command)) }

end Answer

section Request

/-- The parts of an enclosure request. -/
structure Parts where
  requestType : Text
  component : Text
  componentType : Text
  ctrlType : Text
  ctrlAction : Text

/-- The parts of the list, of which there have to be as many as the last one calls for. -/
def unpack (data : List Text) : Except PyErr Parts :=
  if data.getLast? = some "shutdown".toList then
    match data with
    | [requestType, _, component, componentType, ctrlAction] =>
      .ok ⟨requestType, component, componentType, [], ctrlAction⟩
    | _ => .error .valueError
  else if data.getLast? = some "restart".toList then
    match data with
    | [requestType, _, component, componentType, ctrlType, ctrlAction] =>
      .ok ⟨requestType, component, componentType, ctrlType, ctrlAction⟩
    | _ => .error .valueError
  else
    match data with
    | [requestType, _, component, componentType] =>
      .ok ⟨requestType, component, componentType, [], []⟩
    | _ => .error .valueError

/-- A method of texts, which other values do not have. -/
def asText : Json → Except PyErr Text
  | .str text => .ok text.toList
  | _ => .error .attributeError

def storageEnclosure (jsonMsg : Json) : Except PyErr Json := do
  (← jsonMsg.get "actuator_request_type").get "storage_enclosure"

/-- What `perform_request` takes from a message: the text of the request, its parts and the
resource. -/
structure Request where
  text : Text
  parts : Parts
  resource : Json

def readRequest (jsonMsg : Json) : Except PyErr Request := do
  let enclosure ← storageEnclosure jsonMsg
  let text ← asText (← enclosure.get "enclosure_request")
  let parts ← unpack ((text.splitOn ':').map strip)
  return ⟨text, parts, ← enclosure.get "resource"⟩

/-- The action is in `CTRL_ACTION_LST`. -/
def Request.Control (r : Request) : Prop :=
  r.parts.ctrlAction = "shutdown".toList ∨ r.parts.ctrlAction = "restart".toList

instance (r : Request) : Decidable r.Control := inferInstanceAs (Decidable (_ ∨ _))

/-- `_handle_ports_request`. -/
def handlePortsRequest (encl : Enclosure) (lower : Text → Text) (r : Request) :
    Except RequestError Response := do
  let split := r.text.splitOn ':'
  let enclosureType := split[2]?.getD []
  let enclosureResourceType := split[3]?.getD []
  let specificInfo ← encl.sasPortStatus r.resource
  return .ports { instanceId := r.resource
                  alertType := "get"
                  severity := "informational"
                  resourceType := "enclosure:".toList ++ lower enclosureType ++ [':'] ++
                    lower enclosureResourceType
                  resourceId := r.resource
                  specificInfo := specificInfo }

/-- What is read for a request that is no control action: resource id and details for the end of
`make_response`, or a response that does not come from there. -/
inductive Reply
  | details (resourceId specificInfo : Json)
  | other (response : Response)

def reply (encl : Enclosure) (lower : Text → Text) (r : Request) : Except RequestError Reply := do
  if r.parts.component = "hw".toList then
    match if r.parts.requestType = "ENCL".toList then fruKey r.parts.componentType else none with
    | none => throw (.raised .keyError)
    | some key =>
      let details ← encl.fru r.parts.componentType r.resource
      let (resourceId, details) ← attempt (hwDetails r.parts.componentType key details r.resource)
      return .details resourceId details
  else if r.parts.component = "sensor".toList then
    return .details r.resource (← encl.sensorData r.parts.componentType r.resource)
  else if r.parts.component = "interface".toList then
    if (r.text.splitOn ':')[2]? = some "interface".toList then
      return .other (← handlePortsRequest encl lower r)
    else return .other .notAvailable
  else if r.parts.component = "system".toList then
    if r.parts.componentType = "info".toList then
      return .details r.resource (← encl.systemInfo)
    else return .other .notAvailable
  else return .other .notAvailable

/-- The control action of a request. -/
def control (encl : Enclosure) (r : Request) : Except RequestError ControlInfo := do
  let resource ← attempt (asText r.resource)
  putEnclosureAction encl r.parts.ctrlAction r.parts.ctrlType (strip resource) r.text

/-- The `try` block of `perform_request`: the response and the fields it leaves. -/
def perform (encl : Enclosure) (lower : Text → Text) (jsonMsg : Json) (fields : Fields) :
    Except RequestError (Response × Fields) := do
  let r ← attempt (readRequest jsonMsg)
  if r.Control then
    let info ← control encl r
    return (respondControl encl info r.parts.componentType r.resource, info.fields)
  else
    match ← reply encl lower r with
    | .details resourceId details =>
      return (respond encl fields r.parts.component r.parts.componentType resourceId details,
        fields)
    | .other response => return (response, fields)

def performRequest (encl : Enclosure) (lower : Text → Text) (jsonMsg : Json) (fields : Fields) :
    Response × Fields :=
  match perform encl lower jsonMsg fields with
  | .ok result => result
  | .error e => (.error e, fields)

end Request

section History

/-- A request, with what the enclosure has to say at that time. -/
abbrev Call := Enclosure × Json

/-- The fields of the actuator after the calls, from the object as it is made. -/
def after (lower : Text → Text) (history : List Call) : Fields :=
  history.foldl (fun fields call => (performRequest call.1 lower call.2 fields).2) .get

/-- The fields that a call sets: those of a control action that is performed. -/
def controlOf (call : Call) : Option Fields :=
  match readRequest call.2 with
  | .error _ => none
  | .ok r =>
    if r.Control then
      match control call.1 r with
      | .error _ => none
      | .ok info => some info.fields
    else none

/-- The last control action of a history that was performed. -/
def lastControl (history : List Call) : Option Fields :=
  (history.filterMap controlOf).getLast?

/-- The call is a GET whose answer is made from what the enclosure returns: nothing that is read
for it raises. -/
def AnswersGet (lower : Text → Text) (call : Call) : Prop :=
  ∃ r resourceId details, readRequest call.2 = .ok r ∧ ¬ r.Control ∧
    reply call.1 lower r = .ok (.details resourceId details)

variable {lower : Text → Text}

section Cases

variable {encl : Enclosure} {jsonMsg : Json} {fields : Fields} {r : Request}

theorem performRequest_unread {e : PyErr} (request : readRequest jsonMsg = .error e) :
    performRequest encl lower jsonMsg fields = (.error (.raised e), fields) := by
  rw [performRequest, perform, request]
  rfl

theorem performRequest_control (request : readRequest jsonMsg = .ok r) (isControl : r.Control) :
    performRequest encl lower jsonMsg fields =
      match control encl r with
      | .error e => (.error e, fields)
      | .ok info => (respondControl encl info r.parts.componentType r.resource, info.fields) := by
  rw [performRequest, perform, request]
  simp only [attempt, Except.mapError, bind, Except.bind, isControl, if_true]
  cases control encl r <;> rfl

theorem performRequest_get (request : readRequest jsonMsg = .ok r) (other : ¬ r.Control) :
    performRequest encl lower jsonMsg fields =
      match reply encl lower r with
      | .error e => (.error e, fields)
      | .ok (.details resourceId details) =>
        (respond encl fields r.parts.component r.parts.componentType resourceId details, fields)
      | .ok (.other response) => (response, fields) := by
  rw [performRequest, perform, request]
  simp only [attempt, Except.mapError, bind, Except.bind, other, if_false]
  cases reply encl lower r with
  | error e => rfl
  | ok reply => cases reply <;> rfl

end Cases

/-- What a call does: a control action that is performed sets the fields and answers without
reading them, a GET puts them into its answer, and every other call does neither. -/
theorem performRequest_cases (call : Call) :
    (¬ AnswersGet lower call ∧ ∃ response told, controlOf call = some told ∧
      ∀ fields, performRequest call.1 lower call.2 fields = (response, told)) ∨
    (AnswersGet lower call ∧ controlOf call = none ∧ ∃ m : Message, ∀ fields,
      performRequest call.1 lower call.2 fields =
        (.message { m with alertType := fields.alertType, severity := fields.severity }, fields)) ∨
    (¬ AnswersGet lower call ∧ controlOf call = none ∧ ∃ response, ∀ fields,
      performRequest call.1 lower call.2 fields = (response, fields)) := by
  obtain ⟨encl, jsonMsg⟩ := call
  cases request : readRequest jsonMsg with
  | error e =>
      refine .inr (.inr ⟨?_, ?_, _, fun fields => performRequest_unread request⟩)
      · rintro ⟨r, _, _, read, -⟩
        cases request.symm.trans read
      · simp only [controlOf, request]
  | ok r =>
      by_cases isControl : r.Control
      · have noGet : ¬ AnswersGet lower (encl, jsonMsg) := by
          rintro ⟨r', _, _, read, other, -⟩
          cases request.symm.trans read
          exact other isControl
        cases action : control encl r with
        | error e =>
            refine .inr (.inr ⟨noGet, ?_, .error e, fun fields => ?_⟩)
            · simp only [controlOf, request, isControl, if_true, action]
            · simp only [performRequest_control request isControl, action]
        | ok info =>
            refine .inl ⟨noGet, respondControl encl info r.parts.componentType r.resource,
              info.fields, ?_, fun fields => ?_⟩
            · simp only [controlOf, request, isControl, if_true, action]
            · simp only [performRequest_control request isControl, action]
      · have noControl : controlOf (encl, jsonMsg) = none := by
          simp only [controlOf, request, isControl, if_false]
        cases read : reply encl lower r with
        | error e =>
            refine .inr (.inr ⟨?_, noControl, .error e, fun fields => ?_⟩)
            · rintro ⟨r', _, _, same, -, made⟩
              cases request.symm.trans same
              cases read.symm.trans made
            · simp only [performRequest_get request isControl, read]
        | ok made =>
            cases made with
            | details resourceId details =>
                refine .inr (.inl ⟨⟨r, resourceId, details, request, isControl, read⟩, noControl,
                  { alertType := "", severity := ""
                    resourceType := "enclosure:".toList ++ r.parts.component ++ [':'] ++
                      r.parts.componentType
                    fru := encl.isStorageFru r.parts.componentType
                    resourceId := resourceId, specificInfo := details }, fun fields => ?_⟩)
                simp only [performRequest_get request isControl, read]
                rfl
            | other response =>
                refine .inr (.inr ⟨?_, noControl, response, fun fields => ?_⟩)
                · rintro ⟨r', _, _, same, -, made⟩
                  cases request.symm.trans same
                  cases read.symm.trans made
                · simp only [performRequest_get request isControl, read]

/-- The fields are those of the last control action, or still those of a GET. -/
theorem after_eq (history : List Call) :
    after lower history = (lastControl history).getD .get := by
  have step : ∀ (call : Call) fields,
      (performRequest call.1 lower call.2 fields).2 = (controlOf call).getD fields := by
    intro call fields
    obtain ⟨-, response, told, control, eq⟩ | ⟨-, control, m, eq⟩ | ⟨-, control, response, eq⟩ :=
      @performRequest_cases lower call <;> rw [eq, control] <;> rfl
  rw [after, lastControl]
  induction history using List.reverseRecOn with
  | nil => rfl
  | append_singleton front call ih =>
      rw [List.foldl_concat, step, ih, List.filterMap_append, List.filterMap_cons,
        List.filterMap_nil]
      cases controlOf call with
      | none => simp
      | some told => simp

end History

/-- A request as it arrives. -/
def message (request resource : String) : Json :=
  .dict (.cons "actuator_request_type" (.dict (.cons "storage_enclosure" (.dict
    (.cons "enclosure_request" (.str request) (.cons "resource" (.str resource) .nil))) .nil)) .nil)

end Actuator

end Realstor

end Sspl

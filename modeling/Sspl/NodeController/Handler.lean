import Sspl.Foundation.System
import Sspl.Foundation.Try
import Sspl.Iem.Message
import Sspl.Messaging.Ack

/-!
# The handler of the node controller

`_process_msg` takes a request apart by its first four characters and lets one of the actuators
carry it out, or passes it on to `DiskMonitor` or `DiskMsgHandler`. An actuator is created when
it is first needed; from then on its attribute of the handler holds it. For RAID and Hdparm there
is a state in the table of the actuator state manager besides.

What loading, creating and running an actuator ends with is given from outside, anew for every
request. An exception ends the handling of the request and is swallowed by `run`; what was
written, created and set before it stays. Of an exception only the text matters.
-/

namespace Sspl

namespace NodeController

open Iem (Text strip)

inductive Actuator
  | commandLine
  | hpi
  | gem
  | pdu
  | raid
  | ipmi
  | hdparm
  | smartctl
  | nodeHw
  deriving DecidableEq

inductive ActuatorState
  | imported
  | initializing
  | initialized
  deriving DecidableEq

/-- The modules that a request is passed on to. -/
inductive Receiver
  | diskMonitor
  | diskMsgHandler
  deriving DecidableEq

inductive Component
  | sspl
  | led
  | beze
  | pdu
  | raid
  | ipmi
  | stop
  | star
  | rese
  | hdpa
  | smar
  | drvm
  | hpi
  | simu
  | ndhw
  | unknown
  deriving DecidableEq

/-- `node_request[0:4]`. -/
def componentOf (nodeRequest : Text) : Component :=
  match nodeRequest.take 4 with
  | ['S', 'S', 'P', 'L'] => .sspl
  | ['L', 'E', 'D', ':'] => .led
  | ['B', 'E', 'Z', 'E'] => .beze
  | ['P', 'D', 'U', ':'] => .pdu
  | ['R', 'A', 'I', 'D'] => .raid
  | ['I', 'P', 'M', 'I'] => .ipmi
  | ['S', 'T', 'O', 'P'] => .stop
  | ['S', 'T', 'A', 'R'] => .star
  | ['R', 'E', 'S', 'E'] => .rese
  | ['H', 'D', 'P', 'A'] => .hdpa
  | ['S', 'M', 'A', 'R'] => .smar
  | ['D', 'R', 'V', 'M'] => .drvm
  | ['H', 'P', 'I', '_'] => .hpi
  | ['S', 'I', 'M', 'U'] => .simu
  | ['N', 'D', 'H', 'W'] => .ndhw
  | _ => .unknown

structure Request where
  nodeRequest : Text
  uuid : Option Text
  deriving DecidableEq

/-- `normalize_kv` of a text. -/
def normalized (text : Text) : Text := if text = "N/A".toList then "NA".toList else text

/-- What `prepare_message` adds to a section `info`. -/
structure Ids where
  siteId : Json
  rackId : Json
  nodeId : Json
  clusterId : Json

/-- The response section of a `NodeHwAckResponseMsg`. -/
structure NodeHwAck where
  hostId : String
  alertType : String
  instanceId : String
  severity : String
  siteId : String
  rackId : String
  nodeId : String
  clusterId : Json
  resourceType : String
  resourceId : String
  eventTime : String
  fru : Json
  specificInfo : Json
  deriving DecidableEq

/-- A field that the schema wants to be a text. -/
def validString (value : Json) : Except PyErr String :=
  match value.normalizeKv with
  | .str text => .ok text
  | _ => .error .validationError

/-- `NodeHwAckResponseMsg(node_request, response, uuid).getJson()`. -/
def nodeHwAckResponseMsg (ids : Ids) (response : Json) : Except PyErr NodeHwAck := do
  let hostId ← response.get "host_id"
  let alertType ← response.get "alert_type"
  let instanceId ← response.get "instance_id"
  let severity ← response.get "severity"
  let info ← response.get "info"
  let resourceType ← info.get "resource_type"
  let resourceId ← info.get "resource_id"
  let eventTime ← info.get "event_time"
  let fru ← info.get "fru"
  let specificInfo ← response.get "specific_info"
  return {
    hostId := ← validString hostId
    alertType := ← validString alertType
    instanceId := ← validString instanceId
    severity := ← validString severity
    siteId := ← validString ids.siteId
    rackId := ← validString ids.rackId
    nodeId := ← validString ids.nodeId
    clusterId := ids.clusterId.normalizeKv
    resourceType := ← validString resourceType
    resourceId := ← validString resourceId
    eventTime := ← validString eventTime
    fru := if fru.isNone then .str "false" else fru.normalizeKv
    specificInfo := specificInfo.normalizeKv }

inductive Output
  | ack (ackType ackMsg : Text) (uuid : Option Text) (errorNo : Nat)
  | nodeHwAck (response : NodeHwAck) (uuid : Option Text)
  | forward (receiver : Receiver) (sensorRequestType : String) (serialNumber nodeRequest : Text)
      (uuid : Option Text)
  deriving DecidableEq

/-- The uuid that an answer or a message passed on carries. -/
def Output.uuid : Output → Option Text
  | .ack _ _ uuid _ => uuid
  | .nodeHwAck _ uuid => uuid
  | .forward _ _ _ _ uuid => uuid

def errnoEbusy : Nat := 16

/-- The acknowledgement says that the actuator is busy. -/
def Output.Busy : Output → Prop
  | .ack _ _ _ errorNo => errorNo = errnoEbusy
  | _ => False

/-- `AckResponseMsg`, which the schema of the responses always accepts. -/
def ackResponse (request : Request) (ackMsg : Text) (errorNo : Nat) : Output :=
  .ack (normalized request.nodeRequest) (normalized ackMsg) (request.uuid.map normalized) errorNo

/-- What does not change while the handler is there. -/
structure Config where
  /-- The product is enabled, so that the handler has `_queryUtility`. -/
  enabled : Bool
  /-- `self.setup`, read when the handler is initialized. -/
  setup : Text
  hostId : Text
  /-- The module is loaded and has a queue. -/
  queued : Receiver → Bool

/-- What the calls made for one request end with. They may fail at one request and work at the
next. -/
structure Env where
  /-- The setup that the configuration has when the request is handled. -/
  setup : Text
  ids : Ids
  registered : Actuator → Bool
  instantiate : Actuator → Except Text Unit
  perform : Actuator → Text → Except Text Text
  checkSerialNumber : Text → Except Text Bool
  /-- The imports for `NDHW`, and whether the IPMI client is there. -/
  ipmiClient : Except Text Bool
  nodeHwInitialize : Except Text Unit
  nodeHwPerform : Except Text Json

/-- Which actuators the handler has, what the table says of them, and what was written for the
request. -/
structure State where
  /-- The attribute of the handler for the actuator is not `None`. -/
  has : Actuator → Bool
  table : Actuator → Option ActuatorState
  written : List Output

/-- A block of `_process_msg`. -/
abbrev Block (α : Type) := Try State Text α

namespace State

def create (s : State) (actuator : Actuator) : State :=
  { s with has := Function.update s.has actuator true }

def setState (s : State) (actuator : Actuator) (state : ActuatorState) : State :=
  { s with table := Function.update s.table actuator (some state) }

def write (s : State) (output : Output) : State := { s with written := s.written ++ [output] }

end State

def noQueryUtility : Text :=
  "'NodeControllerMsgHandler' object has no attribute '_queryUtility'".toList

def noProduct : Text := "'NodeControllerMsgHandler' object has no attribute '_product'".toList

def noIgem : Text := "name 'IGEM' is not defined".toList

def noAttribute (type name : String) : Text :=
  ("'" ++ type ++ "' object has no attribute '" ++ name ++ "'").toList

def keyError : Receiver → Text
  | .diskMonitor => "'DiskMonitor'".toList
  | .diskMsgHandler => "'DiskMsgHandler'".toList

def indexError : Text := "list index out of range".toList

def hasWord (word : String) (text : Text) : Bool := (Iem.findFrom word.toList text).isSome

section

variable (cfg : Config) (env : Env) (request : Request)

def write (output : Output) : Block PUnit := Try.modify (·.write output)

def ack (ackMsg : Text) : Block PUnit := write (ackResponse request ackMsg 0)

def unsupportedRequest : Text := "Unsupported Request".toList

def forward (receiver : Receiver) (sensorRequestType : String)
    (serialNumber nodeRequest : Text) : Block PUnit :=
  if cfg.queued receiver then
    write (.forward receiver sensorRequestType serialNumber nodeRequest request.uuid)
  else throw (keyError receiver)

/-- `_queryUtility` of the interface of the actuator, which gives a class or `None`. -/
def queryUtility (actuator : Actuator) : Block Bool :=
  if cfg.enabled then pure (env.registered actuator) else throw noQueryUtility

def instantiate (actuator : Actuator) : Block PUnit := do
  Try.ofExcept (env.instantiate actuator)
  Try.modify (·.create actuator)

/-- `perform_request(...).strip()` of the actuator. -/
def performRequest (actuator : Actuator) (nodeRequest : Text) : Block Text := do
  let response ← Try.ofExcept (env.perform actuator nodeRequest)
  return strip response

/-- Carry out the request and acknowledge it with the response. -/
def performAndAck (actuator : Actuator) : Block PUnit := do
  let response ← performRequest env actuator request.nodeRequest
  ack request response

/-- Create the actuator unless it is there; whether it is there then. -/
def load (actuator : Actuator) : Block Bool := do
  let s ← Try.get
  if s.has actuator then return true
  else if ← queryUtility cfg env actuator then
    instantiate env actuator
    return true
  else return false

/-- The components `SSPL`, `PDU:` and `IPMI`. -/
def viaUtility (actuator : Actuator) : Block PUnit := do
  if ← load cfg env actuator then performAndAck env request actuator
  else ack request unsupportedRequest

def isEnvVm : Bool :=
  env.setup.map Char.toLower ∈ ["gw".toList, "cmu".toList, "vm".toList]

/-- The components `LED:`, `STOP`, `STAR` and `RESE`. All work is done where the actuator is
created, and the message for a class that is not loaded reads `self._product`, which is never
set. -/
def viaHpi (work : Block PUnit) : Block PUnit := do
  if isEnvVm env then return ⟨⟩
  else
    let s ← Try.get
    if s.has .hpi then return ⟨⟩
    else if ← queryUtility cfg env .hpi then
      instantiate env .hpi
      work
    else throw noProduct

def led : Block PUnit := viaHpi cfg env (performAndAck env request .hpi)

def setPower (driveRequest : Text) (power : String) : Text :=
  "DISK: set ".toList ++ driveRequest ++ (" " ++ power).toList

/-- External applications only see that the request was successful. -/
def simplified (hpiResponse : Text) : Text :=
  if hasWord "Success" hpiResponse then "Successful".toList else hpiResponse

def stop : Block PUnit := viaHpi cfg env do
  let driveRequest := strip (request.nodeRequest.drop 12)
  let hpiResponse ← performRequest env .hpi (setPower driveRequest "POWER_OFF")
  ack request (simplified hpiResponse)

def start : Block PUnit := viaHpi cfg env do
  let driveRequest := strip (request.nodeRequest.drop 13)
  let hpiResponse ← performRequest env .hpi (setPower driveRequest "POWER_ON")
  ack request (simplified hpiResponse)

def reset : Block PUnit := viaHpi cfg env do
  let driveRequest := strip (request.nodeRequest.drop 13)
  let hpiResponse ← performRequest env .hpi (setPower driveRequest "POWER_OFF")
  if hasWord "Success" hpiResponse then
    let hpiResponse ← performRequest env .hpi (setPower driveRequest "POWER_ON")
    ack request (simplified hpiResponse)
  else ack request hpiResponse

/-- `IGEM` is imported nowhere. -/
def bezel : Block PUnit := do
  let s ← Try.get
  if s.has .gem then performAndAck env request .gem
  else if cfg.enabled then throw noIgem
  else throw noQueryUtility

/-- `RAID` and `HDPA`: what is done goes by the state of the actuator in the table. -/
def viaTable (actuator : Actuator) (execute : Block PUnit) : Block PUnit := do
  let s ← Try.get
  match s.table actuator with
  | some .initialized =>
    if s.has actuator then execute else throw (noAttribute "NoneType" "name")
  | some .initializing => write (ackResponse request "BUSY".toList errnoEbusy)
  | some .imported => do
    Try.modify (·.setState actuator .initializing)
    if ← queryUtility cfg env actuator then
      instantiate env actuator
      execute
      Try.modify (·.setState actuator .initialized)
    else return ⟨⟩
  | none => return ⟨⟩

/-- On hardware the handler looks for the request in `json_msg`, which is by then the text of the
acknowledgement. -/
def executeRaidRequest : Block PUnit := do
  performAndAck env request .raid
  if cfg.setup ∈ ["hw".toList, "ssu".toList] then throw (noAttribute "str" "get")
  else return ⟨⟩

def raid : Block PUnit := viaTable cfg env request .raid (executeRaidRequest cfg env request)

def hdparm : Block PUnit := viaTable cfg env request .hdparm (performAndAck env request .hdparm)

def notFound : Text := "Not Found".toList

def getSerial (driveRequest : Text) : Text := "SMARTCTL: GET_SERIAL ".toList ++ driveRequest

/-- The answer of `smartctl` is an error, or the serial number stands in it after a label. -/
def readSerialNumber (driveRequest : Text) : Block (Text × Text) := do
  let response ← performRequest env .smartctl (getSerial driveRequest)
  if hasWord "error" (response.map Char.toLower) then return (notFound, response)
  else return (strip (response.drop 14), [])

/-- The serial number and the error; any exception becomes an error. -/
def retrieveSerialNumber (driveRequest : Text) : Block (Text × Text) :=
  tryCatch
    (do
      if ← load cfg env .smartctl then readSerialNumber env driveRequest
      else return (notFound, []))
    fun err => return (notFound, err)

def isPath (driveRequest : Text) : Bool := driveRequest.head? = some '/'

def smart : Block PUnit := do
  let driveRequest := strip (request.nodeRequest.drop 12)
  if driveRequest = ['*'] then forward cfg request .diskMonitor "disk_smart_test" ['*'] cfg.hostId
  else if isPath driveRequest then
    let (_, error) ← retrieveSerialNumber cfg env driveRequest
    if error ≠ [] then ack request error
    -- the message to `DiskMonitor` is made in the other branch only
    else return ⟨⟩
  else if ← load cfg env .smartctl then
    if ← Try.ofExcept (env.checkSerialNumber driveRequest) then
      forward cfg request .diskMonitor "disk_smart_test" driveRequest request.nodeRequest
    else ack request "Drive Not Found".toList
  else throw (noAttribute "NoneType" "_check_serial_number")

/-- Look the serial number up if the drive is given by its path, and pass the request on. -/
def forwardDrive (receiver : Receiver) (sensorRequestType : String)
    (driveRequest nodeRequest : Text) : Block PUnit := do
  if isPath driveRequest then
    let (serialNumber, error) ← retrieveSerialNumber cfg env driveRequest
    if error ≠ [] then ack request error
    else forward cfg request receiver sensorRequestType serialNumber nodeRequest
  else forward cfg request receiver sensorRequestType driveRequest nodeRequest

/-- The state of one drive or of all. -/
def driveStatus (sensorRequestType : String) (driveRequest : Text) : Block PUnit :=
  if driveRequest = ['*'] then
    forward cfg request .diskMsgHandler sensorRequestType ['*'] cfg.hostId
  else forwardDrive cfg env request .diskMsgHandler sensorRequestType driveRequest
    request.nodeRequest

def driveManager : Block PUnit :=
  driveStatus cfg env request "drvmngr_status" (strip (request.nodeRequest.drop 15))

def hpiStatus : Block PUnit :=
  if isEnvVm env then return ⟨⟩
  else if cfg.setup = "cortx".toList then ack request unsupportedRequest
  else driveStatus cfg env request "hpi_status" (strip (request.nodeRequest.drop 11))

def simulate : Block PUnit :=
  match (strip (request.nodeRequest.drop 9)).splitOn ' ' with
  | event :: drive :: _ =>
    if event = "SMART_FAILURE".toList then
      forwardDrive cfg env request .diskMonitor "simulate_failure" drive event
    else forwardDrive cfg env request .diskMsgHandler "sim_event" drive event
  | _ => throw indexError

/-- The actuator of the node hardware is kept before it is initialized. -/
def loadNodeHw : Block Bool := do
  let s ← Try.get
  if s.has .nodeHw then return true
  else if ← Try.ofExcept env.ipmiClient then
    instantiate env .nodeHw
    Try.ofExcept env.nodeHwInitialize
    return true
  else return false

/-- Every exception is caught here, and nothing is sent for it. -/
def nodeHw : Block PUnit :=
  tryCatch
    (do
      if ← loadNodeHw env then
        let response ← Try.ofExcept env.nodeHwPerform
        let json ← Try.ofExcept
          ((nodeHwAckResponseMsg env.ids response).mapError fun _ => indexError)
        write (.nodeHwAck json (request.uuid.map normalized))
      else return ⟨⟩)
    fun _ => return ⟨⟩

def unknownMsg : Text :=
  "NodeControllerMsgHandler, _process_msg, unknown node controller msg: ".toList ++
    request.nodeRequest

/-- `_process_msg`. -/
def processMsg : Block PUnit :=
  match componentOf request.nodeRequest with
  | .sspl => viaUtility cfg env request .commandLine
  | .led => led cfg env request
  | .beze => bezel cfg env request
  | .pdu => viaUtility cfg env request .pdu
  | .raid => raid cfg env request
  | .ipmi => viaUtility cfg env request .ipmi
  | .stop => stop cfg env request
  | .star => start cfg env request
  | .rese => reset cfg env request
  | .hdpa => hdparm cfg env request
  | .smar => smart cfg env request
  | .drvm => driveManager cfg env request
  | .hpi => hpiStatus cfg env request
  | .simu => simulate cfg env request
  | .ndhw => nodeHw env request
  | .unknown => ack request (unknownMsg request)

end

/-- The handler between two requests, and every request so far with what was written for it. -/
structure Server where
  handler : State
  log : List (Request × List Output)

/-- `run` on one request. -/
def Server.handle (cfg : Config) (s : Server) (env : Env) (request : Request) : Server :=
  let handler := ((processMsg cfg env request).run { s.handler with written := [] }).2
  { handler := handler, log := s.log ++ [(request, handler.written)] }

/-- At the start no actuator is created, and the table holds the classes that were loaded. -/
def server (cfg : Config) : Transition.System Server (Env × Request) where
  init s := (∀ actuator, s.handler.has actuator = false) ∧
    (∀ actuator state, s.handler.table actuator = some state → state = .imported) ∧ s.log = []
  next s action := some (s.handle cfg action.1 action.2)

end NodeController

end Sspl

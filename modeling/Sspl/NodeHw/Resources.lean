import Sspl.Foundation.Dict
import Sspl.Foundation.Replace
import Sspl.Iem.Message
import Sspl.NodeHw.Alerts
import Sspl.NodeHw.Sel

/-!
# Faults of server resources

Each type of resource has a handler of its own for the events of the log. What it raises a fault
alert for is kept in `faulty_resources`, by the name of the sensor, until it raises a recovery alert
for the same sensor.

As the log sometimes has no entry for a recovery, every run asks for the sensors of the faulty
resources. If one is found healthy, an event is made up that should resolve the fault, and is given
to the handler.

What ipmitool says of a sensor is a parameter of each step. An exception in a handler leaves
everything as it was, because nothing that may raise follows a change.
-/

namespace Sspl

namespace NodeHw

namespace Resources

open Iem (Text strip)

inductive Fru
  | fan
  | powerSupply
  | powerUnit
  | disk
  | temperature
  | voltage
  | current
  deriving DecidableEq

def Fru.text : Fru → String
  | .fan => "Fan"
  | .powerSupply => "Power Supply"
  | .powerUnit => "Power Unit"
  | .disk => "Drive Slot / Bay"
  | .temperature => "Temperature"
  | .voltage => "Voltage"
  | .current => "Current"

/-- `fru_types`. -/
def Fru.ofText (text : String) : Option Fru :=
  [fan, powerSupply, powerUnit, disk, temperature, voltage, current].find? (·.text = text)

/-- A value of `faulty_resources`: the event of the log that was taken for a fault, and by which
handler. -/
structure FaultyResource where
  status : String
  event : String
  deviceId : String
  fruType : Fru
  deriving DecidableEq

abbrev FaultyResources := Dict String FaultyResource

/-- What `_get_sensor_props` reads. -/
structure SensorProps where
  common : Dict String String
  specific : Dict String String
  dynamic : Dict String String

/-- What `_get_sensor_sdr_props` reads. -/
structure SdrProps where
  dynamic : Dict String String
  static : Dict String String

/-- What ipmitool says while a handler runs: `none` if the command fails. -/
structure Ipmi where
  sensorProps : String → Except PyErr (Option SensorProps)
  sdrProps : String → Except PyErr (Option SdrProps)

/-- What the handlers use of the sensor. -/
structure Env where
  sensorIdMap : Fru → Dict String String
  /-- `is_fru` of the name of the FRU. -/
  isFru : String → String
  ipmi : Ipmi

/-- The arguments of a handler; the date and the time are those of the event, if they parse. -/
structure Call where
  eventTime : Except PyErr String
  deviceId : String
  sensorNum : Option String
  event : String
  status : String
  isLast : Bool

structure Message where
  resourceType : String
  alertType : AlertType
  severity : String
  fru : Option String
  resourceId : String
  eventTime : String
  description : String
  impact : Option String
  recommendation : Option String
  specificInfo : Dict String String

def lower (text : String) : Text := text.toList.map Char.toLower

/-- `text.split(" ")[-1]`. -/
def lastWord (text : String) : String :=
  String.ofList (text.toList.reverse.takeWhile (· ≠ ' ')).reverse

/-- `re.sub(',  +', ', ', text)`; the flag is set after a match. -/
def squeeze : Bool → Text → Text
  | _, [] => []
  | skip, c :: rest =>
    if skip = true ∧ c = ' ' then squeeze true rest
    else if [',', ' ', ' '] <+: c :: rest then ',' :: ' ' :: squeeze true rest
    else c :: squeeze false rest

/-- The text without brackets, on one line. -/
def tidy (text : String) : String :=
  String.ofList (squeeze false (((text.toList.filter fun c => decide (c ≠ '[' ∧ c ≠ ']')).map
    fun c => if c = '\n' then ',' else c)))

def tidyKeys : List String :=
  ["Deassertions Enabled", "Assertions Enabled", "States Asserted", "Assertion Events"]

def tidyProps (props : Dict String String) : Dict String String :=
  tidyKeys.foldl (fun props key =>
    match props.get? key with
    | some value => props.set key (tidy value)
    | none => props) props

def formatChars : List String → Text → Text
  | _, [] => []
  | arg :: args, '\x7b' :: '\x7d' :: rest => arg.toList ++ formatChars args rest
  | args, c :: rest => c :: formatChars args rest

/-- `text.format(*args)`. -/
def format (text : String) (args : List String) : String :=
  String.ofList (formatChars args text.toList)

/-- `re.search(r'\d+', text)`. -/
def firstNumber (text : String) : Option String :=
  let digits := (text.toList.dropWhile (! ·.isDigit)).takeWhile Char.isDigit
  if digits = [] then none else some (String.ofList digits)

def hasWord (word text : String) : Bool := decide (word.toList <:+: text.toList)

def replace (old new text : String) : String :=
  String.ofList (Replace.replaceAll old.toList new.toList text.toList)

/-- `sensor_id_map[fru][sensor_num]`. -/
def Env.sensorId (env : Env) (fru : Fru) (sensorNum : Option String) : Except PyErr String :=
  match sensorNum.bind (env.sensorIdMap fru).get? with
  | some sensorId => .ok sensorId
  | none => .error .keyError

/-- What an alert does to `faulty_resources`. -/
inductive Verdict
  | fault
  | recovery
  | neither
  deriving DecidableEq

/-- The alert types of a handler that enter and that remove a resource. -/
def verdict (faults recoveries : List AlertType) (type : AlertType) : Verdict :=
  if type ∈ faults then .fault else if type ∈ recoveries then .recovery else .neither

def Verdict.record (v : Verdict) (sensorId : String) (resource : FaultyResource)
    (faulty : FaultyResources) : FaultyResources :=
  match v with
  | .fault => faulty.set sensorId resource
  | .recovery => if (faulty.get? sensorId).isSome then faulty.erase sensorId else faulty
  | .neither => faulty

/-- The message that is sent and the resources that are kept; `none` if the handler does nothing. -/
abbrev Handled := Except PyErr (Option (Message × FaultyResources))

def fanSpecificList : List String :=
  ["Sensor Reading", "Lower Non-Recoverable", "Upper Non-Recoverable", "Upper Non-Critical",
    "Lower Critical", "Lower Non-Critical", "Upper Critical", "Fully Redundant", "State Asserted",
    "State Deasserted"]

/-- `fan_state`. -/
def fanState (event : String) : Option String :=
  fanSpecificList.find? (fun specific => decide (lower specific <:+: lower event))

def fanVerdict : AlertType → Verdict := verdict [.fault] [.faultResolved]

def parseFanInfo (env : Env) (call : Call) (faulty : FaultyResources) : Handled := do
  let event := String.ofList (strip call.event.toList)
  let status := String.ofList (strip call.status.toList)
  let sensorName ← env.sensorId .fan call.sensorNum
  match (fanState event).bind (fun state => lookup fanAlerts state status) with
  | none => return none
  | some alert =>
    match ← env.ipmi.sensorProps sensorName with
    | none => throw .typeError
    | some props =>
      let specific : Dict String String := Dict.empty.update
        (props.specific.items.filter (·.1 ∈ fanSpecificList))
      let fanInfo := specific.update
        [("fru_id", call.deviceId), ("event", status ++ " - " ++ event)]
      let eventTime ← call.eventTime
      return some (
        { resourceType := "node:hw:fan"
          alertType := alert.type
          severity := alert.severity
          fru := some (env.isFru "fan")
          resourceId := sensorName
          eventTime := eventTime
          description := format alert.description [sensorName, call.deviceId]
          impact := some alert.impact
          recommendation := some alert.recommendation
          specificInfo := if call.isLast then fanInfo.update props.dynamic.items else fanInfo },
        (fanVerdict alert.type).record sensorName ⟨status, event, call.deviceId, .fan⟩ faulty)

/-- Where a power supply or a disk is: its number, and its name with the number of its sensor. -/
def portName (opening sensorId : String) (sensorNum : Option String) : String :=
  let num := sensorNum.getD "None"
  if hasWord "Status" sensorId then replace "Status" ("(0x" ++ num ++ ")") sensorId
  else sensorId ++ opening ++ num ++ ")"

def supplyVerdict : AlertType → Verdict := verdict [.fault, .missing] [.faultResolved, .insertion]

/-- The specific info of a power supply or a power unit. -/
def sdrInfo (call : Call) (props : SdrProps) : Dict String String :=
  let info := tidyProps ((Dict.empty.set "fru_id" call.deviceId).update props.static.items)
  if call.isLast then info.update props.dynamic.items else info

def parsePsuSupplyInfo (env : Env) (call : Call) (faulty : FaultyResources) : Handled := do
  let sensorId ← env.sensorId .powerSupply call.sensorNum
  let portNum := (firstNumber sensorId).getD "None"
  let port := portName "(" sensorId call.sensorNum
  match lookup powerSupplyAlerts call.event call.status with
  | none => return none
  | some alert =>
    let eventTime ← call.eventTime
    match ← env.ipmi.sdrProps sensorId with
    | none => throw .typeError
    | some props => return some (
        { resourceType := "node:hw:psu"
          alertType := alert.type
          severity := alert.severity
          fru := some (env.isFru "psu")
          resourceId := call.deviceId
          eventTime := eventTime
          description := format alert.description [portNum, port]
          impact := some alert.impact
          recommendation := some alert.recommendation
          specificInfo := sdrInfo call props },
        (supplyVerdict alert.type).record sensorId
          ⟨call.status, call.event, call.deviceId, .powerSupply⟩ faulty)

def powerUnitVerdict : AlertType → Verdict := verdict [.fault] [.faultResolved, .miscellaneous]

def parsePsuUnitInfo (env : Env) (call : Call) (faulty : FaultyResources) : Handled := do
  let sensorId ← env.sensorId .powerUnit call.sensorNum
  let eventTime ← call.eventTime
  match lookupPowerUnit call.event call.status with
  | none => return none
  | some (alertType, severity) =>
    match ← env.ipmi.sdrProps sensorId with
    | none => throw .typeError
    | some props => return some (
        { resourceType := "node:hw:psu"
          alertType := alertType
          severity := severity
          fru := some (env.isFru "psu")
          resourceId := call.deviceId
          eventTime := eventTime
          description := call.event
          impact := none
          recommendation := none
          specificInfo := sdrInfo call props },
        (powerUnitVerdict alertType).record sensorId
          ⟨call.status, call.event, call.deviceId, .powerUnit⟩ faulty)

def diskVerdict : AlertType → Verdict := verdict [.fault, .missing] [.faultResolved, .insertion]

def noProps : Dict String String :=
  Dict.empty.update [("States Asserted", "N/A"), ("Sensor Type (Discrete)", "N/A")]

def parseDiskInfo (env : Env) (call : Call) (faulty : FaultyResources) : Handled := do
  let sensorId ← env.sensorId .disk call.sensorNum
  let diskSlot := (firstNumber sensorId).getD "None"
  let diskName := portName " (0x" sensorId call.sensorNum
  match ← env.ipmi.sensorProps sensorId with
  | none => return none
  | some props =>
    if props.common.items = [] then return none
    else
      let specific := if props.specific.items = [] then noProps else props.specific
      match lookup diskAlerts call.event call.status with
      | none => return none
      | some alert =>
        let eventTime ← call.eventTime
        let specific := specific.set "fru_id" diskName
        let specific := if call.isLast then specific.update props.dynamic.items else specific
        return some (
          { resourceType := "node:hw:disk"
            alertType := alert.type
            severity := alert.severity
            fru := some (env.isFru "disk")
            resourceId := diskName
            eventTime := eventTime
            description := format alert.description [diskSlot, diskName]
            impact := some alert.impact
            recommendation := some alert.recommendation
            specificInfo := tidyProps specific },
          (diskVerdict alert.type).record sensorId
            ⟨call.status, call.event, call.deviceId, .disk⟩ faulty)

/-- What is done for an event of a threshold. -/
def thresholdVerdict (status : String) : Verdict :=
  if lower status = "asserted".toList then .fault
  else if lower status = "deasserted".toList then .recovery
  else .neither

/-- The handlers of the sensors. The type of the alert is only bound if the event ends in `low` or
`high`, in any case. -/
def parseThresholdInfo (fru : Fru) (resourceType : String) (env : Env) (call : Call)
    (faulty : FaultyResources) : Handled := do
  let sensorName ← env.sensorId fru call.sensorNum
  let threshold := lastWord call.event
  if lower threshold ∉ ["low".toList, "high".toList] then throw .other
  else
    match mapSeverity (.thresholdBreached threshold) with
    | none => throw .other
    | some severity =>
      match ← env.ipmi.sensorProps sensorName with
      | none => throw .typeError
      | some props =>
        let info := ((Dict.empty.update props.common.items).update props.specific.items).set
          "fru_id" call.deviceId
        let eventTime ← call.eventTime
        return some (
          { resourceType := resourceType
            alertType := .thresholdBreached threshold
            severity :=
              if lower call.status = "deasserted".toList then "informational" else severity
            fru := none
            resourceId := sensorName
            eventTime := eventTime
            description := call.event
            impact := none
            recommendation := none
            specificInfo := if call.isLast then info.update props.dynamic.items else info },
          (thresholdVerdict call.status).record sensorName
            ⟨call.status, call.event, call.deviceId, fru⟩ faulty)

def parseTemperatureInfo : Env → Call → FaultyResources → Handled :=
  parseThresholdInfo .temperature "node:sensor:temperature"

def parseVoltageInfo : Env → Call → FaultyResources → Handled :=
  parseThresholdInfo .voltage "node:sensor:voltage"

def parseCurrentInfo : Env → Call → FaultyResources → Handled :=
  parseThresholdInfo .current "node:sensor:current"

def handler : Fru → Env → Call → FaultyResources → Handled
  | .fan => parseFanInfo
  | .powerSupply => parsePsuSupplyInfo
  | .powerUnit => parsePsuUnitInfo
  | .disk => parseDiskInfo
  | .temperature => parseTemperatureInfo
  | .voltage => parseVoltageInfo
  | .current => parseCurrentInfo

end Resources

end NodeHw

end Sspl

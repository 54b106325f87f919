import Mathlib.Data.List.DropRight
import Sspl.Iem.Outstanding

/-!
# Lines of the IEM log

A line of the log is the time stamp up to the first blank, the host, a tag and the message,
in which the IEM begins with the word `IEC`:

    IEC:BO1001000001:Error in connecting to controller

that is the severity, the source, the component, the module and the event, and after a colon
the description. A line whose IEM has a wrong field is discarded with a warning; a line
without a blank or without the word raises, and so does one of this component (`005`) with an
event that is not in `EVENT_STRING`.
-/

namespace Sspl

namespace Iem

abbrev Text := List Char

/-- Found once for all modules, so that they decide it alike. -/
instance Text.decidableMem (text : Text) (texts : List Text) : Decidable (text ∈ texts) :=
  List.instDecidableMemOfLawfulBEq text texts

def rstrip (text : Text) : Text := (text.reverse.dropWhile isSpace).reverse

def strip (text : Text) : Text := (rstrip text).dropWhile isSpace

theorem strip_strip (text : Text) : strip (strip text) = strip text := by
  have closed : rstrip (strip text) = strip text := by
    refine List.rdropWhile_eq_self_iff.mpr ?_
    intro some_
    have tail : strip text <:+ rstrip text := List.dropWhile_suffix _
    rw [tail.getLast some_]
    exact List.rdropWhile_last_not isSpace text (tail.ne_nil some_)
  rw [strip, closed]
  exact List.dropWhile_idempotent isSpace _

/-- No part of a text has the separator in it. -/
theorem notMem_of_mem_splitOn {separator : Char} {text part : Text}
    (mem : part ∈ text.splitOn separator) : separator ∉ part := by
  induction text generalizing part with
  | nil =>
      rw [List.splitOn_nil, List.mem_singleton] at mem
      simp [mem]
  | cons c rest ih =>
      rw [List.splitOn_cons_eq_if_modifyHead] at mem
      split at mem
      · obtain rfl | mem := List.mem_cons.mp mem
        · simp
        · exact ih mem
      · rename_i other
        cases parts : rest.splitOn separator with
        | nil => exact absurd parts (List.splitOn_ne_nil _ _)
        | cons head tail =>
            rw [parts] at mem ih
            obtain rfl | mem := List.mem_cons.mp mem
            · have plain := ih List.mem_cons_self
              simp only [List.mem_cons, not_or]
              exact ⟨fun same => other (by simp [← same]), plain⟩
            · exact ih (List.mem_cons_of_mem _ mem)

/-- `text[text.find(word):]`, if the word occurs. -/
def findFrom (word : Text) : Text → Option Text
  | [] => if word = [] then some [] else none
  | c :: rest => if word <+: c :: rest then some (c :: rest) else findFrom word rest

/-- `text[:text.index(" ")]`, which raises if there is no blank. -/
def logTimestamp (text : Text) : Except PyErr Text :=
  if ' ' ∈ text then .ok (text.takeWhile (· ≠ ' ')) else .error .valueError

def severityLevels : List Char := ['A', 'X', 'E', 'W', 'N', 'C', 'I', 'D', 'B']

def sourceIds : List Char := ['S', 'H', 'F', 'O']

/-- `iem_severity_types`. -/
def severityType : Char → String
  | 'A' => "alert"
  | 'X' => "critical"
  | 'E' => "error"
  | 'W' => "warning"
  | 'N' => "notice"
  | 'C' => "configuration"
  | 'I' => "informational"
  | 'D' => "detail"
  | 'B' => "debug"
  | c => String.ofList [c]

/-- `iem_severity_to_alert_mapping`. -/
def severityAlert : Char → Option String
  | 'A' | 'X' | 'E' => some "fault"
  | 'I' => some "fault_resolved"
  | 'W' | 'N' | 'C' | 'D' | 'B' => some "get"
  | _ => none

/-- `iem_source_types`. -/
def sourceType : Char → String
  | 'H' => "Hardware"
  | 'S' => "Software"
  | 'F' => "Firmware"
  | 'O' => "OS"
  | c => String.ofList [c]

structure Components where
  severity : Char
  sourceId : Char
  componentId : Text
  moduleId : Text
  eventId : Text
  description : Text
  deriving DecidableEq

/-- The dictionary `info` of an IEM, from which the alert is made. -/
structure Info where
  sourceId : String
  componentId : Text
  moduleId : Text
  eventId : Text
  severity : String
  description : Text
  impact : String
  recommendation : String
  alertType : Option String
  eventTime : Int
  iec : Text
  deriving DecidableEq

/-- A row of the mapping file of a component. -/
structure EventRow where
  code : Text
  moduleName : Text
  eventName : Text
  deriving DecidableEq

/-- What the node supplies: the epoch time of a time stamp with the format of `strptime`, in
the local time zone, and the mapping files in `IEC_MAPPING_DIR_PATH`. Of a row the cells that
are looked at are given; the file `components` has a number and a name in each row, and the
file with the name of a component has the codes of its events. -/
structure Environment where
  mktime : Text → Option Int
  components : Option (List (Text × Text))
  mapping : Text → Option (List EventRow)

/-- `_get_iem`. -/
def getIem (log : Text) : Except PyErr (Option Text) :=
  if strip log = [] then .error .typeError else .ok (findFrom "IEC".toList log)

/-- `_extract_iem_components`. -/
def extractIemComponents (iem : Option Text) : Except PyErr (Option Components) :=
  match iem with
  | none => .error .typeError
  | some text =>
    if strip text = [] then .error .typeError
    else
      match (strip (text.drop 4)).splitOn ':' with
      | iec :: part :: parts =>
        match iec with
        | severity :: sourceId :: rest =>
          if iec.length < 12 then .ok none
          else .ok (some ⟨severity, sourceId, rest.take 3, (rest.drop 3).take 3, rest.drop 6,
            [':'].intercalate (part :: parts)⟩)
        | _ => .ok none
      | _ => .ok none

/-- `_are_components_in_range`. -/
def areComponentsInRange (c : Components) : Bool :=
  match hexInt c.componentId, hexInt c.moduleId, hexInt c.eventId with
  | some component, some module, some event =>
    1 ≤ component && component ≤ 0x100 && 1 ≤ module && module ≤ 0x100 &&
      1 ≤ event && event ≤ 0x2710
  | _, _, _ => false

section

variable (env : Environment)

/-- `_get_epoch_time_from_timestamp`, which takes the colon out of the time zone. -/
def getEpochTime (timestamp : Text) : Option Int :=
  env.mktime (timestamp.take (timestamp.length - 3) ++ timestamp.drop (timestamp.length - 2))

/-- `_get_component`: the name in the first row with the number. -/
def getComponent (component : Text) : Option Text :=
  env.components.bind fun rows => (rows.find? fun row => row.1 = component).map Prod.snd

/-- `_decode_msg`. A component that has no name, or an empty one, is given as it is, and so is
an event that is not in the file of its component. -/
def decodeMsg (code : Text) : Text × Text × Text :=
  let componentId := code.take 3
  let moduleId := (code.drop 3).take 3
  let eventId := code.drop 6
  match getComponent env componentId with
  | some component =>
    if component = [] then (componentId, moduleId, eventId)
    else
      match (env.mapping component).bind (·.find? fun row => row.code = code) with
      | some row => (component, row.moduleName, row.eventName)
      | none => (component, moduleId, eventId)
  | none => (componentId, moduleId, eventId)

def makeInfo (c : Components) (impact recommendation : String) (eventTime : Int) : Info :=
  let decoded := decodeMsg env (c.componentId ++ c.moduleId ++ c.eventId)
  { sourceId := sourceType c.sourceId
    componentId := decoded.1
    moduleId := decoded.2.1
    eventId := decoded.2.2
    severity := severityType c.severity
    description := c.description
    impact
    recommendation
    alertType := severityAlert c.severity
    eventTime
    iec := c.severity :: c.sourceId :: c.componentId ++ c.moduleId ++ c.eventId }

/-- `_send_msg`, up to the message that it sends, if any. -/
def sendMsg (c : Components) (timestamp : Text) : Except PyErr (Option Info) :=
  if c.severity ∉ severityLevels ∨ c.sourceId ∉ sourceIds then .ok none
  else
    match getEpochTime env timestamp with
    | none => .ok none
    | some eventTime =>
      if areComponentsInRange c = false then .ok none
      else if c.componentId = "005".toList then
        let code := c.componentId ++ c.moduleId ++ c.eventId
        match Event.all.find? fun event => decide (event.code.toList = code) with
        | some event => .ok (some (makeInfo env c event.impact event.recommendation eventTime))
        | none => .error .keyError
      else .ok (some (makeInfo env c "NA" "NA" eventTime))

/-- `_process_iem`: the message that is sent, if any, and the time stamp that is written then. -/
def processIem (iemLog : Text) : Except PyErr (Option Info × Text) := do
  let timestamp ← logTimestamp iemLog
  let iem ← getIem iemLog
  match ← extractIemComponents iem with
  | some components => return (← sendMsg env components timestamp, timestamp)
  | none => return (none, timestamp)

end

end Iem

end Sspl

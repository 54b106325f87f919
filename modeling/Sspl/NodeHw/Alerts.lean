import Mathlib.Data.List.Infix

/-!
# The alerts of server resources

For three types of resources the alerts are in `alert_for_event`, by the text of the event and
by its status. The events of a power unit have a table of their own in the handler.
-/

namespace Sspl

namespace NodeHw

namespace Resources

inductive AlertType
  | fault
  | faultResolved
  | missing
  | insertion
  | thresholdBreached (threshold : String)
  | miscellaneous
  deriving DecidableEq

def AlertType.text : AlertType → String
  | .fault => "fault"
  | .faultResolved => "fault_resolved"
  | .missing => "missing"
  | .insertion => "insertion"
  | .thresholdBreached threshold => "threshold_breached:" ++ threshold
  | .miscellaneous => "miscellaneous"

/-- The fields of `AlertInfo`. -/
structure Alert where
  type : AlertType
  severity : String
  description : String
  impact : String
  recommendation : String
  deriving DecidableEq

/-- The alerts of events that differ in their text only. -/
structure Row where
  events : List String
  asserted : Alert
  deasserted : Alert

def Row.alert (row : Row) (status : String) : Option Alert :=
  if status = "Asserted" then some row.asserted
  else if status = "Deasserted" then some row.deasserted
  else none

/-- `table[event][status]`; `none` is the `KeyError`. -/
def lookup (table : List Row) (event status : String) : Option Alert :=
  (table.find? (fun row => event ∈ row.events)).bind (·.alert status)

/-- `alert_for_event["Drive Slot / Bay"]`. -/
def diskAlerts : List Row := [
  { events := ["Drive Present", "Drive Present ()"]
    asserted :=
      ⟨.insertion, "informational",
        "Disk is inserted in slot '0'. [\x7b\x7d]",
        "None",
        "None"⟩
    deasserted :=
      ⟨.missing, "critical",
        "Disk is missing/removed from slot '\x7b\x7d'. [\x7b\x7d]",
        "Server availability may get impacted if redundant drive goes bad or missing.",
        "Please insert back the missing drive soon."⟩ },
  { events := ["Drive Fault", "Drive Fault ()"]
    asserted :=
      ⟨.fault, "critial",
        "Disk in slot '\x7b\x7d' is faulty. [\x7b\x7d]",
        "Disk functioning may get impacted if left unaddressed.",
        "Please replace the faulty drive with a healthy one."⟩
    deasserted :=
      ⟨.faultResolved, "informational",
        "Disk in slot '\x7b\x7d' has recovered. [\x7b\x7d]",
        "Disk is in good health now.",
        "None"⟩ }]

/-- `alert_for_event["Power Supply"]`. -/
def powerSupplyAlerts : List Row := [
  { events := ["Presence detected", "Presence detected ()"]
    asserted :=
      ⟨.insertion, "informational",
        "'Power Supply \x7b\x7d' is present. [\x7b\x7d]",
        "Power Supply Port is being monitored.",
        "None"⟩
    deasserted :=
      ⟨.missing, "critical",
        "'Power Supply \x7b\x7d', is missing. [\x7b\x7d]",
        "Power supply redundancy is affected, if more power supplies go down or missing, server " ++
          "may go offline.",
        "Please install the missing Power supply immediately."⟩ },
  { events := ["Predictive failure", "Predictive failure ()"]
    asserted :=
      ⟨.fault, "warning",
        "Failure is predicted for 'Power Supply \x7b\x7d'. [\x7b\x7d]",
        "Power Supply Redundancy will be affected. If more power supplies go down or missing, " ++
          "server may go offline.",
        "Please replace the faulty Power supply soon."⟩
    deasserted :=
      ⟨.faultResolved, "informational",
        "No Failure threat anymore for 'Power Supply \x7b\x7d'. [\x7b\x7d]",
        "Power Supply regained the healthy state.",
        "None"⟩ },
  { events := ["Failure detected", "Failure detected ()"]
    asserted :=
      ⟨.fault, "error",
        "Failure detected for 'Power Supply \x7b\x7d'. [\x7b\x7d]",
        "Power Supply Redundancy is affected. If more power supplies go down or missing, server " ++
          "may go offline.",
        "Please replace the faulty Power Supply immediately."⟩
    deasserted :=
      ⟨.faultResolved, "informational",
        "'Power Supply \x7b\x7d' recovered from the failure. [\x7b\x7d]",
        "Power Supply regained the healthy state.",
        "None"⟩ },
  { events := ["Config Error", "Config Error ()"]
    asserted :=
      ⟨.fault, "error",
        "'Power Supply \x7b\x7d' has configuration error. [\x7b\x7d]",
        "Power Supply Redundancy is affected. If error is not fixed, and other power supplies " ++
          "go down, server may go offline.",
        "Please Contact Seagate Support."⟩
    deasserted :=
      ⟨.faultResolved, "informational",
        "Configuration error resolved for 'Power Supply \x7b\x7d'. [\x7b\x7d]",
        "Power Supply regained the healthy state.",
        "None"⟩ },
  { events := ["Power Supply AC lost", "Power Supply AC lost ()"]
    asserted :=
      ⟨.fault, "critical",
        "'Power Supply \x7b\x7d' lost the AC supply. [\x7b\x7d]",
        "Power Supply Redundancy is affected. If more power supplies go down or missing, server " ++
          "may go offline.",
        "Check power supply cable connectivity. If power cable is connected, cable might be " ++
          "faulty, please check & replace."⟩
    deasserted :=
      ⟨.faultResolved, "informational",
        "'Power Supply \x7b\x7d' regained the AC Supply. [\x7b\x7d]",
        "Power Supply regained the healthy state.",
        "None"⟩ },
  { events := ["Power Supply Inactive", "Power Supply Inactive ()"]
    asserted :=
      ⟨.fault, "critical",
        "'Power Supply \x7b\x7d' is inactive. [\x7b\x7d]",
        "Power Supply Redundancy is affected. If more power supplies go down or missing, server " ++
          "may go offline.",
        "Try removing Power supply unit & inserting back, and check if recovered. If still " ++
          "inactive, PSU may need replacement."⟩
    deasserted :=
      ⟨.faultResolved, "informational",
        "'Power Supply \x7b\x7d' is active now. [\x7b\x7d]",
        "Power Supply regained the healthy state.",
        "None"⟩ }]

/-- The rows of the thresholds of a fan. -/
def fanThreshold (name breached resolved : String) : Row where
  events := [name, name ++ " ()"]
  asserted :=
    ⟨.fault, "critical",
      name ++ " threshold breached for '\x7b\x7d'. [\x7b\x7d]" ++ breached,
      "Other System Fans may adjust speed to maintain optimal server temperature.",
      "System should recover by itself overtime.However, If issue persists for long, contact " ++
        "Seagate support"⟩
  deasserted := ⟨.faultResolved, "informational", resolved, "None", "None"⟩

/-- `alert_for_event["Fan"]`. -/
def fanAlerts : List Row := [
  { events := ["Fully Redundant", "Fully Redundant ()"]
    asserted :=
      ⟨.faultResolved, "informational",
        "'\x7b\x7d Sensor' has recovered from a failure. [\x7b\x7d]",
        "None",
        "None"⟩
    deasserted :=
      ⟨.fault, "critical",
        "'\x7b\x7d Sensor', lost redundancy . [\x7b\x7d]",
        "Other System Fans may adjust speed to maintain optimal server temperature.",
        "Rectify Fan issue soon. If not sure, contact Seagate Support,as persistent problem may " ++
          "impact server availability."⟩ },
  fanThreshold "Lower Non-Recoverable" ".Its outside expected limits"
    "'\x7b\x7d Sensor has recovered from the failure'. [\x7b\x7d]",
  fanThreshold "Lower Critical" ".Its outside expected limits"
    "'\x7b\x7d Sensor' recovered from the failure. [\x7b\x7d]",
  fanThreshold "Lower Non-Critical" ".Its outside expected limits"
    "'\x7b\x7d Sensor' recovered from the failure. [\x7b\x7d]",
  fanThreshold "Upper Non-Critical" ".Its outside expected limits"
    "'\x7b\x7d Sensor' recovered from the failure. [\x7b\x7d]",
  fanThreshold "Upper Critical" "Its outside expected limits"
    "'\x7b\x7d Sensor' recovered from the failure. [\x7b\x7d]",
  fanThreshold "Upper Non-Recoverable" "Its outside expected limits"
    "'\x7b\x7d Sensor' recovered from the failure. [\x7b\x7d]"]

/-- `alerts` in `_parse_psu_unit_info`. -/
def powerUnitAlerts : List ((String × String) × AlertType × String) := [
  (("240VA power down", "Asserted"), .fault, "critical"),
  (("240VV power down", "Deasserted"), .faultResolved, "informational"),
  (("AC lost", "Asserted"), .fault, "critical"),
  (("AC lost", "Deasserted"), .faultResolved, "informational"),
  (("Failure detected", "Asserted"), .fault, "critical"),
  (("Failure detected", "Deasserted"), .faultResolved, "informational"),
  (("Failure detected ()", "Asserted"), .fault, "critical"),
  (("Failure detected ()", "Deasserted"), .faultResolved, "informational"),
  (("Power off/down", "Asserted"), .fault, "critical"),
  (("Power off/down", "Deasserted"), .faultResolved, "informational"),
  (("Soft-power control failure", "Asserted"), .fault, "warning"),
  (("Soft-power control failure", "Deasserted"), .faultResolved, "informational"),
  (("Fully Redundant", "Asserted"), .faultResolved, "informational"),
  (("Fully Redundant", "Deasserted"), .fault, "warning"),
  (("Non-Redundant: Insufficient Resources", "Asserted"), .fault, "critical"),
  (("Non-Redundant: Insufficient Resources", "Deasserted"), .faultResolved, "informational"),
  (("Non-Redundant: Sufficient from Insufficient", "Asserted"), .fault, "warning"),
  (("Non-Redundant: Sufficient from Insufficient", "Deasserted"), .fault, "warning"),
  (("Non-Redundant: Sufficient from Redundant", "Asserted"), .fault, "warning"),
  (("Non-Redundant: Sufficient from Redundant", "Deasserted"), .fault, "informational"),
  (("Redundancy Degraded", "Asserted"), .fault, "warning"),
  (("Redundancy Degraded", "Deasserted"), .faultResolved, "informational"),
  (("Redundancy Degraded from Fully Redundant", "Asserted"), .fault, "warning"),
  (("Redundancy Degraded from Fully Redundant", "Deasserted"), .faultResolved, "warning"),
  (("Redundancy Degraded from Non-Redundant", "Asserted"), .fault, "critical"),
  (("Redundancy Degraded from Non-Redundant", "Deasserted"), .faultResolved, "warning"),
  (("Redundancy Lost", "Asserted"), .fault, "warning"),
  (("Redundancy Lost", "Deasserted"), .faultResolved, "informational")]

/-- `alerts[(event, status)]`. -/
def lookupPowerUnit (event status : String) : Option (AlertType × String) :=
  (powerUnitAlerts.find? (fun row => row.1 = (event, status))).map Prod.snd

/-- `SeverityReader.map_severity`; `none` is the exception it raises. -/
def mapSeverity : AlertType → Option String
  | .fault => some "critical"
  | .faultResolved => some "informational"
  | .missing => some "critical"
  | .insertion => some "informational"
  | .thresholdBreached "low" => some "warning"
  | .thresholdBreached "high" => some "warning"
  | _ => none

end Resources

end NodeHw

end Sspl

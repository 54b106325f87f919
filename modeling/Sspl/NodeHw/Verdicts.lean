import Sspl.NodeHw.Resources
import Sspl.Python.Value

/-!
# What the handlers decide

The text of an event and its status decide what a handler does to the faulty resources. It comes
to that if the sensor is found under its number, if ipmitool reads what the handler asks for and
if the time of the event parses.
-/

namespace Sspl

namespace NodeHw

namespace Resources

open Iem (strip)

def stripped (text : String) : String := String.ofList (strip text.toList)

theorem stripped_stripped (text : String) : stripped (stripped text) = stripped text := by
  rw [stripped, stripped, String.toList_ofList, Iem.strip_strip]

/-- What the alert for an event does; `none` if the handler has no alert for it. -/
def judge : Fru → String → String → Option Verdict
  | .fan, event, status =>
    ((fanState (stripped event)).bind (fun state => lookup fanAlerts state (stripped status))).map
      (fanVerdict ·.type)
  | .powerSupply, event, status =>
    (lookup powerSupplyAlerts event status).map (supplyVerdict ·.type)
  | .powerUnit, event, status => (lookupPowerUnit event status).map (powerUnitVerdict ·.1)
  | .disk, event, status => (lookup diskAlerts event status).map (diskVerdict ·.type)
  | _, event, status =>
    if lastWord event ∈ ["low", "high"] then some (thresholdVerdict status) else none

theorem judge_fan (event status : String) : judge .fan event status =
    ((fanState (stripped event)).bind (fun state => lookup fanAlerts state (stripped status))).map
      (fanVerdict ·.type) := rfl

theorem judge_powerSupply (event status : String) : judge .powerSupply event status =
    (lookup powerSupplyAlerts event status).map (supplyVerdict ·.type) := rfl

theorem judge_powerUnit (event status : String) : judge .powerUnit event status =
    (lookupPowerUnit event status).map (powerUnitVerdict ·.1) := rfl

theorem judge_disk (event status : String) : judge .disk event status =
    (lookup diskAlerts event status).map (diskVerdict ·.type) := rfl

/-- ipmitool reads what the handler asks for. -/
def Reads (ipmi : Ipmi) (name : String) : Fru → Prop
  | .powerSupply => ∃ props, ipmi.sdrProps name = .ok (some props)
  | .powerUnit => ∃ props, ipmi.sdrProps name = .ok (some props)
  | .disk => ∃ props, ipmi.sensorProps name = .ok (some props) ∧ props.common.items ≠ []
  | _ => ∃ props, ipmi.sensorProps name = .ok (some props)

/-- What is kept of a faulty resource. -/
def Call.resource (call : Call) : Fru → FaultyResource
  | .fan => ⟨stripped call.status, stripped call.event, call.deviceId, .fan⟩
  | fru => ⟨call.status, call.event, call.deviceId, fru⟩

/-- Alerts that say a resource has recovered. -/
def Message.Recovery (m : Message) : Prop :=
  m.alertType = .faultResolved ∨ m.alertType = .insertion ∨
    (∃ threshold, m.alertType = .thresholdBreached threshold) ∧ m.severity = "informational"

/-- The handler sends an alert for the sensor. -/
structure Raises (fru : Fru) (env : Env) (call : Call) (name : String) (v : Verdict) : Prop where
  found : env.sensorId fru call.sensorNum = .ok name
  judged : judge fru call.event call.status = some v
  reads : Reads env.ipmi name fru
  time : ∃ time, call.eventTime = .ok time

/-- The alert types of the tables. -/
def tableTypes : List AlertType := [.fault, .faultResolved, .missing, .insertion]

def Row.types (row : Row) : List AlertType := [row.asserted.type, row.deasserted.type]

theorem type_of_lookup {table : List Row} {types : List AlertType} {event status : String}
    {alert : Alert} (rows : ∀ row ∈ table, ∀ type ∈ row.types, type ∈ types)
    (found : lookup table event status = some alert) : alert.type ∈ types := by
  obtain ⟨row, first, read⟩ := Option.bind_eq_some_iff.mp found
  have mem := List.mem_of_find?_eq_some first
  rw [Row.alert] at read
  split at read
  · cases read
    exact rows row mem _ (by simp [Row.types])
  · split at read
    · cases read
      exact rows row mem _ (by simp [Row.types])
    · cases read

theorem fan_types {event status : String} {alert : Alert}
    (found : lookup fanAlerts event status = some alert) :
    alert.type ∈ [AlertType.fault, .faultResolved] :=
  type_of_lookup (by decide +kernel) found

theorem powerSupply_types {event status : String} {alert : Alert}
    (found : lookup powerSupplyAlerts event status = some alert) : alert.type ∈ tableTypes :=
  type_of_lookup (by decide +kernel) found

theorem disk_types {event status : String} {alert : Alert}
    (found : lookup diskAlerts event status = some alert) : alert.type ∈ tableTypes :=
  type_of_lookup (by decide +kernel) found

theorem powerUnit_types {event status : String} {alert : AlertType × String}
    (found : lookupPowerUnit event status = some alert) :
    alert.1 ∈ [AlertType.fault, .faultResolved] := by
  have rows : ∀ row ∈ powerUnitAlerts, row.2.1 ∈ [AlertType.fault, .faultResolved] := by
    decide +kernel
  obtain ⟨row, first, rfl⟩ := Option.map_eq_some_iff.mp found
  exact rows row (List.mem_of_find?_eq_some first)

theorem recovery_iff_supply {m : Message} (type : m.alertType ∈ tableTypes) :
    m.Recovery ↔ supplyVerdict m.alertType = .recovery := by
  obtain ⟨resourceType, alertType⟩ := m
  simp only [tableTypes, List.mem_cons, List.not_mem_nil, or_false] at type
  obtain rfl | rfl | rfl | rfl := type <;> simp [Message.Recovery, supplyVerdict, verdict]

theorem recovery_iff_fan {m : Message}
    (type : m.alertType ∈ [AlertType.fault, .faultResolved]) :
    m.Recovery ↔ fanVerdict m.alertType = .recovery := by
  obtain ⟨resourceType, alertType⟩ := m
  simp only [List.mem_cons, List.not_mem_nil, or_false] at type
  obtain rfl | rfl := type <;> simp [Message.Recovery, fanVerdict, verdict]

theorem recovery_iff_powerUnit {m : Message}
    (type : m.alertType ∈ [AlertType.fault, .faultResolved]) :
    m.Recovery ↔ powerUnitVerdict m.alertType = .recovery := by
  obtain ⟨resourceType, alertType⟩ := m
  simp only [List.mem_cons, List.not_mem_nil, or_false] at type
  obtain rfl | rfl := type <;> simp [Message.Recovery, powerUnitVerdict, verdict]

variable {env : Env} {call : Call} {faulty : FaultyResources} {name : String} {v : Verdict}
  {handled : Message × FaultyResources}

theorem raises_of_parseFanInfo (h : parseFanInfo env call faulty = .ok (some handled)) :
    ∃ name v, Raises .fan env call name v := by
  rw [parseFanInfo] at h
  obtain ⟨name, found, h⟩ := bind_eq_ok.mp h
  cases alerted : (fanState (stripped call.event)).bind
      (fun state => lookup fanAlerts state (stripped call.status)) with
  | none =>
      simp only [stripped] at alerted
      simp only [alerted] at h
      cases h
  | some alert =>
      have judged : judge .fan call.event call.status = some (fanVerdict alert.type) := by
        rw [judge_fan, alerted]
        rfl
      simp only [stripped] at alerted
      simp only [alerted] at h
      obtain ⟨props, read, h⟩ := bind_eq_ok.mp h
      cases props with
      | none => cases h
      | some props =>
          obtain ⟨time, parsed, -⟩ := bind_eq_ok.mp h
          exact ⟨name, _, found, judged, ⟨props, read⟩, time, parsed⟩

theorem parseFanInfo_of_raises (h : Raises .fan env call name v) :
    ∃ m, parseFanInfo env call faulty = .ok (some (m, v.record name (call.resource .fan) faulty)) ∧
      (m.Recovery ↔ v = .recovery) := by
  obtain ⟨found, judged, ⟨props, read⟩, time, parsed⟩ := h
  rw [judge_fan] at judged
  obtain ⟨alert, alerted, rfl⟩ := Option.map_eq_some_iff.mp judged
  obtain ⟨state, -, looked⟩ := Option.bind_eq_some_iff.mp alerted
  simp only [stripped] at alerted
  apply Exists.intro
  constructor
  · rw [parseFanInfo, bind_eq_ok]
    refine ⟨name, found, ?_⟩
    simp only [alerted]
    rw [bind_eq_ok]
    refine ⟨some props, read, ?_⟩
    dsimp only
    rw [bind_eq_ok]
    exact ⟨time, parsed, rfl⟩
  · exact recovery_iff_fan (fan_types looked)

theorem raises_of_parsePsuSupplyInfo
    (h : parsePsuSupplyInfo env call faulty = .ok (some handled)) :
    ∃ name v, Raises .powerSupply env call name v := by
  rw [parsePsuSupplyInfo] at h
  obtain ⟨name, found, h⟩ := bind_eq_ok.mp h
  cases alerted : lookup powerSupplyAlerts call.event call.status with
  | none =>
      simp only [alerted] at h
      cases h
  | some alert =>
      have judged : judge .powerSupply call.event call.status =
          some (supplyVerdict alert.type) := by
        rw [judge_powerSupply, alerted]
        rfl
      simp only [alerted] at h
      obtain ⟨time, parsed, h⟩ := bind_eq_ok.mp h
      obtain ⟨props, read, h⟩ := bind_eq_ok.mp h
      cases props with
      | none => cases h
      | some props => exact ⟨name, _, found, judged, ⟨props, read⟩, time, parsed⟩

theorem parsePsuSupplyInfo_of_raises (h : Raises .powerSupply env call name v) :
    ∃ m, parsePsuSupplyInfo env call faulty =
        .ok (some (m, v.record name (call.resource .powerSupply) faulty)) ∧
      (m.Recovery ↔ v = .recovery) := by
  obtain ⟨found, judged, ⟨props, read⟩, time, parsed⟩ := h
  rw [judge_powerSupply] at judged
  obtain ⟨alert, alerted, rfl⟩ := Option.map_eq_some_iff.mp judged
  apply Exists.intro
  constructor
  · rw [parsePsuSupplyInfo, bind_eq_ok]
    refine ⟨name, found, ?_⟩
    simp only [alerted]
    rw [bind_eq_ok]
    refine ⟨time, parsed, ?_⟩
    rw [bind_eq_ok]
    exact ⟨some props, read, rfl⟩
  · exact recovery_iff_supply (powerSupply_types alerted)

theorem raises_of_parsePsuUnitInfo (h : parsePsuUnitInfo env call faulty = .ok (some handled)) :
    ∃ name v, Raises .powerUnit env call name v := by
  rw [parsePsuUnitInfo] at h
  obtain ⟨name, found, h⟩ := bind_eq_ok.mp h
  obtain ⟨time, parsed, h⟩ := bind_eq_ok.mp h
  cases alerted : lookupPowerUnit call.event call.status with
  | none =>
      simp only [alerted] at h
      cases h
  | some alert =>
      have judged : judge .powerUnit call.event call.status =
          some (powerUnitVerdict alert.1) := by
        rw [judge_powerUnit, alerted]
        rfl
      simp only [alerted] at h
      obtain ⟨props, read, h⟩ := bind_eq_ok.mp h
      cases props with
      | none => cases h
      | some props => exact ⟨name, _, found, judged, ⟨props, read⟩, time, parsed⟩

theorem parsePsuUnitInfo_of_raises (h : Raises .powerUnit env call name v) :
    ∃ m, parsePsuUnitInfo env call faulty =
        .ok (some (m, v.record name (call.resource .powerUnit) faulty)) ∧
      (m.Recovery ↔ v = .recovery) := by
  obtain ⟨found, judged, ⟨props, read⟩, time, parsed⟩ := h
  rw [judge_powerUnit] at judged
  obtain ⟨⟨type, severity⟩, alerted, rfl⟩ := Option.map_eq_some_iff.mp judged
  apply Exists.intro
  constructor
  · rw [parsePsuUnitInfo, bind_eq_ok]
    refine ⟨name, found, ?_⟩
    rw [bind_eq_ok]
    refine ⟨time, parsed, ?_⟩
    simp only [alerted]
    rw [bind_eq_ok]
    exact ⟨some props, read, rfl⟩
  · exact recovery_iff_powerUnit (powerUnit_types alerted)

theorem raises_of_parseDiskInfo (h : parseDiskInfo env call faulty = .ok (some handled)) :
    ∃ name v, Raises .disk env call name v := by
  rw [parseDiskInfo] at h
  obtain ⟨name, found, h⟩ := bind_eq_ok.mp h
  obtain ⟨props, read, h⟩ := bind_eq_ok.mp h
  cases props with
  | none => cases h
  | some props =>
      by_cases common : props.common.items = []
      · simp only [common, if_true] at h
        cases h
      · simp only [common, if_false] at h
        cases alerted : lookup diskAlerts call.event call.status with
        | none =>
            simp only [alerted] at h
            cases h
        | some alert =>
            have judged : judge .disk call.event call.status = some (diskVerdict alert.type) := by
              rw [judge_disk, alerted]
              rfl
            simp only [alerted] at h
            obtain ⟨time, parsed, -⟩ := bind_eq_ok.mp h
            exact ⟨name, _, found, judged, ⟨props, read, common⟩, time, parsed⟩

theorem parseDiskInfo_of_raises (h : Raises .disk env call name v) :
    ∃ m, parseDiskInfo env call faulty =
        .ok (some (m, v.record name (call.resource .disk) faulty)) ∧
      (m.Recovery ↔ v = .recovery) := by
  obtain ⟨found, judged, ⟨props, read, common⟩, time, parsed⟩ := h
  rw [judge_disk] at judged
  obtain ⟨alert, alerted, rfl⟩ := Option.map_eq_some_iff.mp judged
  apply Exists.intro
  constructor
  · rw [parseDiskInfo, bind_eq_ok]
    refine ⟨name, found, ?_⟩
    rw [bind_eq_ok]
    refine ⟨some props, read, ?_⟩
    simp only [common, if_false, alerted]
    rw [bind_eq_ok]
    exact ⟨time, parsed, rfl⟩
  · exact recovery_iff_supply (disk_types alerted)

/-- The types of sensors that have thresholds. -/
def thresholdTypes : List Fru := [.temperature, .voltage, .current]

theorem judge_threshold {fru : Fru} (sensor : fru ∈ thresholdTypes) (event status : String) :
    judge fru event status =
      if lastWord event ∈ ["low", "high"] then some (thresholdVerdict status) else none := by
  simp only [thresholdTypes, List.mem_cons, List.not_mem_nil, or_false] at sensor
  obtain rfl | rfl | rfl := sensor <;> rfl

theorem reads_threshold {fru : Fru} (sensor : fru ∈ thresholdTypes) {ipmi : Ipmi} :
    Reads ipmi name fru ↔ ∃ props, ipmi.sensorProps name = .ok (some props) := by
  simp only [thresholdTypes, List.mem_cons, List.not_mem_nil, or_false] at sensor
  obtain rfl | rfl | rfl := sensor <;> rfl

theorem resource_threshold {fru : Fru} (sensor : fru ∈ thresholdTypes) :
    call.resource fru = ⟨call.status, call.event, call.deviceId, fru⟩ := by
  simp only [thresholdTypes, List.mem_cons, List.not_mem_nil, or_false] at sensor
  obtain rfl | rfl | rfl := sensor <;> rfl

theorem threshold_of_mapSeverity {threshold severity : String}
    (mapped : mapSeverity (.thresholdBreached threshold) = some severity) :
    threshold ∈ ["low", "high"] := by
  unfold mapSeverity at mapped
  split at mapped <;> simp_all

theorem mapSeverity_of_threshold {threshold : String} (mem : threshold ∈ ["low", "high"]) :
    lower threshold ∈ ["low".toList, "high".toList] ∧
      mapSeverity (.thresholdBreached threshold) = some "warning" := by
  simp only [List.mem_cons, List.not_mem_nil, or_false] at mem
  obtain rfl | rfl := mem <;> decide +kernel

theorem thresholdVerdict_eq_recovery_iff {status : String} :
    thresholdVerdict status = .recovery ↔ lower status = "deasserted".toList := by
  have other : "deasserted".toList ≠ "asserted".toList := by decide
  rw [thresholdVerdict]
  constructor
  · intro recovery
    split at recovery
    · cases recovery
    · split at recovery
      · assumption
      · cases recovery
  · intro same
    rw [same, if_neg other, if_pos rfl]

theorem recovery_iff_threshold {m : Message} {threshold : String}
    (type : m.alertType = .thresholdBreached threshold) :
    m.Recovery ↔ m.severity = "informational" := by
  obtain ⟨resourceType, alertType⟩ := m
  cases type
  simp [Message.Recovery]

theorem severity_iff {p : Prop} [Decidable p] :
    (if p then "informational" else "warning") = "informational" ↔ p := by
  by_cases resolved : p
  · simp [resolved]
  · simp only [resolved, if_false, iff_false]
    decide

theorem raises_of_parseThresholdInfo {fru : Fru} {resourceType : String}
    (sensor : fru ∈ thresholdTypes)
    (h : parseThresholdInfo fru resourceType env call faulty = .ok (some handled)) :
    ∃ name v, Raises fru env call name v := by
  rw [parseThresholdInfo] at h
  obtain ⟨name, found, h⟩ := bind_eq_ok.mp h
  dsimp only at h
  split at h
  · cases h
  · cases mapped : mapSeverity (.thresholdBreached (lastWord call.event)) with
    | none =>
        simp only [mapped] at h
        cases h
    | some severity =>
        simp only [mapped] at h
        obtain ⟨props, read, h⟩ := bind_eq_ok.mp h
        cases props with
        | none => cases h
        | some props =>
            obtain ⟨time, parsed, -⟩ := bind_eq_ok.mp h
            have judged : judge fru call.event call.status =
                some (thresholdVerdict call.status) := by
              rw [judge_threshold sensor, if_pos (threshold_of_mapSeverity mapped)]
            exact ⟨name, _, found, judged, (reads_threshold sensor).mpr ⟨props, read⟩, time, parsed⟩

theorem parseThresholdInfo_of_raises {fru : Fru} (sensor : fru ∈ thresholdTypes)
    (resourceType : String) (h : Raises fru env call name v) :
    ∃ m, parseThresholdInfo fru resourceType env call faulty =
        .ok (some (m, v.record name (call.resource fru) faulty)) ∧
      (m.Recovery ↔ v = .recovery) := by
  obtain ⟨found, judged, reads, time, parsed⟩ := h
  obtain ⟨props, read⟩ := (reads_threshold sensor).mp reads
  rw [judge_threshold sensor] at judged
  split at judged
  · rename_i mem
    cases judged
    obtain ⟨known, mapped⟩ := mapSeverity_of_threshold mem
    apply Exists.intro
    constructor
    · rw [parseThresholdInfo, bind_eq_ok, resource_threshold sensor]
      refine ⟨name, found, ?_⟩
      simp only [known, not_true_eq_false, if_false, mapped]
      rw [bind_eq_ok]
      refine ⟨some props, read, ?_⟩
      dsimp only
      rw [bind_eq_ok]
      exact ⟨time, parsed, rfl⟩
    · exact (recovery_iff_threshold rfl).trans
        (severity_iff.trans thresholdVerdict_eq_recovery_iff.symm)
  · cases judged

/-- What a handler sends, and what it does to the faulty resources. -/
theorem handler_of_raises {fru : Fru} (h : Raises fru env call name v)
    (faulty : FaultyResources) :
    ∃ m, handler fru env call faulty = .ok (some (m, v.record name (call.resource fru) faulty)) ∧
      (m.Recovery ↔ v = .recovery) := by
  cases fru with
  | fan =>
      rw [handler]
      exact parseFanInfo_of_raises h
  | powerSupply =>
      rw [handler]
      exact parsePsuSupplyInfo_of_raises h
  | powerUnit =>
      rw [handler]
      exact parsePsuUnitInfo_of_raises h
  | disk =>
      rw [handler]
      exact parseDiskInfo_of_raises h
  | temperature =>
      rw [handler, parseTemperatureInfo]
      exact parseThresholdInfo_of_raises (by decide) _ h
  | voltage =>
      rw [handler, parseVoltageInfo]
      exact parseThresholdInfo_of_raises (by decide) _ h
  | current =>
      rw [handler, parseCurrentInfo]
      exact parseThresholdInfo_of_raises (by decide) _ h

theorem raises_of_handler {fru : Fru} (h : handler fru env call faulty = .ok (some handled)) :
    ∃ name v, Raises fru env call name v := by
  cases fru with
  | fan =>
      rw [handler] at h
      exact raises_of_parseFanInfo h
  | powerSupply =>
      rw [handler] at h
      exact raises_of_parsePsuSupplyInfo h
  | powerUnit =>
      rw [handler] at h
      exact raises_of_parsePsuUnitInfo h
  | disk =>
      rw [handler] at h
      exact raises_of_parseDiskInfo h
  | temperature =>
      rw [handler, parseTemperatureInfo] at h
      exact raises_of_parseThresholdInfo (by decide) h
  | voltage =>
      rw [handler, parseVoltageInfo] at h
      exact raises_of_parseThresholdInfo (by decide) h
  | current =>
      rw [handler, parseCurrentInfo] at h
      exact raises_of_parseThresholdInfo (by decide) h

end Resources

end NodeHw

end Sspl

import Sspl.Foundation.System
import Sspl.NodeHw.FanEvents

/-!
# The direct check of faulty resources

Every run of the sensor asks for the sensors of a copy of `faulty_resources`. Where one is healthy,
the handler of its type is called with an event that is made up. This closes the fault if the
event that was recorded has an inverse, if the sensor is still found under its number and if
ipmitool reads what the handler asks for.
-/

namespace Sspl

namespace NodeHw

namespace Resources

open Iem (Text strip)

/-- What the check reads of a sensor: the resource is healthy. -/
def healthy (props : SdrProps) : Bool :=
  match props.dynamic.get? "States Asserted" with
  | some states =>
    let parts := (tidy states).toList.splitOn ','
    let status := if parts.length = 1 then parts.getD 0 [] else parts.getD 1 []
    decide (strip status ∈ ["".toList, "Presence detected".toList])
  | none =>
    match props.static.get? "Assertion Events", props.static.get? "Status" with
    | some events, some status => decide (events = "" ∧ status = "ok")
    | _, _ => false

/-- The call of the handler in `_generate_resource_alert`. -/
def madeUpCall (now : String) (resource : FaultyResource) : Call where
  eventTime := .ok now
  deviceId := resource.deviceId
  sensorNum := (Sel.getDeviceTypeNum resource.deviceId).2
  event := madeUpEvent resource.event
  status := madeUpStatus resource.status
  isLast := true

inductive Stage
  | idle
  /-- The resources of the copied dictionary that are still to be checked. -/
  | checking (todo : List (String × FaultyResource))
  deriving DecidableEq

/-- The faulty resources and the sensor map, the resources that the direct check has still to look
at, and the alerts sent. -/
structure State where
  sensorIdMap : Fru → Dict String String
  faultyResources : FaultyResources
  stage : Stage
  sent : List Message

/-- Entries of the log come between two checks; within a check the resources are looked at one by
one. -/
inductive Action
  /-- `_read_sensor_list`. -/
  | readSensorList (sensorIdMap : Fru → Dict String String)
  /-- An entry of the log, with the date and the time if they parse. -/
  | selEvent (deviceId event status : String) (eventTime : Except PyErr String) (isLast : Bool)
    (ipmi : Ipmi)
  | beginCheck
  /-- The next resource is checked. -/
  | check (sdr : Except PyErr (Option SdrProps)) (now : String) (ipmi : Ipmi)
  | endCheck
  /-- `faulty_resources` is read back from the store. -/
  | restart

section

variable (isFru : String → String)

def State.env (s : State) (ipmi : Ipmi) : Env := ⟨s.sensorIdMap, isFru, ipmi⟩

/-- A handler is called; its exceptions are caught. -/
def State.handle (s : State) (ipmi : Ipmi) (fru : Fru) (call : Call) : State :=
  match handler fru (s.env isFru ipmi) call s.faultyResources with
  | .ok (some (message, faulty)) =>
    { s with sent := s.sent ++ [message], faultyResources := faulty }
  | _ => s

/-- A handler is called with an entry of the log, or with the made-up one that closes the fault of
a resource found to be healthy. The exceptions of a handler are caught. -/
def next (s : State) : Action → Option State
  | .readSensorList sensorIdMap =>
    match s.stage with
    | .idle => some { s with sensorIdMap := sensorIdMap }
    | .checking _ => none
  | .selEvent deviceId event status eventTime isLast ipmi =>
    match s.stage with
    | .idle =>
      let (deviceType, sensorNum) := Sel.getDeviceTypeNum deviceId
      match Fru.ofText deviceType with
      | some fru =>
        some (s.handle isFru ipmi fru ⟨eventTime, deviceId, sensorNum, event, status, isLast⟩)
      | none => some s
    | .checking _ => none
  | .beginCheck =>
    match s.stage with
    | .idle => some { s with stage := .checking s.faultyResources.items }
    | .checking _ => none
  | .check sdr now ipmi =>
    match s.stage with
    | .checking ((_, resource) :: todo) =>
      match sdr with
      | .ok (some props) =>
        let s := { s with stage := .checking todo }
        if healthy props then some (s.handle isFru ipmi resource.fruType (madeUpCall now resource))
        else some s
      -- the exception leaves the loop
      | _ => some { s with stage := .idle }
    | _ => none
  | .endCheck =>
    match s.stage with
    | .checking [] => some { s with stage := .idle }
    | _ => none
  | .restart => some { s with stage := .idle }

def start : State := ⟨fun _ => .empty, .empty, .idle, []⟩

/-- The sensor from before its first entry on, with any answers of `ipmitool`. -/
def system : Transition.System State Action where
  init s := s = start
  next := next isFru

/-- One recovery alert is sent for the resource and it is removed from `faulty_resources`, while
the others stay. -/
structure Recovered (name : String) (s t : State) : Prop where
  sent : ∃ m, t.sent = s.sent ++ [m] ∧ m.Recovery
  removed : t.faultyResources.get? name = none
  others : ∀ other, other ≠ name →
    t.faultyResources.get? other = s.faultyResources.get? other

/-- The sensor is found under the number in the log, and ipmitool reads what the handler asks
for. -/
def Answers (s : State) (ipmi : Ipmi) (name : String) (resource : FaultyResource) : Prop :=
  (s.env isFru ipmi).sensorId resource.fruType (Sel.getDeviceTypeNum resource.deviceId).2 =
    .ok name ∧
  Reads ipmi name resource.fruType

variable {isFru} {s t : State} {ipmi : Ipmi} {fru : Fru} {call : Call} {name : String}
  {v : Verdict} {a : Action}

/-- The handler has sent the message and recorded the verdict on the sensor. -/
structure Handles (s : State) (fru : Fru) (call : Call) (name : String) (v : Verdict)
    (m : Message) (t : State) : Prop where
  recovery : m.Recovery ↔ v = .recovery
  after : t = { s with
    sent := s.sent ++ [m]
    faultyResources := v.record name (call.resource fru) s.faultyResources }

theorem handle_of_raises (h : Raises fru (s.env isFru ipmi) call name v) :
    ∃ m, Handles s fru call name v m (s.handle isFru ipmi fru call) := by
  obtain ⟨m, handled, recovery⟩ := handler_of_raises h s.faultyResources
  refine ⟨m, recovery, ?_⟩
  rw [State.handle, handled]

theorem handle_cases (isFru : String → String) (s : State) (ipmi : Ipmi) (fru : Fru) (call : Call) :
    s.handle isFru ipmi fru call = s ∨
      ∃ name v m, Raises fru (s.env isFru ipmi) call name v ∧
        Handles s fru call name v m (s.handle isFru ipmi fru call) := by
  rcases handled : handler fru (s.env isFru ipmi) call s.faultyResources with err | result
  · exact .inl (by rw [State.handle, handled])
  · cases result with
    | none => exact .inl (by rw [State.handle, handled])
    | some result =>
        obtain ⟨name, v, raises⟩ := raises_of_handler handled
        obtain ⟨m, handles⟩ := handle_of_raises raises
        exact .inr ⟨name, v, m, raises, handles⟩

theorem handle_stage (s : State) (ipmi : Ipmi) (fru : Fru) (call : Call) :
    (s.handle isFru ipmi fru call).stage = s.stage := by
  obtain same | ⟨name, v, m, -, handles⟩ := handle_cases isFru s ipmi fru call
  · rw [same]
  · rw [handles.after]

theorem get?_record {resource : FaultyResource} {faulty : FaultyResources} {other : String} :
    (v.record name resource faulty).get? other =
      if other = name ∧ v = .fault then some resource
      else if other = name ∧ v = .recovery then none
      else faulty.get? other := by
  cases v with
  | fault =>
      rw [Verdict.record, Dict.get?_set]
      simp
  | recovery =>
      rw [Verdict.record]
      cases there : (faulty.get? name).isSome with
      | false =>
          have absent : faulty.get? name = none := by simpa using there
          by_cases same : other = name <;> simp [same, absent]
      | true =>
          rw [if_pos rfl, Dict.get?_erase]
          simp
  | neither => simp [Verdict.record]

/-- All that is kept of faulty resources has been recorded for a fault. -/
structure Invariant (s : State) : Prop where
  kept : ∀ name resource, s.faultyResources.get? name = some resource → Recorded resource
  copied : ∀ todo, s.stage = .checking todo → ∀ item ∈ todo, Recorded item.2

theorem Invariant.init : Invariant start where
  kept name resource found := by simp [start] at found
  copied todo checking := by simp [start] at checking

/-- A handler enters a resource only for a fault. -/
theorem Invariant.handle (h : Invariant s) (ipmi : Ipmi) (fru : Fru) (call : Call) :
    Invariant (s.handle isFru ipmi fru call) where
  copied todo checking := h.copied todo (by rwa [handle_stage] at checking)
  kept := by
    obtain same | ⟨name, v, m, raises, handles⟩ := handle_cases isFru s ipmi fru call
    · rw [same]
      exact h.kept
    · rw [handles.after]
      intro other resource found
      dsimp only at found
      rw [get?_record] at found
      split at found
      · rename_i entered
        cases found
        exact recorded_resource (entered.2 ▸ raises.judged)
      · split at found
        · cases found
        · exact h.kept other resource found

theorem Invariant.idle (h : Invariant s) (same : t.faultyResources = s.faultyResources)
    (stage : t.stage = .idle) : Invariant t where
  kept name resource found := h.kept name resource (same ▸ found)
  copied todo checking := by rw [stage] at checking; cases checking

theorem Invariant.step (h : Invariant s) (step : next isFru s a = some t) : Invariant t := by
  cases a with
  | readSensorList sensorIdMap =>
      cases stage : s.stage with
      | checking todo => simp [next, stage] at step
      | idle =>
          simp only [next, stage] at step
          cases step
          exact h.idle rfl rfl
  | selEvent deviceId event status eventTime isLast ipmi =>
      cases stage : s.stage with
      | checking todo => simp [next, stage] at step
      | idle =>
          simp only [next, stage] at step
          split at step
          · cases step
            exact h.handle _ _ _
          · cases step
            exact h
  | beginCheck =>
      cases stage : s.stage with
      | checking todo => simp [next, stage] at step
      | idle =>
          simp only [next, stage] at step
          cases step
          refine ⟨h.kept, fun todo checking item mem => ?_⟩
          cases checking
          exact h.kept item.1 item.2 (Dict.mem_items.mp mem)
  | check sdr now ipmi =>
      cases stage : s.stage with
      | idle => simp [next, stage] at step
      | checking todo =>
          cases todo with
          | nil => simp [next, stage] at step
          | cons item todo =>
              have rest : Invariant { s with stage := .checking todo } := by
                refine ⟨h.kept, fun todo' checking item mem => ?_⟩
                cases checking
                exact h.copied _ stage item (List.mem_cons_of_mem _ mem)
              simp only [next, stage] at step
              split at step
              · split at step
                · cases step
                  exact rest.handle _ _ _
                · cases step
                  exact rest
              · cases step
                exact h.idle rfl rfl
  | endCheck =>
      simp only [next] at step
      split at step
      · cases step
        exact h.idle rfl rfl
      · cases step
  | restart =>
      simp only [next] at step
      cases step
      exact h.idle rfl rfl

theorem invariant_of_run {actions : List Action}
    (run : (system isFru).FreeRuns start actions s) : Invariant s :=
  run.invariant (fun _ _ _ h _ step => h.step step) .init

/-- The handler is called for a resource that is healthy. -/
theorem next_check_of_healthy {resource : FaultyResource} {todo : List (String × FaultyResource)}
    {props : SdrProps} {now : String}
    (here : s.stage = .checking ((name, resource) :: todo)) (well : healthy props = true)
    (step : next isFru s (.check (.ok (some props)) now ipmi) = some t) :
    t = { s with stage := .checking todo }.handle isFru ipmi resource.fruType
      (madeUpCall now resource) := by
  simp only [next, here, well, if_true] at step
  exact (Option.some.inj step).symm

theorem recovered_stage_iff {stage : Stage} :
    Recovered name { s with stage := stage } t ↔ Recovered name s t :=
  ⟨fun h => ⟨h.sent, h.removed, h.others⟩, fun h => ⟨h.sent, h.removed, h.others⟩⟩

/-- The recovery of the resource is what the handler does if it finds the sensor. -/
theorem recovered_handle_iff {resource : FaultyResource} {now : String}
    (entry : s.faultyResources.get? name ≠ none) :
    Recovered name s (s.handle isFru ipmi resource.fruType (madeUpCall now resource)) ↔
      judge resource.fruType (madeUpEvent resource.event) (madeUpStatus resource.status) =
          some .recovery ∧
        Answers isFru s ipmi name resource := by
  constructor
  · rintro ⟨⟨m, sent, recovery⟩, removed, -⟩
    obtain same | ⟨found, v, n, raises, handles⟩ := handle_cases isFru s ipmi
      resource.fruType (madeUpCall now resource)
    · rw [same] at sent
      exact absurd sent (by simp)
    · rw [handles.after] at sent removed
      obtain rfl : n = m := by simpa using sent
      have resolved : v = .recovery := handles.recovery.mp recovery
      subst resolved
      dsimp only at removed
      rw [get?_record] at removed
      have same : name = found := by
        by_contra other
        simp only [other, false_and, if_false] at removed
        exact entry removed
      subst same
      exact ⟨raises.judged, raises.found, raises.reads⟩
  · rintro ⟨judged, found, reads⟩
    have raises : Raises resource.fruType (s.env isFru ipmi) (madeUpCall now resource) name
        .recovery := ⟨found, judged, reads, now, rfl⟩
    obtain ⟨m, handles⟩ := handle_of_raises raises
    refine ⟨⟨m, ?_, handles.recovery.mpr rfl⟩, ?_, fun other different => ?_⟩
    · rw [handles.after]
    · rw [handles.after]
      simp [get?_record]
    · rw [handles.after]
      simp [get?_record, different]

/-- In every state that polls of the event log lead to, the direct check closes the fault of a
healthy resource exactly if the event that was recorded has an inverse and the handler gets its
answers from ipmitool. -/
theorem direct_recovery_iff {actions : List Action} {resource : FaultyResource}
    {todo : List (String × FaultyResource)} {props : SdrProps} {now : String}
    (run : (system isFru).FreeRuns start actions s)
    (here : s.stage = .checking ((name, resource) :: todo))
    (entry : s.faultyResources.get? name ≠ none) (well : healthy props = true)
    (step : next isFru s (.check (.ok (some props)) now ipmi) = some t) :
    Recovered name s t ↔ Invertible resource ∧ Answers isFru s ipmi name resource := by
  have recorded : Recorded resource :=
    (invariant_of_run run).copied _ here (name, resource) List.mem_cons_self
  rw [next_check_of_healthy here well step, ← inverse_iff recorded]
  exact recovered_stage_iff.symm.trans
    (recovered_handle_iff (s := { s with stage := .checking todo }) entry)

/-- A resource that has been removed is not checked by the next run. -/
theorem not_checked_of_removed {todo : List (String × FaultyResource)}
    (removed : s.faultyResources.get? name = none) (step : next isFru s .beginCheck = some t)
    (checking : t.stage = .checking todo) : name ∉ todo.map Prod.fst := by
  intro mem
  obtain ⟨⟨key, resource⟩, item, rfl⟩ := List.mem_map.mp mem
  simp only [next] at step
  split at step
  · cases step
    cases checking
    have found := Dict.mem_items.mp item
    rw [removed] at found
    cases found
  · cases step

end

namespace Example

/-- A log with one event, of a sensor with the number 30. -/
def actions (fru : Fru) (name event status : String) (ipmi : Ipmi) : List Action :=
  [.readSensorList fun other => if other = fru then Dict.empty.set "30" name else .empty,
    .selEvent (fru.text ++ " #0x30") event status (.ok "1555392549") true ipmi, .beginCheck]

def props : SdrProps where
  dynamic := .empty
  static := Dict.empty.update [("Assertion Events", ""), ("Status", "ok")]

def ipmi : Ipmi where
  sensorProps _ := .ok (some ⟨Dict.empty.set "Entity ID" "29.1", .empty, .empty⟩)
  sdrProps _ := .ok (some props)

def isFru (_ : String) : String := "true"

def checking (fru : Fru) (name event status : String) : Option State :=
  (system isFru).run start (actions fru name event status ipmi)

def fan : State := (checking .fan "Sys Fan 1" "Lower Critical going low" "Asserted").get
  (by decide +kernel)

def fanChecked : State := (next isFru fan (.check (.ok (some props)) "1555392999" ipmi)).get
  (by decide +kernel)

/-- A fan that was too slow is found to be healthy. -/
theorem fan_recovers : Recovered "Sys Fan 1" fan fanChecked := by
  have run : (system isFru).FreeRuns start _ fan :=
    ((system isFru).run_eq_some_iff).mp (Option.some_get _).symm
  have here : fan.stage = .checking [("Sys Fan 1",
      ⟨"Asserted", "Lower Critical going low", "Fan #0x30", .fan⟩)] := by decide +kernel
  refine (direct_recovery_iff run here (by decide +kernel) (by decide +kernel)
    (Option.some_get _).symm).mpr ⟨fun _ => ⟨fun _ _ => ?_, fun other => ?_⟩, ?_, ?_⟩
  · exact ⟨0, "Lower".toList, "Critical".toList, ⟨by decide +kernel, by decide +kernel⟩,
      ⟨"lower".toList, by decide, by decide⟩, ⟨"critical".toList, by decide, by decide⟩,
      fun comparative => absurd comparative.1 (by decide)⟩
  · exact absurd other (by decide)
  · decide +kernel
  · exact ⟨_, rfl⟩

/-- The redundancy of the power supplies is there again, but both events of it are faults. -/
def unit : State := (checking .powerUnit "Pwr Unit Redund"
  "Non-Redundant: Sufficient from Redundant" "Asserted").get (by decide +kernel)

def unitChecked : State := (next isFru unit (.check (.ok (some props)) "1555392999" ipmi)).get
  (by decide +kernel)

/-- A resource that is healthy is alerted again. -/
theorem healthy_unit_alerted :
    ¬∀ (isFru : String → String) (actions : List Action) (s t : State) (name : String)
      (resource : FaultyResource) (todo : List (String × FaultyResource)) (props : SdrProps)
      (now : String) (ipmi : Ipmi), (system isFru).FreeRuns start actions s →
      s.stage = .checking ((name, resource) :: todo) → s.faultyResources.get? name ≠ none →
      healthy props = true → next isFru s (.check (.ok (some props)) now ipmi) = some t →
      Recovered name s t := by
  intro closes
  have run : (system isFru).FreeRuns start _ unit :=
    ((system isFru).run_eq_some_iff).mp (Option.some_get _).symm
  have closed := closes isFru _ unit unitChecked "Pwr Unit Redund"
    ⟨"Asserted", "Non-Redundant: Sufficient from Redundant", "Power Unit #0x30", .powerUnit⟩ []
    props "1555392999" ipmi run (by decide +kernel) (by decide +kernel) (by decide +kernel)
    (Option.some_get _).symm
  have kept : unitChecked.faultyResources.get? "Pwr Unit Redund" ≠ none := by decide +kernel
  exact kept closed.removed

end Example

end Resources

end NodeHw

end Sspl

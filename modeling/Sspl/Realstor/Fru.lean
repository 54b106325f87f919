import Mathlib.Data.List.AList
import Sspl.Python.Value

/-!
# What the enclosure sensors make of one FRU

The PSU, controller, fan-module and sideplane-expander sensors poll a list of FRUs and
keep a map from the durable-id of each faulty FRU to what was alerted for it. For each
FRU of a poll the loop compares the health with the map, changes the map and sends
alerts. `Inspection` is what one turn of the loop has done before the sensor waits for
the acknowledgement; the local variables that live on to the next turn are its
`locals`.

A `FruSensor` is a sensor with the facts all four share: a turn touches no other entry
of the map, and it changes the map only together with an alert.
-/

namespace Sspl

/-- The alert types of a FRU. -/
inductive FruAlert
  | missing
  | insertion
  | fault
  | faultResolved
  deriving DecidableEq

namespace Realstor

/-- The health of a FRU in lower case, as far as the sensors tell it apart. -/
inductive Health
  | ok
  | fault
  | degraded
  | other
  deriving DecidableEq

variable {ν : Type}

/-- The map of the faulty FRUs. -/
abbrev Memory (ν E : Type) := AList (fun _ : ν => E)

structure Inspection (ν E L : Type) where
  memory : Memory ν E
  sends : List FruAlert
  stateChanged : Bool
  locals : L

/-- Nothing has changed for the FRU. -/
def unchanged {E L : Type} (memory : Memory ν E) (locals : L) : Inspection ν E L :=
  ⟨memory, [], false, locals⟩

/-- A sensor of FRUs by the body of its loop, with what all of them have in common: a turn leaves
the entries of other FRUs alone, and sends something exactly when it has changed the map. -/
structure FruSensor (ν R E L : Type) [DecidableEq ν] where
  durableId : R → ν
  /-- The local variables before the loop. -/
  start : L
  inspect : R → L → Memory ν E → Except PyErr (Inspection ν E L)
  /-- The loop goes on with the next FRU when an exception was raised in its body. -/
  resumes : Bool
  frame : ∀ {r l m i}, inspect r l m = .ok i → ∀ g, g ≠ durableId r →
    i.memory.lookup g = m.lookup g
  quiet : ∀ {r l m i}, inspect r l m = .ok i → i.stateChanged = false →
    i.memory = m ∧ i.sends = []
  alerted : ∀ {r l m i}, inspect r l m = .ok i → i.stateChanged = true → i.sends ≠ []

/-- The entry of a PSU or a controller. -/
structure FruEntry where
  health : Health
  alertType : FruAlert
  deriving DecidableEq

/-- The alert for a FRU at fault. -/
def faultAlert (notInstalled : Bool) : FruAlert := if notInstalled then .missing else .fault

/-- The alert for a FRU that is healthy again. -/
def recoveryAlert (previous : FruAlert) : FruAlert :=
  if previous = .missing then .insertion else .faultResolved

variable [DecidableEq ν]

/-- The healthy case, which the PSU and the controller sensor share. -/
def inspectHealthy {L : Type} (id : ν) (locals : L) (memory : Memory ν FruEntry) :
    Inspection ν FruEntry L :=
  match memory.lookup id with
  | some entry => ⟨memory.erase id, [recoveryAlert entry.alertType], true, locals⟩
  | none => unchanged memory locals

structure PsuReading (ν : Type) where
  durableId : ν
  health : Health
  /-- `"not installed"` is found in the health-reason. -/
  notInstalled : Bool
  deriving DecidableEq

namespace Psu

/-- The body of the loop in `_get_msgs_for_faulty_psus`. -/
def inspect (psu : PsuReading ν) (memory : Memory ν FruEntry) : Inspection ν FruEntry Unit :=
  match psu.health with
  | .fault =>
    if (memory.lookup psu.durableId).map FruEntry.alertType =
        some (faultAlert psu.notInstalled) then
      unchanged memory ()
    else
      ⟨memory.insert psu.durableId ⟨.fault, faultAlert psu.notInstalled⟩,
        [faultAlert psu.notInstalled], true, ()⟩
  | .degraded =>
    if memory.lookup psu.durableId = none then
      ⟨memory.insert psu.durableId ⟨.degraded, .fault⟩, [.fault], true, ()⟩
    else unchanged memory ()
  | .ok => inspectHealthy psu.durableId () memory
  | .other => unchanged memory ()

end Psu

structure ControllerReading (ν : Type) where
  durableId : ν
  health : Health
  /-- The status is `STATUS_NOTINSTALLED`. -/
  notInstalled : Bool
  deriving DecidableEq

namespace Controller

/-- The FRU is new to the map, or there with the given health. -/
def comesFrom (health : Health) (entry : Option FruEntry) : Prop :=
  entry.map FruEntry.health = some health ∨ entry = none

instance (health : Health) (entry : Option FruEntry) : Decidable (comesFrom health entry) :=
  inferInstanceAs (Decidable (_ ∨ _))

/-- What `prev_alert_type` is before the alert of a degraded controller. A map with other
entries only has no dict to look into. -/
def prevAlertType (id : ν) (local_ : Option FruAlert) (memory : Memory ν FruEntry) :
    Except PyErr (Option FruAlert) :=
  if memory.entries = [] then .ok local_
  else
    match memory.lookup id with
    | some entry => .ok (some entry.alertType)
    | none => .error .attributeError

/-- The body of the loop in `_get_msgs_for_faulty_controllers`; `prev_alert_type` lives on
to the next controller. -/
def inspect (controller : ControllerReading ν) (previous : Option FruAlert)
    (memory : Memory ν FruEntry) : Except PyErr (Inspection ν FruEntry (Option FruAlert)) :=
  match controller.health with
  | .fault =>
    if comesFrom .degraded (memory.lookup controller.durableId) then
      .ok ⟨memory.insert controller.durableId ⟨.fault, faultAlert controller.notInstalled⟩,
        [faultAlert controller.notInstalled], true, previous⟩
    else .ok (unchanged memory previous)
  | .degraded =>
    if comesFrom .fault (memory.lookup controller.durableId) then do
      let previous ← prevAlertType controller.durableId previous memory
      return ⟨memory.insert controller.durableId ⟨.degraded, .fault⟩,
        (if previous = some .missing then [.insertion] else []) ++ [.fault], true, previous⟩
    else .ok (unchanged memory previous)
  | .ok => .ok (inspectHealthy controller.durableId previous memory)
  | .other => .ok (unchanged memory previous)

end Controller

structure FanReading (ν : Type) where
  durableId : ν
  health : Health
  /-- `"not installed"` is found in the health-reason. -/
  notInstalled : Bool
  deriving DecidableEq

namespace Fan

/-- The body of the loop in `_check_for_fan_module_fault`. -/
def inspect (fan : FanReading ν) (memory : Memory ν FruAlert) : Inspection ν FruAlert Unit :=
  match fan.health with
  | .fault => alert (faultAlert fan.notInstalled)
  | .degraded => alert .fault
  | .ok =>
    match memory.lookup fan.durableId with
    | some previous => ⟨memory.erase fan.durableId, [recoveryAlert previous], true, ()⟩
    | none => unchanged memory ()
  | .other => unchanged memory ()
where
  /-- The FRU is new to the map, or there with another alert type. -/
  alert (alertType : FruAlert) : Inspection ν FruAlert Unit :=
    if memory.lookup fan.durableId = some alertType then unchanged memory ()
    else ⟨memory.insert fan.durableId alertType, [alertType], true, ()⟩

end Fan

/-- What the sensor tells apart in the text of a health-recommendation. -/
inductive Recommendation
  | empty
  /-- It asks to check that the modules are fully seated. -/
  | reseat
  | other
  deriving DecidableEq

structure SideplaneReading (ν : Type) where
  durableId : ν
  health : Health
  /-- The health-recommendation of each unhealthy component, if it has one. -/
  unhealthyComponents : List (Option Recommendation)
  deriving DecidableEq

namespace Sideplane

/-- `health_recommendation` after it was looked up. -/
def recommendation (local_ : Option Recommendation) :
    List (Option Recommendation) → Except PyErr (Option Recommendation)
  | [] => .ok local_
  | some text :: _ => .ok (some text)
  | none :: _ => .error .keyError

/-- The comparison with the map, given the recommendation. -/
def compare (expander : SideplaneReading ν) (found : Option Recommendation)
    (memory : Memory ν FruAlert) : Inspection ν FruAlert (Option Recommendation) :=
  match expander.health, memory.lookup expander.durableId with
  | .fault, none =>
    if found ≠ none ∧ found ≠ some .empty then
      if found = some .reseat then
        ⟨memory.insert expander.durableId .missing, [.missing], true, found⟩
      else unchanged memory found
    else ⟨memory.insert expander.durableId .fault, [.fault], true, found⟩
  | .ok, some previous =>
    ⟨memory.erase expander.durableId, [recoveryAlert previous], true, found⟩
  | _, _ => unchanged memory found

/-- The body of the loop in `_check_for_sideplane_expander_fault`;
`health_recommendation` lives on to the next expander. -/
def inspect (expander : SideplaneReading ν) (local_ : Option Recommendation)
    (memory : Memory ν FruAlert) :
    Except PyErr (Inspection ν FruAlert (Option Recommendation)) := do
  let found ← recommendation local_ expander.unhealthyComponents
  return compare expander found memory

end Sideplane

/-- One turn of a loop, as far as the map goes: nothing, or one entry with an alert. -/
inductive Turn {E L : Type} (id : ν) (memory : Memory ν E) : Inspection ν E L → Prop
  | unchanged (locals : L) : Turn id memory (unchanged memory locals)
  | record (entry : E) (alert : FruAlert) (more : List FruAlert) (locals : L) :
      Turn id memory ⟨memory.insert id entry, more ++ [alert], true, locals⟩
  | forget (alert : FruAlert) (locals : L) :
      Turn id memory ⟨memory.erase id, [alert], true, locals⟩

namespace Turn

variable {E L : Type} {id : ν} {memory : Memory ν E} {i : Inspection ν E L}

theorem frame (h : Turn id memory i) (g : ν) (other : g ≠ id) :
    i.memory.lookup g = memory.lookup g := by
  cases h with
  | unchanged => rfl
  | record => exact AList.lookup_insert_ne other
  | forget => exact AList.lookup_erase_ne other

theorem quiet (h : Turn id memory i) (same : i.stateChanged = false) :
    i.memory = memory ∧ i.sends = [] := by
  cases h with
  | unchanged => exact ⟨rfl, rfl⟩
  | record => cases same
  | forget => cases same

theorem alerted (h : Turn id memory i) (changed : i.stateChanged = true) : i.sends ≠ [] := by
  cases h with
  | unchanged => cases changed
  | record => simp
  | forget => simp

end Turn

theorem inspectHealthy_turn {L : Type} (id : ν) (locals : L) (memory : Memory ν FruEntry) :
    Turn id memory (inspectHealthy id locals memory) := by
  unfold inspectHealthy
  split
  · exact .forget _ _
  · exact .unchanged _

theorem Psu.inspect_turn (psu : PsuReading ν) (memory : Memory ν FruEntry) :
    Turn psu.durableId memory (Psu.inspect psu memory) := by
  unfold Psu.inspect
  split
  · split
    · exact .unchanged _
    · exact .record _ _ [] _
  · split
    · exact .record _ _ [] _
    · exact .unchanged _
  · exact inspectHealthy_turn _ _ memory
  · exact .unchanged _

theorem Controller.inspect_turn {controller : ControllerReading ν} {previous : Option FruAlert}
    {memory : Memory ν FruEntry} {i : Inspection ν FruEntry (Option FruAlert)}
    (run : Controller.inspect controller previous memory = .ok i) :
    Turn controller.durableId memory i := by
  unfold Controller.inspect at run
  split at run
  · split at run
    · cases run
      exact .record _ _ [] _
    · cases run
      exact .unchanged _
  · split at run
    · obtain ⟨_, -, rest⟩ := bind_eq_ok.mp run
      cases rest
      exact .record _ _ _ _
    · cases run
      exact .unchanged _
  · cases run
    exact inspectHealthy_turn _ _ memory
  · cases run
    exact .unchanged _

theorem Fan.inspect_turn (fan : FanReading ν) (memory : Memory ν FruAlert) :
    Turn fan.durableId memory (Fan.inspect fan memory) := by
  have alert : ∀ alertType, Turn fan.durableId memory (Fan.inspect.alert fan memory alertType) := by
    intro alertType
    unfold Fan.inspect.alert
    split
    · exact .unchanged _
    · exact .record _ _ [] _
  unfold Fan.inspect
  split
  · exact alert _
  · exact alert _
  · split
    · exact .forget _ _
    · exact .unchanged _
  · exact .unchanged _

theorem Sideplane.compare_turn (expander : SideplaneReading ν) (found : Option Recommendation)
    (memory : Memory ν FruAlert) :
    Turn expander.durableId memory (Sideplane.compare expander found memory) := by
  unfold Sideplane.compare
  split
  · split
    · split
      · exact .record _ _ [] _
      · exact .unchanged _
    · exact .record _ _ [] _
  · exact .forget _ _
  · exact .unchanged _

theorem Sideplane.inspect_turn {expander : SideplaneReading ν} {local_ : Option Recommendation}
    {memory : Memory ν FruAlert} {i : Inspection ν FruAlert (Option Recommendation)}
    (run : Sideplane.inspect expander local_ memory = .ok i) :
    Turn expander.durableId memory i := by
  obtain ⟨found, -, rest⟩ := bind_eq_ok.mp run
  cases rest
  exact compare_turn expander found memory

/-- `RealStorPSUSensor`. -/
def psuSensor : FruSensor ν (PsuReading ν) FruEntry Unit where
  durableId := PsuReading.durableId
  start := ()
  inspect psu _ memory := .ok (Psu.inspect psu memory)
  resumes := false
  frame := by
    rintro psu _ memory i run
    cases run
    exact (Psu.inspect_turn psu memory).frame
  quiet := by
    rintro psu _ memory i run
    cases run
    exact (Psu.inspect_turn psu memory).quiet
  alerted := by
    rintro psu _ memory i run
    cases run
    exact (Psu.inspect_turn psu memory).alerted

/-- `RealStorControllerSensor`. -/
def controllerSensor : FruSensor ν (ControllerReading ν) FruEntry (Option FruAlert) where
  durableId := ControllerReading.durableId
  start := none
  inspect := Controller.inspect
  resumes := false
  frame run := (Controller.inspect_turn run).frame
  quiet run := (Controller.inspect_turn run).quiet
  alerted run := (Controller.inspect_turn run).alerted

/-- `RealStorFanSensor`. -/
def fanSensor : FruSensor ν (FanReading ν) FruAlert Unit where
  durableId := FanReading.durableId
  start := ()
  inspect fan _ memory := .ok (Fan.inspect fan memory)
  resumes := false
  frame := by
    rintro fan _ memory i run
    cases run
    exact (Fan.inspect_turn fan memory).frame
  quiet := by
    rintro fan _ memory i run
    cases run
    exact (Fan.inspect_turn fan memory).quiet
  alerted := by
    rintro fan _ memory i run
    cases run
    exact (Fan.inspect_turn fan memory).alerted

/-- `RealStorSideplaneExpanderSensor`. -/
def sideplaneSensor : FruSensor ν (SideplaneReading ν) FruAlert (Option Recommendation) where
  durableId := SideplaneReading.durableId
  start := none
  inspect := Sideplane.inspect
  resumes := true
  frame run := (Sideplane.inspect_turn run).frame
  quiet run := (Sideplane.inspect_turn run).quiet
  alerted run := (Sideplane.inspect_turn run).alerted

end Realstor

end Sspl

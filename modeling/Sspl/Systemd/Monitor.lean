import Mathlib.Data.Finset.Basic
import Mathlib.Data.Finset.Filter
import Mathlib.Logic.Function.Basic
import Mathlib.Tactic.Simps.Basic
import Sspl.Foundation.System

/-!
# ServiceMonitor

A `Service` object follows one systemd unit. Its state classes edit three sets that
are attributes of the class, the handler of `PropertiesChanged` moves it between
them, and `check_service_threshold_time` raises the alerts. What the object knows is
written to a cache, from which it is rebuilt when the sensor starts again.

The D-Bus calls made in a step are answered by `Bus`, where a missing answer is a
`DBusException`; each step reads the clock once. The loops of the sensor over a set
of names take their names in any order, one step for each name. A `KeyError` or the
end of the process stops the loops where they stand.

When the sensor is started again in the same process the class attributes and the
objects connected to D-Bus stay; in a new process only the cache is left.
-/

namespace Sspl

/-- The `ActiveState` of a systemd unit. -/
inductive UnitActiveState
  | active
  | reloading
  | inactive
  | failed
  | activating
  | deactivating
  | maintenance
  | refreshing
  deriving DecidableEq

/-- Neither active nor failed. -/
def UnitActiveState.Down (state : UnitActiveState) : Prop := state ≠ .active ∧ state ≠ .failed

instance (state : UnitActiveState) : Decidable state.Down :=
  inferInstanceAs (Decidable (_ ∧ _))

inductive AlertType
  | fault
  | faultResolved
  deriving DecidableEq

namespace ServiceMonitor

inductive ServiceState
  | active
  | failed
  | inactive
  deriving DecidableEq

inductive UnitState
  | disabled
  | enabled
  | monitoringDisabled
  deriving DecidableEq

structure Service (ν : Type) where
  name : ν
  /-- `none` is the `"N/A"` of an object that has not observed its unit yet. -/
  state : Option UnitActiveState
  previousState : Option UnitActiveState
  nonactiveEnterTimestamp : Int
  waitingTimestamp : Int
  serviceState : ServiceState
  unitState : Option UnitState
  /-- `properties_changed_signal` is connected. -/
  propertiesChangedSignal : Bool
  /-- Connected signals whose reference has been overwritten. -/
  leakedSignals : Nat
  deriving DecidableEq

/-- What `dump_to_cache` writes. -/
structure Cached where
  serviceState : Option UnitActiveState
  serviceMonitorState : ServiceState
  nonactiveEnterTimestamp : Int
  waitingTimestamp : Int
  deriving DecidableEq

/-- The services to watch and the two thresholds of the configuration, in seconds. -/
structure Config (ν : Type) where
  servicesToMonitor : Finset ν
  nonactiveThreshold : Int
  thresholdWaitingTime : Int

structure Alert where
  alertType : AlertType
  description : String
  impact : String
  recommendation : String
  deriving DecidableEq

def failedAlert : Alert :=
  ⟨.fault, "\x7b\x7d in \x7b\x7d state for more than \x7b\x7d seconds.",
    "\x7b\x7d service is unavailable.", "Try to restart the service"⟩

def inactiveAlert : Alert :=
  ⟨.fault, "\x7b\x7d in \x7b\x7d state for more than \x7b\x7d seconds.",
    "\x7b\x7d service is unavailable.", "Try to restart the service"⟩

def resolvedAlert : Alert :=
  ⟨.faultResolved, "\x7b\x7d in \x7b\x7d state from last \x7b\x7d seconds.",
    "\x7b\x7d service is available now.", "No action required"⟩

/-- The alert message with what its texts are formatted with. -/
structure Message (ν : Type) where
  resourceId : ν
  alert : Alert
  previousState : Option UnitActiveState
  state : Option UnitActiveState
  seconds : Int
  deriving DecidableEq

/-- The attributes of the class `Service`, and the store. -/
structure Shared (ν : Type) where
  alerts : List (Message ν)
  nonActive : Finset ν
  activeWaitingServices : Finset ν
  failedWaitingServices : Finset ν
  monitoringDisabled : Finset ν
  cache : ν → Option Cached

/-- The answers of D-Bus in one step. -/
structure Bus where
  /-- The unit is loaded and its name is read. -/
  unit : Bool
  /-- What `UnitFileState` says, read as in `is_enabled`. -/
  isEnabled : Option Bool
  /-- `connect_to_signal` succeeds. -/
  connects : Bool
  /-- The properties read by the handler. -/
  activeState : Option UnitActiveState
  deriving DecidableEq

variable {ν : Type}

def getAlert (cfg : Config ν) (x : Service ν) (alert : Alert) : Message ν where
  resourceId := x.name
  alert := alert
  previousState := x.previousState
  state := x.state
  seconds :=
    if x.state = some .active ∨ x.state = some .failed then cfg.thresholdWaitingTime
    else cfg.nonactiveThreshold

namespace Service

/-- `__init__`. -/
def created (name : ν) (now : Int) : Service ν :=
  ⟨name, none, none, now, now, .active, none, false, 0⟩

/-- Some signal still calls the handler of this object. -/
def Live (x : Service ν) : Prop := x.propertiesChangedSignal = true ∨ x.leakedSignals ≠ 0

instance (x : Service ν) : Decidable x.Live := inferInstanceAs (Decidable (_ ∨ _))

def isNonactiveForThresholdTime (cfg : Config ν) (x : Service ν) (now : Int) : Bool :=
  cfg.nonactiveThreshold < now - x.nonactiveEnterTimestamp

def inSameStateForThresholdTime (cfg : Config ν) (x : Service ν) (now : Int) : Bool :=
  cfg.thresholdWaitingTime < now - x.waitingTimestamp

def cached (x : Service ν) : Cached :=
  ⟨x.state, x.serviceState, x.nonactiveEnterTimestamp, x.waitingTimestamp⟩

/-- The first part of the handler: what the unit is in now, and what before. -/
def observe (x : Service ν) (state : UnitActiveState) : Service ν :=
  if x.state ≠ some state then { x with previousState := x.state, state := some state } else x

/-- The new signal takes the place of the old one, which stays connected. -/
def subscribe (x : Service ν) : Service ν :=
  { x with
    propertiesChangedSignal := true
    leakedSignals := if x.propertiesChangedSignal then x.leakedSignals + 1 else x.leakedSignals }

def unsubscribe (x : Service ν) : Service ν := { x with propertiesChangedSignal := false }

end Service

variable [DecidableEq ν]

namespace Shared

@[simps]
def addNonActive (c : Shared ν) (n : ν) : Shared ν :=
  { c with nonActive := insert n c.nonActive }

@[simps]
def discardNonActive (c : Shared ν) (n : ν) : Shared ν :=
  { c with nonActive := c.nonActive.erase n }

@[simps]
def addActiveWaiting (c : Shared ν) (n : ν) : Shared ν :=
  { c with activeWaitingServices := insert n c.activeWaitingServices }

@[simps]
def discardActiveWaiting (c : Shared ν) (n : ν) : Shared ν :=
  { c with activeWaitingServices := c.activeWaitingServices.erase n }

@[simps]
def addFailedWaiting (c : Shared ν) (n : ν) : Shared ν :=
  { c with failedWaitingServices := insert n c.failedWaitingServices }

@[simps]
def discardFailedWaiting (c : Shared ν) (n : ν) : Shared ν :=
  { c with failedWaitingServices := c.failedWaitingServices.erase n }

@[simps]
def discardMonitoringDisabled (c : Shared ν) (n : ν) : Shared ν :=
  { c with monitoringDisabled := c.monitoringDisabled.erase n }

@[simps]
def dumpToCache (c : Shared ν) (x : Service ν) : Shared ν :=
  { c with cache := Function.update c.cache x.name (some x.cached) }

end Shared

/-- `enter` of the service states. -/
def ServiceState.enter (now : Int) :
    ServiceState → Service ν → Shared ν → Service ν × Shared ν
  | .active, x, c =>
    (x, ((c.discardNonActive x.name).discardFailedWaiting x.name).discardActiveWaiting x.name)
  | .failed, x, c =>
    (x, ((c.discardNonActive x.name).discardFailedWaiting x.name).discardActiveWaiting x.name)
  | .inactive, x, c =>
    ({ x with nonactiveEnterTimestamp := now },
      ((c.addNonActive x.name).discardFailedWaiting x.name).discardActiveWaiting x.name)

def newServiceState (now : Int) (new : ServiceState) (x : Service ν) (c : Shared ν) :
    Service ν × Shared ν :=
  if x.serviceState ≠ new then new.enter now { x with serviceState := new } c else (x, c)

/-- The part of the handler that acts on the observed state. -/
def react (now : Int) (x : Service ν) (c : Shared ν) : Service ν × Shared ν :=
  if x.state = x.previousState then (x, c)
  else
    match x.state with
    | some .active =>
      let r :=
        match x.serviceState with
        | .failed => ({ x with waitingTimestamp := now }, c.addActiveWaiting x.name)
        | .inactive => newServiceState now .active x c
        | .active => (x, c)
      (r.1, r.2.discardFailedWaiting r.1.name)
    | some .failed =>
      let r :=
        if x.serviceState ≠ .failed then
          ({ x with waitingTimestamp := now }, c.addFailedWaiting x.name)
        else (x, c)
      (r.1, r.2.discardActiveWaiting r.1.name)
    | _ =>
      let r := if x.serviceState ≠ .failed then newServiceState now .inactive x c else (x, c)
      let c := (r.2.discardActiveWaiting r.1.name).discardFailedWaiting r.1.name
      (r.1, c.dumpToCache r.1)

/-- The handler; `none` is a `DBusException`, which comes before any change. -/
def propertiesChangedHandler (now : Int) (reply : Option UnitActiveState) (x : Service ν)
    (c : Shared ν) : Option (Service ν × Shared ν) :=
  reply.map (fun state => react now (x.observe state) c)

namespace MonitoringDisabled

/-- `MonitoringDisabled.enter`. -/
def enter (cfg : Config ν) (x : Service ν) (c : Shared ν) : Service ν × Shared ν :=
  (x, { c with
    alerts :=
      if x.name ∉ c.monitoringDisabled then c.alerts ++ [getAlert cfg x failedAlert]
      else c.alerts
    monitoringDisabled := insert x.name c.monitoringDisabled })

end MonitoringDisabled

namespace DisabledState

def enter (x : Service ν) (c : Shared ν) : Service ν × Shared ν :=
  (x.unsubscribe, (c.discardNonActive x.name).discardMonitoringDisabled x.name)

end DisabledState

namespace EnabledState

/-- `EnabledState.enter`; its `except` clause is `new_unit_state(MonitoringDisabled)`,
which is a change of the unit state here. -/
def enter (cfg : Config ν) (bus : Bus) (now : Int) (x : Service ν) (c : Shared ν) :
    Service ν × Shared ν :=
  if bus.connects then
    let x := x.subscribe
    let c := c.discardMonitoringDisabled x.name
    match propertiesChangedHandler now bus.activeState x c with
    | some result => result
    | none => MonitoringDisabled.enter cfg { x with unitState := some .monitoringDisabled } c
  else MonitoringDisabled.enter cfg { x with unitState := some .monitoringDisabled } c

end EnabledState

def UnitState.enter (cfg : Config ν) (bus : Bus) (now : Int) :
    UnitState → Service ν → Shared ν → Service ν × Shared ν
  | .disabled => DisabledState.enter
  | .enabled => EnabledState.enter cfg bus now
  | .monitoringDisabled => MonitoringDisabled.enter cfg

def newUnitState (cfg : Config ν) (bus : Bus) (now : Int) (new : UnitState) (x : Service ν)
    (c : Shared ν) : Service ν × Shared ν :=
  if x.unitState ≠ some new then new.enter cfg bus now { x with unitState := some new } c
  else (x, c)

/-- `none` is the `DBusException` of `is_enabled`. -/
def handleUnitStateChange (cfg : Config ν) (bus : Bus) (now : Int) (x : Service ν)
    (c : Shared ν) : Option (Service ν × Shared ν) :=
  bus.isEnabled.map (fun isEnabled =>
    newUnitState cfg bus now (if isEnabled then .enabled else .disabled) x c)

/-- The timestamp set on entering `InactiveState` is overwritten by the cached one. -/
def fromCache (now : Int) (n : ν) (data : Cached) (c : Shared ν) : Service ν × Shared ν :=
  let r := newServiceState now data.serviceMonitorState (Service.created n now) c
  ({ r.1 with
      state := data.serviceState
      nonactiveEnterTimestamp := data.nonactiveEnterTimestamp
      waitingTimestamp := data.waitingTimestamp }, r.2)

/-- The object made by `initialize_service` before its unit state is looked at. -/
def load (now : Int) (n : ν) (c : Shared ν) : Service ν × Shared ν :=
  match c.cache n with
  | some data => fromCache now n data c
  | none => (Service.created n now, c)

/-- The loops of the sensor over a copied set of names. -/
inductive Loop
  /-- `initialize` over the configured services. -/
  | starting
  /-- `run` over the services that could not be initialized yet. -/
  | errored
  /-- `run` over `monitoring_disabled`. -/
  | resubscribing
  | activeWaiting
  | failedWaiting
  | nonActive
  deriving DecidableEq

/-- The loop that follows in `run`; after the last one events are processed again. -/
def Loop.next : Loop → Option Loop
  | .starting => none
  | .errored => some .resubscribing
  | .resubscribing => some .activeWaiting
  | .activeWaiting => some .failedWaiting
  | .failedWaiting => some .nonActive
  | .nonActive => none

/-- Where the thread of the sensor stands. -/
inductive Point (ν : Type)
  | stopped
  | waiting
  | within (l : Loop) (todo : Finset ν)

/-- What raises an alert. -/
inductive Origin
  | check
  | registration
  deriving DecidableEq

/-- The class attributes, the objects in `services` and the earlier ones that are still connected,
the point of the sensor's loop and what was sent. -/
structure State (ν : Type) where
  shared : Shared ν
  services : ν → Option (Service ν)
  /-- Objects that were in `services` before the sensor was started again, oldest first. -/
  earlier : ν → List (Service ν)
  point : Point ν
  /-- What `raise_alert` has sent. -/
  sent : List (Origin × Message ν)

/-- A step of the sensor's loop for one service, a signal from D-Bus between two rounds, or a
restart of the sensor or of its process. -/
inductive Action (ν : Type)
  /-- The process ends and another one starts. -/
  | restartProcess
  /-- The sensor is started again in the process. -/
  | restartSensor
  | visit (n : ν) (bus : Bus) (now : Int)
  | advance
  /-- The periodic part of `run` begins. -/
  | poll
  /-- A signal calls the handler of the current object, or of an earlier one. -/
  | propertiesChanged (n : ν) (which : Option Nat) (reply : Option UnitActiveState) (now : Int)
  | unitFilesChanged (n : ν) (bus : Bus) (now : Int)
  | processAlert

namespace State

/-- The loop over the names it starts with. -/
def enterLoop (cfg : Config ν) (l : Loop) (s : State ν) : State ν :=
  { s with point := .within l (match l with
    | .starting => cfg.servicesToMonitor
    | .errored => {n ∈ cfg.servicesToMonitor | (s.services n).isNone}
    | .resubscribing => s.shared.monitoringDisabled
    | .activeWaiting => s.shared.activeWaitingServices
    | .failedWaiting => s.shared.failedWaitingServices
    | .nonActive => s.shared.nonActive) }

def setService (s : State ν) (n : ν) (result : Service ν × Shared ν) : State ν :=
  { s with services := Function.update s.services n (some result.1), shared := result.2 }

/-- The object of the name is replaced; the old one is kept by its connected signals. -/
def replaceService (s : State ν) (n : ν) (result : Service ν × Shared ν) : State ν :=
  { s.setService n result with
    earlier := Function.update s.earlier n (s.earlier n ++ (s.services n).toList) }

/-- `raise_alert` for the given object. -/
def raiseAlert (s : State ν) (origin : Origin) (message : Message ν) (x : Service ν) : State ν :=
  { s with sent := s.sent ++ [(origin, message)], shared := s.shared.dumpToCache x }

/-- `raise_alert` up to the `KeyError` of a service without an object. -/
def loseAlert (s : State ν) (origin : Origin) (message : Message ν) : State ν :=
  { s with sent := s.sent ++ [(origin, message)], point := .stopped }

/-- The queue of alerts without its first one. -/
def takeAlert (s : State ν) (rest : List (Message ν)) : State ν :=
  { s with shared := { s.shared with alerts := rest } }

def initializeService (cfg : Config ν) (n : ν) (bus : Bus) (now : Int) (s : State ν) : State ν :=
  if bus.unit then
    let r := load now n s.shared
    match handleUnitStateChange cfg bus now r.1 r.2 with
    | some result => s.replaceService n result
    | none => { s with shared := r.2 }
  else s

/-- The body of a loop of `check_service_threshold_time`. -/
def checkService (cfg : Config ν) (x : Service ν) (overdue : Bool) (new : ServiceState)
    (alert : Alert) (now : Int) (s : State ν) : State ν :=
  if overdue then
    let result := newServiceState now new x s.shared
    (s.setService x.name result).raiseAlert .check (getAlert cfg result.1 alert) result.1
  else s

/-- The body of a loop for one name; `none` is a `KeyError`. -/
def visit (cfg : Config ν) (n : ν) (bus : Bus) (now : Int) (s : State ν) :
    Loop → Option (State ν)
  | .starting => some (s.initializeService cfg n bus now)
  | .errored => some (s.initializeService cfg n bus now)
  | .resubscribing => (s.services n).map (fun x =>
      s.setService n (newUnitState cfg bus now .enabled x s.shared))
  | .activeWaiting => (s.services n).map (fun x =>
      s.checkService cfg x (x.inSameStateForThresholdTime cfg now) .active resolvedAlert now)
  | .failedWaiting => (s.services n).map (fun x =>
      s.checkService cfg x (x.inSameStateForThresholdTime cfg now) .failed failedAlert now)
  | .nonActive => (s.services n).map (fun x =>
      s.checkService cfg x (x.isNonactiveForThresholdTime cfg now) .failed inactiveAlert now)

/-- A new process finds the store and nothing else. -/
def restarted (cfg : Config ν) (s : State ν) : State ν :=
  enterLoop cfg .starting
    ⟨⟨[], ∅, ∅, ∅, ∅, s.shared.cache⟩, fun _ => none, fun _ => [], .stopped, s.sent⟩

/-- The handler of the object at this place is called by a signal. -/
def handleSignal (n : ν) (which : Option Nat) (reply : Option UnitActiveState) (now : Int)
    (s : State ν) : Option (State ν) :=
  match which with
  | none => (s.services n).bind (fun x =>
      if x.Live then some (match propertiesChangedHandler now reply x s.shared with
        | some result => s.setService n result
        | none => s)
      else none)
  | some i => ((s.earlier n)[i]?).bind (fun x =>
      if x.Live then some (match propertiesChangedHandler now reply x s.shared with
        | some r => { s with
            earlier := Function.update s.earlier n ((s.earlier n).set i r.1), shared := r.2 }
        | none => s)
      else none)

end State

open State

/-- The loops of `_run` go over the names of a set one by one, in any order; signals come between
two rounds. A lookup that fails ends the sensor. -/
def next (cfg : Config ν) (s : State ν) : Action ν → Option (State ν)
  | .restartProcess => some (s.restarted cfg)
  | .restartSensor =>
    match s.point with
    | .within _ _ => none
    | _ => some (enterLoop cfg .starting s)
  | .visit n bus now =>
    match s.point with
    | .within l todo =>
      if n ∈ todo then
        match s.visit cfg n bus now l with
        | some t => some { t with point := .within l (todo.erase n) }
        | none => some { s with point := .stopped }
      else none
    | _ => none
  | .advance =>
    match s.point with
    | .within l todo =>
      if todo = ∅ then
        match l.next with
        | some following => some (enterLoop cfg following s)
        | none => some { s with point := .waiting }
      else none
    | _ => none
  | .poll =>
    match s.point with
    | .waiting => some (enterLoop cfg .errored s)
    | _ => none
  | .propertiesChanged n which reply now =>
    match s.point with
    | .waiting => s.handleSignal n which reply now
    | _ => none
  | .unitFilesChanged n bus now =>
    match s.point with
    | .waiting => (s.services n).map (fun x =>
        match handleUnitStateChange cfg bus now x s.shared with
        | some result => s.setService n result
        | none => s)
    | _ => none
  | .processAlert =>
    match s.point, s.shared.alerts with
    | .waiting, message :: rest =>
      match s.services message.resourceId with
      | some x => some ((s.takeAlert rest).raiseAlert .registration message x)
      | none => some ((s.takeAlert rest).loseAlert .registration message)
    | _, _ => none

/-- Before the sensor is started for the first time the cache is empty. -/
def fresh (cfg : Config ν) : State ν :=
  restarted cfg ⟨⟨[], ∅, ∅, ∅, ∅, fun _ => none⟩, fun _ => none, fun _ => [], .stopped, []⟩

/-- The sensor over all its processes. Only the cache outlives a process. -/
def system (cfg : Config ν) : Transition.System (State ν) (Action ν) where
  init s := s = fresh cfg
  next := next cfg

/-- The types of the alerts that `check_service_threshold_time` has raised for a service. -/
def State.checkAlerts (s : State ν) (n : ν) : List AlertType :=
  (s.sent.filter (fun p => p.1 = .check ∧ p.2.resourceId = n)).map (fun p => p.2.alert.alertType)

end ServiceMonitor

end Sspl

import Mathlib.Data.Finset.Basic
import Mathlib.Data.Finset.Filter
import Mathlib.Logic.Function.Basic
import Sspl.Foundation.Acyclic
import Sspl.Foundation.System

/-!
# The start of the sensor threads

A `SensorThread` is started in a thread of its own and becomes `RUNNING` when its
`initialize` has succeeded and all sensors it depends on are `RUNNING`. `prepare`
tells a sensor what it depends on and registers it there; later each sensor calls
`event` of its dependers once, when it has left `WAITING`.

The steps of the system are the parts of the methods that run under the sensor's
lock, and the parts of `start_thread` before and after `initialize`. A sensor that
has left `WAITING` keeps its lock until all its dependers were told, so its own
locked steps wait in the meantime. In the source the calls of `event` are nested
in each other; here the callers may go on in any order.

`outcomes`, `executed` and `heard` record what has happened and are never read by
the steps.
-/

namespace Sspl

namespace DependencyState

def depsStarting : Nat := 0
def depsFailed : Nat := 2
def depsSuccess : Nat := 4

end DependencyState

namespace InitState

def initializing : Nat := 0
def initFailed : Nat := 1
def initSuccess : Nat := 2

end InitState

namespace SensorThreadState

def waiting : Nat := 0
def running : Nat := 1
def failed : Nat := 3

end SensorThreadState

open DependencyState InitState SensorThreadState

/-- `SENSORTHREAD_INIT_WAIT_TIMEOUT`. -/
def sensorthreadInitWaitTimeout : Nat := 300

/-- `SENSORTHREAD_INIT_WAIT_INTERVAL`. -/
def sensorthreadInitWaitInterval : Nat := 10

structure SensorThread (ν : Type) where
  remainingDependees : Finset ν
  numFailedDependees : Nat
  waitingDependers : Finset ν
  depsStatus : Nat
  initStatus : Nat
  hasTimedOut : Bool
  currentTimeoutWait : Nat
  status : Nat

namespace SensorThread

variable {ν : Type}

/-- `__init__`. -/
def created : SensorThread ν := ⟨∅, 0, ∅, depsStarting, initializing, false, 0, waiting⟩

/-- The assignment to `deps_status`. -/
def depsOutcome [DecidableEq ν] (x : SensorThread ν) : Nat :=
  if x.numFailedDependees ≠ 0 then depsFailed
  else if x.remainingDependees = ∅ then depsSuccess
  else x.depsStatus

def definitelyFailed (x : SensorThread ν) : Bool :=
  x.depsStatus = depsFailed || x.initStatus = initFailed || x.hasTimedOut

def definitelySucceeded (x : SensorThread ν) : Bool :=
  x.depsStatus = depsSuccess && x.initStatus = initSuccess

/-- The sensor afterwards, and the dependers whose `event` is to be called. -/
def checkAndConcludeInitialization [DecidableEq ν] (x : SensorThread ν) :
    SensorThread ν × Finset ν :=
  if x.status ≠ waiting then (x, ∅)
  else
    let x := { x with depsStatus := x.depsOutcome }
    let x :=
      if x.definitelyFailed then { x with status := failed }
      else if x.definitelySucceeded then { x with status := running }
      else x
    (x, if x.status ≠ waiting then x.waitingDependers else ∅)

/-- `event` before it concludes. -/
def noteEvent [DecidableEq ν] (x : SensorThread ν) (dependee : ν) (running : Bool) :
    SensorThread ν :=
  { x with
    remainingDependees := x.remainingDependees.erase dependee
    numFailedDependees := if running then x.numFailedDependees else x.numFailedDependees + 1 }

/-- `check_and_run` before it concludes. -/
def noteInterval (x : SensorThread ν) : SensorThread ν :=
  { x with
    currentTimeoutWait := x.currentTimeoutWait + sensorthreadInitWaitInterval
    hasTimedOut := x.hasTimedOut ||
      decide (sensorthreadInitWaitTimeout < x.currentTimeoutWait + sensorthreadInitWaitInterval) }

end SensorThread

/-- Where a sensor stands in `start_thread`. -/
inductive Stage
  | idle
  | initializing
  | concluding
  deriving DecidableEq

/-- A sensor thread with the point at which it stands, and what has come of its calls so far. -/
structure Sensor (ν : Type) where
  thread : SensorThread ν
  stage : Stage
  /-- The dependers whose `event` is still to be called; the lock is held until then. -/
  telling : Finset ν
  /-- How the calls of `initialize` have ended, in their order. -/
  outcomes : List Bool
  /-- `start_thread` was executed at least once up to the scheduler or an exception. -/
  executed : Bool
  /-- The calls of `event` by the given dependee with the given argument. -/
  heard : List (ν × Bool)

/-- The sensors in the module map and what they depend on. A sensor depends on sensors of the map
only; what else it declares is left out before. -/
structure SensorGraph (ν : Type) where
  sensors : Finset ν
  deps : ν → Finset ν
  closed : ∀ s, ∀ d ∈ deps s, s ∈ sensors ∧ d ∈ sensors

namespace SensorGraph

variable {ν : Type} (g : SensorGraph ν)

def DependsOn (dependee depender : ν) : Prop := dependee ∈ g.deps depender

def dependers [DecidableEq ν] (s : ν) : Finset ν := {d ∈ g.sensors | s ∈ g.deps d}

theorem mem_dependers [DecidableEq ν] {s d : ν} : d ∈ g.dependers s ↔ s ∈ g.deps d := by
  rw [dependers, Finset.mem_filter]
  exact and_iff_right_of_imp (fun mem => (g.closed d s mem).1)

end SensorGraph

namespace Start

variable {ν : Type}

abbrev State (ν : Type) := ν → Sensor ν

/-- The calls of a sensor thread, each up to the point at which it waits or tells others. -/
inductive Action (ν : Type)
  | startThread (s : ν)
  | initializeEnds (s : ν) (returns : Bool)
  | conclude (s : ν)
  | checkAndRun (s : ν)
  | event (dependee depender : ν)
  deriving DecidableEq

end Start

namespace Sensor

variable {ν : Type}

def created : Sensor ν := ⟨SensorThread.created, .idle, ∅, [], false, []⟩

def startThread (x : Sensor ν) : Sensor ν :=
  { x with
    thread := { x.thread with initStatus := InitState.initializing }
    stage := .initializing }

/-- The `except` clause of `start_thread`. -/
def initializeRaises (x : Sensor ν) : Sensor ν :=
  { x with
    thread := { x.thread with initStatus := initFailed, status := initFailed }
    stage := .idle, outcomes := x.outcomes ++ [false], executed := true }

def initializeReturns (x : Sensor ν) : Sensor ν :=
  { x with
    thread := { x.thread with initStatus := initSuccess }
    stage := .concluding, outcomes := x.outcomes ++ [true] }

variable [DecidableEq ν]

def conclude (x : Sensor ν) : Sensor ν :=
  { x with
    thread := x.thread.checkAndConcludeInitialization.1
    telling := x.thread.checkAndConcludeInitialization.2 }

/-- `start_thread` goes on to run the scheduler. -/
def enterScheduler (x : Sensor ν) : Sensor ν := { x with stage := .idle, executed := true }

def checkAndRun (x : Sensor ν) : Sensor ν :=
  conclude { x with thread := x.thread.noteInterval }

/-- The record of an event before the depender concludes. -/
def receive (x : Sensor ν) (dependee : ν) (running : Bool) : Sensor ν :=
  { x with
    thread := x.thread.noteEvent dependee running
    heard := x.heard ++ [(dependee, running)] }

def event (x : Sensor ν) (dependee : ν) (running : Bool) : Sensor ν :=
  conclude (x.receive dependee running)

/-- One of the calls in the loop over `waiting_dependers` is made. -/
def told (x : Sensor ν) (depender : ν) : Sensor ν :=
  { x with telling := x.telling.erase depender }

def myRegister (x : Sensor ν) (depender : ν) : Sensor ν :=
  { x with thread :=
      { x.thread with waitingDependers := insert depender x.thread.waitingDependers } }

/-- The events that came from the given dependee. -/
def heardFrom (x : Sensor ν) (dependee : ν) : List Bool :=
  (x.heard.filter (fun p => p.1 = dependee)).map (fun p => p.2)

end Sensor

namespace SensorThread

variable {ν : Type} [DecidableEq ν] {x : SensorThread ν}

theorem depsOutcome_of_failed (h : x.numFailedDependees ≠ 0) : x.depsOutcome = depsFailed := by
  rw [depsOutcome, if_pos h]

theorem depsOutcome_of_none (h : x.numFailedDependees = 0) (none : x.remainingDependees = ∅) :
    x.depsOutcome = depsSuccess := by
  rw [depsOutcome, if_neg (not_not.mpr h), if_pos none]

theorem depsOutcome_eq_success (h : x.depsOutcome = depsSuccess) :
    x.numFailedDependees = 0 ∧ (x.remainingDependees = ∅ ∨ x.depsStatus = depsSuccess) := by
  rw [depsOutcome] at h
  split at h
  · cases h
  · rename_i none
    refine ⟨not_not.mp none, ?_⟩
    split at h
    · exact .inl ‹_›
    · exact .inr h

end SensorThread

namespace Sensor

variable {ν : Type} [DecidableEq ν] {x : Sensor ν}

/-- The status does not change any more after `WAITING` was left. -/
theorem conclude_of_left (left : x.thread.status ≠ waiting) :
    x.conclude = { x with telling := ∅ } := by
  rw [conclude, SensorThread.checkAndConcludeInitialization, if_pos left]

/-- What `check_and_conclude_initialization` makes of a waiting sensor. -/
theorem conclude_cases (still : x.thread.status = waiting) :
    (x.conclude = { x with
          thread := { x.thread with depsStatus := x.thread.depsOutcome }, telling := ∅ } ∧
        x.thread.depsOutcome ≠ depsFailed ∧
        ¬ (x.thread.depsOutcome = depsSuccess ∧ x.thread.initStatus = initSuccess)) ∨
      (x.conclude = { x with
          thread := { x.thread with depsStatus := x.thread.depsOutcome, status := failed }
          telling := x.thread.waitingDependers } ∧
        (x.thread.depsOutcome = depsFailed ∨ x.thread.initStatus = initFailed ∨
          x.thread.hasTimedOut)) ∨
      (x.conclude = { x with
          thread := { x.thread with depsStatus := x.thread.depsOutcome, status := running }
          telling := x.thread.waitingDependers } ∧
        x.thread.depsOutcome = depsSuccess ∧ x.thread.initStatus = initSuccess) := by
  obtain ⟨y, def_y⟩ : ∃ y, y = { x.thread with depsStatus := x.thread.depsOutcome } := ⟨_, rfl⟩
  have run : x.thread.checkAndConcludeInitialization =
      (let z := if y.definitelyFailed then { y with status := failed }
        else if y.definitelySucceeded then { y with status := running } else y
      (z, if z.status ≠ waiting then z.waitingDependers else ∅)) := by
    rw [SensorThread.checkAndConcludeInitialization, if_neg (not_not.mpr still), def_y]
  have unfoldFailed : y.definitelyFailed = true ↔ x.thread.depsOutcome = depsFailed ∨
      x.thread.initStatus = initFailed ∨ x.thread.hasTimedOut := by
    simp [SensorThread.definitelyFailed, def_y, or_assoc]
  have unfoldSucceeded : y.definitelySucceeded = true ↔
      x.thread.depsOutcome = depsSuccess ∧ x.thread.initStatus = initSuccess := by
    simp [SensorThread.definitelySucceeded, def_y]
  rw [conclude, run]
  by_cases isFailed : y.definitelyFailed
  · refine .inr (.inl ⟨?_, unfoldFailed.mp isFailed⟩)
    simp only [isFailed, if_true]
    subst def_y
    rfl
  · have notFailed := fun h => isFailed (unfoldFailed.mpr h)
    by_cases succeeded : y.definitelySucceeded
    · refine .inr (.inr ⟨?_, unfoldSucceeded.mp succeeded⟩)
      simp only [isFailed, succeeded, if_true, Bool.false_eq_true, if_false]
      subst def_y
      rfl
    · refine .inl ⟨?_, fun h => notFailed (.inl h), fun h => succeeded (unfoldSucceeded.mpr h)⟩
      simp only [isFailed, succeeded, Bool.false_eq_true, if_false]
      subst def_y
      simp only [still, ne_eq, not_true, if_false]

end Sensor

namespace Start

variable {ν : Type} [DecidableEq ν]

def prepare (σ : State ν) (s : ν) (dependencies : Finset ν) : State ν :=
  let remaining := (σ s).thread.remainingDependees ∪ dependencies
  let σ := Function.update σ s
    { σ s with thread := { (σ s).thread with remainingDependees := remaining } }
  fun d => if d ∈ remaining then (σ d).myRegister s else σ d

/-- `prepare` of the sensors in the order of the module map. -/
def prepareAll (g : SensorGraph ν) (order : List ν) : State ν :=
  order.foldl (fun σ s => prepare σ s (g.deps s)) (fun _ => Sensor.created)

/-- The threads of the sensors run at the same time: an action is one call, or one call of `event`
within the loop that tells the dependers. It is enabled where the lock of the sensor is free. -/
def next (g : SensorGraph ν) (σ : State ν) : Action ν → Option (State ν)
  | .startThread s =>
    if s ∈ g.sensors ∧ (σ s).stage = .idle then some (Function.update σ s (σ s).startThread)
    else none
  | .initializeEnds s returns =>
    if (σ s).stage = .initializing then
      some (Function.update σ s
        (if returns then (σ s).initializeReturns else (σ s).initializeRaises))
    else none
  | .conclude s =>
    if (σ s).stage = .concluding ∧ (σ s).telling = ∅ then
      some (Function.update σ s (σ s).enterScheduler.conclude)
    else none
  | .checkAndRun s =>
    if s ∈ g.sensors ∧ (σ s).telling = ∅ then some (Function.update σ s (σ s).checkAndRun)
    else none
  | .event s d =>
    if d ∈ (σ s).telling ∧ (σ d).telling = ∅ then
      let σ := Function.update σ s ((σ s).told d)
      some (Function.update σ d ((σ d).event s (decide ((σ s).thread.status = running))))
    else none

/-- Before the threads are started all sensors of the module map were prepared. -/
def system (g : SensorGraph ν) : Transition.System (State ν) (Action ν) where
  init σ := ∃ order : List ν, order.toFinset = g.sensors ∧ σ = prepareAll g order
  next := next g

section Prepared

variable (g : SensorGraph ν)

/-- Of the sensors prepared so far each knows what it depends on, and is known there. -/
def preparedSensor (order : List ν) (s : ν) : Sensor ν :=
  { Sensor.created with
    thread := ⟨if s ∈ order then g.deps s else ∅, 0, {d ∈ order.toFinset | s ∈ g.deps d},
      depsStarting, initializing, false, 0, waiting⟩ }

theorem prepareAll_snoc (order : List ν) (s : ν) :
    prepareAll g (order ++ [s]) = prepare (prepareAll g order) s (g.deps s) := by
  simp [prepareAll]

theorem prepareAll_eq (order : List ν) : prepareAll g order = preparedSensor g order := by
  induction order using List.reverseRecOn with
  | nil =>
      funext s
      simp [prepareAll, preparedSensor, Sensor.created, SensorThread.created]
  | append_singleton order s ih =>
      rw [prepareAll_snoc, ih]
      have remaining : (preparedSensor g order s).thread.remainingDependees ∪ g.deps s =
          g.deps s := by
        simp only [preparedSensor]
        split <;> simp
      funext d
      simp only [prepare, remaining]
      by_cases here : d = s
      · subst here
        by_cases known : d ∈ g.deps d <;>
          simp [known, preparedSensor, Sensor.myRegister, Finset.filter_insert,
            List.toFinset_append]
      · by_cases known : d ∈ g.deps s <;>
          simp [here, known, preparedSensor, Sensor.myRegister, Finset.filter_insert,
            List.toFinset_append]

end Prepared

end Start

end Sspl

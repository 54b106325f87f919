import Mathlib.Order.Lattice
import Mathlib.Data.List.Basic
import Mathlib.Logic.Function.Basic
import Mathlib.Order.Defs.LinearOrder
import Mathlib.Tactic.Simps.Basic
import Sspl.Foundation.Alternation
import Sspl.Foundation.System
import Sspl.Node.Alert

/-!
# The usage alerts of the node

`NodeDataMsgHandler` compares the usage of the processor, of the memory and of the disk with
a threshold each. The alerts for processor and memory are damped: a fault waits until usage
has been high for a while, and its resolution waits until enough samples were low. What the
handler knows about a resource is written to a file of its own, and a new handler goes on from
that file.

`_generate_cpu_data` and `_generate_host_update` are one method with other names in it. The
values in the files are texts; a number or a truth value is written with `str` and read back as
it was, so the files keep the values themselves here. A call is one step from the sample to the
file, and restarts fall between the calls: a process that ends between the alert of a call and
the write of the file is left out.
-/

namespace Sspl

namespace Node

namespace Usage

/-- The keys of `high_usage`. -/
inductive Resource
  | cpu
  | disk
  | memory
  deriving DecidableEq

variable {ρ : Type}

/-- What the configuration says. -/
structure Settings (ρ : Type) where
  /-- `int` or `float` of a text, `none` for a `ValueError`. -/
  number : String → Option ρ
  /-- `str` of a number. -/
  str : ρ → String
  /-- `DEFAULT_CPU_USAGE_THRESHOLD` and the others. -/
  defaultUsageThreshold : ρ
  usageThreshold : Resource → String
  highCpuUsageWaitThreshold : Int
  highMemoryUsageWaitThreshold : Int
  transmitInterval : Int

namespace Settings

/-- The threshold a call compares with: an invalid text is replaced by the default. -/
def threshold (c : Settings ρ) (resource : Resource) : ρ :=
  (c.number (c.usageThreshold resource)).getD c.defaultUsageThreshold

end Settings

/-- `int(wait / interval)`, and 0 for a `ZeroDivisionError`. -/
def iterationLimit (waitThreshold transmitInterval : Int) : Int :=
  if transmitInterval = 0 then 0 else waitThreshold.tdiv transmitInterval

/-- The dictionary in the file of a resource. -/
structure Persistent where
  highUsage : Bool
  usageTimeMap : Int
  faultResolvedIterations : Int
  deriving DecidableEq

/-- A message for the egress processor. -/
structure Message where
  resource : Resource
  state : AlertType
  event : String
  deriving DecidableEq

/-- The three maps of the class, the files and the messages sent. -/
structure Handler where
  highUsage : Resource → Bool
  usageTimeMap : Resource → Int
  faultResolvedIterations : Resource → Int
  files : Resource → Option Persistent
  sent : List Message

namespace Handler

variable (s : Handler) (resource : Resource)

@[simps -fullyApplied] def persistStateData : Handler :=
  { s with
    files := Function.update s.files resource
      (some ⟨s.highUsage resource, s.usageTimeMap resource, s.faultResolvedIterations resource⟩) }

def initFromPersistentCache : Handler :=
  match s.files resource with
  | some data => { s with highUsage := Function.update s.highUsage resource data.highUsage }
  | none => s.persistStateData resource

/-- `initialize`, as far as it concerns usage. -/
def init : Handler :=
  ((s.initFromPersistentCache .cpu).initFromPersistentCache .disk).initFromPersistentCache .memory

/-- The maps of the class in a new process, with the files of the last one. -/
@[simps -fullyApplied] def newProcess : Handler :=
  { s with
    highUsage := fun _ => false
    usageTimeMap := fun _ => -1
    faultResolvedIterations := fun _ => 0 }

@[simps -fullyApplied] def setHighUsage (high : Bool) : Handler :=
  { s with highUsage := Function.update s.highUsage resource high }

@[simps -fullyApplied] def setUsageTime (time : Int) : Handler :=
  { s with usageTimeMap := Function.update s.usageTimeMap resource time }

@[simps -fullyApplied] def setIterations (iterations : Int) : Handler :=
  { s with
    faultResolvedIterations := Function.update s.faultResolvedIterations resource iterations }

@[simps -fullyApplied] def send (message : Message) : Handler :=
  { s with sent := s.sent ++ [message] }

end Handler

/-- What `_generate_cpu_data` and `_generate_host_update` do not share. -/
structure Member (ρ : Type) where
  resource : Resource
  threshold : ρ
  waitThreshold : Int
  transmitInterval : Int
  faultEvent : ρ → String
  faultResolvedEvent : ρ → String

def cpu (c : Settings ρ) : Member ρ where
  resource := .cpu
  threshold := c.threshold .cpu
  waitThreshold := c.highCpuUsageWaitThreshold
  transmitInterval := c.transmitInterval
  faultEvent usage :=
    "CPU usage has increased to " ++ c.str usage ++ "%, beyond the configured threshold of " ++
      c.str (c.threshold .cpu) ++ "% for more than " ++ toString c.highCpuUsageWaitThreshold ++
      " seconds."
  faultResolvedEvent usage :=
    "CPU usage has decreased to " ++ c.str usage ++
      "%, lower than the configured threshold of " ++ c.str (c.threshold .cpu) ++ "%."

def memory (c : Settings ρ) : Member ρ where
  resource := .memory
  threshold := c.threshold .memory
  waitThreshold := c.highMemoryUsageWaitThreshold
  transmitInterval := c.transmitInterval
  faultEvent usage :=
    "Host memory usage has increased to " ++ c.str usage ++
      "%,beyond the configured threshold of " ++ c.str (c.threshold .memory) ++
      "% for more than " ++ toString c.highMemoryUsageWaitThreshold ++ " seconds."
  faultResolvedEvent usage :=
    "Host memory usage has decreased to " ++ c.str usage ++
      "%, lower than the configured threshold of " ++ c.str (c.threshold .memory) ++ "%."

section Generate

variable [LinearOrder ρ] (m : Member ρ) (usage : ρ) (s : Handler)

/-- The high branch, with `previous_check_time` from the file. -/
def raiseWhenDue (currentTime previousCheckTime : Int) : Handler :=
  let noted := if previousCheckTime = -1 then s.persistStateData m.resource else s
  let since := if previousCheckTime = -1 then currentTime else previousCheckTime
  if m.waitThreshold ≤ noted.usageTimeMap m.resource - since then
    (((noted.setHighUsage m.resource true).setIterations m.resource 0).send
      ⟨m.resource, .fault, m.faultEvent usage⟩).persistStateData m.resource
  else noted

/-- The low branch, with `fault_resolved_iters` from the file. -/
def resolveWhenDue (faultResolvedIters : Int) : Handler :=
  if s.highUsage m.resource = false then s.persistStateData m.resource
  else if faultResolvedIters < iterationLimit m.waitThreshold m.transmitInterval then
    (s.setIterations m.resource (faultResolvedIters + 1)).persistStateData m.resource
  else
    ((((s.send ⟨m.resource, .faultResolved, m.faultResolvedEvent usage⟩).setHighUsage
      m.resource false).setUsageTime m.resource (-1)).setIterations m.resource
      0).persistStateData m.resource

/-- The method behind `_generate_cpu_data` and `_generate_host_update`, with its alert and the
write of the file in one step. A sample that could not be read is the one that was read
before. -/
def generate (currentTime : Int) : Handler :=
  let previousCheckTime := ((s.files m.resource).map Persistent.usageTimeMap).getD (-1)
  let faultResolvedIters := ((s.files m.resource).map Persistent.faultResolvedIterations).getD 0
  let timed := s.setUsageTime m.resource currentTime
  let first :=
    if m.threshold ≤ usage ∧ timed.highUsage m.resource = false then
      raiseWhenDue m usage timed currentTime previousCheckTime
    else timed
  if usage < m.threshold then resolveWhenDue m usage first faultResolvedIters else first

variable (c : Settings ρ)

def generateCpuData (currentTime : Int) : Handler := generate (cpu c) usage s currentTime

def generateHostUpdate (currentTime : Int) : Handler := generate (memory c) usage s currentTime

def diskFaultEvent : String :=
  "Disk usage has increased to " ++ c.str usage ++ "%, beyond the configured threshold of " ++
    c.str (c.threshold .disk) ++ "%."

def diskFaultResolvedEvent : String :=
  "Disk usage has decreased to " ++ c.str usage ++ "%, lower than the configured threshold of " ++
    c.str (c.threshold .disk) ++ "%."

/-- `_generate_disk_space_alert`, once the disk usage was read. -/
def generateDiskSpaceAlert : Handler :=
  let first :=
    if c.threshold .disk ≤ usage ∧ s.highUsage .disk = false then
      ((s.setHighUsage .disk true).send
        ⟨.disk, .fault, diskFaultEvent usage c⟩).persistStateData .disk
    else s
  if usage ≤ c.threshold .disk ∧ first.highUsage .disk = true then
    ((first.send ⟨.disk, .faultResolved, diskFaultResolvedEvent usage c⟩).setHighUsage .disk
      false).persistStateData .disk
  else first

end Generate

/-- A call with the sample it took, the alerts it raised and the flag it left. -/
structure Call (ρ : Type) where
  usage : ρ
  time : Nat
  alerts : List AlertType
  high : Bool

/-- The handler, and the calls made for every resource, the last one first. -/
structure State (ρ : Type) where
  handler : Handler
  calls : Resource → List (Call ρ)

/-- A resource is read and its usage handled, or a new handler begins with what the store holds. -/
inductive Action (ρ : Type) where
  | call (resource : Resource) (usage : ρ) (time : Nat)
  /-- `_generate_disk_space_alert` returns when the disk usage cannot be read. -/
  | diskNotRead
  /-- A new handler, in a new process or in the one that runs. -/
  | restart (newProcess : Bool)

/-- The first start: there are no files yet. -/
def start : State ρ where
  handler := (Handler.newProcess ⟨fun _ => false, fun _ => 0, fun _ => 0, fun _ => none, []⟩).init
  calls _ := []

section System

variable [LinearOrder ρ] (c : Settings ρ)

/-- The method for a resource. -/
def sampled (resource : Resource) (usage : ρ) (time : Nat) (s : Handler) : Handler :=
  match resource with
  | .cpu => generateCpuData usage s c time
  | .memory => generateHostUpdate usage s c time
  | .disk => generateDiskSpaceAlert usage s c

/-- The alerts of a call are the messages it has added. -/
def called (resource : Resource) (usage : ρ) (time : Nat) (s : State ρ) : State ρ :=
  let after := sampled c resource usage time s.handler
  let alerts := (after.sent.drop s.handler.sent.length).map Message.state
  { handler := after
    calls := Function.update s.calls resource
      (⟨usage, time, alerts, after.highUsage resource⟩ :: s.calls resource) }

def restarted (newProcess : Bool) (s : State ρ) : State ρ :=
  { s with handler := if newProcess then s.handler.newProcess.init else s.handler.init }

/-- The clock may even go back. -/
def system : Transition.System (State ρ) (Action ρ) where
  init s := s = start
  next s a := match a with
    | .call resource usage time => some (called c resource usage time s)
    | .diskNotRead => some s
    | .restart newProcess => some (restarted newProcess s)

end System

/-- Thresholds of 80 percent, and one minute for all times. -/
def defaults : Settings Nat where
  number text := if text = "80" then some 80 else none
  str := toString
  defaultUsageThreshold := 80
  usageThreshold _ := "80"
  highCpuUsageWaitThreshold := 60
  highMemoryUsageWaitThreshold := 60
  transmitInterval := 60

/-- The alerts of some calls, in the order in which they were raised. -/
abbrev alertsOf (calls : List (Call ρ)) : List AlertType := told Call.alerts calls

/-- The last alert is a fault. -/
def Outstanding (calls : List (Call ρ)) : Prop := (alertsOf calls).getLast? = some .fault

end Usage

end Node

end Sspl

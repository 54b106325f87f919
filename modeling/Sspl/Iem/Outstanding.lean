import Mathlib.Logic.Function.Basic
import Sspl.Foundation.Alternation
import Sspl.Foundation.System
import Sspl.Python.Text

/-!
# Outstanding IEMs

Five tools of the node have an IEM for their failure and one for their recovery. The code of
the last IEM of a tool is kept in a file of its own, and the tools with an outstanding failure
are kept in the list `fault_iems`, which all sensors share. A sensor that starts adds the tools
whose file has the code of the failure.

The three sensors run in threads of their own, and the daemon may be restarted between any two
effects: the reading and writing of a file, the generation of an IEM and the update of the
list are steps.
-/

namespace Sspl

namespace Iem

/-- The second components of `EVENT_CODE`. -/
inductive Tool
  | ipmitool
  | hdparm
  | smartctl
  | udisks2
  | kafka
  deriving DecidableEq, Repr

/-- The keys of `EVENT_CODE`. -/
inductive Event
  | ipmitoolError
  | ipmitoolAvailable
  | hdparmError
  | hdparmAvailable
  | smartctlError
  | smartctlAvailable
  | udisks2Unavailable
  | udisks2Available
  | kafkaNotActive
  | kafkaActive
  deriving DecidableEq, Repr

namespace Event

def code : Event → String
  | ipmitoolError => "0050010001"
  | ipmitoolAvailable => "0050010002"
  | hdparmError => "0050010003"
  | hdparmAvailable => "0050010004"
  | smartctlError => "0050010005"
  | smartctlAvailable => "0050010006"
  | udisks2Unavailable => "0050010007"
  | udisks2Available => "0050010008"
  | kafkaNotActive => "0050020001"
  | kafkaActive => "0050020002"

def tool : Event → Tool
  | ipmitoolError | ipmitoolAvailable => .ipmitool
  | hdparmError | hdparmAvailable => .hdparm
  | smartctlError | smartctlAvailable => .smartctl
  | udisks2Unavailable | udisks2Available => .udisks2
  | kafkaNotActive | kafkaActive => .kafka

/-- The first component of `EVENT_STRING`. -/
def description : Event → String
  | ipmitoolError => "ipmitool command execution error."
  | ipmitoolAvailable => "ipmitool command execution success again."
  | hdparmError => "hdparm command execution error."
  | hdparmAvailable => "hdparm command execution success again."
  | smartctlError => "smartctl command execution error."
  | smartctlAvailable => "smartctl command execution success again."
  | udisks2Unavailable => "udisks2 is not installed."
  | udisks2Available => "udisks2 is available."
  | kafkaNotActive => "Kafka service is not in active state."
  | kafkaActive => "Kafka service is back in active state."

/-- The second component of `EVENT_STRING`. -/
def impact : Event → String
  | ipmitoolError => "Server resource monitoring through IPMI halted."
  | ipmitoolAvailable => "Server resource monitoring through IPMI enabled again."
  | hdparmError => "Server local drives monitoring through hdparm halted."
  | hdparmAvailable => "Server local drives monitoring through hdparm enabled again."
  | smartctlError =>
    "Unable to fetch server drive SMART test results and related health info."
  | smartctlAvailable =>
    "Enabled again to fetch server drive SMART test results and related health info."
  | udisks2Unavailable =>
    "Unable to fetch server drive info using systemd dbus interface."
  | udisks2Available =>
    "Enabled again to fetch server drive info using systemd dbus interface."
  | kafkaNotActive => "Cortx health alerts may not be delivered to consumers like CSM."
  | kafkaActive => "Cortx health alerts will get delivered to consumers like CSM."

/-- The third component of `EVENT_STRING`. -/
def recommendation : Event → String
  | ipmitoolError => "Reinstall/reconfigure ipmitool package."
  | hdparmError => "Reinstall/reconfigure hdparm package."
  | smartctlError => "Reinstall/reconfigure smartmonotools package."
  | udisks2Unavailable => "Reinstall/reconfigure udisks2 package."
  | kafkaNotActive => "Reconfigure/start kafka service."
  | ipmitoolAvailable | hdparmAvailable | smartctlAvailable | udisks2Available | kafkaActive => ""

def all : List Event :=
  [ipmitoolError, ipmitoolAvailable, hdparmError, hdparmAvailable, smartctlError,
    smartctlAvailable, udisks2Unavailable, udisks2Available, kafkaNotActive, kafkaActive]

end Event

def Tool.fault : Tool → Event
  | ipmitool => .ipmitoolError
  | hdparm => .hdparmError
  | smartctl => .smartctlError
  | udisks2 => .udisks2Unavailable
  | kafka => .kafkaNotActive

def Tool.resolved : Tool → Event
  | ipmitool => .ipmitoolAvailable
  | hdparm => .hdparmAvailable
  | smartctl => .smartctlAvailable
  | udisks2 => .udisks2Available
  | kafka => .kafkaActive

@[simp] theorem Tool.tool_fault (tool : Tool) : tool.fault.tool = tool := by
  cases tool <;> rfl

@[simp] theorem Tool.tool_resolved (tool : Tool) : tool.resolved.tool = tool := by
  cases tool <;> rfl

theorem Tool.code_fault_ne (tool : Tool) : tool.fault.code ≠ tool.resolved.code := by
  cases tool <;> decide

/-- The values of `Severity` that are used. -/
inductive Severity
  | info
  | error
  deriving DecidableEq, Repr

/-- What `generate_iem` is called with. -/
structure Message where
  module : Tool
  eventCode : String
  severity : Severity
  description : String
  deriving DecidableEq

inductive Sensor
  | nodeHw
  | diskMonitor
  | serviceMonitor
  deriving DecidableEq, Repr

def Sensor.all : List Sensor := [nodeHw, diskMonitor, serviceMonitor]

/-- The sensor that watches a tool. -/
def Tool.sensor : Tool → Sensor
  | ipmitool => .nodeHw
  | hdparm | smartctl | udisks2 => .diskMonitor
  | kafka => .serviceMonitor

/-- A call of `iem_fault`, or of `iem_fault_resolved`. -/
structure Call where
  event : Event
  resolved : Bool
  deriving DecidableEq

/-- What a sensor observes of a tool. -/
inductive Observation
  /-- `_run_ipmitool_subcommand` of the node sensor. -/
  | ipmitool (retcode : Int) (vmError : Bool)
  /-- `raise_iem` of the service monitor. -/
  | alert (service alertType : String)
  /-- The connection of the disk monitor to udisks2, with the error if there was one. -/
  | udisks2 (err : Option String)
  /-- `_update_drive_faults`. -/
  | driveHealth (retcode : Int) (err response : String)
  /-- `_get_drive_fault_info`. -/
  | driveAttributes (retcode : Int) (err : String)
  /-- `_is_local_drive`. -/
  | localDrive (retcode : Int) (err : String)
  deriving DecidableEq

def udisks2Unavailable : String := "org.freedesktop.UDisks2 was not provided"

/-- The errors of `hdparm` for a drive that is not a local one. -/
def notLocal : List String :=
  ["SG_IO: bad/missing sense data", "HDIO_GET_IDENTITY failed: Invalid argument"]

namespace Observation

def sensor : Observation → Sensor
  | ipmitool _ _ => .nodeHw
  | alert _ _ => .serviceMonitor
  | udisks2 _ | driveHealth _ _ _ | driveAttributes _ _ | localDrive _ _ => .diskMonitor

/-- The calls with which a caller reports the failure and, if it is outstanding, the recovery. -/
def report (faultIems : List Tool) (tool : Tool) (fault healthy : Prop) [Decidable fault]
    [Decidable healthy] : Option Call :=
  if fault then some ⟨tool.fault, false⟩
  else if healthy ∧ tool ∈ faultIems then some ⟨tool.resolved, true⟩
  else none

def call (faultIems : List Tool) : Observation → Option Call
  | ipmitool retcode vmError =>
    report faultIems .ipmitool (retcode = 1 ∧ vmError = false) (retcode = 0)
  | alert service alertType =>
    report faultIems .kafka (service = "kafka.service" ∧ alertType = "fault")
      (service = "kafka.service" ∧ alertType = "fault_resolved")
  | udisks2 err =>
    report faultIems .udisks2 (∃ e, err = some e ∧ anyIn [udisks2Unavailable] e = true) (err = none)
  | driveHealth retcode err response =>
    report faultIems .smartctl (retcode ≠ 0 ∧ err ≠ "") (retcode = 0 ∧ response ≠ "")
  | driveAttributes retcode err =>
    report faultIems .smartctl (retcode ≠ 0 ∧ err ≠ "") (retcode = 0)
  | localDrive retcode err =>
    report faultIems .hdparm (retcode ≠ 0 ∧ anyIn notLocal err = false) (retcode = 0)

end Observation

/-- How far a call of `create_iem_fields`, and the caller's update of the list, have come. -/
inductive Phase
  | creating
  /-- The file was opened for writing, which has emptied it. -/
  | truncated
  /-- The file is written or removed, and the IEM is going to be generated. -/
  | generating
  | closing
  deriving DecidableEq

inductive Stage
  | off
  /-- `check_existing_fault_iems` has these events still to check. -/
  | rebuilding (todo : List Event)
  | found (tool : Tool) (todo : List Event)
  | ready
  | calling (call : Call) (phase : Phase)
  deriving DecidableEq

/-- The files of the outstanding IEMs and the list made from them, the points at which the three
sensors stand, and the IEMs generated so far. -/
structure State where
  /-- The contents of the files `iem_{event_name}`. -/
  files : Tool → Option String
  faultIems : List Tool
  stages : Sensor → Stage
  /-- What was generated so far, in any run of the daemon. -/
  generated : List Message

def State.setStage (s : State) (sensor : Sensor) (stage : Stage) : State :=
  { s with stages := Function.update s.stages sensor stage }

/-- `fault_events`. -/
def faultEvents : List Event :=
  [.ipmitoolError, .hdparmError, .udisks2Unavailable, .smartctlError, .kafkaNotActive]

def Call.message (c : Call) : Message :=
  ⟨c.event.tool, c.event.code, if c.resolved then .info else .error, c.event.description⟩

/-- `create_iem_fields` up to the generation of the IEM. -/
def createIemFields (sensor : Sensor) (c : Call) (s : State) : State :=
  if c.resolved = true ∧ c.event.tool ∈ s.faultIems then
    if s.files c.event.tool = none then s.setStage sensor (.calling c .closing)
    else { s with files := Function.update s.files c.event.tool none }.setStage sensor
      (.calling c .generating)
  else if s.files c.event.tool = some c.event.code then s.setStage sensor (.calling c .closing)
  else { s with files := Function.update s.files c.event.tool (some "") }.setStage sensor
    (.calling c .truncated)

/-- The update of `fault_iems` after the call. -/
def Call.close (c : Call) (faultIems : List Tool) : List Tool :=
  if c.resolved then faultIems.erase c.event.tool
  else if c.event.tool ∈ faultIems then faultIems
  else faultIems ++ [c.event.tool]

/-- A sensor is started, one of its tools is seen to fail or to work, or its call takes the next
step. -/
inductive Action
  /-- The sensor is initialized, also when it was running before. -/
  | start (sensor : Sensor)
  | observe (o : Observation)
  /-- The sensor makes its next step in what it is doing. -/
  | advance (sensor : Sensor)
  /-- The daemon ends and comes up again. -/
  | restart
  deriving DecidableEq

def advance (sensor : Sensor) (s : State) : Option State :=
  match s.stages sensor with
  | .off | .ready => none
  | .rebuilding [] => some (s.setStage sensor .ready)
  | .rebuilding (event :: todo) =>
    if s.files event.tool = some event.code then
      some (s.setStage sensor (.found event.tool todo))
    else some (s.setStage sensor (.rebuilding todo))
  | .found tool todo =>
    some ({ s with faultIems := s.faultIems ++ [tool] }.setStage sensor (.rebuilding todo))
  | .calling c .creating => some (createIemFields sensor c s)
  | .calling c .truncated =>
    some ({ s with
      files := Function.update s.files c.event.tool (some c.event.code) }.setStage sensor
        (.calling c .generating))
  | .calling c .generating =>
    some ({ s with generated := s.generated ++ [c.message] }.setStage sensor (.calling c .closing))
  | .calling c .closing =>
    some ({ s with faultIems := c.close s.faultIems }.setStage sensor .ready)

/-- The sensors share the list and have files of their own. A restart loses the list and keeps the
files. -/
def next (s : State) : Action → Option State
  | .start sensor =>
    if s.stages sensor = .off ∨ s.stages sensor = .ready then
      some (s.setStage sensor (.rebuilding faultEvents))
    else none
  | .observe o =>
    if s.stages o.sensor = .ready then
      match o.call s.faultIems with
      | some c => some (s.setStage o.sensor (.calling c .creating))
      | none => some s
    else none
  | .advance sensor => advance sensor s
  | .restart => some { s with faultIems := [], stages := fun _ => .off }

/-- A node on which no IEM was generated yet. -/
def start : State := ⟨fun _ => none, [], fun _ => .off, []⟩

/-- The three sensors over all processes of the daemon. -/
def system : Transition.System State Action where
  init s := s = start
  next := next

/-- The codes of the IEMs generated for a tool. -/
def State.codes (s : State) (tool : Tool) : List String :=
  (s.generated.filter (·.module = tool)).map (·.eventCode)

/-- Of each tool, a failure is announced first, and then recovery and failure in turn. -/
def Alternates (s : State) : Prop :=
  ∀ tool : Tool, Alternating tool.fault.code tool.resolved.code (s.codes tool)

/-- The daemon is not restarted between the update of a file and the generation of its IEM. -/
def Unbroken (s : State) : Action → Prop
  | .restart => ∀ sensor c, s.stages sensor ≠ .calling c .generating
  | _ => True

section Runs

variable {s t : State} {a : Action} {tool : Tool} {sensor : Sensor}

/-- The call for this tool that its sensor is making. -/
def State.call (s : State) (tool : Tool) : Option (Call × Phase) :=
  match s.stages tool.sensor with
  | .calling c phase => if c.event.tool = tool then some (c, phase) else none
  | _ => none

/-- The code that the next IEM of the tool has to have. -/
def State.expected (s : State) (tool : Tool) : String :=
  due tool.fault.code tool.resolved.code (s.codes tool)

/-- The file of the tool tells whether its failure is outstanding. -/
def Clean (tool : Tool) (s : State) : Prop :=
  s.files tool = some tool.fault.code ∧ s.expected tool = tool.resolved.code ∨
    s.files tool = none ∧ s.expected tool = tool.fault.code

/-- Or it was left empty, and the tool is in no list. -/
def Settled (tool : Tool) (s : State) : Prop :=
  Clean tool s ∨ s.files tool = some "" ∧ s.expected tool = tool.fault.code ∧
    tool ∉ s.faultIems ∧ ∀ sensor todo, s.stages sensor ≠ .found tool todo

def Call.Fits (c : Call) (tool : Tool) : Prop :=
  c = ⟨tool.fault, false⟩ ∨ c = ⟨tool.resolved, true⟩

/-- What holds of a tool before each step of a call for it, and when there is no call. -/
def Consistent (tool : Tool) (s : State) : Prop :=
  match s.call tool with
  | none => Settled tool s
  | some (c, .creating) =>
    c.Fits tool ∧ (c.resolved = true → tool ∈ s.faultIems) ∧ Settled tool s
  | some (c, .truncated) =>
    c = ⟨tool.fault, false⟩ ∧ s.files tool = some "" ∧ s.expected tool = tool.fault.code
  | some (c, .generating) =>
    c = ⟨tool.fault, false⟩ ∧ s.files tool = some tool.fault.code ∧
        s.expected tool = tool.fault.code ∨
      c = ⟨tool.resolved, true⟩ ∧ s.files tool = none ∧ s.expected tool = tool.resolved.code
  | some (c, .closing) => c.Fits tool ∧ Clean tool s

/-- A step that is not about the tool keeps what is known of it. -/
theorem Consistent.framed (h : Consistent tool s) (call : t.call tool = s.call tool)
    (file : t.files tool = s.files tool) (codes : t.codes tool = s.codes tool)
    (listed : tool ∈ t.faultIems ↔ tool ∈ s.faultIems)
    (found : ∀ sensor todo, t.stages sensor = .found tool todo →
      ∃ sensor todo, s.stages sensor = .found tool todo) : Consistent tool t := by
  have expected : t.expected tool = s.expected tool := by rw [State.expected, codes, State.expected]
  have clean : Clean tool s → Clean tool t := by
    intro clean
    rwa [Clean, file, expected]
  have settled : Settled tool s → Settled tool t := by
    rintro (same | ⟨empty, fault, absent, nowhere⟩)
    · exact .inl (clean same)
    · refine .inr ⟨file.trans empty, expected.trans fault, mt listed.mp absent, ?_⟩
      intro sensor todo at_
      obtain ⟨sensor, todo, before⟩ := found sensor todo at_
      exact nowhere sensor todo before
  unfold Consistent at h ⊢
  rw [call]
  split at h
  · exact settled h
  · exact ⟨h.1, fun resolved => listed.mpr (h.2.1 resolved), settled h.2.2⟩
  · rwa [file, expected]
  · rwa [file, expected]
  · exact ⟨h.1, clean h.2⟩

@[simp] theorem setStage_files {stage : Stage} : (s.setStage sensor stage).files = s.files := rfl

@[simp] theorem setStage_faultIems {stage : Stage} :
    (s.setStage sensor stage).faultIems = s.faultIems := rfl

@[simp] theorem setStage_codes {stage : Stage} : (s.setStage sensor stage).codes = s.codes := rfl

theorem setStage_stages {stage : Stage} (other : Sensor) :
    (s.setStage sensor stage).stages other = if other = sensor then stage else s.stages other := by
  unfold State.setStage
  by_cases same : other = sensor
  · subst same
    simp
  · simp [same]

/-- A sensor that has no call for the tool, before and after. -/
theorem setStage_call {stage : Stage}
    (before : ∀ c phase, s.stages sensor = .calling c phase → c.event.tool ≠ tool)
    (after : ∀ c phase, stage = .calling c phase → c.event.tool ≠ tool) :
    (s.setStage sensor stage).call tool = s.call tool := by
  unfold State.call
  rw [setStage_stages]
  by_cases own : tool.sensor = sensor
  · subst own
    rw [if_pos rfl]
    split
    · rw [if_neg (after _ _ rfl)]
      split
      · rw [if_neg (before _ _ ‹_›)]
      · rfl
    · split
      · rw [if_neg (before _ _ ‹_›)]
      · rfl
  · rw [if_neg own]

theorem setStage_found {stage : Stage} (fresh : ∀ todo, stage ≠ .found tool todo)
    (other : Sensor) (todo : List Event)
    (at_ : (s.setStage sensor stage).stages other = .found tool todo) :
    s.stages other = .found tool todo := by
  rw [setStage_stages] at at_
  split at at_
  · exact absurd at_ (fresh todo)
  · exact at_

/-- A file that was not left empty: what is known does not depend on the list. -/
theorem Consistent.clean_framed (h : Consistent tool s) (clean : Settled tool s → Clean tool s)
    (call : t.call tool = s.call tool) (file : t.files tool = s.files tool)
    (codes : t.codes tool = s.codes tool) (listed : tool ∈ s.faultIems → tool ∈ t.faultIems) :
    Consistent tool t := by
  have expected : t.expected tool = s.expected tool := by rw [State.expected, codes, State.expected]
  have kept : Clean tool s → Clean tool t := by
    intro clean
    rwa [Clean, file, expected]
  unfold Consistent at h ⊢
  rw [call]
  split at h
  · exact .inl (kept (clean h))
  · exact ⟨h.1, fun resolved => listed (h.2.1 resolved), .inl (kept (clean h.2.2))⟩
  · rwa [file, expected]
  · rwa [file, expected]
  · exact ⟨h.1, kept h.2⟩

theorem Event.code_ne_empty (event : Event) : event.code ≠ "" := by
  cases event <;> decide

theorem call_setStage {c : Call} {phase : Phase} (own : tool.sensor = sensor)
    (about : c.event.tool = tool) :
    (s.setStage sensor (.calling c phase)).call tool = some (c, phase) := by
  unfold State.call
  rw [setStage_stages, if_pos own]
  simp only
  rw [if_pos about]

theorem call_of_stage {c : Call} {phase : Phase} (own : tool.sensor = sensor)
    (about : c.event.tool = tool) (stage : s.stages sensor = .calling c phase) :
    s.call tool = some (c, phase) := by
  unfold State.call
  rw [own, stage]
  simp only
  rw [if_pos about]

namespace Call.Fits

variable {c : Call}

theorem about (fits : c.Fits tool) : c.event.tool = tool := by
  obtain rfl | rfl := fits
  · exact tool.tool_fault
  · exact tool.tool_resolved

end Call.Fits

/-- Each call is about a tool of the sensor that makes it. -/
def Owned (s : State) : Prop :=
  ∀ sensor c phase, s.stages sensor = .calling c phase → c.event.tool.sensor = sensor

/-- A step of a call keeps what is known of the other tools. -/
theorem Consistent.other (h : Consistent tool s) {c : Call} {phase : Phase} {stage : Stage}
    (calling : s.stages sensor = .calling c phase) (different : tool ≠ c.event.tool)
    (moved : stage = .ready ∨ ∃ phase, stage = .calling c phase)
    (stages : t.stages = s.stages) (file : t.files tool = s.files tool)
    (codes : t.codes tool = s.codes tool)
    (listed : tool ∈ t.faultIems ↔ tool ∈ s.faultIems) :
    Consistent tool (t.setStage sensor stage) := by
  have call : (t.setStage sensor stage).call tool = s.call tool := by
    have same : (t.setStage sensor stage).call tool = (s.setStage sensor stage).call tool := by
      unfold State.call
      rw [setStage_stages, setStage_stages, stages]
    rw [same]
    apply setStage_call
    · intro c' phase' before
      cases calling.symm.trans before
      exact different.symm
    · rintro c' phase' rfl
      obtain moved | ⟨_, moved⟩ := moved
      · cases moved
      · cases moved
        exact different.symm
  refine h.framed call file codes listed ?_
  intro other todo at_
  refine ⟨other, todo, ?_⟩
  rw [← stages]
  refine setStage_found ?_ other todo at_
  rintro todo rfl
  obtain moved | ⟨_, moved⟩ := moved <;> cases moved

theorem codes_message {c : Call} :
    ({ s with generated := s.generated ++ [c.message] } : State).codes tool =
      s.codes tool ++ if c.event.tool = tool then [c.event.code] else [] := by
  unfold State.codes
  by_cases about : c.event.tool = tool <;> simp [Call.message, about]

theorem consistent_calling {c : Call} {phase : Phase} (own : tool.sensor = sensor)
    (about : c.event.tool = tool)
    (holds : match phase with
      | .creating => c.Fits tool ∧ (c.resolved = true → tool ∈ s.faultIems) ∧
          Settled tool (s.setStage sensor (.calling c phase))
      | .truncated =>
        c = ⟨tool.fault, false⟩ ∧ s.files tool = some "" ∧ s.expected tool = tool.fault.code
      | .generating =>
        c = ⟨tool.fault, false⟩ ∧ s.files tool = some tool.fault.code ∧
            s.expected tool = tool.fault.code ∨
          c = ⟨tool.resolved, true⟩ ∧ s.files tool = none ∧ s.expected tool = tool.resolved.code
      | .closing => c.Fits tool ∧ Clean tool s) :
    Consistent tool (s.setStage sensor (.calling c phase)) := by
  unfold Consistent
  rw [call_setStage own about]
  cases phase with
  | creating => exact holds
  | truncated => exact holds
  | generating => exact holds
  | closing => exact holds

theorem createIemFields_consistent {c : Call} (own : tool.sensor = sensor)
    (fits : c.Fits tool) (listed : c.resolved = true → tool ∈ s.faultIems)
    (settled : Settled tool s) : Consistent tool (createIemFields sensor c s) := by
  have about := fits.about
  unfold createIemFields
  rw [about]
  split
  · rename_i outstanding
    obtain rfl | rfl := fits
    · cases outstanding.1
    · have clean : Clean tool s := by
        obtain clean | ⟨-, -, absent, -⟩ := settled
        · exact clean
        · exact absurd outstanding.2 absent
      split
      · exact consistent_calling own about ⟨.inr rfl, clean⟩
      · rename_i exists_
        obtain ⟨-, expected⟩ | ⟨removed, -⟩ := clean
        · exact consistent_calling own about (.inr ⟨rfl, Function.update_self .., expected⟩)
        · exact absurd removed exists_
  · rename_i unlisted
    obtain rfl | rfl := fits
    · split
      · rename_i same
        obtain clean | ⟨empty, -⟩ := settled
        · exact consistent_calling own about ⟨.inl rfl, clean⟩
        · exact absurd (Option.some.inj (same.symm.trans empty)) (Event.code_ne_empty _)
      · rename_i differs
        refine consistent_calling own about ⟨rfl, Function.update_self .., ?_⟩
        obtain (⟨same, -⟩ | ⟨-, expected⟩) | ⟨-, expected, -⟩ := settled
        · exact absurd same differs
        · exact expected
        · exact expected
    · exact absurd ⟨rfl, listed rfl⟩ unlisted

theorem generated_consistent {c : Call} (own : tool.sensor = sensor)
    (alternate : Alternating tool.fault.code tool.resolved.code (s.codes tool))
    (ready : c = ⟨tool.fault, false⟩ ∧ s.files tool = some tool.fault.code ∧
        s.expected tool = tool.fault.code ∨
      c = ⟨tool.resolved, true⟩ ∧ s.files tool = none ∧ s.expected tool = tool.resolved.code) :
    Consistent tool
        ({ s with generated := s.generated ++ [c.message] }.setStage sensor (.calling c .closing)) ∧
      Alternating tool.fault.code tool.resolved.code (s.codes tool ++ [c.event.code]) := by
  have fits : c.Fits tool := ready.imp And.left And.left
  have codes : ({ s with generated := s.generated ++ [c.message] } : State).codes tool =
      s.codes tool ++ [c.event.code] := by
    rw [codes_message, if_pos fits.about]
  obtain ⟨rfl, file, expected⟩ | ⟨rfl, file, expected⟩ := ready
  · obtain ⟨appended, next⟩ := alternate.append_first tool.code_fault_ne expected
    refine ⟨consistent_calling own fits.about ⟨fits, .inl ⟨file, ?_⟩⟩, appended⟩
    rw [State.expected, codes]
    exact next
  · obtain ⟨appended, next⟩ := alternate.append_second tool.code_fault_ne expected
    refine ⟨consistent_calling own fits.about ⟨fits, .inr ⟨file, ?_⟩⟩, appended⟩
    rw [State.expected, codes]
    exact next

/-- The invariant of the runs in which no generation is cut off. -/
structure Invariant (s : State) : Prop where
  owned : Owned s
  consistent : ∀ tool, Consistent tool s
  alternates : Alternates s

/-- What is known of the tool that a sensor is calling for. -/
theorem Invariant.calling (h : Invariant s) {c : Call} {phase : Phase}
    (stage : s.stages sensor = .calling c phase) :
    s.call c.event.tool = some (c, phase) :=
  call_of_stage (h.owned _ _ _ stage) rfl stage

theorem Owned.setStage (h : Owned s) {stage : Stage} (same : t.stages = s.stages)
    (own : ∀ c phase, stage = .calling c phase → c.event.tool.sensor = sensor) :
    Owned (t.setStage sensor stage) := by
  intro other c phase at_
  rw [setStage_stages] at at_
  split at at_
  · rename_i same
    rw [same]
    exact own c phase at_
  · rw [same] at at_
    exact h other c phase at_

/-- A step between calls keeps what is known of a tool, unless it is about its file. -/
theorem Consistent.idle (h : Consistent tool s) {stage : Stage}
    (before : ∀ c phase, s.stages sensor ≠ .calling c phase)
    (after : ∀ c phase, stage ≠ .calling c phase) (fresh : ∀ todo, stage ≠ .found tool todo) :
    Consistent tool (s.setStage sensor stage) := by
  refine h.framed (setStage_call (fun c phase at_ => absurd at_ (before c phase))
    (fun c phase at_ => absurd at_ (after c phase))) rfl rfl Iff.rfl ?_
  exact fun other todo at_ => ⟨other, todo, setStage_found fresh other todo at_⟩

/-- A step of a call for a tool: what it does to this tool, and that it leaves the others. -/
theorem Invariant.called (h : Invariant s) {c : Call} {phase : Phase} {stage : Stage}
    (calling : s.stages sensor = .calling c phase)
    (moved : stage = .ready ∨ ∃ phase, stage = .calling c phase)
    (stages : t.stages = s.stages)
    (file : ∀ tool, tool ≠ c.event.tool → t.files tool = s.files tool)
    (codes : ∀ tool, tool ≠ c.event.tool → t.codes tool = s.codes tool)
    (listed : ∀ tool, tool ≠ c.event.tool → (tool ∈ t.faultIems ↔ tool ∈ s.faultIems))
    (own : Consistent c.event.tool (t.setStage sensor stage))
    (alternate : Alternating c.event.tool.fault.code c.event.tool.resolved.code
      (t.codes c.event.tool)) : Invariant (t.setStage sensor stage) where
  owned := by
    refine h.owned.setStage stages ?_
    intro c' phase' at_
    obtain rfl | ⟨_, rfl⟩ := moved
    · cases at_
    · cases at_
      exact h.owned _ _ _ calling
  consistent tool := by
    by_cases about : tool = c.event.tool
    · exact about ▸ own
    · exact (h.consistent tool).other calling about moved stages (file _ about) (codes _ about)
        (listed _ about)
  alternates tool := by
    by_cases about : tool = c.event.tool
    · exact about ▸ alternate
    · exact (codes _ about).symm ▸ h.alternates tool

theorem Invariant.createIemFields (h : Invariant s) {c : Call}
    (calling : s.stages sensor = .calling c .creating) :
    Invariant (createIemFields sensor c s) := by
  have known := h.consistent c.event.tool
  unfold Consistent at known
  rw [h.calling calling] at known
  obtain ⟨fits, listed, settled⟩ := known
  have own := createIemFields_consistent (h.owned _ _ _ calling) fits listed settled
  have alternate := h.alternates c.event.tool
  unfold Iem.createIemFields at own ⊢
  split
  · rename_i outstanding
    rw [if_pos outstanding] at own
    split
    · rename_i absent
      rw [if_pos absent] at own
      exact h.called calling (.inr ⟨_, rfl⟩) rfl (fun _ _ => rfl) (fun _ _ => rfl)
        (fun _ _ => Iff.rfl) own alternate
    · rename_i present
      rw [if_neg present] at own
      exact h.called calling (.inr ⟨_, rfl⟩) rfl (fun _ ne => Function.update_of_ne ne ..)
        (fun _ _ => rfl) (fun _ _ => Iff.rfl) own alternate
  · rename_i unlisted
    rw [if_neg unlisted] at own
    split
    · rename_i same
      rw [if_pos same] at own
      exact h.called calling (.inr ⟨_, rfl⟩) rfl (fun _ _ => rfl) (fun _ _ => rfl)
        (fun _ _ => Iff.rfl) own alternate
    · rename_i differs
      rw [if_neg differs] at own
      exact h.called calling (.inr ⟨_, rfl⟩) rfl (fun _ ne => Function.update_of_ne ne ..)
        (fun _ _ => rfl) (fun _ _ => Iff.rfl) own alternate

theorem mem_close {c : Call} {faultIems : List Tool} (other : tool ≠ c.event.tool) :
    tool ∈ c.close faultIems ↔ tool ∈ faultIems := by
  unfold Call.close
  split
  · exact List.mem_erase_of_ne other
  · split
    · rfl
    · simp [other]

/-- The event code is written to the file that was truncated. -/
theorem Invariant.writeCode (h : Invariant s) {c : Call}
    (calling : s.stages sensor = .calling c .truncated) :
    Invariant ({ s with
      files := Function.update s.files c.event.tool (some c.event.code) }.setStage sensor
        (.calling c .generating)) := by
  have known := h.consistent c.event.tool
  unfold Consistent at known
  rw [h.calling calling] at known
  obtain ⟨fault, -, expected⟩ := known
  refine h.called calling (.inr ⟨_, rfl⟩) rfl (fun _ ne => Function.update_of_ne ne ..)
    (fun _ _ => rfl) (fun _ _ => Iff.rfl) ?_ (h.alternates _)
  refine consistent_calling (h.owned _ _ _ calling) rfl (.inl ⟨fault, ?_, expected⟩)
  have code : c.event.code = c.event.tool.fault.code := congrArg (·.event.code) fault
  exact (Function.update_self ..).trans (congrArg some code)

theorem Invariant.generateIem (h : Invariant s) {c : Call}
    (calling : s.stages sensor = .calling c .generating) :
    Invariant ({ s with generated := s.generated ++ [c.message] }.setStage sensor
      (.calling c .closing)) := by
  have known := h.consistent c.event.tool
  unfold Consistent at known
  rw [h.calling calling] at known
  obtain ⟨own, alternate⟩ :=
    generated_consistent (h.owned _ _ _ calling) (h.alternates _) known
  refine h.called calling (.inr ⟨_, rfl⟩) rfl (fun _ _ => rfl) (fun tool ne => ?_)
    (fun _ _ => Iff.rfl) own ?_
  · rw [codes_message, if_neg ne.symm, List.append_nil]
  · rwa [codes_message, if_pos rfl]

theorem Invariant.closeCall (h : Invariant s) {c : Call}
    (calling : s.stages sensor = .calling c .closing) :
    Invariant ({ s with faultIems := c.close s.faultIems }.setStage sensor .ready) := by
  have known := h.consistent c.event.tool
  unfold Consistent at known
  rw [h.calling calling] at known
  refine h.called calling (.inl rfl) rfl (fun _ _ => rfl) (fun _ _ => rfl)
    (fun _ ne => mem_close ne) ?_ (h.alternates _)
  have none_ : ({ s with faultIems := c.close s.faultIems }.setStage sensor .ready).call
      c.event.tool = none := by
    unfold State.call
    rw [setStage_stages, if_pos (h.owned _ _ _ calling)]
  unfold Consistent
  rw [none_]
  exact .inl known.2

theorem Invariant.advance (h : Invariant s) (step : advance sensor s = some t) :
    Invariant t := by
  unfold Iem.advance at step
  split at step
  · cases step
  · cases step
  · rename_i stage
    cases step
    exact ⟨h.owned.setStage rfl (by simp), fun tool => (h.consistent tool).idle (by simp [stage])
      (by simp) (by simp), h.alternates⟩
  · rename_i event todo stage
    split at step
    · rename_i same
      cases step
      refine ⟨h.owned.setStage rfl (by simp), fun tool => ?_, h.alternates⟩
      by_cases about : tool = event.tool
      · subst about
        refine (h.consistent event.tool).clean_framed ?_ (setStage_call (by simp [stage]) (by simp))
          rfl rfl id
        rintro (clean | ⟨empty, -⟩)
        · exact clean
        · exact absurd (Option.some.inj (same.symm.trans empty)) (Event.code_ne_empty _)
      · exact (h.consistent tool).idle (by simp [stage]) (by simp) (by simp [Ne.symm about])
    · cases step
      exact ⟨h.owned.setStage rfl (by simp), fun tool => (h.consistent tool).idle (by simp [stage])
        (by simp) (by simp), h.alternates⟩
  · rename_i found todo stage
    cases step
    refine ⟨h.owned.setStage rfl (by simp), fun tool => ?_, h.alternates⟩
    have call : (({ s with faultIems := s.faultIems ++ [found] } : State).setStage sensor
        (.rebuilding todo)).call tool = s.call tool :=
      setStage_call (s := { s with faultIems := s.faultIems ++ [found] }) (by simp [stage])
        (by simp)
    by_cases about : tool = found
    · subst about
      refine (h.consistent tool).clean_framed ?_ call rfl rfl fun mem => List.mem_append_left _ mem
      rintro (clean | ⟨-, -, -, nowhere⟩)
      · exact clean
      · exact absurd stage (nowhere _ _)
    · refine (h.consistent tool).framed call rfl rfl (by simp [about]) ?_
      exact fun other todo at_ => ⟨other, todo, setStage_found (by simp) other todo at_⟩
  · rename_i c stage
    cases step
    exact h.createIemFields stage
  · rename_i c stage
    cases step
    exact h.writeCode stage
  · rename_i c stage
    cases step
    exact h.generateIem stage
  · rename_i c stage
    cases step
    exact h.closeCall stage

theorem Observation.call_cases {o : Observation} {faultIems : List Tool} {c : Call}
    (call : o.call faultIems = some c) : ∃ tool : Tool, tool.sensor = o.sensor ∧ c.Fits tool ∧
      (c.resolved = true → tool ∈ faultIems) := by
  have reported : ∀ (tool : Tool) (fault healthy : Prop) [Decidable fault] [Decidable healthy],
      report faultIems tool fault healthy = some c →
        c.Fits tool ∧ (c.resolved = true → tool ∈ faultIems) := by
    intro tool fault healthy _ _ made
    unfold report at made
    split at made
    · cases made
      exact ⟨.inl rfl, fun resolved => by cases resolved⟩
    · split at made
      · rename_i recovered
        cases made
        exact ⟨.inr rfl, fun _ => recovered.2⟩
      · cases made
  cases o with
  | ipmitool => exact ⟨.ipmitool, rfl, reported _ _ _ call⟩
  | alert => exact ⟨.kafka, rfl, reported _ _ _ call⟩
  | udisks2 => exact ⟨.udisks2, rfl, reported _ _ _ call⟩
  | driveHealth => exact ⟨.smartctl, rfl, reported _ _ _ call⟩
  | driveAttributes => exact ⟨.smartctl, rfl, reported _ _ _ call⟩
  | localDrive => exact ⟨.hdparm, rfl, reported _ _ _ call⟩

theorem Invariant.observe (h : Invariant s) {o : Observation} {c : Call}
    (ready : s.stages o.sensor = .ready) (call : o.call s.faultIems = some c) :
    Invariant (s.setStage o.sensor (.calling c .creating)) := by
  obtain ⟨tool, own, fits, listed⟩ := Observation.call_cases call
  refine ⟨h.owned.setStage rfl ?_, fun other => ?_, h.alternates⟩
  · intro c' phase same
    cases same
    rw [fits.about, own]
  · by_cases about : other = tool
    · subst about
      have known := h.consistent other
      have idle : s.call other = none := by
        unfold State.call
        rw [own, ready]
      unfold Consistent at known
      rw [idle] at known
      refine consistent_calling own fits.about ⟨fits, listed, ?_⟩
      obtain clean | ⟨empty, expected, absent, nowhere⟩ := known
      · exact .inl clean
      · refine .inr ⟨empty, expected, absent, fun sensor todo at_ => ?_⟩
        exact nowhere sensor todo (setStage_found (by simp) sensor todo at_)
    · have call' : (s.setStage o.sensor (.calling c .creating)).call other = s.call other := by
        apply setStage_call
        · simp [ready]
        · intro c' phase same
          cases same
          rw [fits.about]
          exact Ne.symm about
      exact (h.consistent other).framed call' rfl rfl Iff.rfl
        fun sensor todo at_ => ⟨sensor, todo, setStage_found (by simp) sensor todo at_⟩

theorem Invariant.restart (h : Invariant s)
    (unbroken : ∀ sensor c, s.stages sensor ≠ .calling c .generating) :
    Invariant { s with faultIems := [], stages := fun _ => .off } := by
  refine ⟨fun _ _ _ at_ => (by cases at_), fun tool => ?_, h.alternates⟩
  have known := h.consistent tool
  have settled : Settled tool { s with faultIems := [], stages := fun _ => .off } := by
    have emptied : Settled tool s →
        Settled tool { s with faultIems := [], stages := fun _ => .off } :=
      Or.imp id fun ⟨empty, expected, _⟩ => ⟨empty, expected, by simp, by simp⟩
    unfold Consistent at known
    split at known
    · exact emptied known
    · exact emptied known.2.2
    · exact .inr ⟨known.2.1, known.2.2, by simp, by simp⟩
    · rename_i c call
      unfold State.call at call
      split at call
      · rename_i at_
        split at call
        · cases call
          exact absurd at_ (unbroken _ _)
        · cases call
      · cases call
    · exact .inl known.2
  exact settled

theorem Invariant.step (h : Invariant s) (unbroken : Unbroken s a) (step : next s a = some t) :
    Invariant t := by
  cases a with
  | start sensor =>
      simp only [next] at step
      split at step
      · rename_i stage
        cases step
        have before : ∀ c phase, s.stages sensor ≠ .calling c phase := by
          obtain stage | stage := stage <;> simp [stage]
        exact ⟨h.owned.setStage rfl (by simp),
          fun tool => (h.consistent tool).idle before (by simp) (by simp), h.alternates⟩
      · cases step
  | observe o =>
      simp only [next] at step
      split at step
      · rename_i ready
        split at step
        · cases step
          exact h.observe ready ‹_›
        · cases step
          exact h
      · cases step
  | advance sensor => exact h.advance step
  | restart =>
      cases step
      exact h.restart unbroken

theorem start_invariant : Invariant start where
  owned _ _ _ at_ := by cases at_
  consistent _ := .inl (.inr ⟨rfl, rfl⟩)
  alternates _ := trivial

end Runs

/-- The IEMs of each tool alternate between failure and recovery in every run in which the
daemon is not restarted between the update of a file and the generation of its IEM. -/
theorem iems_alternate (actions : List Action) (s : State)
    (run : system.Runs Unbroken start actions s) : Alternates s :=
  (run.invariant (I := Invariant) (fun _ _ _ h unbroken step => h.step unbroken step)
    start_invariant).alternates

namespace Example

/-- The node sensor is started. -/
def started : List Action :=
  Action.start .nodeHw :: List.replicate 6 (Action.advance .nodeHw)

/-- A failure of `ipmitool` is reported twice. -/
def fails : List Action :=
  started ++ [Action.observe (.ipmitool 1 false)] ++ List.replicate 4 (Action.advance .nodeHw) ++
    [Action.observe (.ipmitool 1 false)] ++ List.replicate 2 (Action.advance .nodeHw)

/-- After a restart the recovery is reported. -/
def recovers : List Action :=
  Action.start .nodeHw :: List.replicate 7 (Action.advance .nodeHw) ++
    [Action.observe (.ipmitool 0 false)] ++ List.replicate 3 (Action.advance .nodeHw)

/-- The daemon is restarted when the file has the code of the failure, and the IEM is not
generated yet. -/
def cutOff : List Action :=
  started ++ [Action.observe (.ipmitool 1 false)] ++ List.replicate 2 (Action.advance .nodeHw) ++
    [Action.restart] ++ Action.start .nodeHw :: List.replicate 7 (Action.advance .nodeHw) ++
    [Action.observe (.ipmitool 0 false)] ++ List.replicate 3 (Action.advance .nodeHw)

theorem fails_ready : (system.run start fails).map (fun s => Sensor.all.map s.stages) =
    some [.ready, .off, .off] := by
  decide

theorem recovers_codes : (system.run start (fails ++ .restart :: recovers)).map
    (·.codes .ipmitool) = some ["0050010001", "0050010002"] := by
  decide

theorem cutOff_codes : (system.run start cutOff).map (·.codes .ipmitool) =
    some ["0050010002"] := by
  decide

/-- The daemon is restarted while the node sensor is ready. -/
theorem iems_alternate_recovers :
    ∃ s, system.Runs Unbroken start (fails ++ .restart :: recovers) s ∧
      s.codes .ipmitool = ["0050010001", "0050010002"] ∧ Alternates s := by
  obtain ⟨s, replay, codes⟩ := Option.map_eq_some_iff.mp recovers_codes
  obtain ⟨m, before, stages⟩ := Option.map_eq_some_iff.mp fails_ready
  have free := (Transition.System.run_eq_some_iff _).mp replay
  have first := (Transition.System.run_eq_some_iff _).mp before
  obtain ⟨-, after⟩ := free.prefix_suffix first
  have run : system.Runs Unbroken start (fails ++ .restart :: recovers) s := by
    refine (first.of_forall_mem (by simp [fails, started, Unbroken])).append ?_
    cases after with
    | cons _ step tail =>
        refine .cons ?_ step (tail.of_forall_mem (by simp [recovers, Unbroken]))
        intro sensor c calling
        simp [Sensor.all] at stages
        cases sensor <;> simp [stages] at calling
  exact ⟨s, run, codes, iems_alternate _ s run⟩

/-- The recovery is announced for a failure that was not. -/
theorem iems_not_alternate :
    ¬ ∀ actions s, system.FreeRuns start actions s → Alternates s := by
  intro always
  obtain ⟨s, replay, codes⟩ := Option.map_eq_some_iff.mp cutOff_codes
  have alternate := always cutOff s ((Transition.System.run_eq_some_iff _).mp replay) .ipmitool
  rw [codes] at alternate
  exact absurd alternate (by decide)

end Example

end Iem

end Sspl

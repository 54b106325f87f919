import Mathlib.Logic.Function.Basic
import Sspl.Foundation.Alternation
import Sspl.Foundation.System
import Sspl.Iem.Message
import Sspl.Node.Alert

/-!
# The RAID integrity sensor

A round of `RAIDIntegritySensor` takes one array after the other: it requests a check, waits
until the array is idle again and reads the mismatch count. Each of the three is a method that
runs a command, the first two up to eleven times. A method that has failed is called again
until it succeeds.

A mismatch raises a fault, a count of zero resolves it. The state of an array is a text
`device:state` in a file of its own, which the two alerts look for words in.

A step is a command with its result. What a method does between two commands is decided by its
local variables, which a `Stage` keeps.
-/

namespace Sspl

namespace Raid

namespace Integrity

open Iem (Text rstrip)
open Node (AlertType)

/-- What `_run_command` returns. -/
structure Result where
  response : Text
  error : Text
  deriving DecidableEq

/-- `STATE_COMMAND_RESPONSE`. -/
def stateCommandResponse : Text := "idle".toList

/-- `MISMATCH_COUNT_RESPONSE`. -/
def mismatchCountResponse : Text := "0".toList

def maxRetries : Nat := 10

/-- The values that the methods return; `None` is a third one. -/
inductive Status
  | success
  | failed
  deriving DecidableEq

/-- `_update_raid_device_file`, `_check_raid_state` and `_check_mismatch_count`. -/
inductive Method
  | updateRaidDeviceFile
  | checkRaidState
  | checkMismatchCount
  deriving DecidableEq

namespace Method

/-- The command that the method runs for a device. -/
def command (raidDir device : Text) : Method → Text
  | updateRaidDeviceFile => "echo 'check' |sudo tee ".toList ++ raidDir ++ device ++
      "/md/sync_action".toList ++ " > /dev/null".toList
  | checkRaidState => "cat ".toList ++ raidDir ++ device ++ "/md/sync_action".toList
  | checkMismatchCount => "cat ".toList ++ raidDir ++ device ++ "/md/mismatch_cnt".toList

/-- `status` when the method begins. -/
def initialStatus : Method → Option Status
  | updateRaidDeviceFile => some .failed
  | checkRaidState => none
  | checkMismatchCount => none

/-- The method that follows for the same device. -/
def following : Method → Option Method
  | updateRaidDeviceFile => some checkRaidState
  | checkRaidState => some checkMismatchCount
  | checkMismatchCount => none

end Method

/-- A method that is being executed: its variables, and whether `_retry_execution` has called
it. -/
structure Stage where
  method : Method
  raidCheck : Nat
  status : Option Status
  retry : Bool
  deriving DecidableEq

def Stage.begin (method : Method) (retry : Bool) : Stage :=
  ⟨method, 0, method.initialStatus, retry⟩

/-- The variables after a command, and whether the loop of the method is left. -/
def Stage.iterate (stage : Stage) (r : Result) : Stage × Bool :=
  let again (status : Option Status) : Stage × Bool :=
    ({ stage with raidCheck := stage.raidCheck + 1, status := status },
      maxRetries < stage.raidCheck + 1)
  let leave (status : Status) : Stage × Bool := ({ stage with status := some status }, true)
  match stage.method with
  | .updateRaidDeviceFile => if r.error ≠ [] then again stage.status else leave .success
  | .checkRaidState =>
    if r.error ≠ [] then again stage.status
    else if r.response = stateCommandResponse then leave .success
    else again (some .failed)
  | .checkMismatchCount =>
    if r.response = mismatchCountResponse then leave .success else leave .failed

/-- The stage after a method has returned; `none` if the round goes on to the next device.
`_raid_health_monitor` asks whether the method has failed, `_retry_execution` whether it was
successful. -/
def Stage.returned (stage : Stage) : Option Stage :=
  let more : Bool :=
    if stage.retry then stage.status ≠ some .success else stage.status = some .failed
  if more then some (.begin stage.method true)
  else stage.method.following.map (fun method => .begin method false)

def Stage.next (stage : Stage) (r : Result) : Option Stage :=
  let (after, left) := stage.iterate r
  if left then after.returned else some after

/-- The device of a round whose turn it is, and those that follow. -/
structure Turn where
  device : Text
  stage : Stage
  rest : List Text
  deriving DecidableEq

/-- Begin with the first of the devices. -/
def Turn.begin : List Text → Option Turn
  | [] => none
  | device :: rest => some ⟨device, .begin .updateRaidDeviceFile false, rest⟩

def Turn.next (turn : Turn) (r : Result) : Option Turn :=
  match turn.stage.next r with
  | some stage => some { turn with stage := stage }
  | none => Turn.begin turn.rest

structure Alert where
  alertType : AlertType
  resourceId : Text
  errorMsg : Text
  deriving DecidableEq

/-- The sensor: its round, the fault-state files by device, and the alerts sent. -/
structure Sensor where
  turn : Option Turn
  files : Text → Option Text
  sent : List Alert

/-- `FAULT` and `FAULT_RESOLVED`. -/
def word : AlertType → Text
  | .fault => "fault".toList
  | .faultResolved => "fault_resolved".toList

/-- What `_update_fault_state_file` writes. -/
def record (device : Text) (alertType : AlertType) : Text := device ++ ':' :: word alertType

/-- `_get_devices`, from the lines of `/proc/mdstat`. -/
def getDevices (content : List Text) : List Text :=
  (content.filter fun line => "active".toList <:+: line).map
    fun line => rstrip ((line.splitOn ':').headD [])

namespace Sensor

def alertMsg (device : Text) : AlertType → Text
  | .fault => "RAID disks present in ".toList ++ device ++ " RAID array".toList ++
      ", needs synchronization. If fault persists for ".toList ++
      "more than 2 days, Please contact Seagate support.".toList
  | .faultResolved =>
      "RAID disks present in ".toList ++ device ++ " RAID array are synchronized.".toList

/-- `_send_json_msg` and `_update_fault_state_file`, which follow the same command. They are one
step, so the process does not end between the alert and its record. -/
def alert (s : Sensor) (device : Text) (alertType : AlertType) : Sensor :=
  { s with
    files := Function.update s.files device (some (record device alertType))
    sent := s.sent ++ [⟨alertType, device, alertMsg device alertType⟩] }

/-- The part of `_check_mismatch_count` for a count of zero. -/
def resolve (s : Sensor) (device : Text) : Sensor :=
  match s.files device with
  | none => s
  | some file =>
    let data := rstrip file
    if word .fault <:+: data ∧ device = rstrip ((data.splitOn ':').headD []) then
      s.alert device .faultResolved
    else s

/-- The part of `_raid_health_monitor` for a mismatch. -/
def mismatch (s : Sensor) (device : Text) : Sensor :=
  match s.files device with
  | none => s.alert device .fault
  | some file => if word .faultResolved <:+: rstrip file then s.alert device .fault else s

/-- What a result means for the alerts. -/
def judge (s : Sensor) (turn : Turn) (r : Result) : Sensor :=
  if turn.stage.method = .checkMismatchCount then
    if r.response = mismatchCountResponse then s.resolve turn.device
    else if turn.stage.retry = false then s.mismatch turn.device
    else s
  else s

/-- The result of the command that is running. -/
def take (s : Sensor) (turn : Turn) (r : Result) : Sensor :=
  { s.judge turn r with turn := turn.next r }

/-- `_raid_health_monitor` begins. -/
def beginRound (s : Sensor) (content : List Text) : Sensor :=
  { s with turn := Turn.begin (getDevices content) }

/-- The alerts for one device. -/
def alertsOf (s : Sensor) (device : Text) : List AlertType :=
  entries device (s.sent.map fun alert => (alert.resourceId, alert.alertType))

end Sensor

inductive Action where
  /-- A round begins, with these lines in `/proc/mdstat`. -/
  | round (content : List Text)
  | result (r : Result)
  /-- The process ends between two commands of a round or between two rounds, and a new one
  begins. -/
  | restart

def start : Sensor := ⟨none, fun _ => none, []⟩

/-- The sensor over all processes of the daemon. The commands of a round are carried out one by
one, each with the result it may have. -/
def system : Transition.System Sensor Action where
  init s := s = start
  next s a := match a, s.turn with
    | .round content, none => some (s.beginRound content)
    | .result r, some turn => some (s.take turn r)
    | .restart, _ => some { s with turn := none }
    | _, _ => none

end Integrity

end Raid

end Sspl

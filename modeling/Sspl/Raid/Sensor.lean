import Mathlib.Data.Finset.Basic
import Sspl.Disk.Handler
import Sspl.Foundation.Dict
import Sspl.Foundation.System
import Sspl.Foundation.Try
import Sspl.Iem.Message

/-!
# The RAID sensor

`RAIDsensor` reads `/proc/mdstat` every 30 seconds. When the text has changed it parses it,
compares the arrays with those of `/etc/mdadm.conf`, and sends three kinds of alerts: on
arrays that are gone (`fault` and `fault_resolved`), on arrays with fewer drives than they
should have (`missing` and `insertion`), and on the drives of an array (`fault` and
`fault_resolved`). With each alert all its data are stored, from which it starts again after
a restart.

What is outside is given for each run: the two files, the answers of `mdadm --examine`, the
order in which a set is read, and after how many alerts the daemon ends. An exception ends
the run, and the sensor runs again after a restart only. The queue takes an alert and the
store its data in one step.
-/

namespace Sspl

namespace Raid

open Iem (Text strip findFrom)

inductive Raised
  | keyError
  | indexError
  | valueError
  /-- The daemon ends. -/
  | ended
  deriving DecidableEq

inductive AlertType
  | fault
  | faultResolved
  | missing
  | insertion
  deriving DecidableEq

def AlertType.severity : AlertType → String
  | .fault | .missing => "critical"
  | .faultResolved | .insertion => "informational"

def AlertType.description : AlertType → String
  | .missing => "RAID array or drive from RAID array is missing."
  | .fault => "RAID array or drive from RAID array is faulty."
  | .insertion => "Inserted drive in RAID array."
  | .faultResolved => "Fault for RAID array or RAID drive is resolved"

/-- The status of a drive and the path of its identity, if it has one. -/
structure Drive where
  status : Text
  identity : Option Text := none
  deriving DecidableEq

structure Alert where
  alertType : AlertType
  severity : String
  description : String
  resourceId : Option Text
  device : Text
  drives : List Drive
  deriving DecidableEq

/-- The data that are stored. -/
structure Data where
  contents : Text := "N/A".toList
  raidStatus : Dict Text Text := .empty
  faultyDriveList : Dict Text (Dict Text AlertType) := .empty
  faultyDeviceList : Finset Text := ∅
  drives : Dict Text (List Drive) := .empty
  totalDrives : Dict Text Nat := .empty
  /-- The path of `_missing_drv`. -/
  missingDrv : Option Text := none
  prevDriveDict : Dict Text (List Text) := .empty
  prevAlertType : Dict Text (Option AlertType) := .empty

/-- The stored data of the sensor and its other attributes, what the store holds, and the alerts
sent. -/
structure State where
  data : Data
  alertType : Option AlertType
  driveStateChanged : Bool
  /-- The local variable `resource_id`. -/
  resourceId : Option Text
  store : Option Data
  sent : List Alert
  /-- No exception has ended the thread. -/
  running : Bool

structure Outside where
  mdstat : Option Text
  conf : Option Text
  /-- The output of `mdadm --examine` for a path. -/
  examine : Text → Text
  /-- The order in which Python goes through a set. -/
  order : List Text → List Text
  /-- Whether the daemon ends once this many alerts have been sent. -/
  ends : Nat → Bool

abbrev Step := Try State Raised PUnit

/-- `table[key]`. -/
def item {ν : Type} (table : Dict Text ν) (key : Text) : Except Raised ν :=
  (table.get? key).elim (.error .keyError) .ok

def update (change : Data → Data) : Step := Try.modify fun s => { s with data := change s.data }

def contains (word : String) (text : Text) : Bool := decide (word.toList <:+: text)

def up : List Text := ["U".toList, "UP".toList]

/-- The device, if this is a line `mdXXX : ...`. -/
def mdDevice (line : Text) : Option Text :=
  let name := (line.splitOn ' ').headD []
  if contains "md" name then some ("/dev/".toList ++ name) else none

/-- `field[:field.find("[")]`. -/
def driveName (field : Text) : Text := field.takeWhile (· ≠ '[')

def driveFields (line : Text) : List Text := (line.splitOn ' ').filter ('[' ∈ ·)

/-- `drive_dict[device]` of the device on the line. -/
def driveNames (line : Text) : List Text :=
  (driveFields line).foldl
    (fun names field => if field ∉ names then names ++ [driveName field] else names) []

/-- `_add_drive`. -/
def addDrive (o : Outside) (identity : Dict Int Text) (field : Text) : Dict Int Text :=
  let drivePath := "/dev/".toList ++ driveName field
  match Disk.int (((o.examine drivePath).splitOn ' ').getLastD []) with
  | .ok driveIndex => identity.set driveIndex drivePath
  | .error _ => identity

def identities (o : Outside) (line : Text) : Dict Int Text :=
  (driveFields line).foldl (addDrive o) .empty

/-- The character after the first bracket, which may be missing. -/
def totalChar (statusLine : Text) : Option (Option Char) :=
  if '[' ∈ statusLine then some (statusLine.dropWhile (· ≠ '['))[1]? else none

/-- `int` of a character. -/
def digit : Option Char → Except Raised Nat
  | none => .error .indexError
  | some c => (parseInt [c]).elim (.error .valueError) fun n => .ok n.toNat

/-- One turn of the loop that fills `_drives[device]`. -/
def appendDrive (identity : Dict Int Text) (status device : Text) (driveIndex : Nat) : Step := do
  let c ← Try.ofExcept (status[driveIndex + 1]?.elim (.error .indexError) .ok)
  update fun data => { data with
    drives := data.drives.set device ((data.drives.get? device).getD [] ++
      [{ status := [c], identity := identity.get? driveIndex }]) }

/-- Whether the status of the array has changed. -/
def parseRaidStatus (identity : Dict Int Text) (statusLine device : Text) :
    Try State Raised Bool :=
  match totalChar statusLine with
  | none => return false
  | some c => do
    let total ← Try.ofExcept (digit c)
    update fun data => { data with totalDrives := data.totalDrives.set device total }
    let status := (statusLine.splitOn ' ').getLastD []
    update fun data => { data with drives := data.drives.set device [] }
    (List.range total).forM (appendDrive identity status device)
    let s ← Try.get
    if s.data.raidStatus.get? device = some status then return false
    else do
      update fun data => { data with raidStatus := data.raidStatus.set device status }
      return true

/-- The local variables of `_process_mdstat`, as they are between two lines. -/
structure Scan where
  mdDeviceList : List Text := []
  driveDict : Dict Text (List Text) := .empty
  driveStatusChanged : Dict Text Bool := .empty
  /-- The device of the line before, if `md_line_parsed`. -/
  parsed : Option Text := none
  /-- `_identity` of that device. -/
  identity : Dict Int Text := .empty

/-- The line following an mdXXX line has the status. -/
def statusLine (line : Text) (scan : Scan) : Try State Raised Scan :=
  match scan.parsed with
  | none => return scan
  | some device => do
    let changed ← parseRaidStatus scan.identity line device
    return { scan with
      driveStatusChanged := scan.driveStatusChanged.set device changed
      parsed := none }

/-- Arrays that are seen for the first time. -/
def addDevice (device : Text) (data : Data) : Data :=
  { data with
    prevAlertType := if (data.prevAlertType.get? device).isNone then
      data.prevAlertType.set device none else data.prevAlertType
    faultyDriveList := if (data.faultyDriveList.get? device).isNone then
      data.faultyDriveList.set device .empty else data.faultyDriveList }

def scanLine (o : Outside) (line : Text) (scan : Scan) : Try State Raised Scan := do
  let scan ← statusLine line scan
  match mdDevice line with
  | none => return scan
  | some device => do
    update (addDevice device)
    return { scan with
      mdDeviceList := scan.mdDeviceList ++ [device]
      driveDict := scan.driveDict.set device (driveNames line)
      parsed := some device
      identity := identities o line }

def scanLines (o : Outside) : List Text → Scan → Try State Raised Scan
  | [], scan => return scan
  | line :: rest, scan => do
    let scan ← scanLine o line scan
    scanLines o rest scan

def lines (contents : Text) : List Text := (strip contents).splitOn '\n'

def processMdstat (o : Outside) : Try State Raised Scan := do
  let s ← Try.get
  scanLines o (lines s.data.contents) {}

/-- The drives in `_map_drive_status`: one name, or the names for each device. -/
inductive Drives
  | name (drive : Text)
  | listed (driveDict : Dict Text (List Text))

def mapName (drvStatus : Text) (drv : Drive) (drive : Text) : Except Raised Drive :=
  if drv.status ∉ up then
    match drv.identity with
    | none => .error .keyError
    | some path =>
      .ok (if path = "/dev/".toList ++ drive then { drv with status := drvStatus } else drv)
  else .ok drv

/-- Drive info is not available in missing case. -/
def mapListed (missingDrv : Option Text) (drvStatus : Text) (drv : Drive) (drive : Text) :
    Except Raised Drive :=
  if drvStatus = "Missing".toList ∧ drv.status = "_".toList then
    .ok { status := drvStatus, identity := missingDrv }
  else mapName drvStatus drv drive

def mapDrive (missingDrv : Option Text) (device : Text) (drives : Drives) (drvStatus : Text)
    (drv : Drive) : Except Raised Drive := do
  let drv ← match drives with
    | .name drive => mapName drvStatus drv drive
    | .listed driveDict => do
      (← item driveDict device).foldlM (mapListed missingDrv drvStatus) drv
  return if drv.status = "U".toList then { drv with status := "UP".toList } else drv

def mapDriveStatus (device : Text) (drives : Drives) (drvStatus : Text) : Step := do
  let s ← Try.get
  let drvs ← Try.ofExcept (item s.data.drives device)
  (List.range drvs.length).forM fun i => do
    let s ← Try.get
    let drvs ← Try.ofExcept (item s.data.drives device)
    match drvs[i]? with
    | none => return ⟨⟩
    | some drv => do
      let drv ← Try.ofExcept (mapDrive s.data.missingDrv device drives drvStatus drv)
      update fun data => { data with drives := data.drives.set device (drvs.set i drv) }

def send (alert : Alert) (s : State) : State :=
  let data := { s.data with
    prevAlertType := s.data.prevAlertType.set alert.device (some alert.alertType) }
  { s with
    data := data
    alertType := none
    sent := s.sent ++ [alert]
    store := some data }

def alert (alertType : AlertType) (resourceId : Option Text) (device : Text)
    (drives : List Drive) : Alert where
  alertType := alertType
  severity := alertType.severity
  description := alertType.description
  resourceId := resourceId
  device := device
  drives := drives

def sendJsonMsg (o : Outside) (alertType : AlertType) (resourceId : Option Text) (device : Text)
    (drives : List Drive) : Step := do
  Try.modify (send (alert alertType resourceId device drives))
  let s ← Try.get
  if o.ends s.sent.length then throw .ended else return ⟨⟩

/-- Sends what has been decided on, if anything has. -/
def sendDecided (o : Outside) (driveDict : Dict Text (List Text)) (device : Text) : Step := do
  let s ← Try.get
  match s.alertType with
  | none => return ⟨⟩
  | some alertType =>
    if s.driveStateChanged then do
      let names ← Try.ofExcept (item driveDict device)
      update fun data => { data with prevDriveDict := data.prevDriveDict.set device names }
      let drives ← Try.ofExcept (item s.data.drives device)
      sendJsonMsg o alertType s.resourceId device drives
    else return ⟨⟩

def raidDownDriveStatus : List Drive :=
  [{ status := "Down/Missing".toList }, { status := "Down/Missing".toList }]

/-- `text.split(word)[0]`. -/
def beforeWord (word text : Text) : Text :=
  match findFrom word text with
  | none => text
  | some tail => text.take (text.length - tail.length)

/-- `/dev/md/1` and `/dev/md1` are the same device. -/
def mapDevice (field : Text) : Text :=
  match findFrom "md/".toList field with
  | none => field
  | some tail =>
    beforeWord "md/".toList field ++ "md".toList ++ beforeWord "md/".toList (tail.drop 3)

/-- The array on a line, if there is one; `none` is an exception. -/
def confDevice (line : Text) : Option (List Text) :=
  let fields := line.splitOn ' '
  let keyword := fields.headD []
  if '#' ∉ keyword ∧ contains "ARRAY" keyword then
    fields[1]?.map fun field => if contains "/md" field then [mapDevice field] else []
  else some []

/-- `conf_device_list`, unless an exception makes the sensor give up on the file. -/
def confDeviceList (conf : Text) : Option (List Text) :=
  ((lines conf).mapM confDevice).map List.flatten

def arrayTurn (o : Outside) (mdDeviceList : List Text) (driveDict : Dict Text (List Text))
    (device : Text) : Step := do
  let s ← Try.get
  if device ∉ mdDeviceList ∧ device ∉ s.data.faultyDeviceList then do
    Try.modify fun s => { s with alertType := some .fault }
    update fun data => { data with faultyDeviceList := insert device data.faultyDeviceList }
    sendJsonMsg o .fault (some device) device raidDownDriveStatus
  else if device ∈ mdDeviceList ∧ device ∈ s.data.faultyDeviceList then do
    Try.modify fun s => { s with alertType := some .faultResolved }
    mapDriveStatus device (.listed driveDict) "Down/Recovery".toList
    update fun data => { data with faultyDeviceList := data.faultyDeviceList.erase device }
    let s ← Try.get
    let drives ← Try.ofExcept (item s.data.drives device)
    sendJsonMsg o .faultResolved (some device) device drives
  else return ⟨⟩

def processMissingMdDevices (o : Outside) (mdDeviceList : List Text)
    (driveDict : Dict Text (List Text)) : Step :=
  match o.conf.bind confDeviceList with
  | none => return ⟨⟩
  | some devices => devices.forM (arrayTurn o mdDeviceList driveDict)

/-- A drive that was there when the last alert was sent and is not there now. -/
def missingDrive (o : Outside) (prev : Option (List Text)) (names : List Text) : Text :=
  match prev.bind fun prev => (o.order (prev.dedup.filter (· ∉ names))).head? with
  | none => "NA".toList
  | some drive => "/dev/".toList ++ drive

def driveMissing (o : Outside) (driveDict : Dict Text (List Text)) (names : List Text)
    (device : Text) : Step := do
  Try.modify fun s => { s with alertType := some .missing }
  let s ← Try.get
  let drive := missingDrive o (s.data.prevDriveDict.get? device) names
  Try.modify fun s => { s with resourceId := some (device ++ ":".toList ++ drive) }
  update fun data => { data with missingDrv := some drive }
  mapDriveStatus device (.listed driveDict) "Missing".toList
  Try.modify fun s => { s with driveStateChanged := true }

def driveInserted (names : List Text) (device : Text) : Step := do
  Try.modify fun s => { s with alertType := some .insertion }
  let drive ← Try.ofExcept (names.head?.elim (.error .indexError) .ok)
  Try.modify fun s => { s with resourceId := some (device ++ ":/dev/".toList ++ drive) }
  mapDriveStatus device (.name drive) "Down/Recovery".toList
  Try.modify fun s => { s with driveStateChanged := true }

def countTurn (o : Outside) (driveDict : Dict Text (List Text)) (device : Text) : Step := do
  let s ← Try.get
  let names ← Try.ofExcept (item driveDict device)
  let total ← Try.ofExcept (item s.data.totalDrives device)
  let prev := s.data.prevAlertType.get? device
  if names.length < total ∧ prev ≠ none ∧ prev ≠ some (some .missing) then
    driveMissing o driveDict names device
  else if total ≤ names.length ∧ prev = some (some .missing) then
    driveInserted names device
  else return ⟨⟩

/-- The resource of the alerts on a drive of an array. -/
def driveResource (device name : Text) : Option Text := some (device ++ ":/dev/".toList ++ name)

/-- Whether the drive has a fault, if there is a list of faulty drives for the device. -/
def Data.faulty (data : Data) (device name : Text) : Option Bool :=
  (data.faultyDriveList.get? device).map fun names => (names.get? name).isSome

def driveFault (device name : Text) : Step := do
  Try.modify fun s => { s with alertType := some .fault }
  mapDriveStatus device (.name name) "Down".toList
  Try.modify fun s => { s with driveStateChanged := true }
  update fun data => { data with
    faultyDriveList := data.faultyDriveList.set device
      (((data.faultyDriveList.get? device).getD .empty).set name .fault) }

def driveResolved (device name : Text) : Step := do
  Try.modify fun s => { s with alertType := some .faultResolved }
  mapDriveStatus device (.name name) "UP".toList
  Try.modify fun s => { s with driveStateChanged := true }
  update fun data => { data with
    faultyDriveList := data.faultyDriveList.set device
      (((data.faultyDriveList.get? device).getD .empty).erase name) }

def driveDecision (s : State) (drive : Drive) (device name : Text) : Step :=
  if drive.status ∉ up ∧ s.data.faulty device name = some false ∧
      s.data.prevAlertType.get? device ≠ some (some .missing) then
    driveFault device name
  else if drive.status ∈ up ++ ["Down/Recovery".toList] ∧
      s.data.faulty device name = some true then
    driveResolved device name
  else return ⟨⟩

def driveTurn (o : Outside) (driveDict : Dict Text (List Text)) (device : Text) (i : Nat) :
    Step := do
  let s ← Try.get
  let drives ← Try.ofExcept (item s.data.drives device)
  match drives[i]? with
  | none => return ⟨⟩
  | some drive =>
    match drive.identity with
    | none => return ⟨⟩
    | some path => do
      let name := path.drop 5
      Try.modify fun s => { s with resourceId := driveResource device name }
      driveDecision s drive device name
      sendDecided o driveDict device

def driveTurns (o : Outside) (scan : Scan) (device : Text) : Step := do
  if ← Try.ofExcept (item scan.driveStatusChanged device) then
    let s ← Try.get
    let drives ← Try.ofExcept (item s.data.drives device)
    (List.range drives.length).forM (driveTurn o scan.driveDict device)
  else return ⟨⟩

def deviceTurn (o : Outside) (scan : Scan) (device : Text) : Step := do
  if scan.driveDict.items ≠ [] then
    countTurn o scan.driveDict device
    sendDecided o scan.driveDict device
    driveTurns o scan device
  else return ⟨⟩

def notifyNodeDataMsgHandler (o : Outside) : Step := do
  Try.modify fun s => { s with driveStateChanged := false, resourceId := none }
  match o.mdstat with
  | none => return ⟨⟩
  | some status => do
    let s ← Try.get
    if s.data.contents = status then return ⟨⟩
    else do
      update fun data => { data with contents := status }
      let scan ← processMdstat o
      processMissingMdDevices o scan.mdDeviceList scan.driveDict
      scan.mdDeviceList.forM (deviceTurn o scan)

/-- `initialize`: the stored data, or fresh data that are stored. -/
def initData (s : State) : State :=
  let data := s.store.getD {}
  { s with data := data, store := some data, running := true }

/-- The sensor on a server that has no stored data. -/
def start : State := initData {
  data := {}
  alertType := none
  driveStateChanged := false
  resourceId := none
  store := none
  sent := []
  running := false }

/-- A round of the sensor, and the two ways in which it begins anew, both with the data that are
stored. -/
inductive Action
  | run (o : Outside)
  /-- The thread controller initializes the sensor again. -/
  | restart
  /-- The daemon is started again. -/
  | reboot

def run (o : Outside) (s : State) : State :=
  match (notifyNodeDataMsgHandler o).run s with
  | (.ok _, t) => t
  | (.error _, t) => { t with running := false }

def next (s : State) : Action → Option State
  | .run o => if s.running then some (run o s) else none
  | .restart => some (initData s)
  | .reboot => some (initData { s with alertType := none })

/-- The rounds of the sensor over all processes of the daemon. -/
def system : Transition.System State Action where
  init s := s = start
  next := next

end Raid

end Sspl

import Sspl.Foundation.Dict
import Sspl.Foundation.System
import Sspl.Foundation.Try
import Sspl.NodeController.Handler

/-!
# The handler of disk messages

`DiskMsgHandler` keeps a `Drive` for each serial number in two tables: what the operating
system says of the drive, told by the drive manager and `DiskMonitor`, and what HPI says of
it. A field of a message that is missing is `none`, and so is the value `None` that a table
holds for a drive that has been replaced.

An exception ends the handling of a message and is swallowed by `run`. What was set and
sent before it stays. The two files are written as a whole or, if something is raised
meanwhile, not at all.
-/

namespace Sspl

namespace Disk

open Iem (Text strip)
open NodeController (normalized)

/-- `int(text)`. -/
def int (text : Text) : Except PyErr Int := (parseInt text).elim (.error .valueError) .ok

/-- `int` of a text or of `None`. -/
def intOf (value : Option Text) : Except PyErr Int := value.elim (.error .typeError) int

/-- `str` of a text or of `None`. -/
def str (value : Option Text) : Text := value.getD "None".toList

/-- An object that may be `None`, whose attribute is looked up. -/
def notNone {α : Type} (value : Option α) : Except PyErr α :=
  value.elim (.error .attributeError) .ok

/-- A field of a message that the schema wants to be there. -/
def required {α : Type} (value : Option α) : Except PyErr α :=
  value.elim (.error .validationError) .ok

/-- `status, reason = str(status).split("_", 1)`. -/
def statusReason (status : Option Text) : Except PyErr (Text × Text) :=
  if '_' ∈ str status then
    .ok ((str status).takeWhile (· ≠ '_'), ((str status).dropWhile (· ≠ '_')).tail)
  else .error .valueError

def notAvailable : Text := "HPI_Data_Not_Available".toList

def notPresent : Option Text := some "ZBX_NOTPRESENT".toList

/-- The entry of a drive, with what HPI and the drive manager have told of it. -/
structure Drive where
  eventPath : Option Text
  status : Option Text
  serialNumber : Option Text
  drawer : Option Text := some "N/A".toList
  location : Option Text := some "N/A".toList
  manufacturer : Option Text := some "N/A".toList
  productName : Option Text := some "N/A".toList
  productVersion : Option Text := some "N/A".toList
  wwn : Option Text := some "N/A".toList
  diskInstalled : Option Bool := some false
  diskPowered : Option Bool := some false
  pathId : Option Text := some "N/A".toList
  enclosure : Text := "N/A".toList
  /-- The text of the number, as it stands in the path. -/
  driveNum : Text := "-1".toList
  deriving DecidableEq

namespace Drive

def parseDriveMngrPath (d : Drive) : Drive :=
  match d.eventPath.map (·.splitOn '/') with
  | some (enclosure :: _ :: driveNum :: _ :: _) =>
    { d with enclosure := enclosure, driveNum := driveNum }
  | _ => d

/-- `none` is a path that is not valid. -/
def parseHpiPath (d : Drive) : Option Drive :=
  match d.eventPath.map (·.splitOn '/') with
  | some (enclosure :: _ :: driveNum :: _) =>
    some { d with enclosure := enclosure, driveNum := driveNum }
  | _ => none

end Drive

structure DriveMngrMsg where
  enclosureSN : Text
  diskNum : Int
  diskStatus : Text
  diskReason : Text
  serialNumber : Text
  pathID : Text
  uuid : Option Text
  deriving DecidableEq

/-- `drive.toDriveMngrJsonMsg(uuid).getJson()`. -/
def toDriveMngrJsonMsg (d : Drive) (uuid : Option Text) : Except PyErr DriveMngrMsg := do
  let (status, reason) ← statusReason d.status
  let diskNum ← int d.driveNum
  let serialNumber ← required d.serialNumber
  let pathId ← required d.pathId
  return {
    enclosureSN := normalized d.enclosure
    diskNum := diskNum
    diskStatus := normalized status
    diskReason := normalized reason
    serialNumber := normalized serialNumber
    pathID := normalized pathId
    uuid := uuid.map normalized }

structure HPIDataMsg where
  hostId : Text
  deviceId : Text
  drawer : Int
  location : Int
  manufacturer : Text
  productName : Text
  productVersion : Text
  serialNumber : Text
  wwn : Text
  enclosureSN : Text
  diskNum : Int
  diskInstalled : Bool
  diskPowered : Bool
  uuid : Option Text
  deriving DecidableEq

/-- `drive.toHPIjsonMsg(uuid).getJson()`. -/
def toHPIjsonMsg (hostId : Text) (d : Drive) (uuid : Option Text) : Except PyErr HPIDataMsg := do
  let drawer ← intOf d.drawer
  let location ← intOf d.location
  let diskNum ← int d.driveNum
  let deviceId ← required d.eventPath
  let manufacturer ← required d.manufacturer
  let productName ← required d.productName
  let productVersion ← required d.productVersion
  let serialNumber ← required d.serialNumber
  let wwn ← required d.wwn
  let diskInstalled ← required d.diskInstalled
  let diskPowered ← required d.diskPowered
  return {
    hostId := normalized hostId
    deviceId := normalized deviceId
    drawer := drawer
    location := location
    manufacturer := normalized manufacturer
    productName := normalized productName
    productVersion := normalized productVersion
    serialNumber := normalized serialNumber
    wwn := normalized wwn
    enclosureSN := normalized d.enclosure
    diskNum := diskNum
    diskInstalled := diskInstalled
    diskPowered := diskPowered
    uuid := uuid.map normalized }

inductive Output
  | driveMngr (msg : DriveMngrMsg)
  | hpiData (msg : HPIDataMsg)
  | ack (ackType ackMsg : Text) (uuid : Option Text)
  /-- `resend_drive_status`, for `DiskMonitor`. -/
  | resend (serialNumber : Option Text)
  deriving DecidableEq

/-- An element of `drives` in the file of the drive manager. -/
structure DiskStatus where
  serialNumber : Option Text
  status : Text
  reason : Text
  deriving DecidableEq

/-- An element of `drives` in `disk_info.json`. -/
structure DiskInfo where
  hpi : HPIDataMsg
  diskStatus : Text
  diskReason : Text
  deriving DecidableEq

/-- The node, the limits for expander resets, and `str.lower`. -/
structure Config where
  hostId : Text
  maxDrivemanagerEvents : Int
  maxDrivemanagerEventInterval : Int
  /-- `str.lower`. -/
  lower : Text → Text

/-- A table of drives; `none` is `None`. -/
abbrev Table := Dict (Option Text) (Option Drive)

/-- `table.get(serial_number)`, if it is not `None`. -/
def Table.existing (table : Table) (serialNumber : Option Text) : Option Drive :=
  (table.get? serialNumber).join

/-- The drives of the table, in its order. -/
def Table.values (table : Table) : List (Option Drive) := table.items.map Prod.snd

/-- The two tables of drives, the counter of drive-manager events, the two files and what was
written to other queues. -/
structure State where
  drvmngrDrives : Table
  hpiDrives : Table
  drivemanagerEventsCounter : Int
  firstDrivemanagerEventTm : Int
  maxDrivemanagerEvents : Int
  maxDrivemanagerEventInterval : Int
  /-- What the file of the drive manager holds. -/
  dmreport : Option (List DiskStatus)
  diskInfo : Option (List DiskInfo)
  sent : List Output

abbrev Block := Try State PyErr PUnit

def write (output : Output) : Block :=
  Try.modify fun s => { s with sent := s.sent ++ [output] }

@[simp] theorem run_write (output : Output) (s : State) :
    (write output).run s = (.ok ⟨⟩, { s with sent := s.sent ++ [output] }) := rfl

/-- The word occurs in the text, upper and lower case being one. -/
def Config.mentions (conf : Config) (word : String) (text : Text) : Prop :=
  word.toList <:+: conf.lower text

instance (conf : Config) (word : String) (text : Text) : Decidable (conf.mentions word text) :=
  inferInstanceAs (Decidable (_ <:+: _))

/-- The loop of `_serialize_disk_status`. -/
def diskStatuses (conf : Config) : List (Option Drive) → Except PyErr (List DiskStatus)
  | [] => .ok []
  | drive :: rest => do
    let drive ← notNone drive
    if drive.enclosure = notAvailable then diskStatuses conf rest
    else
      let (status, reason) ← statusReason drive.status
      let status := if conf.mentions "halon" status then "EMPTY".toList else status
      let others ← diskStatuses conf rest
      return ⟨drive.serialNumber, status, reason⟩ :: others

/-- What raises is logged, and the file stays as it is. -/
def serializeDiskStatus (conf : Config) : Block :=
  Try.modify fun s =>
    match diskStatuses conf s.drvmngrDrives.values with
    | .ok drives => { s with dmreport := some drives }
    | .error _ => s

/-- The loop of `_serialize_disk_info`. -/
def diskInfos (conf : Config) (drvmngrDrives : Table) :
    List (Option Text × Option Drive) → Except PyErr (List DiskInfo)
  | [] => .ok []
  | (serialNumber, drive) :: rest => do
    let hpi ← toHPIjsonMsg conf.hostId (← notNone drive) none
    let (status, reason) ←
      match drvmngrDrives.existing serialNumber with
      | some drive => statusReason drive.status
      | none => .ok ("N/A".toList, "N/A".toList)
    let others ← diskInfos conf drvmngrDrives rest
    return ⟨hpi, status, reason⟩ :: others

def serializeDiskInfo (conf : Config) : Block :=
  Try.modify fun s =>
    match diskInfos conf s.drvmngrDrives s.hpiDrives.items with
    | .ok drives => { s with diskInfo := some drives }
    | .error _ => s

/-- `_check_drivemanager_events_interval`, up to what a partial reset does after the counter
is set; the second part says that there is one. -/
def countDrivemanagerEvent (conf : Config) (now : Int) (s : State) : State × Bool :=
  let expired := 120 < now - s.firstDrivemanagerEventTm
  let counted := if expired then 0 else s.drivemanagerEventsCounter
  let first := if counted = 0 then now else s.firstDrivemanagerEventTm
  let s := { s with
    drivemanagerEventsCounter := counted + 1
    firstDrivemanagerEventTm := first }
  if s.maxDrivemanagerEvents ≤ counted + 1 ∧ now - first < s.maxDrivemanagerEventInterval then
    if s.maxDrivemanagerEvents ≠ 84 then
      ({ s with
        maxDrivemanagerEvents := 84
        drivemanagerEventsCounter := 0
        maxDrivemanagerEventInterval := 120 }, true)
    else
      ({ s with
        drivemanagerEventsCounter := 0
        maxDrivemanagerEvents := conf.maxDrivemanagerEvents
        maxDrivemanagerEventInterval := conf.maxDrivemanagerEventInterval }, false)
  else (s, false)

/-- After a partial reset `_trigger_expander_reset` raises: the output of a command is not
a `str`, and `rstrip` wants the type of its argument to be that of its object. -/
def checkDrivemanagerEventsInterval (conf : Config) (now : Int) : Block := do
  let s ← Try.get
  Try.modify fun _ => (countDrivemanagerEvent conf now s).1
  if (countDrivemanagerEvent conf now s).2 then throw .typeError

/-- The drive is in the table as it is now; it is sent and serialized. -/
def publish (conf : Config) (serialNumber : Option Text) (drive : Drive) : Block := do
  Try.modify fun s => { s with drvmngrDrives := s.drvmngrDrives.set serialNumber (some drive) }
  write (.driveMngr (← Try.ofExcept (toDriveMngrJsonMsg drive none)))
  serializeDiskStatus conf

/-- The blanks that the continued line leaves in front of the number. -/
def margin : Text := List.replicate 33 ' '

/-- A `Drive` for the drive manager, with what HPI knows of its place. -/
def newDrive (hpiDrives : Table) (serialNumber status pathId : Option Text) : Drive :=
  let eventPath :=
    match hpiDrives.existing serialNumber with
    | some hpi => hpi.enclosure ++ "/disk/".toList ++ margin ++ hpi.driveNum ++ "/status".toList
    | none => notAvailable ++ "/disk/-1/status".toList
  Drive.parseDriveMngrPath
    { eventPath := some eventPath
      status := status
      serialNumber := serialNumber
      pathId := pathId }

/-- The first part of `_process_drivemanager_response`, for a drive in the table. -/
def updateDrive (conf : Config) (now : Int) (serialNumber : Option Text) (drive : Drive)
    (status pathId : Option Text) : Block := do
  let old ← Try.ofExcept (notNone drive.status)
  let new ← Try.ofExcept (notNone status)
  if conf.lower old = conf.lower new ∧ drive.pathId = pathId then pure ⟨⟩
  else
    if new = "EMPTY_None".toList then checkDrivemanagerEventsInterval conf now
    if conf.mentions "halon" old then pure ⟨⟩
    else publish conf serialNumber { drive with status := status, pathId := pathId }

/-- `_process_drivemanager_response`: the entry of the drive manager is made or changed, and the
drive that was at its place is taken out. -/
def processDrivemanagerResponse (conf : Config) (now : Int)
    (serialNumber status pathId : Option Text) : Block := do
  let s ← Try.get
  match s.drvmngrDrives.existing serialNumber with
  | some drive => updateDrive conf now serialNumber drive status pathId
  | none => publish conf serialNumber (newDrive s.hpiDrives serialNumber status pathId)

/-- The fields of a message of HPI; a field that is not there is `none`. -/
structure HpiData where
  serialNumber : Option Text
  eventPath : Option Text
  status : Option Text
  drawer : Option Text
  location : Option Text
  manufacturer : Option Text
  productName : Option Text
  productVersion : Option Text
  wwn : Option Text
  diskInstalled : Option Bool
  diskPowered : Option Bool

/-- The serial numbers of other drives at the place. -/
def replaced (serialNumber : Option Text) (enclosure driveNum : Text)
    (table : Table) : List (Option Text) :=
  table.items.filterMap fun item => item.2.bind fun drive =>
    if enclosure = drive.enclosure ∧ driveNum = drive.driveNum ∧ serialNumber ≠ item.1 then
      some item.1
    else none

/-- What raises for a drive that is `None` is logged. -/
def removeReplacedDrive (serialNumber : Option Text) (enclosure driveNum : Text) (s : State) :
    State :=
  (replaced serialNumber enclosure driveNum s.drvmngrDrives).foldl (fun s old =>
    { s with
      drvmngrDrives := s.drvmngrDrives.set old none
      hpiDrives := s.hpiDrives.set old none }) s

/-- The `Drive` of a message, if its path is valid. -/
def hpiDrive (data : HpiData) : Option Drive :=
  Drive.parseHpiPath
    { eventPath := data.eventPath
      status := data.status
      serialNumber := data.serialNumber
      drawer := data.drawer
      location := data.location
      manufacturer := data.manufacturer
      productName := data.productName
      productVersion := data.productVersion
      wwn := data.wwn
      diskInstalled := data.diskInstalled
      diskPowered := data.diskPowered }

/-- The entry of the drive manager follows the place that HPI tells. -/
def updatePlace (conf : Config) (serialNumber : Option Text) (drive : Drive) : Block := do
  let s ← Try.get
  match s.drvmngrDrives.existing serialNumber with
  | some entry =>
    if entry.enclosure ≠ drive.enclosure ∨ entry.driveNum ≠ drive.driveNum then
      publish conf serialNumber
        { entry with enclosure := drive.enclosure, driveNum := drive.driveNum }
  | none => pure ⟨⟩

/-- `resend_drive_status`, if the drive manager has told anything yet. -/
def requestResend (serialNumber : Option Text) : Block :=
  Try.modify fun s =>
    if s.drvmngrDrives.items = [] then s
    else { s with sent := s.sent ++ [.resend serialNumber] }

def processHpiResponse (conf : Config) (data : HpiData) : Block :=
  match hpiDrive data with
  | none => pure ⟨⟩
  | some drive => do
    if data.diskInstalled = some true ∧ data.diskPowered = some true then
      Try.modify (removeReplacedDrive data.serialNumber drive.enclosure drive.driveNum)
    Try.modify fun s => { s with hpiDrives := s.hpiDrives.set data.serialNumber (some drive) }
    write (.hpiData (← Try.ofExcept (toHPIjsonMsg conf.hostId drive none)))
    updatePlace conf data.serialNumber drive
    requestResend data.serialNumber

/-- The first drive with the path; a `None` on the way raises. -/
def findByPath (eventPath : Option Text) : List (Option Drive) → Except PyErr (Option Drive)
  | [] => .ok none
  | drive :: rest => do
    let drive ← notNone drive
    if drive.eventPath = eventPath then return some drive
    else findByPath eventPath rest

/-- The data of a message, with what is known already in place of `ZBX_NOTPRESENT`. -/
def knownData (data : HpiData) (drive : Drive) : HpiData :=
  let known (value old : Option Text) := if value = notPresent then old else value
  { data with
    wwn := known data.wwn drive.wwn
    productName := known data.productName drive.productName
    productVersion := known data.productVersion drive.productVersion
    manufacturer := known data.manufacturer drive.manufacturer }

/-- For a serial number that is not present only files are written. -/
def processHpiResponseZBXNotpresent (conf : Config) (data : HpiData) : Block :=
  if data.serialNumber = notPresent then pure ⟨⟩
  else do
    let s ← Try.get
    match ← Try.ofExcept (findByPath data.eventPath s.hpiDrives.values) with
    | none => pure ⟨⟩
    | some found =>
      match hpiDrive (knownData data found) with
      | none => pure ⟨⟩
      | some drive =>
        Try.modify fun s =>
          { s with hpiDrives := s.hpiDrives.set found.serialNumber (some drive) }
        write (.hpiData (← Try.ofExcept (toHPIjsonMsg conf.hostId drive none)))

def processHDSResponse (conf : Config) (serialNumber status reason : Option Text) : Block := do
  let s ← Try.get
  match s.drvmngrDrives.existing serialNumber with
  | some drive =>
    let statusReason := str status ++ '_' :: str reason
    Try.modify fun s => { s with
      drvmngrDrives :=
        s.drvmngrDrives.set serialNumber (some { drive with status := some statusReason }) }
    serializeDiskStatus conf
  | none => pure ⟨⟩

def star : Option Text := some "*".toList

/-- `_transmit_all_drivemanager_responses` and `_transmit_all_HPI_responses` take the keys of
the table for its drives. -/
def transmitAllResponses (table : Table) : Block :=
  if table.items = [] then pure ⟨⟩ else throw .attributeError

/-- A message for each drive. -/
def sendAll (message : Drive → Except PyErr Output) : List (Option Drive) → Block
  | [] => pure ⟨⟩
  | drive :: rest => do
    let drive ← Try.ofExcept (notNone drive)
    write (← Try.ofExcept (message drive))
    sendAll message rest

/-- The result of the SMART test that the status tells. -/
def smartResult (conf : Config) (drive : Drive) : Except PyErr Text := do
  let status ← notNone drive.status
  return if conf.mentions "failed_smart" status then "Failed".toList else "Passed".toList

def smartTestRequest (conf : Config) (serialNumber : Option Text) (nodeRequest : Text)
    (uuid : Option Text) : Block := do
  let s ← Try.get
  if serialNumber = star then
    sendAll (fun drive => do
      let response ← smartResult conf drive
      return .ack ("SMART_TEST: ".toList ++ str drive.serialNumber) response
        (uuid.map normalized)) s.drvmngrDrives.values
  else
    let response ← Try.ofExcept <|
      match s.drvmngrDrives.existing serialNumber with
      | some drive => smartResult conf drive
      | none => .ok
          "Error: SMART results not yet available for drive, please try again later.".toList
    write (.ack (normalized nodeRequest) response (uuid.map normalized))

/-- The requests for what the drive manager or HPI says, with the texts of their answers. -/
def statusRequest (conf : Config) (table : State → Table)
    (message : Drive → Except PyErr Output) (all one none_ : String)
    (serialNumber : Option Text) (nodeRequest : Text) (uuid : Option Text) : Block := do
  let answer (text : String) : Block :=
    write (.ack (normalized nodeRequest) text.toList (uuid.map normalized))
  let s ← Try.get
  if serialNumber = star then
    sendAll message (table s).values
    answer all
  else if serialNumber = some "serialize".toList then serializeDiskInfo conf
  else
    match (table s).existing serialNumber with
    | some drive =>
      write (← Try.ofExcept (message drive))
      answer one
    | none => answer none_

def drvmngrStatusRequest (conf : Config) (serialNumber : Option Text) (nodeRequest : Text)
    (uuid : Option Text) : Block :=
  statusRequest conf State.drvmngrDrives (fun drive => .driveMngr <$> toDriveMngrJsonMsg drive uuid)
    "All Drive manager data sent successfully" "Drive manager data sent successfully"
    "Drive not found in drive manager data" serialNumber nodeRequest uuid

def hpiStatusRequest (conf : Config) (serialNumber : Option Text) (nodeRequest : Text)
    (uuid : Option Text) : Block :=
  statusRequest conf State.hpiDrives
    (fun drive => .hpiData <$> toHPIjsonMsg conf.hostId drive uuid)
    "All HPI data sent successfully" "HPI data sent successfully"
    "Drive not found in HPI data" serialNumber nodeRequest uuid

/-- The messages that the handler reads from its queue: those of the drive manager, of Halon and of
HPI, and three kinds of requests. -/
inductive Message
  | drivemanager (serialNumber status pathId : Option Text)
  | hds (serialNumber status reason : Option Text)
  | hpi (data : HpiData)
  | smartTest (serialNumber : Option Text) (nodeRequest : Text) (uuid : Option Text)
  | drvmngrStatus (serialNumber : Option Text) (nodeRequest : Text) (uuid : Option Text)
  | hpiStatus (serialNumber : Option Text) (nodeRequest : Text) (uuid : Option Text)

def processMsg (conf : Config) (now : Int) : Message → Block
  | .drivemanager serialNumber status pathId => do
    let s ← Try.get
    if serialNumber = star then transmitAllResponses s.drvmngrDrives
    else processDrivemanagerResponse conf now serialNumber status pathId
  | .hds serialNumber status reason => processHDSResponse conf serialNumber status reason
  | .hpi data => do
    let s ← Try.get
    if data.serialNumber = star then transmitAllResponses s.hpiDrives
    else if data.serialNumber = notPresent ∨ data.wwn = notPresent then
      processHpiResponseZBXNotpresent conf data
    else processHpiResponse conf data
  | .smartTest serialNumber nodeRequest uuid =>
    smartTestRequest conf serialNumber nodeRequest uuid
  | .drvmngrStatus serialNumber nodeRequest uuid =>
    drvmngrStatusRequest conf serialNumber nodeRequest uuid
  | .hpiStatus serialNumber nodeRequest uuid =>
    hpiStatusRequest conf serialNumber nodeRequest uuid

/-- After `initialize`. -/
def start (conf : Config) : State where
  drvmngrDrives := .empty
  hpiDrives := .empty
  drivemanagerEventsCounter := 0
  firstDrivemanagerEventTm := 0
  maxDrivemanagerEvents := conf.maxDrivemanagerEvents
  maxDrivemanagerEventInterval := conf.maxDrivemanagerEventInterval
  dmreport := none
  diskInfo := none
  sent := []

/-- Messages are handled one after the other, each with a reading of the clock. -/
def system (conf : Config) : Transition.System State (Message × Int) where
  init s := s = start conf
  next s a := some ((processMsg conf a.2 a.1).run s).2

end Disk

end Sspl

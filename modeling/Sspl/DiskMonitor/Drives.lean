import Sspl.Foundation.Dict
import Sspl.Foundation.Try
import Sspl.Iem.Message
import Sspl.NodeController.Handler

/-!
# The drives that DiskMonitor watches

`DiskMonitor` keeps a drive by its object path in two tables: `drives` has what UDisks2
says of it and whether it belongs to the server, `existingDrive` what the last alert said
of it and whether it is faulty. The second is stored. A signal of UDisks2 adds or removes a
drive, and every second all drives are examined.

What lies outside is given for each step: the objects that UDisks2 manages, what a command
leaves and how UDisks2 takes a request for a self-test. An exception ends the handling of a
signal and is swallowed; what was set before it stays.
-/

namespace Sspl

mutual

/-- `json.loads` with a hook that turns the keys of all objects to lower case. -/
def Json.lowerKeys : Json → Json
  | .dict fields => .dict (fields.lowerKeys .nil)
  | .list items => .list items.lowerKeys
  | value => value

def Items.lowerKeys : Items → Items
  | .nil => .nil
  | .cons head tail => .cons head.lowerKeys tail.lowerKeys

/-- Where two keys become one, the later value stays. -/
def Fields.lowerKeys : Fields → Fields → Fields
  | .nil, done => done
  | .cons key value tail, done =>
    tail.lowerKeys (done.set (String.ofList (key.toList.map Char.toLower)) value.lowerKeys)

end

namespace DiskMonitor

open Iem (Text)

inductive Raised
  | py (err : PyErr)
  /-- UDisks2 says that there is already a SMART self-test running. -/
  | alreadyRunning
  deriving DecidableEq

/-- The interface `Drive` of an object, whose other properties are only passed on. -/
structure UdiskDrive where
  id : Text
  serial : Text
  wwn : Text
  size : Nat
  others : Fields
  deriving DecidableEq

structure UdiskBlock where
  drive : Text
  symlinks : List Text
  device : Text
  deriving DecidableEq

structure Job where
  operation : Option Text
  objects : List Text
  deriving DecidableEq

/-- What UDisks2 says of an object. -/
structure Interfaces where
  drive : Option UdiskDrive := none
  /-- `SmartSelftestStatus` of the interface `Drive.Ata`. -/
  ata : Option Text := none
  block : Option UdiskBlock := none
  job : Option Job := none
  deriving DecidableEq

/-- `is_physical_drive`. -/
def isPhysicalDrive (drive : UdiskDrive) : Bool := "0x5".toList.isPrefixOf drive.wwn

/-- A value of `drives`; before it is set `node_disk` is `none`. -/
structure Entry where
  dbusInfo : UdiskDrive
  nodeDisk : Option Bool := none
  smartAttributes : Option Text := none

/-- A value of `existingDrive`. -/
structure Existing where
  resourceId : Text
  resourceType : Text
  specificInfo : Fields
  faulty : Bool
  deriving DecidableEq

inductive AlertType
  | insertion
  | missing
  | fault
  | faultResolved
  deriving DecidableEq

def AlertType.description : AlertType → String
  | .insertion => "Server drive is inserted."
  | .missing => "Server drive is missing."
  | .fault => "Fault detected for server drive."
  | .faultResolved => "Fault resolved for server drive."

inductive Tool
  | hdparm
  | smartctl
  deriving DecidableEq

inductive Output
  | nodeDisk (alertType : AlertType) (resourceType resourceId description : Text)
      (specificInfo : Fields)
  | iem (event : Text)
  | diskStatus (status serialNumber pathId : Text)
  | deviceName (serialNumber deviceName driveById : Text)
  | ack (ackType ackMsg uuid : Text)
  deriving DecidableEq

/-- What a command leaves, with the value that `json.loads` makes of its output. -/
structure Answer where
  response : Text
  json : Except PyErr Json
  err : Text
  retcode : Int

/-- How UDisks2 takes `SmartSelftestStart`. -/
inductive Selftest
  | started
  | alreadyRunning
  | refused
  deriving DecidableEq

/-- What the calls of one step are answered with: the objects of UDisks2, the commands and the
self-tests. -/
structure Outside where
  managed : Dict Text Interfaces
  /-- The command is run for the drive with this path. -/
  command : Text → Text → Answer
  selftest : Text → Selftest

/-- The tables of DiskMonitor: the objects of UDisks2, the links to the drives, the drives with
their faults, and the self-tests with the requests that wait for them. -/
structure State where
  smartSupported : Bool
  runSmartOnStart : Bool
  diskObjects : Dict Text Interfaces
  driveById : Dict Text Text
  driveByPath : Dict Text Text
  driveByDeviceName : Dict Text Text
  drives : Dict Text Entry
  existingDrive : Dict Text Existing
  /-- The file `disks.json`. -/
  cache : Dict Text Existing
  smartJobs : Dict Text (Option Job)
  smartUuids : Dict Text (Option Text)
  simulatedSmartFailures : List Text
  faultIems : List Tool
  /-- Nothing has been raised in the loop of `run`. -/
  running : Bool
  sent : List Output

abbrev Step := Try State Raised PUnit

def keyError {α : Type} : Except Raised α := .error (.py .keyError)

/-- `table[key]`. -/
def item {ν : Type} (table : Dict Text ν) (key : Text) : Except Raised ν :=
  (table.get? key).elim keyError .ok

def raising {α : Type} (value : Except PyErr α) : Except Raised α := value.mapError .py

/-- The word stands in the text. -/
def contains (word : String) (text : Text) : Bool := decide (word.toList <:+: text)

def write (output : Output) : Step := Try.modify fun s => { s with sent := s.sent ++ [output] }

def putCache : Step := Try.modify fun s => { s with cache := s.existingDrive }

def Tool.errorEvent : Tool → Text
  | .hdparm => "HDPARM_ERROR".toList
  | .smartctl => "SMARTCTL_ERROR".toList

def Tool.availableEvent : Tool → Text
  | .hdparm => "HDPARM_AVAILABLE".toList
  | .smartctl => "SMARTCTL_AVAILABLE".toList

def toolFault (tool : Tool) : Step :=
  Try.modify fun s => { s with
    sent := s.sent ++ [.iem tool.errorEvent]
    faultIems := if tool ∈ s.faultIems then s.faultIems else s.faultIems ++ [tool] }

def toolResolved (tool : Tool) : Step :=
  Try.modify fun s =>
    if tool ∈ s.faultIems then
      { s with
        sent := s.sent ++ [.iem tool.availableEvent]
        faultIems := s.faultIems.erase tool }
    else s

def addSymlink (drive : Text) (s : State) (symlink : Text) : State :=
  if contains "wwwn" symlink || contains "by-id" symlink then
    { s with driveById := s.driveById.set drive symlink }
  else if contains "by-path" symlink && contains "phy" symlink then
    { s with driveByPath :=
        s.driveByPath.set drive (symlink.drop "/dev/disk/by-path/".toList.length) }
  else s

def addBlock (block : UdiskBlock) (s : State) : State :=
  let s := block.symlinks.foldl (addSymlink block.drive) s
  { s with driveByDeviceName := s.driveByDeviceName.set block.drive block.device }

/-- `_update_by_id_paths`. -/
def updateByIdPaths (o : Outside) (s : State) : State :=
  o.managed.items.foldl
    (fun s object =>
      match object.2.block with
      | some block => if contains "/block_devices/" object.1 then addBlock block s else s
      | none => s)
    { s with diskObjects := o.managed }

/-- `text.rfind(word)`. -/
def rfind (word : String) (text : Text) : Option Nat :=
  (List.range text.length).reverse.find? fun i => word.toList.isPrefixOf (text.drop i)

/-- `text.split(c)[-1]`. -/
def lastPart (c : Char) (text : Text) : Text := (text.reverse.takeWhile (· ≠ c)).reverse

/-- `text[text.rfind("drive"):]`, which is the last character if there is no drive. -/
def fromDrive (text : Text) : Text :=
  text.drop ((rfind "drive" text).getD (text.length - 1))

/-- `hdparm` has a fault of its own, or says nothing against a drive of the server. -/
def Answer.localDrive (answer : Answer) : Bool :=
  answer.retcode = 0 || !(contains "SG_IO: bad/missing sense data" answer.err ||
    contains "HDIO_GET_IDENTITY failed: Invalid argument" answer.err)

def hdparm (deviceName : Text) : Text := "sudo hdparm -i ".toList ++ deviceName

def isLocalDrive (o : Outside) (path : Text) : Try State Raised Bool := do
  let s ← Try.get
  let driveName ← Try.ofExcept (item s.driveByDeviceName path)
  let answer := o.command path (hdparm driveName)
  if answer.retcode = 0 then toolResolved .hdparm
  else if answer.localDrive then toolFault .hdparm
  return answer.localDrive

def nodeDisk (s : State) (path : Text) : Except Raised Bool := do
  let drive ← item s.drives path
  drive.nodeDisk.elim keyError .ok

def getResourceType (s : State) (path : Text) : Except Raised Text := do
  return if ← nodeDisk s path then "node:os:disk".toList else "enclosure:hw:disk".toList

/-- `'{0:.2f} TB'.format(size / 1024 ** 4)`, for sizes that a float represents. -/
def sizeText (size : Nat) : String :=
  let hundredths := size * 100 / 1024 ^ 4
  let rest := 2 * (size * 100 % 1024 ^ 4)
  let up := 1024 ^ 4 < rest ∨ rest = 1024 ^ 4 ∧ hundredths % 2 = 1
  let n := if up then hundredths + 1 else hundredths
  toString (n / 100) ++ "." ++ toString (n % 100 / 10) ++ toString (n % 10) ++ " TB"

def text (value : Text) : Json := .str (String.ofList value)

/-- The dictionary of the interface `Drive`. -/
def UdiskDrive.fields (drive : UdiskDrive) : Fields :=
  .cons "Id" (text drive.id) (.cons "Serial" (text drive.serial)
    (.cons "WWN" (text drive.wwn) (.cons "Size" (.int drive.size) drive.others)))

def getSpecificInfo (s : State) (path : Text) (alertType : AlertType) : Except Raised Fields := do
  let drive ← item s.drives path
  let response :=
    match alertType with
    | .insertion | .missing => drive.dbusInfo.fields.lowerKeys .nil
    | .fault | .faultResolved => .nil
  if ← nodeDisk s path then
    match alertType with
    | .insertion | .missing => return response
    | .fault | .faultResolved =>
      let attributes ← drive.smartAttributes.elim keyError .ok
      return .cons "health_status" (text attributes) .nil
  else
    let health :=
      match alertType with
      | .fault | .missing => "Fault"
      | .insertion | .faultResolved => "OK"
    return (((((((response.set "location" (text ((s.driveByPath.get? path).getD []))).set
      "serial_number" (text drive.dbusInfo.serial)).set
      "size" (.str (sizeText drive.dbusInfo.size))).set
      "slot" (.str "")).set
      "health" (.str health)).set
      "health_reason" (.str "")).set
      "health_recommendation" (.str ""))

/-- The alert on a drive in `drives`, with the entry that an insertion stores. -/
def sendMsg (path : Text) (alertType : AlertType) : Try State Raised Existing := do
  let s ← Try.get
  let resourceType ← Try.ofExcept (getResourceType s path)
  let specificInfo ← Try.ofExcept (getSpecificInfo s path alertType)
  let drive ← Try.ofExcept (item s.drives path)
  let resourceId := (s.driveByPath.get? path).getD drive.dbusInfo.id
  write (.nodeDisk alertType resourceType resourceId alertType.description.toList specificInfo)
  return {
    resourceId := resourceId
    resourceType := resourceType
    specificInfo := specificInfo
    faulty := false }

end DiskMonitor

end Sspl

import Sspl.DiskMonitor.Drives
import Sspl.Foundation.System

/-!
# DiskMonitor

The handlers of the signals of UDisks2, of the messages and of the second hand. A self-test
of an ATA drive is a job of UDisks2: its interface is added when the test begins and removed
when it ends, and then every request that waits for the serial number of the drive is
answered.
-/

namespace Sspl

namespace DiskMonitor

open Iem (Text strip)
open NodeController (normalized)

/-- `value[0]`; an index that is out of range is caught like a missing key. -/
def firstItem : Json → Except PyErr Json
  | .list (.cons head _) => .ok head
  | .list .nil => .error .keyError
  | .dict _ => .error .keyError
  | .str value => match value.toList with
    | c :: _ => .ok (text [c])
    | [] => .error .keyError
  | _ => .error .typeError

/-- `"No such device" in response["smartctl"]["message"][0]["string"]`. -/
def noSuchDevice (response : Json) : Except PyErr Bool := do
  let smartctl ← response.item "smartctl"
  let message ← smartctl.item "message"
  let first ← firstItem message
  (← first.item "string").contains "No such device"

/-- `response['smart_status']['passed']`. -/
def passed (response : Json) : Except PyErr Bool := do
  let status ← response.item "smart_status"
  return (← status.item "passed").truthy

inductive Verdict
  /-- The device is not there any more. -/
  | gone
  /-- There is a message that does not say so, and `fault_detected` stays as it is. -/
  | unchanged
  | detected (fault : Bool)
  deriving DecidableEq

def verdict (response : Json) : Except PyErr Verdict :=
  match noSuchDevice response with
  | .ok true => .ok .gone
  | .ok false => .ok .unchanged
  | .error .keyError =>
    match passed response with
    | .ok passed => .ok (.detected !passed)
    | .error .keyError => .ok (.detected true)
    | .error err => .error err
  | .error err => .error err

def smartctl (nodeDisk : Bool) (option : String) (deviceName : Text) : Text :=
  (if nodeDisk then "sudo smartctl " else "sudo smartctl -d scsi ").toList ++ option.toList ++
    ' ' :: deviceName

def getDriveFaultInfo (o : Outside) (path : Text) : Try State Raised Text := do
  let s ← Try.get
  let onNode ← Try.ofExcept (nodeDisk s path)
  let deviceName ← Try.ofExcept (item s.driveByDeviceName path)
  let answer := o.command path (smartctl onNode "-A" deviceName)
  if answer.retcode ≠ 0 ∧ answer.err ≠ [] then toolFault .smartctl
  if answer.retcode = 0 then toolResolved .smartctl
  return answer.response

/-- The end of an iteration; before the first verdict `fault_detected` is not bound. -/
def setFaulty (o : Outside) (path : Text) (faultDetected : Option Bool) : Step := do
  let s ← Try.get
  let existing ← Try.ofExcept (item s.existingDrive path)
  let fault ← Try.ofExcept (faultDetected.elim (.error (.py .nameError)) .ok)
  if existing.faulty = fault then return ⟨⟩
  else
    Try.modify fun s => { s with
      existingDrive := s.existingDrive.set path { existing with faulty := fault } }
    let info ← getDriveFaultInfo o path
    let s ← Try.get
    let drive ← Try.ofExcept (item s.drives path)
    Try.modify fun s => { s with
      drives := s.drives.set path { drive with smartAttributes := some info } }
    let _ ← sendMsg path (if fault then .fault else .faultResolved)
    return ⟨⟩

/-- The loop of `_update_drive_faults`. -/
def updateFaults (o : Outside) : Option Bool → List Text → Step
  | _, [] => return ⟨⟩
  | faultDetected, path :: rest => do
    let s ← Try.get
    let onNode ← Try.ofExcept (nodeDisk s path)
    let deviceName ← Try.ofExcept (item s.driveByDeviceName path)
    let answer := o.command path (smartctl onNode "-H" deviceName ++ " --json".toList)
    if answer.retcode ≠ 0 ∧ answer.err ≠ [] then toolFault .smartctl
    else
      if answer.retcode = 0 ∧ answer.response ≠ [] then toolResolved .smartctl
      let response ← Try.ofExcept (raising answer.json)
      match ← Try.ofExcept (raising (verdict response)) with
      | .gone => updateFaults o faultDetected rest
      | .unchanged =>
        setFaulty o path faultDetected
        updateFaults o faultDetected rest
      | .detected fault =>
        setFaulty o path (some fault)
        updateFaults o (some fault) rest

def updateDriveFaults (o : Outside) : Step := do
  let s ← Try.get
  if s.smartSupported then updateFaults o none s.drives.keys else return ⟨⟩

/-- The serial number that an added drive gets. -/
def addedSerial (s : State) (path : Text) (drive : UdiskDrive) : Except Raised Text := do
  if drive.serial = [] then return fromDrive (lastPart '/' (← item s.driveById path))
  else return drive.serial

/-- What is done under the lock. -/
def insertDrive (o : Outside) (path : Text) (drive : UdiskDrive) : Step := do
  Try.modify fun s => { s with drives := s.drives.set path { dbusInfo := drive } }
  if ← isLocalDrive o path then
    Try.modify fun s => { s with
      drives := s.drives.set path { dbusInfo := drive, nodeDisk := some true } }
  let existing ← sendMsg path .insertion
  Try.modify fun s => { s with existingDrive := s.existingDrive.set path existing }
  updateDriveFaults o
  putCache

/-- The first branch of `_interface_added`. -/
def addDrive (o : Outside) (path : Text) (drive : UdiskDrive) : Step := do
  Try.modify (updateByIdPaths o)
  let s ← Try.get
  let serial ← Try.ofExcept (addedSerial s path drive)
  insertDrive o path { drive with serial := serial }

def removeDrive (o : Outside) (path : Text) : Step := do
  let s ← Try.get
  match s.drives.get? path with
  -- The drive of another server.
  | none => return ⟨⟩
  | some _ =>
    let _ ← sendMsg path .missing
    Try.modify fun s => { s with drives := s.drives.erase path }
    let _ ← Try.ofExcept (item s.existingDrive path)
    Try.modify fun s => { s with existingDrive := s.existingDrive.erase path }
    updateDriveFaults o
    putCache

/-- `_get_drives`, for the objects that are left. -/
def getDrives (o : Outside) : List (Text × Interfaces) → Dict Text Entry →
    Try State Raised (Dict Text Entry)
  | [], found => return found
  | (path, interfaces) :: rest, found => do
    if contains "drive" path then
      let drive ← Try.ofExcept (interfaces.drive.elim keyError .ok)
      if isPhysicalDrive drive then
        let onNode ← isLocalDrive o path
        getDrives o rest (found.set path { dbusInfo := drive, nodeDisk := some onNode })
      else getDrives o rest found
    else getDrives o rest found

def insertAll : List Text → Step
  | [] => return ⟨⟩
  | path :: rest => do
    let existing ← sendMsg path .insertion
    Try.modify fun s => { s with existingDrive := s.existingDrive.set path existing }
    insertAll rest

def removeAll : List Text → Step
  | [] => return ⟨⟩
  | path :: rest => do
    let s ← Try.get
    let drive ← Try.ofExcept (item s.existingDrive path)
    write (.nodeDisk .missing drive.resourceType drive.resourceId
      AlertType.missing.description.toList drive.specificInfo)
    Try.modify fun s => { s with existingDrive := s.existingDrive.erase path }
    removeAll rest

/-- What `run` does under the lock before it begins to wait: the drives are looked up, and
alerts are sent on those that were added or removed in the meantime. -/
def prepareDrives (o : Outside) : Step := do
  let drives ← getDrives o o.managed.items .empty
  Try.modify fun s => { s with drives := drives }
  let s ← Try.get
  insertAll (drives.keys.filter fun path => (s.existingDrive.get? path).isNone)
  removeAll (s.existingDrive.keys.filter fun path => (drives.get? path).isNone)
  updateDriveFaults o
  putCache

def notifyDiskMsgHandler (path status serialNumber : Text) : Step := do
  let s ← Try.get
  let pathId ← Try.ofExcept (item s.driveById path)
  write (.diskStatus status serialNumber pathId)

def notifyMsgHandlerSnDeviceMappings (path serialNumber : Text) : Step := do
  let s ← Try.get
  let deviceName ← Try.ofExcept (item s.driveByDeviceName path)
  let driveById ← Try.ofExcept (item s.driveById path)
  write (.deviceName serialNumber deviceName driveById)

/-- The object is an ATA drive. -/
def Interfaces.isAta (interfaces : Interfaces) : Bool := interfaces.ata.isSome

/-- Of another drive the test is begun, and then the three values that `_run_command` returns
are assigned to two variables. -/
def scheduleSmartTest (o : Outside) (path : Text) (serialNumber : Option Text) : Step := do
  let s ← Try.get
  let interfaces ← Try.ofExcept (item s.diskObjects path)
  if interfaces.isAta then
    match o.selftest path with
    | .started => return ⟨⟩
    | .alreadyRunning => throw .alreadyRunning
    | .refused => throw (.py .messageBusError)
  else if serialNumber.isSome then
    let _ ← Try.ofExcept (item s.driveByDeviceName path)
    throw (.py .valueError)

/-- The serial number for which requests are kept. -/
def requestSerial (s : State) (path : Text) (drive : UdiskDrive) : Text :=
  if drive.serial = [] then
    let link := lastPart '/' ((s.driveById.get? path).getD [])
    match rfind "drive" link with
    | some start => strip (link.drop start)
    | none => []
  else drive.serial

/-- The serial number under which a test ends. -/
def endSerial (path : Text) (drive : UdiskDrive) : Text :=
  if drive.serial = [] then lastPart '_' (lastPart '/' path) else drive.serial

/-- The paths of drives among those of the objects. -/
def drivePaths (objects : Dict Text Interfaces) : List Text :=
  objects.keys.filter (contains "/drives/")

/-- What `_init_drives` does for one drive, in its `try`. -/
def initDrive (o : Outside) (path : Text) : Step := do
  let s ← Try.get
  let interfaces ← Try.ofExcept (item s.diskObjects path)
  match interfaces.drive with
  | none => return ⟨⟩
  | some drive =>
    let serialNumber := requestSerial s path drive
    if serialNumber ≠ [] then
      notifyDiskMsgHandler path "OK_None".toList serialNumber
      notifyMsgHandlerSnDeviceMappings path serialNumber
    if s.smartSupported && s.runSmartOnStart then scheduleSmartTest o path none

def initEach (o : Outside) : List Text → Step
  | [] => return ⟨⟩
  | path :: rest => do
    tryCatch (initDrive o path) fun _ => return ⟨⟩
    initEach o rest

def initDrives (o : Outside) : Step := do
  Try.modify (updateByIdPaths o)
  initEach o (drivePaths o.managed)

def smartTest (serialNumber : Text) : Text := "SMART_TEST: ".toList ++ serialNumber

def ack (ackType ackMsg uuid : Text) : Output :=
  .ack (normalized ackType) (normalized ackMsg) (normalized uuid)

/-- The response to a status of a self-test. -/
def responseTo (status : Text) : Text :=
  let lower := status.map Char.toLower
  if contains "error" lower || contains "fatal" lower then "Failed".toList else "Passed".toList

def statusReason (status : Text) : Text :=
  let lower := status.map Char.toLower
  if lower = "success".toList ∨ lower = "inprogress".toList then "OK_None".toList
  else if lower = "fatal".toList then "Failed_smart_failure".toList
  else if lower = "error_unknown".toList then "Failed_smart_unknown".toList
  else if lower = "error_electrical".toList then "Failed_smart_electrical_failure".toList
  else if lower = "error_servo".toList then "Failed_smart_servo_failure".toList
  else if lower = "error_read".toList then "Failed_smart_error_read".toList
  else if lower = "error_handling".toList then "Failed_smart_damage".toList
  else "Unknown smart status: ".toList ++ status ++ "_unknown".toList

def processSmartStatus (o : Outside) (path status serialNumber : Text) : Step :=
  let lower := status.map Char.toLower
  if lower = "interrupted".toList then return ⟨⟩
  else if lower = "aborted".toList then scheduleSmartTest o path none
  else notifyDiskMsgHandler path (statusReason status) serialNumber

/-- The loop over `_smart_uuids`. -/
def answerUuids (serialNumber response : Text) : List Text → State → State
  | [], s => s
  | uuid :: rest, s =>
    answerUuids serialNumber response rest <|
      if s.smartUuids.get? uuid = some (some serialNumber) then
        { s with
          sent := s.sent ++ [ack (smartTest serialNumber) response uuid]
          smartUuids := s.smartUuids.set uuid none }
      else s

/-- The response to the test of the drive and the status that is told of it. -/
def testResult (s : State) (serialNumber status : Text) : Text × Text :=
  if serialNumber ∈ s.simulatedSmartFailures then ("Failed".toList, "fatal".toList)
  else if status = [] then ("Passed".toList, "success".toList)
  else (responseTo status, status)

/-- What is done when a job ends for one of its drives. -/
def finishDrive (o : Outside) (path : Text) (interfaces : Interfaces) : Step := do
  let drive ← Try.ofExcept (interfaces.drive.elim keyError .ok)
  let status ← Try.ofExcept (interfaces.ata.elim keyError .ok)
  let serialNumber := endSerial path drive
  let s ← Try.get
  let result := testResult s serialNumber status
  Try.modify fun s => { s with
    simulatedSmartFailures := s.simulatedSmartFailures.erase serialNumber }
  processSmartStatus o path result.2 serialNumber
  Try.modify fun s => answerUuids serialNumber result.1 s.smartUuids.keys s

def finishEach (o : Outside) (job : Job) : List (Text × Interfaces) → Step
  | [] => return ⟨⟩
  | (path, interfaces) :: rest => do
    if path ∈ job.objects then finishDrive o path interfaces
    finishEach o job rest

/-- `_interface_added`. -/
def interfaceAdded (o : Outside) (path : Text) (interfaces : Interfaces) : Step :=
  match interfaces.drive.filter isPhysicalDrive, interfaces.job with
  | some drive, _ => tryCatch (addDrive o path drive) fun _ => return ⟨⟩
  | none, some job =>
    if job.operation = some "ata-smart-selftest".toList then
      Try.modify fun s => { s with smartJobs := s.smartJobs.set path (some job) }
    else return ⟨⟩
  | none, none => return ⟨⟩

/-- The name of an interface that is removed. -/
inductive Removed
  | drive
  | job
  | other
  deriving DecidableEq

/-- `_interface_removed`; a job that is not known ends the loop. -/
def interfaceRemoved (o : Outside) (path : Text) : List Removed → Step
  | [] => return ⟨⟩
  | .drive :: rest => do
    tryCatch (removeDrive o path) fun _ => return ⟨⟩
    interfaceRemoved o path rest
  | .job :: rest => do
    let s ← Try.get
    match (s.smartJobs.get? path).join with
    | none => return ⟨⟩
    | some job =>
      Try.modify fun s => { s with smartJobs := s.smartJobs.set path none }
      tryCatch (finishEach o job s.diskObjects.items) fun _ => return ⟨⟩
      interfaceRemoved o path rest
  | .other :: rest => interfaceRemoved o path rest

inductive Request
  | simulateFailure (nodeRequest serialNumber : Text)
  | resendDriveStatus (serialNumber : Text)
  | diskSmartTest (serialNumber : Text) (uuid : Option Text)

def star : Text := "*".toList

/-- `resend_drive_status` for one drive, in its `try`. -/
def resendDrive (serialNumber path : Text) : Step := do
  let s ← Try.get
  let interfaces ← Try.ofExcept (item s.diskObjects path)
  match interfaces.drive with
  | none => return ⟨⟩
  | some drive =>
    let serial ← Try.ofExcept (addedSerial s path drive)
    if serialNumber = serial then
      notifyDiskMsgHandler path "OK_None".toList serial
      notifyMsgHandlerSnDeviceMappings path serial

def resendEach (serialNumber : Text) : List Text → Step
  | [] => return ⟨⟩
  | path :: rest => do
    tryCatch (resendDrive serialNumber path) fun _ => return ⟨⟩
    resendEach serialNumber rest

/-- The serial number of the drive, if the request is for it. -/
def covered (s : State) (serialNumber path : Text) : Option Text := do
  let interfaces ← s.diskObjects.get? path
  let drive ← interfaces.drive
  let serial := requestSerial s path drive
  if serial ≠ [] ∧ (serialNumber = serial ∨ serialNumber = star) then some serial else none

/-- One of the drives of `disk_smart_test`. -/
def testDrive (o : Outside) (serialNumber uuid path : Text) : Step := do
  let s ← Try.get
  match covered s serialNumber path with
  | none => return ⟨⟩
  | some serial =>
    tryCatch
      (do
        Try.modify fun s => { s with smartUuids := s.smartUuids.set uuid (some serial) }
        scheduleSmartTest o path (some serial))
      fun raised =>
        if raised = .alreadyRunning then return ⟨⟩
        else
          Try.modify fun s => { s with
            sent := s.sent ++ [ack (smartTest serial) "Failed".toList uuid]
            smartUuids := s.smartUuids.set uuid none }

def testEach (o : Outside) (serialNumber uuid : Text) : List Text → Step
  | [] => return ⟨⟩
  | path :: rest => do
    testDrive o serialNumber uuid path
    testEach o serialNumber uuid rest

def diskSmartTest (o : Outside) (serialNumber uuid : Text) : Step := do
  let s ← Try.get
  if s.smartSupported then
    if serialNumber = star then Try.modify fun s => { s with smartJobs := .empty }
    testEach o serialNumber uuid (drivePaths o.managed)
  else write (ack (smartTest serialNumber) "Unsupported".toList [])

/-- `_process_msg`. -/
def processMsg (o : Outside) : Request → Step
  | .simulateFailure nodeRequest serialNumber =>
    Try.modify fun s => { s with
      diskObjects := o.managed
      simulatedSmartFailures :=
        if nodeRequest = "SMART_FAILURE".toList then s.simulatedSmartFailures ++ [serialNumber]
        else s.simulatedSmartFailures }
  | .resendDriveStatus serialNumber => do
    Try.modify fun s => { s with diskObjects := o.managed }
    resendEach serialNumber (drivePaths o.managed)
  | .diskSmartTest serialNumber uuid => do
    Try.modify fun s => { s with diskObjects := o.managed }
    diskSmartTest o serialNumber (uuid.getD "Not-Found".toList)

/-- A signal of UDisks2, a request from the queue, or a step of the loop of `run`. -/
inductive Action
  | added (path : Text) (interfaces : Interfaces)
  | removed (path : Text) (interfaces : List Removed)
  | request (request : Request)
  /-- The drives are looked up and tests of all of them are scheduled. -/
  | init
  /-- The drives are examined, once a second. -/
  | update

def block (o : Outside) : Action → Step
  | .added path interfaces => interfaceAdded o path interfaces
  | .removed path interfaces => interfaceRemoved o path interfaces
  | .request request => processMsg o request
  | .init => initDrives o
  | .update => do
    updateDriveFaults o
    putCache

def Action.isSignal : Action → Bool
  | .added .. => true
  | .removed .. => true
  | _ => false

/-- A step ends with its exception, if there is one: one in the loop ends the thread, and one in
the handler of a signal does not keep the next signal from coming. -/
def next (s : State) (a : Action × Outside) : Option State :=
  if s.running || a.1.isSignal then
    match (block a.2 a.1).run s with
    | (.ok _, t) => some t
    | (.error _, t) => some { t with running := false }
  else none

/-- After `initialize`, with what is stored. -/
def initialState (smartSupported runSmartOnStart : Bool) (stored : Dict Text Existing) : State where
  smartSupported := smartSupported
  runSmartOnStart := runSmartOnStart
  diskObjects := .empty
  driveById := .empty
  driveByPath := .empty
  driveByDeviceName := .empty
  drives := .empty
  existingDrive := stored
  cache := stored
  smartJobs := .empty
  smartUuids := .empty
  simulatedSmartFailures := []
  faultIems := []
  running := true
  sent := []

/-- `run` up to its loop. -/
def startUp (o : Outside) : Step := do
  initDrives o
  prepareDrives o

end DiskMonitor

end Sspl

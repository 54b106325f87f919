import Sspl.DiskMonitor.Consistency

/-!
# What the requests for self-tests are owed

The ledger says what answers are due, whatever the monitor keeps of requests and jobs: a
request is for certain drives, and each of them is answered with the result of its test as
soon as that is known. This is at once where no test can be begun, and otherwise when the
next test of the drive ends.
-/

namespace Sspl

namespace DiskMonitor

open Iem (Text)
open NodeController (normalized)

/-- A request and a drive that it covers. -/
structure Pair where
  uuid : Text
  path : Text
  serial : Text
  deriving DecidableEq

structure Ledger where
  /-- The uuids of the requests so far. -/
  used : List Text
  /-- The self-tests that have begun and not ended. -/
  running : Dict Text Job
  waiting : List Pair
  due : List Output

/-- A step, with the status with which the self-tests of the drives end. -/
structure Event where
  action : Action
  outside : Outside
  ended : Text → Text

/-- The result of the test of a drive that is no ATA drive. -/
def sasResult (o : Outside) (path deviceName : Text) : Text :=
  let begun := o.command path ("/usr/sbin/smartctl -t short -d scsi ".toList ++ deviceName)
  let health := o.command path ("/usr/sbin/smartctl -H -d scsi ".toList ++ deviceName)
  if begun.err = [] ∧ contains "SMART Health Status: OK" health.response then "Passed".toList
  else "Failed".toList

/-- The result that is known at once; `none` if a test is running. -/
def resultAtOnce (o : Outside) (s : State) (path : Text) : Option Text := do
  let interfaces ← s.diskObjects.get? path
  if interfaces.isAta then
    if o.selftest path = .refused then some "Failed".toList else none
  else
    match s.driveByDeviceName.get? path with
    | some deviceName => some (sasResult o path deviceName)
    | none => some "Failed".toList

/-- The answer for one of the drives, if it is known. -/
def dueAtOnce (o : Outside) (s : State) (serialNumber uuid path : Text) : Option Output := do
  let serial ← covered s serialNumber path
  let response ← if s.smartSupported then resultAtOnce o s path else some "Unsupported".toList
  return .ack (smartTest serial) response uuid

def waits (o : Outside) (s : State) (serialNumber uuid path : Text) : Option Pair := do
  let serial ← covered s serialNumber path
  if s.smartSupported ∧ resultAtOnce o s path = none then some ⟨uuid, path, serial⟩ else none

/-- The answer for a pair when the test of its drive has ended. -/
def answerTo (s : State) (ended : Text → Text) (pair : Pair) : Output :=
  .ack (smartTest pair.serial) (testResult s pair.serial (ended pair.path)).1 pair.uuid

/-- The uuid of a request for self-tests. -/
def requestUuid : Request → Option Text
  | .diskSmartTest _ uuid => some (uuid.getD "Not-Found".toList)
  | _ => none

namespace Ledger

/-- A self-test begins. -/
def added (L : Ledger) (path : Text) (interfaces : Interfaces) : Ledger :=
  match interfaces.drive.filter isPhysicalDrive, interfaces.job with
  | none, some job =>
    if job.operation = some "ata-smart-selftest".toList then
      { L with running := L.running.set path job }
    else L
  | _, _ => L

/-- The pairs with a drive of the job are answered. -/
def jobEnds (L : Ledger) (s : State) (ended : Text → Text) (path : Text) (job : Job) : Ledger :=
  { L with
    running := L.running.erase path
    waiting := L.waiting.filter (·.path ∉ job.objects)
    due := L.due ++ (L.waiting.filter (·.path ∈ job.objects)).map (answerTo s ended) }

def removed (L : Ledger) (s : State) (ended : Text → Text) (path : Text)
    (interfaces : List Removed) : Ledger :=
  match L.running.get? path with
  | some job => if .job ∈ interfaces then L.jobEnds s ended path job else L
  | none => L

def requested (L : Ledger) (s : State) (o : Outside) (serialNumber uuid : Text) : Ledger :=
  let paths := drivePaths o.managed
  let s := { s with diskObjects := o.managed }
  { L with
    used := uuid :: L.used
    waiting := L.waiting ++ paths.filterMap (waits o s serialNumber uuid)
    due := L.due ++ paths.filterMap (dueAtOnce o s serialNumber uuid) }

/-- What a step makes due. -/
def next (L : Ledger) (s : State) (e : Event) : Ledger :=
  match e.action with
  | .added path interfaces => L.added path interfaces
  | .removed path interfaces => L.removed s e.ended path interfaces
  | .request (.diskSmartTest serialNumber uuid) =>
    L.requested s e.outside serialNumber (uuid.getD "Not-Found".toList)
  | _ => L

end Ledger

/-- The uuids of requests are distinct. -/
def Fresh (L : Ledger) : Action → Prop
  | .request request => ∀ uuid, requestUuid request = some uuid → uuid ∉ L.used
  | _ => True

instance (L : Ledger) (action : Action) : Decidable (Fresh L action) :=
  match action with
  | .request request =>
    decidable_of_iff (∀ uuid ∈ requestUuid request, uuid ∉ L.used) Iff.rfl
  | .added .. => isTrue trivial
  | .removed .. => isTrue trivial
  | .init => isTrue trivial
  | .update => isTrue trivial

/-- DiskMonitor with the ledger. -/
def requests : Transition.System (State × Ledger) Event where
  init x := x.2 = ⟨[], .empty, [], []⟩ ∧ ∃ smartSupported runSmartOnStart stored o,
    (startUp o).run (initialState smartSupported runSmartOnStart stored) = (.ok ⟨⟩, x.1)
  next x e :=
    if Fresh x.2 e.action then
      (next x.1 (e.action, e.outside)).map fun t => (t, x.2.next x.1 e)
    else none

/-- The answers that were sent are those that are due, up to their order: none is missing, and none
comes twice. -/
def Acknowledged (x : State × Ledger) : Prop := x.1.acks.Perm x.2.due

/-- A status can be told of, and a test that was aborted begins again. -/
def Tells (o : Outside) (s : State) (path status : Text) : Prop :=
  let lower := status.map Char.toLower
  lower = "interrupted".toList ∨
    if lower = "aborted".toList then o.selftest path = .started
    else (s.driveById.get? path).isSome

/-- What the monitor has of the drive when a test of it ends: the status can be told of, the
requests that wait for the drive, and no others, are kept for its serial number, and the
result that it was asked for last is that of the test. -/
structure Reports (x : State × Ledger) (e : Event) (path : Text) (drive : UdiskDrive)
    (status : Text) : Prop where
  tells : Tells e.outside x.1 path (testResult x.1 (endSerial path drive) status).2
  kept : ∀ slot ∈ x.1.smartUuids.items, slot.2 = some (endSerial path drive) →
    ∃ pair ∈ x.2.waiting, pair.path = path ∧ pair.uuid = slot.1
  found : ∀ pair ∈ x.2.waiting, pair.path = path →
    x.1.smartUuids.get? pair.uuid = some (some (endSerial path drive))
  result : ∀ pair ∈ x.2.waiting, pair.path = path → pair.serial = endSerial path drive ∧
    (testResult x.1 pair.serial (e.ended path)).1 = (testResult x.1 pair.serial status).1

/-- The monitor knows of the job and of the drives for which requests wait, and what it has
of them is right. -/
structure Ends (x : State × Ledger) (e : Event) (path : Text) (job : Job) : Prop where
  known : x.1.smartJobs.get? path = some (some job)
  listed : ∀ pair ∈ x.2.waiting, pair.path ∈ job.objects → pair.path ∈ x.1.diskObjects.keys
  drives : ∀ object ∈ x.1.diskObjects.items, object.1 ∈ job.objects →
    ∃ drive status, object.2.drive = some drive ∧ object.2.ata = some status ∧
      Reports x e object.1 drive status
  apart : (x.1.diskObjects.items.filter (·.1 ∈ job.objects)).Pairwise fun first second =>
    ∀ d d', first.2.drive = some d → second.2.drive = some d' →
      endSerial first.1 d ≠ endSerial second.1 d'

/-- No request waits for a drive of the job, and none is kept for one, unless the monitor does
not know of the job. -/
structure Idle (x : State × Ledger) (path : Text) (job : Job) : Prop where
  waiting : ∀ pair ∈ x.2.waiting, pair.path ∉ job.objects
  kept : jobKnown x.1 path = true →
    ∀ object ∈ x.1.diskObjects.items, object.1 ∈ job.objects → ∀ drive,
    object.2.drive = some drive → ∀ slot ∈ x.1.smartUuids.items,
      slot.2 ≠ some (endSerial object.1 drive)

def MeetsRequest (x : State × Ledger) (e : Event) (serialNumber uuid : Text) : Prop :=
  let s := { x.1 with diskObjects := e.outside.managed }
  x.1.smartSupported = true ∧ normalized uuid = uuid ∧
    ∀ path ∈ drivePaths e.outside.managed, (covered s serialNumber path).isSome →
      ∀ response, resultAtOnce e.outside s path = some response → response = "Failed".toList

/-- SMART is supported where it is asked for, and no drive but an ATA drive passes its test.
A test ends as it should, or nobody waits for it. -/
def MeetsAck (x : State × Ledger) (e : Event) : Prop :=
  match e.action with
  | .removed path interfaces => .job ∈ interfaces → ∀ job, x.2.running.get? path = some job →
    Ends x e path job ∨ Idle x path job
  | .request (.diskSmartTest serialNumber uuid) =>
    MeetsRequest x e serialNumber (uuid.getD "Not-Found".toList)
  | _ => True

section Decide

variable (x : State × Ledger) (e : Event) (path : Text)

instance (o : Outside) (s : State) (path status : Text) : Decidable (Tells o s path status) :=
  inferInstanceAs (Decidable (status.map Char.toLower = "interrupted".toList ∨
    if status.map Char.toLower = "aborted".toList then o.selftest path = .started
    else (s.driveById.get? path).isSome))

instance (drive : UdiskDrive) (status : Text) : Decidable (Reports x e path drive status) :=
  decidable_of_iff (_ ∧ _ ∧ _ ∧ _) ⟨fun h => ⟨h.1, h.2.1, h.2.2.1, h.2.2.2⟩,
    fun h => ⟨h.tells, h.kept, h.found, h.result⟩⟩

instance (job : Job) : Decidable (Ends x e path job) :=
  decidable_of_iff (x.1.smartJobs.get? path = some (some job) ∧
      (∀ pair ∈ x.2.waiting, pair.path ∈ job.objects → pair.path ∈ x.1.diskObjects.keys) ∧
      (∀ object ∈ x.1.diskObjects.items, object.1 ∈ job.objects → ∃ drive ∈ object.2.drive,
        ∃ status ∈ object.2.ata, Reports x e object.1 drive status) ∧
      (x.1.diskObjects.items.filter (·.1 ∈ job.objects)).Pairwise fun first second =>
        ∀ d ∈ first.2.drive, ∀ d' ∈ second.2.drive,
          endSerial first.1 d ≠ endSerial second.1 d') <| by
    constructor
    · rintro ⟨known, listed, drives, apart⟩
      refine ⟨known, listed, fun object mem job => ?_, apart.imp fun apart d d' has has' =>
        apart d has d' has'⟩
      obtain ⟨drive, has, status, ata, reports⟩ := drives object mem job
      exact ⟨drive, status, has, ata, reports⟩
    · rintro ⟨known, listed, drives, apart⟩
      refine ⟨known, listed, fun object mem job => ?_, apart.imp fun apart d has d' has' =>
        apart d d' has has'⟩
      obtain ⟨drive, status, has, ata, reports⟩ := drives object mem job
      exact ⟨drive, has, status, ata, reports⟩

instance (job : Job) : Decidable (Idle x path job) :=
  decidable_of_iff ((∀ pair ∈ x.2.waiting, pair.path ∉ job.objects) ∧
      (jobKnown x.1 path = true → ∀ object ∈ x.1.diskObjects.items, object.1 ∈ job.objects →
        ∀ drive ∈ object.2.drive, ∀ slot ∈ x.1.smartUuids.items,
          slot.2 ≠ some (endSerial object.1 drive)))
    ⟨fun h => ⟨h.1, h.2⟩, fun h => ⟨h.waiting, h.kept⟩⟩

instance (serialNumber uuid : Text) : Decidable (MeetsRequest x e serialNumber uuid) :=
  decidable_of_iff (x.1.smartSupported = true ∧ normalized uuid = uuid ∧
    ∀ path ∈ drivePaths e.outside.managed,
      (covered { x.1 with diskObjects := e.outside.managed } serialNumber path).isSome →
        ∀ response ∈ resultAtOnce e.outside { x.1 with diskObjects := e.outside.managed } path,
          response = "Failed".toList) Iff.rfl

instance : Decidable (MeetsAck x e) :=
  match e with
  | ⟨.removed path interfaces, outside, ended⟩ =>
    decidable_of_iff (.job ∈ interfaces → ∀ job ∈ x.2.running.get? path,
      Ends x ⟨.removed path interfaces, outside, ended⟩ path job ∨ Idle x path job) Iff.rfl
  | ⟨.request (.diskSmartTest serialNumber uuid), _, _⟩ =>
    inferInstanceAs (Decidable (MeetsRequest x _ serialNumber (uuid.getD "Not-Found".toList)))
  | ⟨.request (.simulateFailure ..), _, _⟩ | ⟨.request (.resendDriveStatus _), _, _⟩ =>
    .isTrue trivial
  | ⟨.added .., _, _⟩ | ⟨.init, _, _⟩ | ⟨.update, _, _⟩ => .isTrue trivial

end Decide

end DiskMonitor

end Sspl

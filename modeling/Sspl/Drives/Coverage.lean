import Sspl.Drives.Manager

/-!
# What the scans cover

The HPI monitor makes the same scan as the drive manager over a directory of its own, with the
same filter. It asks for no files: what is not there is read as `None`.
-/

namespace Sspl

namespace Drives

open Files (Node Path)

namespace HPIMonitor

/-- The data of a disk, which is also the message to the disk message handler. -/
structure DriveData where
  eventPath : Path
  status : String
  drawer : String
  location : String
  manufacturer : String
  productName : String
  productVersion : String
  serialNumber : String
  wwn : String
  diskInstalled : Bool
  diskPowered : Bool
  deriving DecidableEq

/-- The data of the drives, by the directories of their disks, and the messages sent. -/
structure State where
  driveData : Dict Path DriveData
  sent : List DriveData

section Methods

variable (root : Node) (driveloc : Path)

def gatherData (file : String) : String :=
  match root.read (driveloc ++ [file]) with
  | some text => withoutLineEnds text
  | none => "None"

def jsonData : DriveData where
  eventPath := driveloc
  status := if gatherData root driveloc "status" = "available" then "OK_None" else "EMPTY_None"
  drawer := gatherData root driveloc "drawer"
  location := gatherData root driveloc "location"
  manufacturer := gatherData root driveloc "manufacturer"
  productName := gatherData root driveloc "product_name"
  productVersion := gatherData root driveloc "product_version"
  serialNumber := gatherData root driveloc "serial_number"
  wwn := gatherData root driveloc "wwn"
  diskInstalled := gatherData root driveloc "disk_installed" = "1"
  diskPowered := gatherData root driveloc "disk_powered" = "1"

/-- The body of the loop over the disks of an enclosure. -/
def scanDisk : Try State PyErr PUnit := do
  if root.isdir driveloc then
    .modify fun s => { s with
      driveData := s.driveData.set driveloc (jsonData root driveloc)
      sent := s.sent ++ [jsonData root driveloc] }

def start : State := ⟨.empty, []⟩

/-- `_init_drive_data`. -/
def initDriveData : Outcome State :=
  match root.listdir [] with
  | none => .waits
  | some names => .of ((scanEnclosures root (scanDisk root) names).run start)

end Methods

def Recorded (s : State) (driveloc : Path) : Prop := (s.driveData.get? driveloc).isSome = true

def messages (s : State) (driveloc : Path) : Nat := s.sent.countP fun m => m.eventPath = driveloc

theorem initDriveData_covers_iff (root : Node) :
    Covers root (fun _ => True) Recorded messages (initDriveData root) ↔
      (∃ names, root.listdir [] = some names ∧ ∀ name ∈ names, root.isdir [name] = true) ∧
      ∀ disk, ¬ IsDisk root disk := by
  have unrecorded : ∀ disk, ¬ Recorded start disk := by
    intro disk recorded
    cases recorded
  rw [initDriveData]
  cases listed : root.listdir [] with
  | none => exact iff_of_false not_covers_waits (by simp)
  | some names =>
      dsimp only
      rw [scan_covers_iff unrecorded names]
      simp

end HPIMonitor

/-- Both scans cover their directories, and after that of the drive manager each write to a disk
is told as it should be. -/
structure CoversEveryDrive (driveRoot hpiRoot : Node) (events : List DriveManager.Write) :
    Prop where
  drives : Covers driveRoot (DriveManager.Needed driveRoot) DriveManager.Recorded
    DriveManager.messages (DriveManager.initDriveStatus driveRoot)
  hpi : Covers hpiRoot (fun _ => True) HPIMonitor.Recorded HPIMonitor.messages
    (HPIMonitor.initDriveData hpiRoot)
  told : ∀ s, DriveManager.initDriveStatus driveRoot = .ended (.ok ⟨⟩) s →
    DriveManager.TellsAll s events

/-- There is at least one enclosure and no file in the directory of the drive manager, no file in
that of the HPI monitor, no disk in either, and no disk gets its files later. -/
structure NothingToCover (driveRoot hpiRoot : Node) (events : List DriveManager.Write) : Prop where
  enclosures : ∃ names, driveRoot.listdir [] = some names ∧ names ≠ [] ∧
    ∀ name ∈ names, driveRoot.isdir [name] = true
  noDrive : ∀ disk, IsDisk driveRoot disk → ¬ DriveManager.Needed driveRoot disk
  noFile : ∃ names, hpiRoot.listdir [] = some names ∧
    ∀ name ∈ names, hpiRoot.isdir [name] = true
  noDisk : ∀ disk, ¬ IsDisk hpiRoot disk
  noWrite : ∀ event ∈ events, ¬ DriveManager.Needed event.root event.disk

/-- The two scans and the writes that follow cover every drive if and only if there is nothing to
cover: the directories of enclosures are what the scans leave out. -/
theorem drives_covered_iff (driveRoot hpiRoot : Node) (events : List DriveManager.Write) :
    CoversEveryDrive driveRoot hpiRoot events ↔ NothingToCover driveRoot hpiRoot events := by
  have tells : DriveManager.TellsAll DriveManager.start events ↔
      ∀ event ∈ events, ¬ DriveManager.Needed event.root event.disk := by
    rw [DriveManager.tellsAll_iff DriveManager.tracked_start]
    refine forall₂_congr fun event _ => ⟨fun recorded needed => ?_, fun none_ needed => ?_⟩
    · cases recorded needed
    · exact absurd needed none_
  constructor
  · rintro ⟨drives, hpi, told⟩
    obtain ⟨enclosures, noDrive⟩ := (DriveManager.initDriveStatus_covers_iff driveRoot).mp drives
    obtain ⟨s, ended, -⟩ := drives
    obtain ⟨noFile, noDisk⟩ := (HPIMonitor.initDriveData_covers_iff hpiRoot).mp hpi
    have started := told s ended
    rw [DriveManager.initDriveStatus_start ended] at started
    exact ⟨enclosures, noDrive, noFile, noDisk, tells.mp started⟩
  · rintro ⟨enclosures, noDrive, noFile, noDisk, noWrite⟩
    refine ⟨(DriveManager.initDriveStatus_covers_iff driveRoot).mpr ⟨enclosures, noDrive⟩,
      (HPIMonitor.initDriveData_covers_iff hpiRoot).mpr ⟨noFile, noDisk⟩, fun s ended => ?_⟩
    rw [DriveManager.initDriveStatus_start ended]
    exact tells.mpr noWrite

namespace Example

/-- One enclosure with one disk. -/
def tree : Node :=
  .dir [("enc", .dir [("disk", .dir [("0", .dir [("serial_number", .file "Z1"),
    ("status", .file "OK"), ("reason", .file "None")])])])]

/-- The scan passes over the disk, and a write to it raises. -/
theorem disk_lost :
    DriveManager.initDriveStatus tree = .ended (.ok ⟨⟩) DriveManager.start ∧
      ((DriveManager.notifyDiskMsgHandler tree ["enc", "disk", "0"]).run DriveManager.start).1 =
        .error .keyError ∧
      ¬ ∀ driveRoot hpiRoot events, CoversEveryDrive driveRoot hpiRoot events := by
  refine ⟨rfl, rfl, fun covers => ?_⟩
  obtain ⟨s, ended, covered⟩ := (covers tree tree []).drives
  have isDisk : IsDisk tree ["enc", "disk", "0"] := ⟨"enc", "0", rfl, rfl⟩
  have recorded := (covered _ isDisk ⟨rfl, rfl⟩).1
  rw [DriveManager.initDriveStatus_start ended] at recorded
  cases recorded

end Example

end Drives

end Sspl

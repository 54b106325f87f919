import Sspl.Drives.Scan
import Sspl.Foundation.Dict
import Sspl.Foundation.Latest

/-!
# The drive manager

The drive manager keeps the status of each disk, which is made from the files `status` and
`reason` in the directory of the disk, under the path of this directory. The scan enters what it
finds; afterwards each file that is written there makes it look at the disk again, and compare
with what it has. For a disk that was never entered this comparison raises.

Paths begin in the directory that is watched. A file that is there can be read.
-/

namespace Sspl

namespace Drives

open Files (Node Path)

/-- `read().replace('\n', '')`; the other line ends are read as `\n`. -/
def withoutLineEnds (text : String) : String :=
  String.ofList (text.toList.filter fun c => c ≠ '\n' ∧ c ≠ '\r')

namespace DriveManager

/-- A message to the disk message handler. -/
structure Message where
  eventPath : Path
  status : String
  serialNumber : String
  deriving DecidableEq

/-- The drives as the sensor knows them, by the directories of their disks, and the messages it has
sent. -/
structure State where
  driveStatus : Dict Path String
  sent : List Message

abbrev Block (α : Type) := Try State PyErr α

section Methods

variable (root : Node) (disk : Path)

def readText (path : Path) : Except PyErr String :=
  (root.read path).elim (.error .other) fun text => .ok (withoutLineEnds text)

/-- The status of a disk, with the reason if there is one. -/
def readStatus : Except PyErr String := do
  let status ← readText root (disk ++ ["status"])
  if root.isfile (disk ++ ["reason"]) then
    let reason ← readText root (disk ++ ["reason"])
    return status ++ "_" ++ reason
  else return status

def setStatus (status : String) : Block PUnit :=
  .modify fun s => { s with driveStatus := s.driveStatus.set disk status }

/-- `_write_internal_msgQ`, with the path of the status file. -/
def write (status serialNumber : String) : Block PUnit :=
  .modify fun s => { s with sent := s.sent ++ [⟨disk ++ ["status"], status, serialNumber⟩] }

/-- The body of the loop over the disks of an enclosure. -/
def scanDisk : Block PUnit := do
  if root.isdir disk then
    if root.isfile (disk ++ ["serial_number"]) then
      let serialNumber ← .ofExcept (readText root (disk ++ ["serial_number"]))
      if root.isfile (disk ++ ["status"]) then
        tryCatch
          (do
            let status ← .ofExcept (readStatus root disk)
            setStatus disk status
            write disk status serialNumber)
          fun _ => pure ⟨⟩

/-- The loop of `_validate_drive_manager_dir` that removes the files from the list it goes over,
and so passes over what follows one that is removed. -/
def removeFiles : List String → List String
  | [] => []
  | [name] => if root.isdir [name] then [name] else []
  | name :: next :: rest =>
    if root.isdir [name] then name :: removeFiles (next :: rest) else next :: removeFiles rest

def start : State := ⟨.empty, []⟩

/-- `_init_drive_status`. -/
def initDriveStatus : Outcome State :=
  match root.listdir [] with
  | none => .waits
  | some names =>
    if removeFiles root names = [] then .waits
    else .of ((scanEnclosures root (scanDisk root) names).run start)

/-- `_notify_DiskMsgHandler`, for a status or reason file of the disk. -/
def notifyDiskMsgHandler : Block PUnit := do
  if root.isfile (disk ++ ["status"]) then
    if root.isfile (disk ++ ["serial_number"]) then
      let status ← .ofExcept (readStatus root disk)
      let s ← .get
      let known ← .ofExcept ((s.driveStatus.get? disk).elim (.error .keyError) .ok)
      if known ≠ status then
        setStatus disk status
        let serialNumber ← .ofExcept (readText root (disk ++ ["serial_number"]))
        write disk status serialNumber

/-- The disk has the files that it needs. -/
def Needed : Prop :=
  root.isfile (disk ++ ["status"]) = true ∧ root.isfile (disk ++ ["serial_number"]) = true

instance : Decidable (Needed root disk) := inferInstanceAs (Decidable (_ ∧ _))

end Methods

def Recorded (s : State) (disk : Path) : Prop := (s.driveStatus.get? disk).isSome = true

/-- How many messages were sent for the disk. -/
def messages (s : State) (disk : Path) : Nat :=
  s.sent.countP fun m => m.eventPath = disk ++ ["status"]

/-- The status in the last message for the disk. -/
def lastSent (s : State) (disk : Path) : Option String :=
  latest Message.eventPath (fun m => some m.status) s.sent (disk ++ ["status"])

/-- A file of the disk was written after the scan, and this is the tree then. -/
structure Write where
  root : Node
  disk : Path

/-- The message that is due after a write. -/
def due (s : State) (event : Write) : List Message :=
  if Needed event.root event.disk then
    match readStatus event.root event.disk,
      readText event.root (event.disk ++ ["serial_number"]) with
    | .ok status, .ok serialNumber =>
      if lastSent s event.disk = some status then []
      else [⟨event.disk ++ ["status"], status, serialNumber⟩]
    | _, _ => []
  else []

/-- The notification raises nothing, and sends the message that is due and no other. -/
def Tells (s : State) (event : Write) : Prop :=
  ∃ t, (notifyDiskMsgHandler event.root event.disk).run s = (.ok ⟨⟩, t) ∧
    t.sent = s.sent ++ due s event

/-- Each notification in a sequence of writes does so. -/
def TellsAll (s : State) : List Write → Prop
  | [] => True
  | event :: rest =>
    Tells s event ∧ TellsAll ((notifyDiskMsgHandler event.root event.disk).run s).2 rest

section Notify

variable {root : Node} {disk : Path} {s : State} {status serialNumber : String}

theorem readText_of_isfile {path : Path} (file : root.isfile path = true) :
    ∃ text, readText root path = .ok text := by
  obtain ⟨text, found⟩ := Node.isfile_iff.mp file
  exact ⟨withoutLineEnds text, by rw [readText, found]; rfl⟩

theorem read_of_needed (needed : Needed root disk) :
    ∃ status serialNumber, readStatus root disk = .ok status ∧
      readText root (disk ++ ["serial_number"]) = .ok serialNumber := by
  obtain ⟨status, first⟩ := readText_of_isfile needed.1
  obtain ⟨serialNumber, second⟩ := readText_of_isfile needed.2
  by_cases more : root.isfile (disk ++ ["reason"]) = true
  · obtain ⟨reason, third⟩ := readText_of_isfile more
    refine ⟨status ++ "_" ++ reason, serialNumber, ?_, second⟩
    rw [readStatus, first]
    simp only [bind, Except.bind, more, if_true, third]
    rfl
  · refine ⟨status, serialNumber, ?_, second⟩
    rw [readStatus, first]
    simp only [bind, Except.bind, more]
    rfl

/-- A disk without its files is left alone. -/
theorem notify_unneeded (unneeded : ¬ Needed root disk) (s : State) :
    (notifyDiskMsgHandler root disk).run s = (.ok ⟨⟩, s) := by
  rw [notifyDiskMsgHandler]
  split
  · rename_i first
    rw [if_neg fun second => unneeded ⟨first, second⟩]
    rfl
  · rfl

theorem notify_needed (needed : Needed root disk) (read : readStatus root disk = .ok status)
    (serial : readText root (disk ++ ["serial_number"]) = .ok serialNumber) (s : State) :
    (notifyDiskMsgHandler root disk).run s =
      match s.driveStatus.get? disk with
      | none => (.error .keyError, s)
      | some known =>
        if known = status then (.ok ⟨⟩, s)
        else (.ok ⟨⟩, ⟨s.driveStatus.set disk status,
          s.sent ++ [⟨disk ++ ["status"], status, serialNumber⟩]⟩) := by
  have status_ : (Try.ofExcept (.ok status) : Block String).run s = (.ok status, s) := rfl
  have state : (Try.get : Block State).run s = (.ok s, s) := rfl
  rw [notifyDiskMsgHandler, if_pos needed.1, if_pos needed.2, read, Try.run_bind_of_ok status_,
    Try.run_bind_of_ok state]
  cases asked : s.driveStatus.get? disk with
  | none => exact Try.run_bind_of_error rfl
  | some known =>
      have known_ : (Try.ofExcept (.ok known) : Block String).run s = (.ok known, s) := rfl
      rw [Option.elim_some, Try.run_bind_of_ok known_]
      by_cases same : known = status
      · rw [if_neg (not_not.mpr same)]
        exact (if_pos same).symm
      · rw [if_pos same, serial]
        exact (if_neg same).symm

theorem due_needed (needed : Needed root disk) (read : readStatus root disk = .ok status)
    (serial : readText root (disk ++ ["serial_number"]) = .ok serialNumber) (s : State) :
    due s ⟨root, disk⟩ =
      if lastSent s disk = some status then []
      else [⟨disk ++ ["status"], status, serialNumber⟩] := by
  rw [due, if_pos needed, read, serial]

/-- The status that is kept for each disk is that of the last message for it. -/
def Tracked (s : State) : Prop := ∀ disk, s.driveStatus.get? disk = lastSent s disk

theorem tracked_start : Tracked start := fun _ => rfl

theorem Tracked.notify (tracked : Tracked s) (event : Write) :
    Tracked ((notifyDiskMsgHandler event.root event.disk).run s).2 := by
  obtain ⟨root, disk⟩ := event
  by_cases needed : Needed root disk
  · obtain ⟨status, serialNumber, read, serial⟩ := read_of_needed needed
    rw [notify_needed needed read serial]
    cases s.driveStatus.get? disk with
    | none => exact tracked
    | some known =>
        dsimp only
        split
        · exact tracked
        · intro other
          rw [lastSent, Dict.get?_set, latest_concat]
          by_cases same : other = disk
          · subst same
            rw [if_pos rfl, if_pos rfl]
            rfl
          · rw [if_neg same, if_neg fun path => same (List.append_cancel_right path).symm]
            exact tracked other
  · rw [notify_unneeded needed]
    exact tracked

/-- The keys of the table stay the same. -/
theorem recorded_notify (event : Write) (other : Path) :
    Recorded ((notifyDiskMsgHandler event.root event.disk).run s).2 other ↔ Recorded s other := by
  obtain ⟨root, disk⟩ := event
  by_cases needed : Needed root disk
  · obtain ⟨status, serialNumber, read, serial⟩ := read_of_needed needed
    rw [notify_needed needed read serial]
    cases known : s.driveStatus.get? disk with
    | none => rfl
    | some known_ =>
        dsimp only
        split
        · rfl
        · rw [Recorded, Recorded, Dict.get?_set]
          split
          · rename_i same
            subst same
            simp [known]
          · rfl
  · rw [notify_unneeded needed]

/-- A notification is right exactly if the disk lacks a file or was recorded. -/
theorem tells_iff (tracked : Tracked s) (event : Write) :
    Tells s event ↔ (Needed event.root event.disk → Recorded s event.disk) := by
  obtain ⟨root, disk⟩ := event
  by_cases needed : Needed root disk
  · obtain ⟨status, serialNumber, read, serial⟩ := read_of_needed needed
    rw [Tells, notify_needed needed read serial, due_needed needed read serial, ← tracked disk,
      Recorded]
    cases known : s.driveStatus.get? disk with
    | none => simp [needed]
    | some known_ =>
        refine iff_of_true ?_ fun _ => rfl
        dsimp only
        by_cases same : known_ = status
        · rw [if_pos same, if_pos (congrArg some same)]
          exact ⟨s, rfl, by simp⟩
        · rw [if_neg same, if_neg fun both => same (Option.some.inj both)]
          exact ⟨_, rfl, rfl⟩
  · refine iff_of_true ⟨s, notify_unneeded needed s, ?_⟩ fun need => absurd need needed
    rw [due, if_neg needed, List.append_nil]

/-- The notifications after a scan are right exactly if each disk that has its files when it is
written to was recorded by the scan. -/
theorem tellsAll_iff (tracked : Tracked s) (events : List Write) :
    TellsAll s events ↔ ∀ event ∈ events, Needed event.root event.disk → Recorded s event.disk := by
  induction events generalizing s with
  | nil => exact iff_of_true trivial (by simp)
  | cons event rest ih =>
      rw [TellsAll, tells_iff tracked event, ih (tracked.notify event), List.forall_mem_cons]
      simp only [recorded_notify]

/-- The message about a disk in the scan. -/
def report (root : Node) (disk : Path) : Option Message :=
  if root.isdir disk = true ∧ Needed root disk then
    match readStatus root disk, readText root (disk ++ ["serial_number"]) with
    | .ok status, .ok serialNumber => some ⟨disk ++ ["status"], status, serialNumber⟩
    | _, _ => none
  else none

/-- A disk is entered and told. -/
def State.enter (s : State) (disk : Path) (m : Message) : State :=
  ⟨s.driveStatus.set disk m.status, s.sent ++ [m]⟩

theorem report_needed (isDisk : root.isdir disk = true) (needed : Needed root disk) :
    ∃ status serialNumber, readStatus root disk = .ok status ∧
      readText root (disk ++ ["serial_number"]) = .ok serialNumber ∧
      report root disk = some ⟨disk ++ ["status"], status, serialNumber⟩ := by
  obtain ⟨status, serialNumber, read, serial⟩ := read_of_needed needed
  refine ⟨status, serialNumber, read, serial, ?_⟩
  rw [report, if_pos ⟨isDisk, needed⟩, read, serial]

theorem scanDisk_run (root : Node) (disk : Path) (s : State) :
    (scanDisk root disk).run s =
      (.ok ⟨⟩, (report root disk).elim s fun m => s.enter disk m) := by
  by_cases both : root.isdir disk = true ∧ Needed root disk
  · obtain ⟨status, serialNumber, read, serial, made⟩ := report_needed both.1 both.2
    have asked : (Try.ofExcept (.ok serialNumber) : Block String).run s =
      (.ok serialNumber, s) := rfl
    rw [made, scanDisk, if_pos both.1, if_pos both.2.2, serial, Try.run_bind_of_ok asked,
      if_pos both.2.1, read]
    rfl
  · have silent : report root disk = none := if_neg both
    rw [silent, scanDisk]
    split
    · rename_i isDisk
      split
      · rename_i file
        obtain ⟨serialNumber, serial⟩ := readText_of_isfile file
        have asked : (Try.ofExcept (.ok serialNumber) : Block String).run s =
          (.ok serialNumber, s) := rfl
        rw [serial, Try.run_bind_of_ok asked, if_neg fun status => both ⟨isDisk, status, file⟩]
        rfl
      · rfl
    · rfl

/-- What the loop over the disks of an enclosure leaves. -/
theorem scanDisks_run (root : Node) (enclosure : String) (names : List String) (s : State) :
    ∃ t, (names.forM fun name => scanDisk root [enclosure, "disk", name]).run s = (.ok ⟨⟩, t) ∧
      t.sent = s.sent ++ names.filterMap (fun name => report root [enclosure, "disk", name]) ∧
      ∀ disk, Recorded s disk ∨
        (∃ name ∈ names, disk = [enclosure, "disk", name] ∧ (report root disk).isSome = true) →
          Recorded t disk := by
  induction names generalizing s with
  | nil => exact ⟨s, rfl, by simp, by simp⟩
  | cons name rest ih =>
      have first := scanDisk_run root [enclosure, "disk", name] s
      cases made : report root [enclosure, "disk", name] with
      | none =>
          rw [made, Option.elim_none] at first
          obtain ⟨t, ran, sent, kept⟩ := ih s
          refine ⟨t, (Try.run_bind_of_ok first).trans ran, ?_, fun disk entered => kept disk ?_⟩
          · rw [sent, List.filterMap_cons, made]
          · obtain before | ⟨other, mem, rfl, told⟩ := entered
            · exact .inl before
            · obtain rfl | later := List.mem_cons.mp mem
              · rw [made] at told
                cases told
              · exact .inr ⟨other, later, rfl, told⟩
      | some m =>
          rw [made, Option.elim_some] at first
          obtain ⟨t, ran, sent, kept⟩ := ih (s.enter [enclosure, "disk", name] m)
          refine ⟨t, (Try.run_bind_of_ok first).trans ran, ?_, fun disk entered => kept disk ?_⟩
          · rw [sent, List.filterMap_cons, made, State.enter, List.append_assoc]
            rfl
          · have add : ∀ other, other = [enclosure, "disk", name] ∨ Recorded s other →
                Recorded (s.enter [enclosure, "disk", name] m) other := by
              intro other either
              rw [Recorded, State.enter, Dict.get?_set]
              split
              · rfl
              · exact either.resolve_left ‹_›
            obtain before | ⟨other, mem, rfl, told⟩ := entered
            · exact .inl (add disk (.inr before))
            · obtain rfl | later := List.mem_cons.mp mem
              · exact .inl (add _ (.inl rfl))
              · exact .inr ⟨other, later, rfl, told⟩

theorem eventPath_of_report {m : Message} (made : report root disk = some m) :
    m.eventPath = disk ++ ["status"] := by
  rw [report] at made
  split at made
  · split at made
    · cases made
      rfl
    · cases made
  · cases made

/-- The loop over the disks does cover an enclosure: it is the filter alone that loses them. -/
theorem scanEnclosure_covers {enclosure : String} {names : List String}
    (listed : root.listdir [enclosure, "disk"] = some names) (nodup : names.Nodup)
    (fresh : ∀ name ∈ names, messages s [enclosure, "disk", name] = 0) :
    ∃ t, (scanEnclosure root (scanDisk root) enclosure).run s = (.ok ⟨⟩, t) ∧
      ∀ name ∈ names, root.isdir [enclosure, "disk", name] = true →
        Needed root [enclosure, "disk", name] →
          Recorded t [enclosure, "disk", name] ∧ messages t [enclosure, "disk", name] = 1 := by
  obtain ⟨t, ran, sent, kept⟩ := scanDisks_run root enclosure names s
  have disks : (Try.ofExcept ((root.listdir [enclosure, "disk"]).elim (.error .other) .ok) :
      Block (List String)).run s = (.ok names, s) := by
    rw [listed]
    rfl
  refine ⟨t, (Try.run_bind_of_ok disks).trans ran, fun name mem isDisk needed => ?_⟩
  obtain ⟨status, serialNumber, -, -, made⟩ := report_needed isDisk needed
  refine ⟨kept _ (.inr ⟨name, mem, rfl, by rw [made]; rfl⟩), ?_⟩
  have own : (names.filterMap fun name => report root [enclosure, "disk", name]).countP
      (fun m => m.eventPath = [enclosure, "disk", name] ++ ["status"]) = names.count name := by
    rw [List.countP_filterMap, List.count]
    refine List.countP_congr fun other _ => ?_
    cases told : report root [enclosure, "disk", other] with
    | none =>
        refine iff_of_false (by simp) fun same => ?_
        cases eq_of_beq same
        cases made.symm.trans told
    | some m => simp [eventPath_of_report told]
  rw [messages, sent, List.countP_append, own, List.count_eq_one_of_mem nodup mem]
  have before := fresh name mem
  rw [messages] at before
  omega

theorem removeFiles_dirs {names : List String} (dirs : ∀ name ∈ names, root.isdir [name] = true) :
    removeFiles root names = names := by
  induction names with
  | nil => rfl
  | cons name rest ih =>
      have first := dirs name List.mem_cons_self
      have others := ih fun other mem => dirs other (List.mem_cons_of_mem _ mem)
      cases rest with
      | nil => rw [removeFiles, if_pos first]
      | cons next rest => rw [removeFiles, if_pos first, others]

/-- The scan enters nothing. -/
theorem initDriveStatus_start {result : Except PyErr PUnit} {s : State}
    (ended : initDriveStatus root = .ended result s) : s = start := by
  rw [initDriveStatus] at ended
  split at ended
  · cases ended
  · split at ended
    · cases ended
    · rw [scanEnclosures_run] at ended
      injection ended with _ same
      exact same.symm

/-- The scan covers the drives exactly if there is nothing but enclosures, and nothing to cover. -/
theorem initDriveStatus_covers_iff (root : Node) :
    Covers root (Needed root) Recorded messages (initDriveStatus root) ↔
      (∃ names, root.listdir [] = some names ∧ names ≠ [] ∧
        ∀ name ∈ names, root.isdir [name] = true) ∧
      ∀ disk, IsDisk root disk → ¬ Needed root disk := by
  have unrecorded : ∀ disk, ¬ Recorded start disk := by
    intro disk recorded
    cases recorded
  rw [initDriveStatus]
  cases listed : root.listdir [] with
  | none => exact iff_of_false not_covers_waits (by simp)
  | some names =>
      dsimp only
      by_cases none_ : removeFiles root names = []
      · rw [if_pos none_]
        refine iff_of_false not_covers_waits ?_
        rintro ⟨⟨names', same, some_, dirs⟩, -⟩
        cases same
        exact some_ (removeFiles_dirs dirs ▸ none_)
      · rw [if_neg none_, scan_covers_iff unrecorded names]
        constructor
        · rintro ⟨dirs, uncovered⟩
          refine ⟨⟨names, rfl, ?_, dirs⟩, uncovered⟩
          rintro rfl
          exact none_ rfl
        · rintro ⟨⟨names', same, -, dirs⟩, uncovered⟩
          cases same
          exact ⟨dirs, uncovered⟩

end Notify

end DriveManager

end Drives

end Sspl

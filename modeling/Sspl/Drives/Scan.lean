import Sspl.Foundation.Files
import Sspl.Foundation.Try
import Sspl.Python.Value

/-!
# The scan over the enclosures

The drive manager and the HPI monitor begin with a scan of a directory in which each enclosure
has a directory, with the directories of its disks below. A file in between is meant to be passed
over, but the filter is the wrong way round: it keeps the files and drops the enclosures.

Both wait until the directory is there. It does not change during the scan.
-/

namespace Sspl

namespace Drives

open Files (Node Path)

section Scan

variable {σ : Type} (root : Node) (scanDisk : Path → Try σ PyErr PUnit)

/-- The loop over the disks of an enclosure. -/
def scanEnclosure (enclosure : String) : Try σ PyErr PUnit := do
  let disks ← .ofExcept ((root.listdir [enclosure, "disk"]).elim (.error .other) .ok)
  disks.forM fun disk => scanDisk [enclosure, "disk", disk]

/-- The loop over the enclosures, with the filter before it. -/
def scanEnclosures (names : List String) : Try σ PyErr PUnit :=
  (names.filter fun enclosure => ¬ root.isdir [enclosure]).forM (scanEnclosure root scanDisk)

/-- A scan waits for its directory as long as it takes, or ends. -/
inductive Outcome (σ : Type)
  | waits
  | ended (result : Except PyErr PUnit) (s : σ)

def Outcome.of (end_ : Except PyErr PUnit × σ) : Outcome σ := .ended end_.1 end_.2

/-- The directory of a disk in that of an enclosure. -/
def IsDisk (disk : Path) : Prop :=
  ∃ enclosure name, disk = [enclosure, "disk", name] ∧ root.isdir disk = true

/-- The scan ends, and has recorded each disk that has what it needs, with one message for it. -/
def Covers (Needed : Path → Prop) (Recorded : σ → Path → Prop) (messages : σ → Path → Nat)
    (outcome : Outcome σ) : Prop :=
  ∃ s, outcome = .ended (.ok ⟨⟩) s ∧
    ∀ disk, IsDisk root disk → Needed disk → Recorded s disk ∧ messages s disk = 1

variable {root scanDisk}

/-- There is no enclosure below a file. -/
theorem scanEnclosure_file {enclosure : String} (file : root.isdir [enclosure] = false) (s : σ) :
    (scanEnclosure root scanDisk enclosure).run s = (.error .other, s) := by
  apply Try.run_bind_of_error
  rw [Node.listdir_below file]
  rfl

/-- The scan stops at the first file, and does nothing if there is none. -/
theorem scanEnclosures_run (names : List String) (s : σ) :
    (scanEnclosures root scanDisk names).run s =
      (if ∀ name ∈ names, root.isdir [name] = true then .ok ⟨⟩ else .error .other, s) := by
  rw [scanEnclosures]
  cases files : names.filter fun enclosure => ¬ root.isdir [enclosure] with
  | nil =>
      rw [if_pos]
      · rfl
      · intro name mem
        have none_ := List.filter_eq_nil_iff.mp files name mem
        simpa using none_
  | cons first rest =>
      have mem : first ∈ names.filter fun enclosure => ¬ root.isdir [enclosure] := by
        rw [files]
        exact List.mem_cons_self
      obtain ⟨listed, file⟩ := List.mem_filter.mp mem
      have file : root.isdir [first] = false := by simpa using file
      rw [if_neg fun all => by cases (all first listed).symm.trans file]
      exact Try.run_bind_of_error (scanEnclosure_file file s)

theorem scan_covers_iff {Needed : Path → Prop} {Recorded : σ → Path → Prop}
    {messages : σ → Path → Nat} {start : σ} (unrecorded : ∀ disk, ¬ Recorded start disk)
    (names : List String) :
    Covers root Needed Recorded messages
        (.of ((scanEnclosures root scanDisk names).run start)) ↔
      (∀ name ∈ names, root.isdir [name] = true) ∧ ∀ disk, IsDisk root disk → ¬ Needed disk := by
  rw [scanEnclosures_run]
  constructor
  · rintro ⟨s, ended, covered⟩
    injection ended with result same
    subst same
    refine ⟨by_contra fun files => ?_, fun disk isDisk needed => ?_⟩
    · rw [if_neg files] at result
      cases result
    · exact unrecorded disk (covered disk isDisk needed).1
  · rintro ⟨dirs, none_⟩
    refine ⟨start, ?_, fun disk isDisk needed => absurd needed (none_ disk isDisk)⟩
    rw [if_pos dirs]
    rfl

theorem not_covers_waits {Needed : Path → Prop} {Recorded : σ → Path → Prop}
    {messages : σ → Path → Nat} : ¬ Covers root Needed Recorded messages .waits := by
  rintro ⟨s, ended, -⟩
  cases ended

end Scan

end Drives

end Sspl

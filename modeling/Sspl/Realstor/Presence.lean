import Mathlib.Data.Finset.Basic
import Mathlib.Data.List.AList
import Sspl.Foundation.System
import Sspl.Realstor.Fru

/-!
# Which disks are in the enclosure

The disk sensor compares each poll of the disk list with the list before it, slot by
slot, and raises an alert for each disk that was removed and for each one that was
inserted. A replaced disk is both. What the enclosure says of a disk is dumped to a file
of its slot; when the disk or its health changes, the earlier contents are kept in a
second file. After a restart the earlier list is read back from these files.

The alert of a removed disk is waited for, and the file it was read from is deleted when
it is acknowledged. All messages of one round share an event.

The removals and insertions between two polls are recorded in the state beside the
alerts, so that one can be compared with the other.
-/

namespace Sspl

namespace Realstor

namespace Presence

variable {ν κ η : Type}

/-- What the enclosure says of a disk. -/
structure Drive (ν κ η : Type) where
  slot : ν
  serialNumber : κ
  health : η
  deriving DecidableEq

/-- A dict with the slots as keys. -/
abbrev Slots (ν E : Type) := AList (fun _ : ν => E)

inductive DataFile
  /-- `disk_<slot>.json` -/
  | current
  /-- `disk_<slot>.json.prev` -/
  | previous
  deriving DecidableEq

/-- The files in the cache directory. -/
structure Files (ν κ η : Type) where
  current : Slots ν (Drive ν κ η)
  previous : Slots ν (Drive ν κ η)

structure Alert (ν κ : Type) where
  alertType : FruAlert
  slot : ν
  serialNumber : κ
  deriving DecidableEq

inductive Stage (ν κ : Type)
  | idle
  | removing (removed inserted : Finset ν)
  /-- The sensor waits after the alert for the slot, if there was one to send. -/
  | waiting (slot : ν) (file : DataFile) (removed inserted : Finset ν)
  | inserting (inserted : Finset ν)

/-- The disks as they were polled, the cache files, the point of the round, and the alerts with
what became of them; besides, the removals and insertions that the polls have shown. -/
structure State (ν κ η : Type) where
  memcacheDisks : Slots ν κ
  latestDisks : Slots ν κ
  files : Files ν κ η
  stage : Stage ν κ
  event : Bool
  /-- The messages of this round that are not acknowledged yet. -/
  outstanding : List (Alert ν κ)
  /-- The messages of earlier rounds that are not acknowledged yet. -/
  stray : List (Alert ν κ)
  raised : List (Alert ν κ)
  acknowledged : List (Alert ν κ)
  /-- The disks of the last poll. -/
  listed : Option (Slots ν κ)
  /-- The disks that were in one poll and not in the next. -/
  removals : List (ν × κ)
  insertions : List (ν × κ)

/-- A poll, the steps of the round that follows, the acknowledgement or the time-out of an alert,
and a restart of the sensor. -/
inductive Action (ν κ η : Type)
  | poll (drives : List (Drive ν κ η))
  | pollFailed
  | missing (slot : ν)
  | acknowledge (alert : Alert ν κ)
  | wake
  | timeOut
  | startInserting
  | insertion (slot : ν)
  | finish
  | restart
  deriving DecidableEq

section Methods

variable [DecidableEq ν]

namespace Files

def get (files : Files ν κ η) (slot : ν) : DataFile → Option (Drive ν κ η)
  | .current => files.current.lookup slot
  | .previous => files.previous.lookup slot

def delete (files : Files ν κ η) (slot : ν) : DataFile → Files ν κ η
  | .current => { files with current := files.current.erase slot }
  | .previous => { files with previous := files.previous.erase slot }

/-- The file that has what was known of a disk before the last poll. -/
def earlier (files : Files ν κ η) (slot : ν) : DataFile :=
  if files.previous.lookup slot = none then .current else .previous

end Files

/-- The map with a value of `f` for each key that has one. -/
def fill {α E : Type} [DecidableEq α] (f : α → Option E) (keys : List α) : Slots α E :=
  keys.foldl (fun dict key => match f key with
    | some value => dict.insert key value
    | none => dict) ∅

/-- `_rss_build_disk_cache_from_persistent_cache` -/
def buildDiskCache (files : Files ν κ η) : Slots ν κ :=
  fill (fun slot => (files.get slot (files.earlier slot)).map Drive.serialNumber)
    files.current.keys

def latestOf (drives : List (Drive ν κ η)) : Slots ν κ :=
  drives.foldl (fun latest drive => latest.insert drive.slot drive.serialNumber) ∅

variable [DecidableEq κ]

/-- The populated slots in which the disk was replaced. -/
def replaced (memcache latest : Slots ν κ) : Finset ν :=
  (memcache.keys.toFinset ∩ latest.keys.toFinset).filter
    fun slot => memcache.lookup slot ≠ latest.lookup slot

def removedDisks (memcache latest : Slots ν κ) : Finset ν :=
  memcache.keys.toFinset \ latest.keys.toFinset ∪ replaced memcache latest

def insertedDisks (memcache latest : Slots ν κ) : Finset ν :=
  latest.keys.toFinset \ memcache.keys.toFinset ∪ replaced memcache latest

/-- The disks of one poll that are not in another. -/
def departures (before after : Slots ν κ) : List (ν × κ) :=
  (before.entries.filter fun disk => after.lookup disk.1 ≠ some disk.2).map
    fun disk => (disk.1, disk.2)

variable [DecidableEq η]

/-- Dump a drive to the file of its slot; if it is replaced, the previous one is retained. -/
def Files.dump (files : Files ν κ η) (drive : Drive ν κ η) : Files ν κ η :=
  match files.current.lookup drive.slot with
  | some prevdrive =>
    if prevdrive.serialNumber ≠ drive.serialNumber ∨ prevdrive.health ≠ drive.health then
      ⟨files.current.insert drive.slot drive, files.previous.insert drive.slot prevdrive⟩
    else files
  | none => { files with current := files.current.insert drive.slot drive }

namespace State

/-- The comparison of the two lists, with a new event if there is a difference. -/
def compare (s : State ν κ η) : State ν κ η :=
  if s.latestDisks.entries = [] then s
  else if removedDisks s.memcacheDisks s.latestDisks = ∅ ∧
      insertedDisks s.memcacheDisks s.latestDisks = ∅ then s
  else
    { s with
      event := false
      stage := .removing (removedDisks s.memcacheDisks s.latestDisks)
        (insertedDisks s.memcacheDisks s.latestDisks) }

/-- The in-memory list is built from the files if it is empty, and taken from the poll if
there are none. -/
def cached (memcache latest : Slots ν κ) (files : Files ν κ η) : Slots ν κ :=
  let memcache := if memcache.entries = [] then buildDiskCache files else memcache
  if memcache.entries = [] then latest else memcache

/-- The answer of the enclosure is kept, in memory and in the files. -/
def polled (s : State ν κ η) (drives : List (Drive ν κ η)) : State ν κ η :=
  { s with
    memcacheDisks := cached s.memcacheDisks (latestOf drives) (drives.foldl Files.dump s.files)
    latestDisks := latestOf drives
    files := drives.foldl Files.dump s.files
    listed := some (latestOf drives)
    removals := s.removals ++ s.listed.elim [] fun before => departures before (latestOf drives)
    insertions :=
      s.insertions ++ s.listed.elim [] fun before => departures (latestOf drives) before }

def next (s : State ν κ η) : Action ν κ η → Option (State ν κ η)
  | .poll drives =>
    match s.stage with
    | .idle => some (s.polled drives).compare
    | _ => none
  | .pollFailed =>
    match s.stage with
    | .idle => some s.compare
    | _ => none
  | .missing slot =>
    match s.stage with
    | .removing removed inserted =>
      if slot ∈ removed then
        match s.files.get slot (s.files.earlier slot) with
        | some info => some { s with
            raised := s.raised ++ [⟨.missing, info.slot, info.serialNumber⟩]
            outstanding := s.outstanding ++ [⟨.missing, info.slot, info.serialNumber⟩]
            stage := .waiting slot (s.files.earlier slot) (removed.erase slot) inserted }
        | none => some { s with
            stage := .waiting slot (s.files.earlier slot) (removed.erase slot) inserted }
      else none
    | _ => none
  | .acknowledge alert =>
    if alert ∈ s.outstanding then
      some { s with
        outstanding := s.outstanding.erase alert
        acknowledged := s.acknowledged ++ [alert]
        event := true }
    else if alert ∈ s.stray then
      some { s with
        stray := s.stray.erase alert
        acknowledged := s.acknowledged ++ [alert] }
    else none
  | .wake =>
    match s.stage with
    | .waiting slot file removed inserted =>
      if s.event then
        some { s with
          files := s.files.delete slot file, event := false
          stage := .removing removed inserted }
      else none
    | _ => none
  | .timeOut =>
    match s.stage with
    | .waiting _ _ removed inserted =>
      if s.event then none else some { s with stage := .removing removed inserted }
    | _ => none
  | .startInserting =>
    match s.stage with
    | .removing removed inserted =>
      if removed = ∅ then
        some { s with
          stage := .inserting inserted
          stray := s.stray ++ s.outstanding, outstanding := [] }
      else none
    | _ => none
  | .insertion slot =>
    match s.stage with
    | .inserting inserted =>
      if slot ∈ inserted then
        match s.files.current.lookup slot with
        | some info => some { s with
            raised := s.raised ++ [⟨.insertion, info.slot, info.serialNumber⟩]
            stage := .inserting (inserted.erase slot) }
        -- `disk_info["health"]` raises a TypeError
        | none => some { s with stage := .idle }
      else none
    | _ => none
  | .finish =>
    match s.stage with
    | .inserting inserted =>
      if inserted = ∅ then some { s with stage := .idle, memcacheDisks := s.latestDisks }
      else none
    | _ => none
  | .restart =>
    some { s with
      memcacheDisks := ∅, latestDisks := ∅, stage := .idle, event := false
      stray := s.stray ++ s.outstanding, outstanding := [] }

end State

/-- The first start, with an empty cache directory. -/
def start : State ν κ η :=
  ⟨∅, ∅, ⟨∅, ∅⟩, .idle, false, [], [], [], [], none, [], []⟩

/-- The disk sensor over all its restarts, on a node without cache files. -/
def system : Transition.System (State ν κ η) (Action ν κ η) where
  init s := s = start
  next := State.next

end Methods

section Lookups

variable [DecidableEq ν] {files : Files ν κ η} {drive : Drive ν κ η} {drives : List (Drive ν κ η)}
  {slot : ν}

theorem lookup_foldl_fill {α E : Type} [DecidableEq α] (f : α → Option E) (keys : List α)
    (dict : Slots α E) (key : α) :
    (keys.foldl (fun dict key => match f key with
      | some value => dict.insert key value
      | none => dict) dict).lookup key =
        if key ∈ keys then (f key).or (dict.lookup key) else dict.lookup key := by
  induction keys generalizing dict with
  | nil => simp
  | cons first rest ih =>
      rw [List.foldl_cons, ih]
      by_cases same : key = first
      · subst same
        cases value : f key <;> simp
      · cases value : f first <;> simp [same, AList.lookup_insert_ne]

theorem lookup_fill {α E : Type} [DecidableEq α] (f : α → Option E) (keys : List α) (key : α) :
    (fill f keys).lookup key = if key ∈ keys then f key else none := by
  rw [fill, lookup_foldl_fill]
  simp

theorem get_earlier : files.get slot (files.earlier slot) =
    (files.previous.lookup slot).or (files.current.lookup slot) := by
  unfold Files.earlier
  cases found : files.previous.lookup slot <;> simp [Files.get, found]

theorem lookup_buildDiskCache : (buildDiskCache files).lookup slot =
    (files.current.lookup slot).bind fun current =>
      some ((files.previous.lookup slot).getD current).serialNumber := by
  have isKey : slot ∈ files.current.keys ↔ (files.current.lookup slot).isSome = true := by
    rw [AList.lookup_isSome, AList.mem_keys]
  rw [buildDiskCache, lookup_fill, get_earlier]
  simp only [isKey]
  cases files.current.lookup slot <;> cases files.previous.lookup slot <;> simp

theorem lookup_foldl_latest_absent (absent : slot ∉ drives.map Drive.slot) (latest : Slots ν κ) :
    (drives.foldl (fun latest drive => latest.insert drive.slot drive.serialNumber)
      latest).lookup slot = latest.lookup slot := by
  induction drives generalizing latest with
  | nil => rfl
  | cons first rest ih =>
      rw [List.map_cons, List.mem_cons, not_or] at absent
      rw [List.foldl_cons, ih absent.2, AList.lookup_insert_ne absent.1]

theorem lookup_latestOf_absent (absent : slot ∉ drives.map Drive.slot) :
    (latestOf drives).lookup slot = none :=
  lookup_foldl_latest_absent absent ∅

theorem lookup_latestOf_present (distinct : (drives.map Drive.slot).Nodup)
    (mem : drive ∈ drives) : (latestOf drives).lookup drive.slot = some drive.serialNumber := by
  unfold latestOf
  generalize (∅ : Slots ν κ) = latest
  induction drives generalizing latest with
  | nil => cases mem
  | cons first rest ih =>
      rw [List.map_cons, List.nodup_cons] at distinct
      rw [List.foldl_cons]
      obtain rfl | mem := List.mem_cons.mp mem
      · rw [lookup_foldl_latest_absent distinct.1, AList.lookup_insert]
      · exact ih distinct.2 mem _

/-- The files while the disks change from `old` to `new`: the removed ones that are still
to be alerted are found in the file that is read for the alert, and everything else is as
in `new`. -/
structure Cached (files : Files ν κ η) (old new : ν → Option κ) (removed : Finset ν) : Prop where
  current : ∀ slot, (files.current.lookup slot).map Drive.serialNumber =
    if slot ∈ removed ∧ new slot = none then old slot else new slot
  previous : ∀ slot drive, files.previous.lookup slot = some drive →
    (if slot ∈ removed then old slot else new slot) = some drive.serialNumber
  replaced : ∀ slot ∈ removed, new slot ≠ none → files.previous.lookup slot ≠ none
  slots : ∀ slot file drive, files.get slot file = some drive → drive.slot = slot

namespace Cached

variable {old new : ν → Option κ} {removed : Finset ν}

theorem settled (h : Cached files old new ∅) (other : ν → Option κ) : Cached files other new ∅ where
  current := by simpa using h.current
  previous := by simpa using h.previous
  replaced := by simp
  slots := h.slots

theorem current_settled (h : Cached files old new ∅) (slot : ν) :
    (files.current.lookup slot).map Drive.serialNumber = new slot := by
  simpa using h.current slot

theorem previous_settled (h : Cached files old new ∅) {drive : Drive ν κ η}
    (found : files.previous.lookup slot = some drive) : new slot = some drive.serialNumber := by
  simpa using h.previous slot drive found

/-- The alert of a removed disk is about that disk. -/
theorem info (h : Cached files old new removed) (mem : slot ∈ removed) {serialNumber : κ}
    (known : old slot = some serialNumber) :
    ∃ drive, files.get slot (files.earlier slot) = some drive ∧ drive.slot = slot ∧
      drive.serialNumber = serialNumber := by
  rw [get_earlier]
  cases previous : files.previous.lookup slot with
  | some drive =>
      have same := h.previous slot drive previous
      rw [if_pos mem, known] at same
      cases same
      exact ⟨drive, rfl, h.slots slot .previous drive previous, rfl⟩
  | none =>
      have vacated : new slot = none := by
        by_contra listed
        exact h.replaced slot mem listed previous
      have same := h.current slot
      rw [if_pos ⟨mem, vacated⟩, known] at same
      obtain ⟨drive, found, same⟩ := Option.map_eq_some_iff.mp same
      exact ⟨drive, found, h.slots slot .current drive found, same⟩

/-- The file of an alerted disk is deleted. -/
theorem delete (h : Cached files old new removed)
    (single : new slot = none → files.previous.lookup slot = none) (mem : slot ∈ removed) :
    Cached (files.delete slot (files.earlier slot)) old new (removed.erase slot) := by
  unfold Files.earlier
  split
  · rename_i previous
    have vacated : new slot = none := by
      by_contra listed
      exact h.replaced slot mem listed previous
    refine ⟨fun g => ?_, fun g drive found => ?_, fun g inside => ?_, fun g file drive found => ?_⟩
    · by_cases own : g = slot
      · subst own
        simp [Files.delete, vacated]
      · simpa [Files.delete, AList.lookup_erase_ne own, own] using h.current g
    · have other : g ≠ slot := by
        rintro rfl
        cases previous.symm.trans found
      simpa [other] using h.previous g drive found
    · exact h.replaced g (Finset.mem_of_mem_erase inside)
    · cases file with
      | previous => exact h.slots g .previous drive found
      | current =>
          by_cases own : g = slot
          · subst own
            simp [Files.get, Files.delete] at found
          · exact h.slots g .current drive ((AList.lookup_erase_ne own).symm.trans found)
  · rename_i previous
    have listed : new slot ≠ none := fun vacated => previous (single vacated)
    refine ⟨fun g => ?_, fun g drive found => ?_, fun g inside => ?_, fun g file drive found => ?_⟩
    · by_cases own : g = slot
      · subst own
        simpa [Files.delete, listed] using h.current g
      · simpa [Files.delete, own] using h.current g
    · by_cases own : g = slot
      · subst own
        simp [Files.delete] at found
      · have same := h.previous g drive ((AList.lookup_erase_ne own).symm.trans found)
        simpa [own] using same
    · have other := Finset.ne_of_mem_erase inside
      simpa [Files.delete, AList.lookup_erase_ne other] using
        h.replaced g (Finset.mem_of_mem_erase inside)
    · cases file with
      | current => exact h.slots g .current drive found
      | previous =>
          by_cases own : g = slot
          · subst own
            simp [Files.get, Files.delete] at found
          · exact h.slots g .previous drive ((AList.lookup_erase_ne own).symm.trans found)

/-- What is rebuilt from the files is the list before the poll where the disk is still to be
alerted, and the list of the poll elsewhere. -/
theorem lookup_buildDiskCache (h : Cached files old new removed) (slot : ν) :
    (buildDiskCache files).lookup slot = if slot ∈ removed then old slot else new slot := by
  rw [Presence.lookup_buildDiskCache]
  have current := h.current slot
  cases found : files.current.lookup slot with
  | none =>
      rw [found, Option.map_none] at current
      by_cases mem : slot ∈ removed
      · by_cases vacated : new slot = none
        · simpa [mem, vacated] using current
        · simp [mem, vacated] at current
          exact absurd current.symm vacated
      · simpa [mem] using current
  | some drive =>
      rw [found, Option.map_some] at current
      cases previous : files.previous.lookup slot with
      | some earlier => simpa using (h.previous slot earlier previous).symm
      | none =>
          by_cases mem : slot ∈ removed
          · have vacated : new slot = none := by
              by_contra listed
              exact h.replaced slot mem listed previous
            simpa [mem, vacated] using current
          · simpa [mem] using current

end Cached

variable [DecidableEq κ] [DecidableEq η]

theorem dump_other (files : Files ν κ η) (other : slot ≠ drive.slot) :
    (files.dump drive).current.lookup slot = files.current.lookup slot ∧
      (files.dump drive).previous.lookup slot = files.previous.lookup slot := by
  unfold Files.dump
  split
  · split
    · exact ⟨AList.lookup_insert_ne other, AList.lookup_insert_ne other⟩
    · exact ⟨rfl, rfl⟩
  · exact ⟨AList.lookup_insert_ne other, rfl⟩

/-- A drive that was dumped before: its file has it now, and `earlier` what was dumped. -/
theorem dump_known {before : Drive ν κ η} (known : files.current.lookup drive.slot = some before) :
    (∃ now, (files.dump drive).current.lookup drive.slot = some now ∧
        now.serialNumber = drive.serialNumber) ∧
      ((files.dump drive).previous.lookup drive.slot = some before ∨
        before.serialNumber = drive.serialNumber ∧ (files.dump drive).previous.lookup drive.slot =
          files.previous.lookup drive.slot) := by
  unfold Files.dump
  rw [known]
  dsimp only
  split
  · exact ⟨⟨drive, AList.lookup_insert _, rfl⟩, .inl (AList.lookup_insert _)⟩
  · rename_i same
    rw [not_or, not_not] at same
    exact ⟨⟨before, known, same.1⟩, .inr ⟨same.1, rfl⟩⟩

theorem dump_new (new : files.current.lookup drive.slot = none) :
    (files.dump drive).current.lookup drive.slot = some drive ∧
      (files.dump drive).previous.lookup drive.slot = files.previous.lookup drive.slot := by
  unfold Files.dump
  rw [new]
  exact ⟨AList.lookup_insert _, rfl⟩

theorem dumped_absent (absent : slot ∉ drives.map Drive.slot) :
    (drives.foldl Files.dump files).current.lookup slot = files.current.lookup slot ∧
      (drives.foldl Files.dump files).previous.lookup slot = files.previous.lookup slot := by
  induction drives generalizing files with
  | nil => exact ⟨rfl, rfl⟩
  | cons first rest ih =>
      rw [List.map_cons, List.mem_cons, not_or] at absent
      obtain ⟨current, previous⟩ := @ih (files.dump first) absent.2
      obtain ⟨current', previous'⟩ := dump_other files absent.1
      exact ⟨current.trans current', previous.trans previous'⟩

theorem dump_congr {other : Files ν κ η}
    (current : files.current.lookup drive.slot = other.current.lookup drive.slot)
    (previous : files.previous.lookup drive.slot = other.previous.lookup drive.slot) :
    (files.dump drive).current.lookup drive.slot = (other.dump drive).current.lookup drive.slot ∧
      (files.dump drive).previous.lookup drive.slot =
        (other.dump drive).previous.lookup drive.slot := by
  unfold Files.dump
  rw [current]
  split
  · split
    · exact ⟨by rw [AList.lookup_insert, AList.lookup_insert],
        by rw [AList.lookup_insert, AList.lookup_insert]⟩
    · exact ⟨current, previous⟩
  · exact ⟨by rw [AList.lookup_insert, AList.lookup_insert], previous⟩

theorem dumped_present (distinct : (drives.map Drive.slot).Nodup) (mem : drive ∈ drives) :
    (drives.foldl Files.dump files).current.lookup drive.slot =
        (files.dump drive).current.lookup drive.slot ∧
      (drives.foldl Files.dump files).previous.lookup drive.slot =
        (files.dump drive).previous.lookup drive.slot := by
  induction drives generalizing files with
  | nil => cases mem
  | cons first rest ih =>
      rw [List.map_cons, List.nodup_cons] at distinct
      obtain rfl | mem := List.mem_cons.mp mem
      · exact dumped_absent distinct.1
      · have other : drive.slot ≠ first.slot := by
          intro same
          exact distinct.1 (same ▸ List.mem_map_of_mem mem)
        obtain ⟨current, previous⟩ := @ih (files.dump first) distinct.2 mem
        obtain ⟨current', previous'⟩ := dump_congr (dump_other files other).1
          (dump_other files other).2
        exact ⟨current.trans current', previous.trans previous'⟩

namespace Cached

variable {old new : ν → Option κ} {removed : Finset ν}

theorem dump_slots (h : ∀ slot file drive, files.get slot file = some drive → drive.slot = slot)
    (first : Drive ν κ η) (slot : ν) (file : DataFile) (drive : Drive ν κ η)
    (found : (files.dump first).get slot file = some drive) : drive.slot = slot := by
  by_cases own : slot = first.slot
  · subst own
    cases known : files.current.lookup first.slot with
    | none =>
        obtain ⟨current, previous⟩ := dump_new known
        cases file with
        | current =>
            cases current.symm.trans found
            rfl
        | previous => exact h _ .previous _ (previous.symm.trans found)
    | some before =>
        have same := h _ .current _ known
        unfold Files.dump at found
        rw [known] at found
        dsimp only at found
        split at found
        · cases file with
          | current =>
              cases (AList.lookup_insert _).symm.trans found
              rfl
          | previous =>
              cases (AList.lookup_insert _).symm.trans found
              exact same
        · exact h _ _ _ found
  · obtain ⟨current, previous⟩ := dump_other files own
    cases file with
    | current => exact h _ .current _ (current.symm.trans found)
    | previous => exact h _ .previous _ (previous.symm.trans found)

theorem dumped_slots (h : ∀ slot file drive, files.get slot file = some drive → drive.slot = slot)
    (slot : ν) (file : DataFile) (drive : Drive ν κ η)
    (found : (drives.foldl Files.dump files).get slot file = some drive) : drive.slot = slot := by
  induction drives generalizing files with
  | nil => exact h _ _ _ found
  | cons first rest ih => exact ih (dump_slots h first) found

section Poll

variable (h : Cached files old old ∅) (distinct : (drives.map Drive.slot).Nodup)
  (changed : ∀ slot, slot ∈ removed ↔ old slot ≠ none ∧ old slot ≠ (latestOf drives).lookup slot)

omit [DecidableEq κ] [DecidableEq η] in
include changed in
theorem poll_absent {slot : ν} (unlisted : slot ∉ drives.map Drive.slot) :
    slot ∈ removed ↔ old slot ≠ none := by
  rw [changed, lookup_latestOf_absent unlisted]
  exact and_self_iff

include h distinct changed

theorem poll_current (slot : ν) :
    ((drives.foldl Files.dump files).current.lookup slot).map Drive.serialNumber =
      if slot ∈ removed ∧ (latestOf drives).lookup slot = none then old slot
      else (latestOf drives).lookup slot := by
  by_cases listed : slot ∈ drives.map Drive.slot
  · obtain ⟨drive, mem, rfl⟩ := List.mem_map.mp listed
    rw [(dumped_present distinct mem).1, lookup_latestOf_present distinct mem, if_neg (by simp)]
    cases known : files.current.lookup drive.slot with
    | none => rw [(dump_new known).1, Option.map_some]
    | some before =>
        obtain ⟨⟨now, current, same⟩, -⟩ := dump_known known
        rw [current, Option.map_some, same]
  · rw [(dumped_absent listed).1, h.current_settled, lookup_latestOf_absent listed]
    by_cases unknown : old slot = none
    · simp [unknown]
    · rw [if_pos ⟨(poll_absent changed listed).mpr unknown, rfl⟩]

theorem poll_previous {slot : ν} {earlier : Drive ν κ η}
    (found : (drives.foldl Files.dump files).previous.lookup slot = some earlier) :
    (if slot ∈ removed then old slot else (latestOf drives).lookup slot) =
      some earlier.serialNumber := by
  by_cases listed : slot ∈ drives.map Drive.slot
  · obtain ⟨drive, mem, rfl⟩ := List.mem_map.mp listed
    have present := lookup_latestOf_present distinct mem
    rw [(dumped_present distinct mem).2] at found
    rw [present]
    have current := h.current_settled drive.slot
    cases known : files.current.lookup drive.slot with
    | none =>
        rw [known, Option.map_none] at current
        rw [(dump_new known).2] at found
        rw [h.previous_settled found] at current
        cases current
    | some before =>
        rw [known, Option.map_some] at current
        have same := changed drive.slot
        rw [present, ← current] at same
        obtain ⟨-, kept | ⟨unchanged, kept⟩⟩ := dump_known known
        · cases kept.symm.trans found
          split
          · exact current.symm
          · rename_i unchanged
            have equal : earlier.serialNumber = drive.serialNumber := by
              simpa using (not_congr same).mp unchanged
            rw [equal]
        · rw [if_neg (by simp [same, unchanged])]
          rw [← h.previous_settled (kept.symm.trans found), ← current, unchanged]
  · rw [(dumped_absent listed).2] at found
    have known := h.previous_settled found
    rw [if_pos ((poll_absent changed listed).mpr (by simp [known]))]
    exact known

theorem poll_replaced {slot : ν} (mem : slot ∈ removed)
    (listed : (latestOf drives).lookup slot ≠ none) :
    (drives.foldl Files.dump files).previous.lookup slot ≠ none := by
  obtain ⟨drive, inside, rfl⟩ := List.mem_map.mp (show slot ∈ drives.map Drive.slot by
    by_contra unlisted
    exact listed (lookup_latestOf_absent unlisted))
  obtain ⟨known, different⟩ := (changed drive.slot).mp mem
  rw [lookup_latestOf_present distinct inside] at different
  rw [(dumped_present distinct inside).2]
  have current := h.current_settled drive.slot
  cases found : files.current.lookup drive.slot with
  | none => exact absurd (by rw [← current, found]; rfl) known
  | some before =>
      rw [found, Option.map_some] at current
      obtain ⟨-, kept | ⟨unchanged, -⟩⟩ := dump_known found
      · simp [kept]
      · exact absurd (current.symm.trans (congrArg some unchanged)) different

/-- A poll begins a round for the disks that are listed no longer. -/
theorem poll : Cached (drives.foldl Files.dump files) old (latestOf drives).lookup removed where
  current := poll_current h distinct changed
  previous _ _ := poll_previous h distinct changed
  replaced _ := poll_replaced h distinct changed
  slots := dumped_slots h.slots

end Poll

end Cached

end Lookups

section Runs

variable [DecidableEq ν] [DecidableEq κ] [DecidableEq η] {s t : State ν κ η}
  {a : Action ν κ η}

/-- No wait times out; the sensor is restarted only between two rounds; each poll has at
least one disk, and the first one after a restart has none in a slot without a file; when
a removed disk is alerted whose slot is empty, only the one file has it. -/
def Regular (s : State ν κ η) : Action ν κ η → Prop
  | .poll drives =>
    drives ≠ [] ∧ (drives.map Drive.slot).Nodup ∧
      (s.memcacheDisks.entries = [] → s.files.current.entries ≠ [] →
        ∀ drive ∈ drives, s.files.current.lookup drive.slot ≠ none)
  | .missing slot => s.latestDisks.lookup slot = none → s.files.previous.lookup slot = none
  | .timeOut => False
  | .restart => match s.stage with
    | .idle => True
    | _ => False
  | _ => True

/-- Each removal has had one acknowledged missing alert, and each insertion one
acknowledged insertion alert. -/
def Exact (s : State ν κ η) : Prop :=
  ∀ disk : ν × κ,
    s.acknowledged.count ⟨.missing, disk.1, disk.2⟩ = s.removals.count disk ∧
      s.acknowledged.count ⟨.insertion, disk.1, disk.2⟩ = s.insertions.count disk

/-- The disk of the last poll in each slot. -/
def shown (listed : Option (Slots ν κ)) (slot : ν) : Option κ :=
  listed.bind fun disks => disks.lookup slot

/-- One alert for the disk is still to come. -/
def owed (disks : ν → Option κ) (slots : Finset ν) (disk : ν × κ) : Nat :=
  if disks disk.1 = some disk.2 ∧ disk.1 ∈ slots then 1 else 0

/-- The alerts so far and those still to come, against the removals and insertions. -/
structure Tally (raised acknowledged : List (Alert ν κ)) (removals insertions : List (ν × κ))
    (old new : ν → Option κ) (unraised unacknowledged inserted : Finset ν) : Prop where
  missing : ∀ disk : ν × κ,
    raised.count ⟨.missing, disk.1, disk.2⟩ + owed old unraised disk = removals.count disk
  confirmed : ∀ disk : ν × κ, acknowledged.count ⟨.missing, disk.1, disk.2⟩ +
    owed old unacknowledged disk = removals.count disk
  insertion : ∀ disk : ν × κ,
    raised.count ⟨.insertion, disk.1, disk.2⟩ + owed new inserted disk = insertions.count disk
  unconfirmed : ∀ disk : ν × κ, acknowledged.count ⟨.insertion, disk.1, disk.2⟩ = 0

/-- Between two rounds. -/
structure Idle (s : State ν κ η) : Prop where
  outstanding : s.outstanding = []
  cached : Cached s.files (shown s.listed) (shown s.listed) ∅
  empty : s.memcacheDisks.entries = [] → s.latestDisks.entries = []
  known : s.memcacheDisks.entries ≠ [] →
    ∀ slot, s.memcacheDisks.lookup slot = shown s.listed slot ∧
      s.latestDisks.lookup slot = shown s.listed slot
  listed : ∀ disks, s.listed = some disks → ∃ slot, disks.lookup slot ≠ none
  tally : Tally s.raised s.acknowledged s.removals s.insertions (shown s.listed)
    (shown s.listed) ∅ ∅ ∅

/-- Within a round, with the removed disks whose file is still there. -/
structure Round (s : State ν κ η) (undeleted unraised unacknowledged inserted : Finset ν) :
    Prop where
  latest : ∀ slot, s.latestDisks.lookup slot = shown s.listed slot
  listed : ∃ disks, s.listed = some disks ∧ ∃ slot, disks.lookup slot ≠ none
  gone : ∀ slot ∈ undeleted, s.memcacheDisks.lookup slot ≠ none
  appeared : ∀ slot ∈ inserted, shown s.listed slot ≠ none
  cached : Cached s.files s.memcacheDisks.lookup (shown s.listed) undeleted
  tally : Tally s.raised s.acknowledged s.removals s.insertions s.memcacheDisks.lookup
    (shown s.listed) unraised unacknowledged inserted

/-- What is known at each stage. -/
def Staged (s : State ν κ η) : Prop :=
  match s.stage with
  | .idle => Idle s
  | .removing removed inserted =>
    Round s removed removed removed inserted ∧ s.outstanding = [] ∧ s.event = false
  | .waiting slot file removed inserted =>
    slot ∉ removed ∧ file = s.files.earlier slot ∧
      (shown s.listed slot = none → s.files.previous.lookup slot = none) ∧
      ((s.event = true ∧ s.outstanding = [] ∧
          Round s (insert slot removed) removed removed inserted) ∨
        s.event = false ∧ (∃ serialNumber, s.memcacheDisks.lookup slot = some serialNumber ∧
          s.outstanding = [⟨.missing, slot, serialNumber⟩]) ∧
        Round s (insert slot removed) removed (insert slot removed) inserted)
  | .inserting inserted => Round s ∅ ∅ ∅ inserted ∧ s.outstanding = []

structure Invariant (s : State ν κ η) : Prop where
  stray : s.stray = []
  staged : Staged s

omit [DecidableEq η] in
theorem count_departures (before after : Slots ν κ) (disk : ν × κ) :
    (departures before after).count disk =
      if before.lookup disk.1 = some disk.2 ∧ after.lookup disk.1 ≠ some disk.2 then 1 else 0 := by
  have distinct : (departures before after).Nodup := by
    refine List.Nodup.map ?_ (before.nodupKeys.nodup.filter _)
    rintro ⟨_, _⟩ ⟨_, _⟩ same
    cases same
    rfl
  have mem : disk ∈ departures before after ↔
      before.lookup disk.1 = some disk.2 ∧ after.lookup disk.1 ≠ some disk.2 := by
    have entry : before.lookup disk.1 = some disk.2 ↔ ⟨disk.1, disk.2⟩ ∈ before.entries :=
      AList.mem_lookup_iff
    rw [entry, departures, List.mem_map]
    constructor
    · rintro ⟨⟨slot, serialNumber⟩, inside, rfl⟩
      simpa using List.mem_filter.mp inside
    · intro inside
      exact ⟨⟨disk.1, disk.2⟩, by simpa using inside, rfl⟩
  rw [distinct.count]
  simp only [mem]

theorem owed_empty (disks : ν → Option κ) (disk : ν × κ) : owed disks ∅ disk = 0 := by
  simp [owed]

/-- The alert of one disk is raised or acknowledged. -/
theorem owed_insert {disks : ν → Option κ} {slots : Finset ν} {slot : ν} {serialNumber : κ}
    (new : slot ∉ slots) (known : disks slot = some serialNumber) (alerts : List (Alert ν κ))
    (alertType : FruAlert) (disk : ν × κ) :
    (alerts ++ [Alert.mk alertType slot serialNumber]).count ⟨alertType, disk.1, disk.2⟩ +
        owed disks slots disk =
      alerts.count ⟨alertType, disk.1, disk.2⟩ + owed disks (insert slot slots) disk := by
  rw [List.count_append, List.count_singleton, Nat.add_assoc]
  congr 1
  obtain ⟨g, number⟩ := disk
  by_cases own : g = slot
  · subst own
    by_cases same : number = serialNumber
    · subst same
      simp [owed, new, known]
    · simp [owed, new, known, Ne.symm same]
  · simp [owed, own, Ne.symm own]

/-- Alerts of another type do not count. -/
theorem count_other (alerts : List (Alert ν κ)) (first : Alert ν κ) {alertType : FruAlert}
    (other : first.alertType ≠ alertType) (slot : ν) (serialNumber : κ) :
    (alerts ++ [first]).count ⟨alertType, slot, serialNumber⟩ =
      alerts.count ⟨alertType, slot, serialNumber⟩ := by
  rw [List.count_append, List.count_singleton, if_neg, Nat.add_zero]
  simp only [beq_iff_eq]
  rintro rfl
  exact other rfl

omit [DecidableEq η] in
theorem mem_keys_iff {E : Type} {disks : Slots ν E} {slot : ν} :
    slot ∈ disks.keys.toFinset ↔ disks.lookup slot ≠ none := by
  rw [List.mem_toFinset, ← AList.mem_keys, Ne, AList.lookup_eq_none, not_not]

omit [DecidableEq η] in
theorem mem_removedDisks {memcache latest : Slots ν κ} {slot : ν} :
    slot ∈ removedDisks memcache latest ↔
      memcache.lookup slot ≠ none ∧ memcache.lookup slot ≠ latest.lookup slot := by
  simp only [removedDisks, replaced, Finset.mem_union, Finset.mem_sdiff, Finset.mem_filter,
    Finset.mem_inter, mem_keys_iff, not_not]
  constructor
  · rintro (⟨present, absent⟩ | ⟨⟨present, -⟩, different⟩)
    · exact ⟨present, absent ▸ present⟩
    · exact ⟨present, different⟩
  · rintro ⟨present, different⟩
    by_cases absent : latest.lookup slot = none
    · exact .inl ⟨present, absent⟩
    · exact .inr ⟨⟨present, absent⟩, different⟩

omit [DecidableEq η] in
theorem mem_insertedDisks {memcache latest : Slots ν κ} {slot : ν} :
    slot ∈ insertedDisks memcache latest ↔
      latest.lookup slot ≠ none ∧ memcache.lookup slot ≠ latest.lookup slot := by
  simp only [insertedDisks, replaced, Finset.mem_union, Finset.mem_sdiff, Finset.mem_filter,
    Finset.mem_inter, mem_keys_iff, not_not]
  constructor
  · rintro (⟨present, absent⟩ | ⟨⟨-, present⟩, different⟩)
    · exact ⟨present, absent.symm ▸ Ne.symm present⟩
    · exact ⟨present, different⟩
  · rintro ⟨present, different⟩
    by_cases absent : memcache.lookup slot = none
    · exact .inl ⟨present, absent⟩
    · exact .inr ⟨⟨absent, present⟩, different⟩

omit [DecidableEq κ] [DecidableEq η] in
theorem entries_eq_nil_iff {E : Type} {disks : Slots ν E} :
    disks.entries = [] ↔ ∀ slot, disks.lookup slot = none := by
  constructor
  · intro empty slot
    simp [AList.lookup, empty]
  · intro absent
    cases entries : disks.entries with
    | nil => rfl
    | cons first rest =>
        have present : disks.lookup first.1 = some first.2 :=
          AList.mem_lookup_iff.mpr (by simp [entries])
        cases (absent first.1).symm.trans present

omit [DecidableEq η] in
theorem Idle.listed_entries (h : Idle s) {disks : Slots ν κ} (listed : s.listed = some disks) :
    s.files.current.entries ≠ [] := by
  obtain ⟨slot, present⟩ := h.listed disks listed
  intro empty
  have current := h.cached.current_settled slot
  rw [entries_eq_nil_iff.mp empty slot, shown, listed] at current
  exact present current.symm

omit [DecidableEq η] in
/-- A round without differences is over at once. -/
theorem Round.idle (h : Round s ∅ ∅ ∅ ∅) (outstanding : s.outstanding = [])
    (same : ∀ slot, s.memcacheDisks.lookup slot = shown s.listed slot) : Idle s where
  outstanding := outstanding
  cached := h.cached.settled _
  empty empty := by
    rw [entries_eq_nil_iff] at empty ⊢
    intro slot
    rw [h.latest, ← same, empty]
  known _ slot := ⟨same slot, h.latest slot⟩
  listed disks listed := by
    obtain ⟨disks', listed', present⟩ := h.listed
    cases listed.symm.trans listed'
    exact present
  tally := by
    obtain ⟨missing, confirmed, insertion, unconfirmed⟩ := h.tally
    exact ⟨by simpa only [owed_empty] using missing, by simpa only [owed_empty] using confirmed,
      by simpa only [owed_empty] using insertion, unconfirmed⟩

omit [DecidableEq η] in
/-- The comparison begins a round, or there is nothing to do. -/
theorem Round.compare (stray : s.stray = []) (outstanding : s.outstanding = [])
    (stage : s.stage = .idle)
    (h : Round s (removedDisks s.memcacheDisks s.latestDisks)
      (removedDisks s.memcacheDisks s.latestDisks) (removedDisks s.memcacheDisks s.latestDisks)
      (insertedDisks s.memcacheDisks s.latestDisks)) : Invariant s.compare := by
  unfold State.compare
  split
  · rename_i empty
    obtain ⟨disks, listed, slot, present⟩ := h.listed
    have absent := h.latest slot
    rw [entries_eq_nil_iff.mp empty, shown, listed] at absent
    exact absurd absent.symm present
  · split
    · rename_i unchanged
      obtain ⟨removed, inserted⟩ := unchanged
      rw [removed, inserted] at h
      refine ⟨stray, ?_⟩
      simp only [Staged, stage]
      refine h.idle outstanding fun slot => ?_
      rw [← h.latest]
      by_contra different
      by_cases present : s.memcacheDisks.lookup slot = none
      · have mem : slot ∈ insertedDisks s.memcacheDisks s.latestDisks :=
          mem_insertedDisks.mpr ⟨fun absent => different (present.trans absent.symm), different⟩
        simp [inserted] at mem
      · have mem : slot ∈ removedDisks s.memcacheDisks s.latestDisks :=
          mem_removedDisks.mpr ⟨present, different⟩
        simp [removed] at mem
    · exact ⟨stray, ⟨h.latest, h.listed, h.gone, h.appeared, h.cached, h.tally⟩, outstanding, rfl⟩

omit [DecidableEq η] in
theorem removedDisks_congr {memcache memcache' latest : Slots ν κ}
    (same : ∀ slot, memcache.lookup slot = memcache'.lookup slot) :
    removedDisks memcache latest = removedDisks memcache' latest := by
  ext slot
  rw [mem_removedDisks, mem_removedDisks, same]

omit [DecidableEq η] in
theorem insertedDisks_congr {memcache memcache' latest : Slots ν κ}
    (same : ∀ slot, memcache.lookup slot = memcache'.lookup slot) :
    insertedDisks memcache latest = insertedDisks memcache' latest := by
  ext slot
  rw [mem_insertedDisks, mem_insertedDisks, same]

omit [DecidableEq η] in
theorem removedDisks_self {memcache latest : Slots ν κ}
    (same : ∀ slot, memcache.lookup slot = latest.lookup slot) :
    removedDisks memcache latest = ∅ := by
  ext slot
  simp [mem_removedDisks, same]

omit [DecidableEq η] in
theorem insertedDisks_self {memcache latest : Slots ν κ}
    (same : ∀ slot, memcache.lookup slot = latest.lookup slot) :
    insertedDisks memcache latest = ∅ := by
  ext slot
  simp [mem_insertedDisks, same]

omit [DecidableEq η] in
theorem compare_same (h : Idle s) : s.compare = s := by
  unfold State.compare
  by_cases empty : s.memcacheDisks.entries = []
  · rw [if_pos (h.empty empty)]
  · have same : ∀ slot, s.memcacheDisks.lookup slot = s.latestDisks.lookup slot :=
      fun slot => (h.known empty slot).1.trans (h.known empty slot).2.symm
    split
    · rfl
    · rw [if_pos ⟨removedDisks_self same, insertedDisks_self same⟩]

/-- After a poll the in-memory list is the list before it, or the polled one at the first
start. -/
theorem polled_memcacheDisks (h : Idle s) {drives : List (Drive ν κ η)}
    (regular : Regular s (.poll drives)) :
    ∃ old : Slots ν κ, (∀ slot, (s.polled drives).memcacheDisks.lookup slot = old.lookup slot) ∧
      Cached (s.polled drives).files old.lookup (latestOf drives).lookup
        (removedDisks old (latestOf drives)) ∧
      (s.listed = none ∧ old = latestOf drives ∨ s.listed = some old) := by
  obtain ⟨-, distinct, unlisted⟩ := regular
  simp only [State.polled, State.cached]
  have cached := h.cached
  cases listed : s.listed with
  | none =>
      have nothing : ∀ slot, shown s.listed slot = none := fun slot => by rw [listed]; rfl
      have empty : s.memcacheDisks.entries = [] := by
        by_contra nonempty
        refine nonempty (entries_eq_nil_iff.mpr fun slot => ?_)
        rw [(h.known nonempty slot).1, nothing]
      have polled := cached.poll distinct
        (show ∀ slot, slot ∈ (∅ : Finset ν) ↔ _ from fun slot => by simp [nothing])
      refine ⟨latestOf drives, fun slot => ?_, ?_, .inl ⟨rfl, rfl⟩⟩
      · rw [if_pos empty]
        split
        · rfl
        · simpa using polled.lookup_buildDiskCache slot
      · rw [removedDisks_self fun _ => rfl]
        exact polled.settled _
  | some before =>
      have same : shown s.listed = before.lookup := by rw [listed]; rfl
      rw [same] at cached
      have polled := cached.poll distinct fun slot =>
        (mem_removedDisks : slot ∈ removedDisks before (latestOf drives) ↔ _)
      obtain ⟨first, present⟩ := h.listed before listed
      refine ⟨before, fun slot => ?_, polled, .inr rfl⟩
      by_cases empty : s.memcacheDisks.entries = []
      · have rebuilt : ∀ slot, (buildDiskCache (drives.foldl Files.dump s.files)).lookup slot =
            before.lookup slot := by
          intro slot
          rw [polled.lookup_buildDiskCache]
          split
          · rfl
          · rename_i kept
            rw [mem_removedDisks, not_and, not_not] at kept
            by_cases absent : before.lookup slot = none
            · rw [absent]
              by_contra shown
              obtain ⟨drive, mem, rfl⟩ := List.mem_map.mp
                (show slot ∈ drives.map Drive.slot by
                  by_contra missing
                  exact shown (lookup_latestOf_absent missing))
              refine unlisted empty (h.listed_entries listed) drive mem ?_
              have current := cached.current_settled drive.slot
              rwa [absent, Option.map_eq_none_iff] at current
            · exact (kept absent).symm
        rw [if_pos empty, if_neg, rebuilt]
        intro nothing
        exact present ((rebuilt first).symm.trans (entries_eq_nil_iff.mp nothing first))
      · rw [if_neg empty, if_neg empty, (h.known empty slot).1, same]

/-- The disks that have gone since the last poll are those to be told of. -/
theorem count_removals_polled {drives : List (Drive ν κ η)} {old : Slots ν κ}
    (memcache : ∀ slot, (s.polled drives).memcacheDisks.lookup slot = old.lookup slot)
    (first : s.listed = none ∧ old = latestOf drives ∨ s.listed = some old) (disk : ν × κ) :
    (s.polled drives).removals.count disk = s.removals.count disk +
      owed (s.polled drives).memcacheDisks.lookup (removedDisks old (latestOf drives)) disk := by
  rw [funext memcache]
  obtain ⟨listed, rfl⟩ | listed := first
  · simp [State.polled, listed, removedDisks_self, owed_empty]
  · simp only [State.polled, listed, Option.elim_some, List.count_append, count_departures, owed]
    congr 2
    rw [mem_removedDisks, eq_iff_iff]
    refine and_congr_right fun known => ?_
    rw [known]
    simp
    simp [eq_comm]

theorem count_insertions_polled {drives : List (Drive ν κ η)} {old : Slots ν κ}
    (memcache : ∀ slot, (s.polled drives).memcacheDisks.lookup slot = old.lookup slot)
    (first : s.listed = none ∧ old = latestOf drives ∨ s.listed = some old) (disk : ν × κ) :
    (s.polled drives).insertions.count disk = s.insertions.count disk +
      owed (latestOf drives).lookup
        (insertedDisks (s.polled drives).memcacheDisks (latestOf drives)) disk := by
  rw [insertedDisks_congr memcache]
  obtain ⟨listed, rfl⟩ | listed := first
  · simp [State.polled, listed, insertedDisks_self, owed_empty]
  · simp only [State.polled, listed, Option.elim_some, List.count_append, count_departures, owed]
    congr 2
    rw [mem_insertedDisks, eq_iff_iff]
    refine and_congr_right fun known => ?_
    rw [known]
    simp

theorem polled_round (h : Idle s) {drives : List (Drive ν κ η)}
    (regular : Regular s (.poll drives)) :
    Round (s.polled drives)
      (removedDisks (s.polled drives).memcacheDisks (latestOf drives))
      (removedDisks (s.polled drives).memcacheDisks (latestOf drives))
      (removedDisks (s.polled drives).memcacheDisks (latestOf drives))
      (insertedDisks (s.polled drives).memcacheDisks (latestOf drives)) := by
  obtain ⟨old, memcache, cached, first⟩ := polled_memcacheDisks h regular
  have removed : removedDisks _ (latestOf drives) = removedDisks old (latestOf drives) :=
    removedDisks_congr memcache
  obtain ⟨missing, confirmed, insertion, unconfirmed⟩ := h.tally
  simp only [owed_empty, Nat.add_zero] at missing confirmed insertion
  have departed := count_removals_polled memcache first
  have arrived := count_insertions_polled memcache first
  refine ⟨fun _ => rfl, ⟨latestOf drives, rfl, ?_⟩, fun slot mem => (mem_removedDisks.mp mem).1,
    fun slot mem => (mem_insertedDisks.mp mem).1, ?_, ?_⟩
  · obtain ⟨nonempty, distinct, -⟩ := regular
    obtain ⟨drive, mem⟩ := List.exists_mem_of_ne_nil drives nonempty
    exact ⟨drive.slot, by simp [lookup_latestOf_present distinct mem]⟩
  · rw [removed, funext memcache]
    exact cached
  · rw [removed]
    refine ⟨fun disk => ?_, fun disk => ?_, fun disk => ?_, unconfirmed⟩
    · rw [departed, ← missing]
      rfl
    · rw [departed, ← confirmed]
      rfl
    · rw [arrived, ← insertion]
      rfl

section Tally

variable {raised acknowledged : List (Alert ν κ)} {removals insertions : List (ν × κ)}
  {old new : ν → Option κ} {unraised unacknowledged inserted slots : Finset ν} {slot : ν}
  {serialNumber : κ}

omit [DecidableEq η]

/-- The missing alert of a disk is raised. -/
theorem Tally.raiseMissing (h : Tally raised acknowledged removals insertions old new
      (insert slot slots) unacknowledged inserted)
    (rest : slot ∉ slots) (known : old slot = some serialNumber) :
    Tally (raised ++ [⟨.missing, slot, serialNumber⟩]) acknowledged removals insertions old new
      slots unacknowledged inserted := by
  refine ⟨fun disk => ?_, h.confirmed, fun disk => ?_, h.unconfirmed⟩
  · rw [owed_insert rest known]
    exact h.missing disk
  · rw [count_other raised ⟨.missing, slot, serialNumber⟩
      (show FruAlert.missing ≠ .insertion by decide)]
    exact h.insertion disk

/-- The missing alert of a disk is acknowledged. -/
theorem Tally.confirmMissing (h : Tally raised acknowledged removals insertions old new unraised
      (insert slot slots) inserted)
    (rest : slot ∉ slots) (known : old slot = some serialNumber) :
    Tally raised (acknowledged ++ [⟨.missing, slot, serialNumber⟩]) removals insertions old new
      unraised slots inserted := by
  refine ⟨h.missing, fun disk => ?_, h.insertion, fun disk => ?_⟩
  · rw [owed_insert rest known]
    exact h.confirmed disk
  · rw [count_other acknowledged ⟨.missing, slot, serialNumber⟩
      (show FruAlert.missing ≠ .insertion by decide)]
    exact h.unconfirmed disk

/-- The insertion alert of a disk is raised. -/
theorem Tally.raiseInsertion (h : Tally raised acknowledged removals insertions old new unraised
      unacknowledged (insert slot slots))
    (rest : slot ∉ slots) (known : new slot = some serialNumber) :
    Tally (raised ++ [⟨.insertion, slot, serialNumber⟩]) acknowledged removals insertions old new
      unraised unacknowledged slots := by
  refine ⟨fun disk => ?_, h.confirmed, fun disk => ?_, h.unconfirmed⟩
  · rw [count_other raised ⟨.insertion, slot, serialNumber⟩
      (show FruAlert.insertion ≠ .missing by decide)]
    exact h.missing disk
  · rw [owed_insert rest known]
    exact h.insertion disk

/-- With no alert to come it does not matter which disks were there before. -/
theorem Tally.settle (h : Tally raised acknowledged removals insertions old new ∅ ∅ ∅)
    (earlier : ν → Option κ) :
    Tally raised acknowledged removals insertions earlier new ∅ ∅ ∅ := by
  refine ⟨fun disk => ?_, fun disk => ?_, h.insertion, h.unconfirmed⟩
  · have missing := h.missing disk
    rwa [owed_empty] at missing ⊢
  · have confirmed := h.confirmed disk
    rwa [owed_empty] at confirmed ⊢

end Tally

theorem Invariant.missing {slot : ν} (h : Invariant s) (regular : Regular s (.missing slot))
    (step : s.next (.missing slot) = some t) : Invariant t := by
  obtain ⟨stray, staged⟩ := h
  unfold Staged at staged
  simp only [State.next] at step
  split at step
  · rename_i removed inserted stage
    simp only [stage] at staged
    obtain ⟨round, outstanding, event⟩ := staged
    split at step
    · rename_i mem
      obtain ⟨serialNumber, known⟩ := Option.ne_none_iff_exists'.mp (round.gone slot mem)
      obtain ⟨info, found, rfl, rfl⟩ := round.cached.info mem known
      have whole := Finset.insert_erase mem
      have rest := Finset.notMem_erase info.slot removed
      simp only [found, Option.some.injEq] at step
      subst step
      have tally : Tally s.raised s.acknowledged s.removals s.insertions _ _
          (insert info.slot (removed.erase info.slot)) _ inserted := whole.symm ▸ round.tally
      have raised := tally.raiseMissing rest known
      refine ⟨stray, rest, rfl, fun vacated => regular ((round.latest _).trans vacated),
        .inr ⟨event, ⟨info.serialNumber, known, by simp [outstanding]⟩, ?_⟩⟩
      rw [whole] at raised ⊢
      exact ⟨round.latest, round.listed, round.gone, round.appeared, round.cached, raised⟩
    · cases step
  · cases step

/-- Only the alert that is waited for can be acknowledged. -/
theorem Invariant.acknowledge {alert : Alert ν κ} (h : Invariant s)
    (step : s.next (.acknowledge alert) = some t) : Invariant t := by
  obtain ⟨stray, staged⟩ := h
  unfold Staged at staged
  simp only [State.next] at step
  split at step
  · rename_i mem
    cases step
    cases stage : s.stage with
    | idle =>
        simp only [stage] at staged
        simp [staged.outstanding] at mem
    | removing removed inserted =>
        simp only [stage] at staged
        simp [staged.2.1] at mem
    | inserting inserted =>
        simp only [stage] at staged
        simp [staged.2] at mem
    | waiting slot file removed inserted =>
        simp only [stage] at staged
        obtain ⟨rest, earlier, single, ⟨-, outstanding, -⟩ |
          ⟨event, ⟨serialNumber, known, outstanding⟩, round⟩⟩ := staged
        · simp [outstanding] at mem
        · simp only [outstanding, List.mem_singleton] at mem
          subst mem
          refine ⟨stray, ?_⟩
          simp only [Staged]
          exact ⟨rest, earlier, single, .inl ⟨trivial, by simp [outstanding], round.latest,
            round.listed, round.gone, round.appeared, round.cached,
            round.tally.confirmMissing rest known⟩⟩
  · split at step
    · rename_i mem
      simp [stray] at mem
    · cases step

theorem Invariant.wake (h : Invariant s) (step : s.next .wake = some t) : Invariant t := by
  obtain ⟨stray, staged⟩ := h
  unfold Staged at staged
  simp only [State.next] at step
  split at step
  · rename_i slot file removed inserted stage
    simp only [stage] at staged
    obtain ⟨rest, rfl, single, ⟨-, outstanding, round⟩ | ⟨event, -⟩⟩ := staged
    · split at step
      · cases step
        have deleted := round.cached.delete single (Finset.mem_insert_self slot removed)
        rw [Finset.erase_insert rest] at deleted
        exact ⟨stray, ⟨round.latest, round.listed,
          fun g mem => round.gone g (Finset.mem_insert_of_mem mem), round.appeared, deleted,
          round.tally⟩, outstanding, rfl⟩
      · cases step
    · simp [event] at step
  · cases step

theorem Invariant.insertion {slot : ν} (h : Invariant s)
    (step : s.next (.insertion slot) = some t) : Invariant t := by
  obtain ⟨stray, staged⟩ := h
  unfold Staged at staged
  simp only [State.next] at step
  split at step
  · rename_i inserted stage
    simp only [stage] at staged
    obtain ⟨round, outstanding⟩ := staged
    split at step
    · rename_i mem
      have current := round.cached.current_settled slot
      split at step
      · rename_i info found
        cases step
        have same := round.cached.slots slot .current info found
        subst same
        rw [found, Option.map_some] at current
        have tally := round.tally
        rw [← Finset.insert_erase mem] at tally
        exact ⟨stray, ⟨round.latest, round.listed, round.gone,
          fun g inside => round.appeared g (Finset.mem_of_mem_erase inside), round.cached,
          tally.raiseInsertion (Finset.notMem_erase info.slot inserted) current.symm⟩,
          outstanding⟩
      · rename_i found
        rw [found, Option.map_none] at current
        exact absurd current.symm (round.appeared slot mem)
    · cases step
  · cases step

theorem Invariant.finish (h : Invariant s) (step : s.next .finish = some t) : Invariant t := by
  obtain ⟨stray, staged⟩ := h
  unfold Staged at staged
  simp only [State.next] at step
  split at step
  · rename_i inserted stage
    simp only [stage] at staged
    obtain ⟨round, outstanding⟩ := staged
    split at step
    · rename_i done
      cases step
      subst done
      have after : Round { s with stage := .idle, memcacheDisks := s.latestDisks } ∅ ∅ ∅ ∅ :=
        ⟨round.latest, round.listed, by simp, by simp, round.cached.settled _,
          round.tally.settle _⟩
      exact ⟨stray, after.idle outstanding round.latest⟩
    · cases step
  · cases step

theorem Invariant.step (h : Invariant s) (regular : Regular s a) (step : s.next a = some t) :
    Invariant t := by
  cases a with
  | missing slot => exact h.missing regular step
  | acknowledge alert => exact h.acknowledge step
  | wake => exact h.wake step
  | timeOut => exact regular.elim
  | insertion slot => exact h.insertion step
  | finish => exact h.finish step
  | poll drives =>
      obtain ⟨stray, staged⟩ := h
      simp only [State.next] at step
      split at step
      · rename_i stage
        cases step
        simp only [Staged, stage] at staged
        exact (polled_round staged regular).compare stray staged.outstanding stage
      · cases step
  | pollFailed =>
      obtain ⟨stray, staged⟩ := h
      simp only [State.next] at step
      split at step
      · rename_i stage
        cases step
        simp only [Staged, stage] at staged
        rw [compare_same staged]
        exact ⟨stray, by simpa only [Staged, stage] using staged⟩
      · cases step
  | startInserting =>
      obtain ⟨stray, staged⟩ := h
      simp only [State.next] at step
      split at step
      · rename_i removed inserted stage
        simp only [Staged, stage] at staged
        obtain ⟨round, outstanding, -⟩ := staged
        split at step
        · rename_i done
          cases step
          subst done
          exact ⟨by simp [stray, outstanding], ⟨round.latest, round.listed, round.gone,
            round.appeared, round.cached, round.tally⟩, rfl⟩
        · cases step
      · cases step
  | restart =>
      obtain ⟨stray, staged⟩ := h
      simp only [State.next, Option.some.injEq] at step
      cases stage : s.stage with
      | idle =>
          simp only [Staged, stage] at staged
          subst step
          exact ⟨by simp [stray, staged.outstanding], rfl, staged.cached, fun _ => rfl,
            fun nonempty => absurd rfl nonempty, staged.listed, staged.tally⟩
      | _ => simp [Regular, stage] at regular

omit [DecidableEq η] in
theorem start_invariant : Invariant (start : State ν κ η) where
  stray := rfl
  staged :=
    { outstanding := rfl
      cached := ⟨by simp [start, shown], by simp [start], by simp, by
        intro slot file drive found
        cases file <;> simp [start, Files.get] at found⟩
      empty := fun _ => rfl
      known := fun nonempty => absurd rfl nonempty
      listed := by simp [start]
      tally := ⟨by simp [start, owed], by simp [start, owed], by simp [start, owed],
        by simp [start]⟩ }

/-- In a regular run each removal has had one missing alert between two rounds, and it was
acknowledged; each insertion has had one insertion alert, which is never acknowledged. -/
theorem disk_alerts_exact {actions : List (Action ν κ η)}
    (run : system.Runs Regular start actions s) (idle : s.stage = .idle) :
    (∀ disk : ν × κ,
      s.raised.count ⟨.missing, disk.1, disk.2⟩ = s.removals.count disk ∧
        s.acknowledged.count ⟨.missing, disk.1, disk.2⟩ = s.removals.count disk ∧
        s.raised.count ⟨.insertion, disk.1, disk.2⟩ = s.insertions.count disk) ∧
      (Exact s ↔ s.insertions = []) := by
  have staged := (run.invariant (fun _ _ _ known regular step => known.step regular step)
    start_invariant).staged
  simp only [Staged, idle] at staged
  obtain ⟨missing, confirmed, insertion, unconfirmed⟩ := staged.tally
  simp only [owed_empty, Nat.add_zero] at missing confirmed insertion
  refine ⟨fun disk => ⟨missing disk, confirmed disk, insertion disk⟩, fun exact => ?_,
    fun none disk => ⟨confirmed disk, ?_⟩⟩
  · refine List.eq_nil_iff_forall_not_mem.mpr fun disk mem => ?_
    have acknowledged := (exact disk).2
    rw [unconfirmed] at acknowledged
    exact absurd mem (List.count_eq_zero.mp acknowledged.symm)
  · rw [unconfirmed, none]
    rfl

end Runs

namespace Example

/-- The first disk stays, and the second one has the given health. -/
def both (healthy : Bool) : List (Drive Nat Nat Bool) := [⟨0, 100, true⟩, ⟨1, 101, healthy⟩]

def single : List (Drive Nat Nat Bool) := [⟨0, 100, true⟩]

def message : Alert Nat Nat := ⟨.missing, 1, 101⟩

/-- The second disk is removed, which is acknowledged, and the sensor is restarted. -/
def removal : List (Action Nat Nat Bool) :=
  [.poll (both true), .poll single, .missing 1, .acknowledge message, .wake, .startInserting,
    .finish, .restart, .poll single]

/-- The second disk is removed, and its alert is acknowledged. -/
theorem disk_alerts_exact_removal :
    ∃ s : State Nat Nat Bool, s.removals = [(1, 101)] ∧ s.acknowledged = [message] ∧ Exact s := by
  have run : ∃ s : State Nat Nat Bool, system.Runs Regular start removal s ∧ s.stage = .idle ∧
      s.removals = [(1, 101)] ∧ s.acknowledged = [message] ∧ s.insertions = [] :=
    ⟨_, .cons ⟨by decide, by decide, fun _ nonempty => absurd rfl nonempty⟩ rfl <|
      .cons ⟨by decide, by decide, fun empty => absurd empty (by decide)⟩ rfl <|
      .cons (fun _ => rfl) rfl <| .cons trivial rfl <| .cons trivial rfl <| .cons trivial rfl <|
      .cons trivial rfl <| .cons trivial rfl <|
      .cons ⟨by decide, by decide, fun _ _ => by decide⟩ rfl <|
      .nil _, rfl, by decide, rfl, by decide⟩
  obtain ⟨s, run, idle, removals, acknowledged, insertions⟩ := run
  exact ⟨s, removals, acknowledged, (disk_alerts_exact run idle).2.mpr insertions⟩

/-- The wait for the alert times out, and the next poll finds nothing to do. -/
def forgotten : List (Action Nat Nat Bool) :=
  [.poll (both true), .poll single, .missing 1, .timeOut, .startInserting, .finish, .poll single]

/-- The health of the second disk changes before it is removed. -/
def repeated : List (Action Nat Nat Bool) :=
  [.poll (both true), .poll (both false), .poll single, .missing 1, .acknowledge message, .wake,
    .startInserting, .finish, .restart, .poll single, .missing 1, .acknowledge message, .wake,
    .startInserting, .finish]

theorem forgotten_run : ∃ s : State Nat Nat Bool, system.FreeRuns start forgotten s ∧
    s.stage = .idle ∧ s.removals = [(1, 101)] ∧ s.raised = [message] ∧ s.acknowledged = [] :=
  ⟨_, (Transition.System.run_eq_some_iff _).mp rfl, rfl, by decide, rfl, rfl⟩

theorem repeated_run : ∃ s : State Nat Nat Bool, system.FreeRuns start repeated s ∧
    s.stage = .idle ∧ s.removals = [(1, 101)] ∧ s.acknowledged = [message, message] :=
  ⟨_, (Transition.System.run_eq_some_iff _).mp rfl, rfl, by decide, rfl⟩

/-- A removal has no acknowledged alert in one run, and two in another one. -/
theorem disk_alerts_inexact :
    (¬ ∀ s : State Nat Nat Bool, system.FreeRuns start forgotten s → s.stage = .idle → Exact s) ∧
      ¬ ∀ s : State Nat Nat Bool, system.FreeRuns start repeated s → s.stage = .idle → Exact s := by
  constructor
  · intro exact
    obtain ⟨s, run, idle, removals, -, acknowledged⟩ := forgotten_run
    have counts := (exact s run idle (1, 101)).1
    rw [removals, acknowledged] at counts
    exact absurd counts (by decide)
  · intro exact
    obtain ⟨s, run, idle, removals, acknowledged⟩ := repeated_run
    have counts := (exact s run idle (1, 101)).1
    rw [removals, acknowledged] at counts
    exact absurd counts (by decide)

end Example

end Presence

end Realstor

end Sspl

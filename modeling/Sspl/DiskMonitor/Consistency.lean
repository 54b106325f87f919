import Sspl.DiskMonitor.Tables

/-!
# Consistency of the tables over runs

The tables are consistent after the start of `run`, and a signal keeps them so except where
it adds a drive of an enclosure, or a drive whose block device is not known.
-/

namespace Sspl

namespace DiskMonitor

open Iem (Text)

/-- The paths from which the drive has been removed and to which none has been added since. -/
def gone : Action → List Text → List Text
  | .added path interfaces, paths =>
    if (interfaces.drive.filter isPhysicalDrive).isSome then paths.filter (· ≠ path) else paths
  | .removed path interfaces, paths => if .drive ∈ interfaces then path :: paths else paths
  | _, paths => paths

/-- DiskMonitor with the paths that no drive is left at. -/
def tables : Transition.System (State × List Text) (Action × Outside) where
  init x := x.2 = [] ∧ ∃ smartSupported runSmartOnStart stored o,
    (startUp o).run (initialState smartSupported runSmartOnStart stored) = (.ok ⟨⟩, x.1)
  next x a := (next x.1 a).map fun t => (t, gone a.1 x.2)

/-- The two tables of drives have the same paths, each of which is known to be a drive of the
server or of an enclosure, and none that was removed. -/
structure Consistent (x : State × List Text) : Prop where
  keys : ∀ path, path ∈ x.1.drives.keys ↔ path ∈ x.1.existingDrive.keys
  nodeDisk : ∀ path ∈ x.1.existingDrive.keys, ∃ onNode, nodeDisk x.1 path = .ok onNode
  gone : ∀ path ∈ x.2, path ∉ x.1.drives.keys ∧ path ∉ x.1.existingDrive.keys

/-- The loop gets to the interface of the drive; a job that is not known ends it. -/
def reached : Bool → List Removed → Bool
  | _, [] => false
  | _, .drive :: _ => true
  | known, .job :: rest => known && reached false rest
  | known, .other :: rest => reached known rest

def jobKnown (s : State) (path : Text) : Bool := (s.smartJobs.get? path).join.isSome

/-- The drive has a serial number, or a link to take one from. -/
def Named (s : State) (path : Text) (drive : UdiskDrive) : Prop :=
  drive.serial = [] → (s.driveById.get? path).isSome = true

/-- A drive that is added and has a serial number is local. The interface of a drive is not
removed after that of a job that is not known. -/
def Meets (x : State × List Text) (a : Action × Outside) : Prop :=
  match a.1 with
  | .added path interfaces => ∀ drive, interfaces.drive.filter isPhysicalDrive = some drive →
    Named (updateByIdPaths a.2 x.1) path drive → Local a.2 (updateByIdPaths a.2 x.1) path
  | .removed path interfaces => .drive ∈ interfaces → path ∈ x.1.drives.keys →
    reached (jobKnown x.1 path) interfaces = true
  | _ => True

/-- The path is in neither table, or in both with what is known of it. -/
def Agrees (entry : Option (Option Bool) × Bool) : Prop :=
  entry = (none, false) ∨ ∃ onNode, entry = (some (some onNode), true)

/-- The entries agree, and there are none for these paths. -/
def Fits (shapes : Text → Option (Option Bool) × Bool) (paths : List Text) : Prop :=
  (∀ path, Agrees (shapes path)) ∧ ∀ path ∈ paths, shapes path = (none, false)

section

variable {o : Outside} {s t : State} {x y : State × List Text} {path : Text}

theorem mem_drives_keys : path ∈ s.drives.keys ↔ (shape s path).1 ≠ none := by
  rw [Dict.mem_keys, shape]
  cases s.drives.get? path <;> simp

theorem mem_existing_keys : path ∈ s.existingDrive.keys ↔ (shape s path).2 = true := by
  rw [Dict.mem_keys, shape, Option.isSome_iff_exists]

theorem nodeDisk_ok : (∃ onNode, nodeDisk s path = .ok onNode) ↔
    ∃ onNode, (shape s path).1 = some (some onNode) := by
  rw [nodeDisk, shape, item]
  cases s.drives.get? path with
  | none => simp [keyError, bind, Except.bind]
  | some e => cases known : e.nodeDisk <;> simp [keyError, bind, Except.bind, known]

theorem agrees_iff {entry : Option (Option Bool) × Bool} : Agrees entry ↔
    (entry.1 ≠ none ↔ entry.2 = true) ∧
      (entry.2 = true → ∃ onNode, entry.1 = some (some onNode)) := by
  obtain ⟨first, second⟩ := entry
  cases second with
  | false => simp [Agrees]
  | true =>
      simp only [Agrees, Prod.mk.injEq, and_true, iff_true, true_implies]
      constructor
      · rintro (⟨-, no⟩ | known)
        · cases no
        · obtain ⟨onNode, rfl⟩ := known
          exact ⟨nofun, onNode, rfl⟩
      · exact fun known => .inr known.2

theorem consistent_iff_fits : Consistent x ↔ Fits (shape x.1) x.2 := by
  have absent (path : Text) : shape x.1 path = (none, false) ↔
      ¬ (shape x.1 path).1 ≠ none ∧ ¬ (shape x.1 path).2 = true := by
    rw [not_ne_iff, Bool.not_eq_true, Prod.ext_iff]
  simp only [Fits, agrees_iff, absent]
  constructor
  · rintro ⟨keys, known, gone⟩
    simp only [mem_drives_keys, mem_existing_keys, nodeDisk_ok] at keys known gone
    exact ⟨fun path => ⟨keys path, known path⟩, gone⟩
  · rintro ⟨agrees, gone⟩
    refine ⟨?_, ?_, ?_⟩ <;> simp only [mem_drives_keys, mem_existing_keys, nodeDisk_ok]
    · exact fun path => (agrees path).1
    · exact fun path => (agrees path).2
    · exact gone

section Fits

variable {shapes shapes' : Text → Option (Option Bool) × Bool} {paths : List Text}

theorem Fits.congr (same : ∀ m, shapes' m = shapes m) : Fits shapes' paths ↔ Fits shapes paths := by
  rw [funext same]

theorem Fits.insert (h : Fits shapes paths) :
    Fits (fun m => if m = path then (some (some true), true) else shapes m)
      (paths.filter (· ≠ path)) := by
  constructor
  · intro m
    dsimp only
    split
    · exact .inr ⟨true, rfl⟩
    · exact h.1 m
  · intro m mem
    obtain ⟨mem, other⟩ := List.mem_filter.mp mem
    dsimp only
    rw [if_neg (of_decide_eq_true other)]
    exact h.2 m mem

theorem not_fits_half {present : Bool} :
    ¬ Fits (fun m => if m = path then (some none, present) else shapes m) paths := by
  intro h
  have entry := h.1 path
  dsimp only at entry
  rw [if_pos rfl] at entry
  obtain half | ⟨onNode, half⟩ := entry <;> cases half

theorem Fits.filter (h : Fits shapes paths) (keep : Text → Bool) :
    Fits shapes (paths.filter keep) :=
  ⟨h.1, fun m mem => h.2 m (List.mem_filter.mp mem).1⟩

theorem Fits.cons_iff (h : Fits shapes paths) :
    Fits shapes (path :: paths) ↔ shapes path = (none, false) := by
  constructor
  · exact fun fits => fits.2 path List.mem_cons_self
  · intro absent
    refine ⟨h.1, fun m mem => ?_⟩
    obtain rfl | mem := List.mem_cons.mp mem
    · exact absent
    · exact h.2 m mem

theorem Fits.remove (h : Fits shapes paths) {c : Prop} [Decidable c] :
    Fits (fun m => if m = path ∧ c then (none, false) else shapes m) paths := by
  constructor
  · intro m
    dsimp only
    split
    · exact .inl rfl
    · exact h.1 m
  · intro m mem
    dsimp only
    split
    · rfl
    · exact h.2 m mem

end Fits

end

section Signals

variable {o : Outside} {s t : State} {path : Text} {shapes : Text → Option (Option Bool) × Bool}

/-- What is raised in a block is swallowed. -/
theorem swallow_run (block : Step) (s : State) :
    (tryCatch block fun _ => return ⟨⟩).run s = (.ok ⟨⟩, (block.run s).2) := by
  cases ended : block.run s with
  | mk result t =>
      cases result with
      | ok value => exact Try.run_tryCatch_of_ok ended
      | error err => exact Try.run_tryCatch_of_error ended

theorem answerUuids_objects (serialNumber response : Text) (uuids : List Text) (s : State) :
    SameObjects s (answerUuids serialNumber response uuids s) := by
  induction uuids generalizing s with
  | nil => exact refl s
  | cons uuid rest ih =>
      rw [answerUuids]
      split
      · obtain ⟨jobs, objects, links, names⟩ := ih { s with
          sent := s.sent ++ [ack (smartTest serialNumber) response uuid]
          smartUuids := s.smartUuids.set uuid none }
        exact ⟨jobs, objects, links, names⟩
      · exact ih s

theorem objects_finishDrive (o : Outside) (path : Text) (interfaces : Interfaces) :
    Try.Keeps SameObjects (finishDrive o path interfaces) := by
  refine .bind (.ofExcept _) fun drive => .bind (.ofExcept _) fun status => .bind .get fun s => ?_
  refine .bind (.modify fun _ => ⟨rfl, rfl, rfl, rfl⟩) fun _ => ?_
  exact .bind ((quiet_processSmartStatus o path _ _).mono fun _ _ => Quiet.toSameObjects) fun _ =>
    .modify fun _ => answerUuids_objects _ _ _ _

theorem objects_finishEach (o : Outside) (job : Job) (objects : List (Text × Interfaces)) :
    Try.Keeps SameObjects (finishEach o job objects) := by
  induction objects with
  | nil => exact .pure _
  | cons object rest ih =>
      exact .ite (fun _ => .bind (objects_finishDrive o _ _) fun _ => ih) fun _ => ih

/-- Where the drive is in the tables as it should be, it is in neither afterwards if the loop
gets to its interface, and as before otherwise. -/
theorem leads_interfaceRemoved (o : Outside) (interfaces : List Removed)
    (agrees : Agrees (shape s path)) : (interfaceRemoved o path interfaces).Leads shape s fun m =>
      if m = path ∧ reached (jobKnown s path) interfaces = true then (none, false)
      else shape s m := by
  induction interfaces generalizing s with
  | nil => exact Try.leads_pure.mpr (funext fun m => by simp [reached])
  | cons interface rest ih =>
      cases interface with
      | drive =>
          have removed : (removeDrive o path).Leads shape s fun m =>
              if m = path then (none, false) else shape s m := by
            obtain absent | ⟨onNode, known⟩ := agrees
            · refine (leads_removeDrive_absent (by rw [absent])).trans (funext fun m => ?_)
              split
              · rw [‹m = path›, absent]
              · rfl
            · exact leads_removeDrive known
          rw [interfaceRemoved, Try.leads_bind_of_ok (swallow_run _ s)]
          unfold Try.Leads at removed
          have after := ih (s := ((removeDrive o path).run s).2) (.inl (by simp [removed]))
          refine after.trans (funext fun m => ?_)
          rw [removed]
          by_cases here : m = path <;> simp [here, reached]
      | job =>
          rw [interfaceRemoved, Try.leads_get]
          cases saved : (s.smartJobs.get? path).join with
          | none => exact funext fun m => by simp [reached, jobKnown, saved]
          | some job =>
              dsimp only
              rw [Try.leads_modify, Try.leads_bind_of_ok (swallow_run _ _)]
              generalize start : ({ s with smartJobs := s.smartJobs.set path none } : State) = u
              have finished : (finishEach o job s.diskObjects.items).Leads shape u (shape s) := by
                subst start
                exact .of_keeps (keeps_finishEach o job _) rfl
              unfold Try.Leads at finished
              have forgotten_ : jobKnown ((finishEach o job s.diskObjects.items).run u).2 path =
                  false := by
                have same := Try.leaves_iff.mp (objects_finishEach o job s.diskObjects.items u)
                rw [jobKnown, same.smartJobs, ← start]
                simp
              refine (ih (by rwa [finished])).trans (funext fun m => ?_)
              rw [forgotten_, finished]
              simp [reached, jobKnown, saved]
      | other => exact ih agrees

theorem addedSerial_ok {drive : UdiskDrive} :
    (∃ serial, addedSerial s path drive = .ok serial) ↔ Named s path drive := by
  rw [addedSerial, item, Named]
  by_cases empty : drive.serial = []
  · cases s.driveById.get? path <;> simp [empty, keyError, bind, Except.bind, pure, Except.pure]
  · simp [empty, pure, Except.pure]

theorem leads_addDrive {drive : UdiskDrive} (named : Named (updateByIdPaths o s) path drive) :
    ∃ serial, (addDrive o path drive).Leads shape s shapes ↔
      (insertDrive o path { drive with serial := serial }).Leads shape (updateByIdPaths o s)
        shapes := by
  obtain ⟨serial, found⟩ := addedSerial_ok.mpr named
  refine ⟨serial, ?_⟩
  rw [addDrive, Try.leads_modify, Try.leads_get, found]
  exact Iff.rfl

/-- The drive belongs to the server: it is in both tables. -/
theorem leads_addDrive_local {drive : UdiskDrive}
    (named : Named (updateByIdPaths o s) path drive) (here : Local o (updateByIdPaths o s) path) :
    (addDrive o path drive).Leads shape s fun m =>
      if m = path then (some (some true), true) else shape s m := by
  obtain ⟨serial, same⟩ := leads_addDrive named
  have left : shape (updateByIdPaths o s) = shape s := (updateByIdPaths_refreshed o s).sameTables
  rw [same, ← left]
  exact leads_insertDrive_local here _

theorem leads_addDrive_other {drive : UdiskDrive}
    (named : Named (updateByIdPaths o s) path drive)
    (other : ¬ Local o (updateByIdPaths o s) path) :
    (addDrive o path drive).Leads shape s fun m =>
      if m = path then (some none, (shape s path).2) else shape s m := by
  obtain ⟨serial, same⟩ := leads_addDrive named
  have left : shape (updateByIdPaths o s) = shape s := (updateByIdPaths_refreshed o s).sameTables
  rw [same, ← left]
  exact leads_insertDrive_other other _

/-- Without a serial number nothing is done. -/
theorem leads_addDrive_unnamed {drive : UdiskDrive}
    (unnamed : ¬ Named (updateByIdPaths o s) path drive) :
    (addDrive o path drive).Leads shape s (shape s) := by
  rw [addDrive, Try.leads_modify, Try.leads_get]
  refine Try.leads_ofExcept (fun _ _ => (updateByIdPaths_refreshed o s).sameTables)
    fun serial found => ?_
  exact absurd (addedSerial_ok.mp ⟨serial, found⟩) unnamed

variable {x : State × List Text}

/-- A drive that is added. -/
theorem added_exact (h : Consistent x) (o : Outside) (path : Text) (interfaces : Interfaces) :
    Fits (shape ((interfaceAdded o path interfaces).run x.1).2)
      (gone (.added path interfaces) x.2) ↔ Meets x (.added path interfaces, o) := by
  rw [consistent_iff_fits] at h
  obtain ⟨s, paths⟩ := x
  cases physical : interfaces.drive.filter isPhysicalDrive with
  | none =>
      have keeps : Try.Keeps SameTables (interfaceAdded o path interfaces) := by
        rw [interfaceAdded, physical]
        cases interfaces.job with
        | none => exact .pure _
        | some job => exact .ite (fun _ => .modify fun _ => rfl) fun _ => .pure _
      refine iff_of_true ?_ ?_
      · rw [Fits.congr (congrFun (Try.Leads.of_keeps keeps rfl)), gone, physical]
        exact h
      · intro drive found
        rw [physical] at found
        cases found
  | some drive =>
      have meets : Meets (s, paths) (.added path interfaces, o) ↔
          (Named (updateByIdPaths o s) path drive → Local o (updateByIdPaths o s) path) := by
        simp [Meets, physical]
      have left : gone (.added path interfaces) paths = paths.filter (· ≠ path) := by
        simp [gone, physical]
      rw [meets, left, interfaceAdded, physical]
      dsimp only
      rw [swallow_run]
      by_cases named : Named (updateByIdPaths o s) path drive
      · by_cases here : Local o (updateByIdPaths o s) path
        · refine iff_of_true ?_ fun _ => here
          rw [Fits.congr (congrFun (leads_addDrive_local named here))]
          exact h.insert
        · refine iff_of_false ?_ fun meets => here (meets named)
          rw [Fits.congr (congrFun (leads_addDrive_other named here))]
          exact not_fits_half
      · refine iff_of_true ?_ fun named_ => absurd named_ named
        rw [Fits.congr (congrFun (leads_addDrive_unnamed named))]
        exact h.filter _

theorem removed_exact (h : Consistent x) (o : Outside) (path : Text) (interfaces : List Removed) :
    Fits (shape ((interfaceRemoved o path interfaces).run x.1).2)
      (gone (.removed path interfaces) x.2) ↔ Meets x (.removed path interfaces, o) := by
  rw [consistent_iff_fits] at h
  obtain ⟨s, paths⟩ := x
  rw [Fits.congr (congrFun (leads_interfaceRemoved o interfaces (h.1 path)))]
  by_cases drive : Removed.drive ∈ interfaces
  · have left : gone (.removed path interfaces) paths = path :: paths := by simp [gone, drive]
    have meets : Meets (s, paths) (.removed path interfaces, o) ↔
        (path ∈ s.drives.keys → reached (jobKnown s path) interfaces = true) := by
      simp [Meets, drive]
    rw [left, meets, h.remove.cons_iff, mem_drives_keys]
    obtain absent | ⟨onNode, known⟩ := h.1 path
    · simp [show shape s path = (none, false) from absent]
    · simp [show shape s path = (some (some onNode), true) from known]
  · have left : gone (.removed path interfaces) paths = paths := by simp [gone, drive]
    rw [left]
    exact iff_of_true h.remove fun mem => absurd mem drive

/-- A signal or a message leaves the tables consistent exactly if it meets the condition. -/
theorem block_exact (h : Consistent x) (a : Action × Outside) :
    Fits (shape ((block a.2 a.1).run x.1).2) (gone a.1 x.2) ↔ Meets x a := by
  obtain ⟨action, o⟩ := a
  have kept (keeps : Try.Keeps SameTables (block o action)) :
      Fits (shape ((block o action).run x.1).2) x.2 :=
    (Fits.congr (congrFun (Try.Leads.of_keeps keeps rfl))).mpr (consistent_iff_fits.mp h)
  cases action with
  | added path interfaces => exact added_exact h o path interfaces
  | removed path interfaces => exact removed_exact h o path interfaces
  | request request => exact iff_of_true (kept (keeps_processMsg o request)) trivial
  | init =>
    exact iff_of_true (kept ((refreshed_initDrives o).mono fun _ _ => Refreshed.sameTables)) trivial
  | update => exact iff_of_true (kept (keeps_finish o)) trivial

end Signals

section Start

variable {o : Outside} {s t : State}

/-- Of every drive that is looked up it is known where it is. -/
theorem getDrives_known {objects : List (Text × Interfaces)} {found drives : Dict Text Entry}
    (known : ∀ m e, found.get? m = some e → ∃ onNode, e.nodeDisk = some onNode)
    (run : (getDrives o objects found).run s = (.ok drives, t)) :
    ∀ m e, drives.get? m = some e → ∃ onNode, e.nodeDisk = some onNode := by
  induction objects generalizing found s with
  | nil =>
      cases run
      exact known
  | cons object rest ih =>
      obtain ⟨path, interfaces⟩ := object
      rw [getDrives] at run
      split at run
      · obtain ⟨drive, u, -, run⟩ := Try.run_bind_eq_ok.mp run
        split at run
        · obtain ⟨onNode, v, -, run⟩ := Try.run_bind_eq_ok.mp run
          refine ih (fun m e entry => ?_) run
          rw [Dict.get?_set] at entry
          split at entry
          · cases entry
            exact ⟨onNode, rfl⟩
          · exact known m e entry
        · exact ih known run
      · exact ih known run

theorem quiet_getDrives (o : Outside) (objects : List (Text × Interfaces))
    (found : Dict Text Entry) :
    Try.Keeps Quiet (getDrives o objects found) := by
  induction objects generalizing found with
  | nil => exact .pure _
  | cons object rest ih =>
      refine .ite (fun _ => .bind (.ofExcept _) fun _ => ?_) fun _ => ih _
      exact .ite (fun _ => .bind (quiet_isLocalDrive o _) fun _ => ih _) fun _ => ih _

theorem insertAll_run {paths : List Text} (run : (insertAll paths).run s = (.ok ⟨⟩, t)) (m : Text) :
    shape t m = ((shape s m).1, (shape s m).2 || decide (m ∈ paths)) := by
  induction paths generalizing s with
  | nil =>
      cases run
      simp
  | cons path rest ih =>
      rw [insertAll] at run
      obtain ⟨existing, u, sent, run⟩ := Try.run_bind_eq_ok.mp run
      have same := ((quiet_sendMsg path .insertion).of_run sent).sameTables
      obtain ⟨⟨⟩, v, set, run⟩ := Try.run_bind_eq_ok.mp run
      cases set
      have entry : shape { u with existingDrive := u.existingDrive.set path existing } m =
          ((shape s m).1, (shape s m).2 || decide (m = path)) := by
        rw [← congrFun same m, shape, Dict.get?_set]
        split <;> simp [shape, *]
      rw [ih run, entry, Bool.or_assoc]
      simp

theorem removeAll_run {paths : List Text} (run : (removeAll paths).run s = (.ok ⟨⟩, t)) (m : Text) :
    shape t m = ((shape s m).1, (shape s m).2 && decide (m ∉ paths)) := by
  induction paths generalizing s with
  | nil =>
      cases run
      simp
  | cons path rest ih =>
      rw [removeAll] at run
      obtain ⟨_, u, here, run⟩ := Try.run_bind_eq_ok.mp run
      cases here
      obtain ⟨drive, u, here, run⟩ := Try.run_bind_eq_ok.mp run
      obtain ⟨-, rfl⟩ := Prod.mk.inj here
      obtain ⟨⟨⟩, u, here, run⟩ := Try.run_bind_eq_ok.mp run
      cases here
      obtain ⟨⟨⟩, u, here, run⟩ := Try.run_bind_eq_ok.mp run
      cases here
      rw [ih run, shape, Dict.get?_erase]
      split <;> simp [shape, *]

/-- After the start the tables have the drives that were looked up. -/
theorem startUp_agrees (run : (startUp o).run s = (.ok ⟨⟩, t)) (m : Text) : Agrees (shape t m) := by
  rw [startUp, prepareDrives] at run
  obtain ⟨⟨⟩, u, -, run⟩ := Try.run_bind_eq_ok.mp run
  obtain ⟨drives, u, looked, run⟩ := Try.run_bind_eq_ok.mp run
  have known := getDrives_known (fun _ _ found => by simp at found) looked m
  obtain ⟨⟨⟩, v, set, run⟩ := Try.run_bind_eq_ok.mp run
  cases set
  obtain ⟨_, v, here, run⟩ := Try.run_bind_eq_ok.mp run
  cases here
  obtain ⟨⟨⟩, v, inserted, run⟩ := Try.run_bind_eq_ok.mp run
  obtain ⟨⟨⟩, w, removed, run⟩ := Try.run_bind_eq_ok.mp run
  rw [congrFun ((keeps_finish o).of_run run) m, removeAll_run removed m, insertAll_run inserted m]
  have mem {ν : Type} (table : Dict Text ν) : m ∈ table.keys ↔ (table.get? m).isSome = true := by
    rw [Dict.mem_keys, Option.isSome_iff_exists]
  simp only [shape, List.mem_filter, mem]
  cases found : drives.get? m with
  | none => cases u.existingDrive.get? m <;> exact .inl rfl
  | some e =>
      obtain ⟨onNode, node⟩ := known e found
      cases u.existingDrive.get? m <;> exact .inr ⟨onNode, by simp [node]⟩

end Start

section

variable {x y : State × List Text} {actions : List (Action × Outside)}

theorem next_eq {s t : State} {a : Action × Outside} (step : next s a = some t) (m : Text) :
    shape t m = shape ((block a.2 a.1).run s).2 m := by
  rw [next] at step
  split at step
  · split at step
    · rename_i ended
      cases step
      rw [ended]
    · rename_i ended
      cases step
      rw [ended]
      rfl
  · cases step

theorem consistent_of_init (start : tables.init x) : Consistent x := by
  obtain ⟨none_, _, _, _, o, run⟩ := start
  rw [consistent_iff_fits, none_]
  exact ⟨startUp_agrees run, fun _ mem => nomatch mem⟩

/-- The tables of DiskMonitor stay consistent throughout a run exactly if every signal meets its
condition: an added drive is one of the server, and no job that the monitor does not know stands
before a drive that is removed. -/
theorem tables_agree_iff (start : tables.init x) (run : tables.FreeRuns x actions y) :
    tables.Always Consistent x actions ↔ tables.Runs Meets x actions y := by
  have exact_ (x : State × List Text) (a : Action × Outside) (y : State × List Text)
      (h : Consistent x) (step : tables.next x a = some y) : Consistent y ↔ Meets x a := by
    obtain ⟨t, moved, rfl⟩ := Option.map_eq_some_iff.mp step
    rw [consistent_iff_fits, Fits.congr (next_eq moved)]
    exact block_exact h a
  refine run.always_iff (I := Consistent) (fun _ h => h) ?_ ?_ (consistent_of_init start)
  · exact fun x a y h meets step => (exact_ x a y h step).mpr meets
  · exact fun x a y h step after => (exact_ x a y h step).mp after

end

namespace Example

def answer (retcode : Int) (err : String) : Answer := ⟨[], .error .valueError, err.toList, retcode⟩

/-- Two drives, of the server and of an enclosure. -/
def serverDrive : UdiskDrive := ⟨"ST1000_A".toList, "A".toList, "0x5000c5".toList, 1000, .nil⟩

def enclosureDrive : UdiskDrive := ⟨"ST1000_B".toList, "B".toList, "0x5000c6".toList, 1000, .nil⟩

def serverPath : Text := "/drives/A".toList

def enclosurePath : Text := "/drives/B".toList

def managed : Dict Text Interfaces :=
  ((Dict.empty.set "/block_devices/sda".toList
      { block := some ⟨serverPath, ["/dev/disk/by-id/wwn-1".toList], "/dev/sda".toList⟩ }).set
    "/block_devices/sdb".toList
      { block := some ⟨enclosurePath, ["/dev/disk/by-id/wwn-2".toList], "/dev/sdb".toList⟩ })

/-- Nothing is there at first; `hdparm` tells the drives apart. -/
def empty : Outside := ⟨.empty, fun _ _ => answer 1 "", fun _ => .started⟩

def outside : Outside where
  managed := managed
  command path _ :=
    if path = serverPath then answer 0 "" else answer 5 "SG_IO: bad/missing sense data"
  selftest _ := .started

def begin : State := ((startUp empty).run (initialState false false .empty)).2

theorem begin_init : tables.init (begin, []) := ⟨rfl, false, false, .empty, empty, rfl⟩

/-- A drive of the server is added and removed. -/
def quiet : List (Action × Outside) :=
  [(.added serverPath { drive := some serverDrive }, outside),
    (.removed serverPath [.drive], outside), (.update, outside)]

theorem quiet_local : Local outside (updateByIdPaths outside begin) serverPath :=
  ⟨"/dev/sda".toList, by decide +kernel, rfl⟩

/-- A drive of the server is added and removed. -/
theorem tables_agree_iff_quiet : tables.Always Consistent (begin, []) quiet := by
  have run : (tables.run (begin, []) quiet).isSome = true := by decide +kernel
  obtain ⟨y, replay⟩ := Option.isSome_iff_exists.mp run
  have free := tables.run_eq_some_iff.mp replay
  refine (tables_agree_iff begin_init free).mpr (free.strengthen ?_)
  intro done a rest m split reached
  cases done with
  | nil =>
      cases reached
      cases split
      exact fun _ _ _ => quiet_local
  | cons b done =>
      have mem : a ∈ quiet.tail := by simp [split]
      rcases List.mem_cons.mp mem with rfl | mem
      · exact fun _ _ => rfl
      · cases List.mem_singleton.mp mem
        trivial

def enclosure : List (Action × Outside) :=
  [(.added enclosurePath { drive := some enclosureDrive }, outside)]

theorem enclosure_tables : (tables.run (begin, []) enclosure).map (fun y =>
    (y.1.drives.keys, y.1.existingDrive.keys)) = some ([enclosurePath], []) := by
  decide +kernel

/-- A drive of an enclosure is added to the first table only. -/
theorem enclosure_not_consistent : ¬ ∀ x actions y, tables.init x →
    tables.FreeRuns x actions y → Consistent y := by
  intro always
  obtain ⟨y, replay, keys⟩ := Option.map_eq_some_iff.mp enclosure_tables
  have after := always _ _ y begin_init (tables.run_eq_some_iff.mp replay)
  obtain ⟨drives, existing⟩ := Prod.mk.inj keys
  have mem := (after.keys enclosurePath).mp (by rw [drives]; exact List.mem_singleton_self _)
  rw [existing] at mem
  cases mem

end Example

end DiskMonitor

end Sspl

import Sspl.Realstor.Classes

/-!
# Fan modules, disk groups and logical volumes

The fan sensor keeps the class of each faulty fan module. One sensor watches the disk groups
and the logical volumes: it polls the disk groups, then the logical volumes of each of them,
and keeps two maps from the serial numbers of those that are not well to their health. In all
three loops what is recorded follows the readings, and an alert is raised for each change of
it and for nothing else.
-/

namespace Sspl

namespace Realstor

namespace Classes

open Polls

variable {ν R E L γ : Type} [DecidableEq ν]

/-- The turn books the class, and raises what a change of class calls for and nothing else. -/
def Exact (C : Classification ν R E γ) (fru : R) (memory : Memory ν E) (turn : Inspection ν E L) :
    Prop :=
  Right C fru memory turn ∧ (C.old fru memory = C.new fru memory → turn.sends = [])

namespace Exact

variable {C : Classification ν R E γ} {fru : R} {memory : Memory ν E}

theorem unchanged {locals : L} (same : C.old fru memory = C.new fru memory)
    (written : ∀ id entry, memory.lookup id = some entry → C.Written entry) :
    Exact C fru memory (unchanged memory locals) :=
  ⟨.unchanged same written, fun _ => rfl⟩

theorem insert {entry : E} {alert : FruAlert} {locals : L}
    (changed : C.old fru memory ≠ C.new fru memory)
    (class_ : some (C.ofEntry entry) = C.new fru memory) (written : C.Written entry)
    (alerted : alert = C.alert (C.old fru memory) (C.new fru memory)) :
    Exact C fru memory ⟨memory.insert (C.durableId fru) entry, [alert], true, locals⟩ :=
  ⟨⟨.insert class_ written, fun _ => by rw [alerted]⟩, fun same => absurd same changed⟩

theorem erase {alert : FruAlert} {locals : L} (changed : C.old fru memory ≠ C.new fru memory)
    (well : C.new fru memory = none)
    (alerted : alert = C.alert (C.old fru memory) (C.new fru memory)) :
    Exact C fru memory ⟨memory.erase (C.durableId fru), [alert], true, locals⟩ :=
  ⟨⟨.erase well, fun _ => by rw [alerted]⟩, fun same => absurd same changed⟩

end Exact

/-- A sensor all of whose turns are exact raises alerts for changes only. -/
theorem discharged_of_exact {S : FruSensor ν R E L} {C : Classification ν R E γ}
    (ids : S.durableId = C.durableId)
    (exact_ : ∀ fru locals memory, (∀ id entry, memory.lookup id = some entry → C.Written entry) →
      ∃ turn, S.inspect fru locals memory = .ok turn ∧ Exact C fru memory turn) :
    Discharged S C.onlyChanges (fun _ _ _ _ => True) C.Holds where
  initial := .nil
  recorded holds := holds.recorded
  turn := by
    intro history fru locals memory holds _
    obtain ⟨turn, ran, ⟨books, alerts⟩, quiet⟩ := exact_ fru locals memory holds.written
    refine ⟨turn, ran, holds.concat ?_ books, holds.announces_iff.mpr alerts, fun same => ?_⟩
    · rw [← ids]
      exact S.frame ran
    · rw [holds.known_eq, holds.next_eq] at same
      exact quiet same
  needed _ _ := trivial

section Fan

/-- The class of a fan module: missing where it is not installed, and its health otherwise. -/
def fanClasses : Classification ν (FanReading ν) FruAlert FruAlert where
  durableId := FanReading.durableId
  classOf fan := classOf fan.health fan.notInstalled
  ofEntry := id
  Written _ := True
  alert := alertFor

variable {fan : FanReading ν} {memory : Memory ν FruAlert}

theorem fan_exact (fan : FanReading ν) (memory : Memory ν FruAlert) :
    Exact fanClasses fan memory (Fan.inspect fan memory) := by
  have old : fanClasses.old fan memory = memory.lookup fan.durableId :=
    Option.map_id'
  have new : fanClasses.new fan memory =
      (classOf fan.health fan.notInstalled).getD (memory.lookup fan.durableId) := by
    rw [← old]
    rfl
  have alert : ∀ alertType, fanClasses.new fan memory = some alertType →
      Exact fanClasses fan memory (Fan.inspect.alert fan memory alertType) := by
    intro alertType class_
    rw [Fan.inspect.alert]
    split
    · rename_i same
      exact .unchanged (by rw [old, same, class_]) (fun _ _ _ => trivial)
    · rename_i other
      exact .insert (by rwa [old, class_]) class_.symm trivial (by rw [class_]; rfl)
  rw [Fan.inspect]
  cases health : fan.health with
  | fault => exact alert _ (by rw [new, health]; rfl)
  | degraded => exact alert _ (by rw [new, health]; rfl)
  | ok =>
      rw [health] at new
      cases found : memory.lookup fan.durableId with
      | none => exact .unchanged (by rw [old, new, found]; rfl) (fun _ _ _ => trivial)
      | some previous =>
          refine .erase (by rw [old, new, found]; simp [classOf]) new ?_
          rw [old, new, found]
          exact (alertFor_recovery previous).symm
  | other => exact .unchanged (by rw [old, new, health]; rfl) (fun _ _ _ => trivial)

end Fan

/-- A disk group or a logical volume, as it was polled. -/
structure VolumeReading (ν : Type) where
  serialNumber : ν
  health : Health
  deriving DecidableEq

/-- The body of the loops in `_get_msgs_for_faulty_disk_groups` and
`_get_msgs_for_faulty_logical_volumes`. -/
def inspectVolume (volume : VolumeReading ν) (memory : Memory ν FruEntry) :
    Inspection ν FruEntry Unit :=
  match volume.health with
  | .fault =>
    if Controller.comesFrom .degraded (memory.lookup volume.serialNumber) then
      ⟨memory.insert volume.serialNumber ⟨.fault, .fault⟩, [.fault], true, ()⟩
    else unchanged memory ()
  | .degraded =>
    if Controller.comesFrom .fault (memory.lookup volume.serialNumber) then
      ⟨memory.insert volume.serialNumber ⟨.degraded, .fault⟩, [.fault], true, ()⟩
    else unchanged memory ()
  | .ok =>
    match memory.lookup volume.serialNumber with
    | some _ => ⟨memory.erase volume.serialNumber, [.faultResolved], true, ()⟩
    | none => unchanged memory ()
  | .other => unchanged memory ()

theorem inspectVolume_turn (volume : VolumeReading ν) (memory : Memory ν FruEntry) :
    Turn volume.serialNumber memory (inspectVolume volume memory) := by
  rw [inspectVolume]
  split
  · split
    · exact .record _ _ [] _
    · exact .unchanged _
  · split
    · exact .record _ _ [] _
    · exact .unchanged _
  · split
    · exact .forget _ _
    · exact .unchanged _
  · exact .unchanged _

def volumeSensor : FruSensor ν (VolumeReading ν) FruEntry Unit where
  durableId := VolumeReading.serialNumber
  start := ()
  inspect volume _ memory := .ok (inspectVolume volume memory)
  resumes := false
  frame := by
    rintro volume _ memory i run
    cases run
    exact (inspectVolume_turn volume memory).frame
  quiet := by
    rintro volume _ memory i run
    cases run
    exact (inspectVolume_turn volume memory).quiet
  alerted := by
    rintro volume _ memory i run
    cases run
    exact (inspectVolume_turn volume memory).alerted

/-- `_get_msgs_for_faulty_disk_groups`. -/
def getMsgsForFaultyDiskGroups (s : Log ν (VolumeReading ν) FruEntry)
    (diskGroups : List (VolumeReading ν)) : Log ν (VolumeReading ν) FruEntry :=
  scan volumeSensor () s diskGroups

/-- `_get_msgs_for_faulty_logical_volumes`. -/
def getMsgsForFaultyLogicalVolumes (s : Log ν (VolumeReading ν) FruEntry)
    (logicalVolumes : List (VolumeReading ν)) : Log ν (VolumeReading ν) FruEntry :=
  scan volumeSensor () s logicalVolumes

/-- The two maps of `RealStorLogicalVolumeSensor`, each with what was polled for it. -/
structure VolumeLogs (ν : Type) where
  diskGroups : Log ν (VolumeReading ν) FruEntry
  logicalVolumes : Log ν (VolumeReading ν) FruEntry

/-- `run`: the disk groups, then the logical volumes of one disk group after the other. -/
def runVolumes (s : VolumeLogs ν) (diskGroups : List (VolumeReading ν))
    (logicalVolumes : List (List (VolumeReading ν))) : VolumeLogs ν where
  diskGroups := getMsgsForFaultyDiskGroups s.diskGroups diskGroups
  logicalVolumes := logicalVolumes.foldl getMsgsForFaultyLogicalVolumes s.logicalVolumes

/-- `RealStorLogicalVolumeSensor` from empty maps on; a step is a poll of the disk groups and of
the logical volumes of each. -/
def volumeSystem : Transition.System (VolumeLogs ν)
    (List (VolumeReading ν) × List (List (VolumeReading ν))) where
  init s := s = ⟨.empty, .empty⟩
  next s poll := some (runVolumes s poll.1 poll.2)

section Volume

/-- The class of a disk group or logical volume is its health. -/
def volumeClasses : Classification ν (VolumeReading ν) FruEntry Health where
  durableId := VolumeReading.serialNumber
  classOf volume :=
    match volume.health with
    | .fault => some (some .fault)
    | .degraded => some (some .degraded)
    | .ok => some none
    | .other => none
  ofEntry := FruEntry.health
  Written entry := entry.health = .fault ∨ entry.health = .degraded
  alert _ new := if new = none then .faultResolved else .fault

variable {memory : Memory ν FruEntry}

/-- A disk group or logical volume comes from the other bad health, or is new, exactly when its
health is not the recorded one. -/
theorem comesFrom_iff {id : ν} {health rival : Health}
    (written : ∀ entry, memory.lookup id = some entry →
      entry.health = health ∨ entry.health = rival) (different : rival ≠ health) :
    Controller.comesFrom rival (memory.lookup id) ↔
      (memory.lookup id).map FruEntry.health ≠ some health := by
  cases found : memory.lookup id with
  | none => simp [Controller.comesFrom]
  | some entry =>
      obtain same | same := written entry found
      · simp [Controller.comesFrom, same, different.symm]
      · simp [Controller.comesFrom, same, different]

theorem volume_old (volume : VolumeReading ν) (memory : Memory ν FruEntry) :
    volumeClasses.old volume memory =
      (memory.lookup volume.serialNumber).map FruEntry.health := rfl

/-- The two bad cases: the entry is written if the health is another one. -/
theorem volume_bad_exact {volume : VolumeReading ν} {health rival : Health}
    (written : ∀ id entry, memory.lookup id = some entry →
      entry.health = .fault ∨ entry.health = .degraded)
    (bad : ∀ entry : FruEntry, entry.health = .fault ∨ entry.health = .degraded ↔
      entry.health = health ∨ entry.health = rival)
    (different : rival ≠ health) (new : volumeClasses.new volume memory = some health) :
    Exact volumeClasses volume memory
      (if Controller.comesFrom rival (memory.lookup volume.serialNumber) then
        ⟨memory.insert volume.serialNumber ⟨health, .fault⟩, [.fault], true, ()⟩
      else unchanged memory ()) := by
  have changed : Controller.comesFrom rival (memory.lookup volume.serialNumber) ↔
      volumeClasses.old volume memory ≠ volumeClasses.new volume memory := by
    rw [volume_old, new]
    exact comesFrom_iff (fun entry found => (bad entry).mp (written _ entry found)) different
  split
  · rename_i comes
    exact .insert (changed.mp comes) new.symm ((bad _).mpr (.inl rfl)) (by rw [new]; rfl)
  · rename_i stays
    exact .unchanged (not_not.mp (mt changed.mpr stays)) written

theorem volume_exact (volume : VolumeReading ν) (memory : Memory ν FruEntry)
    (written : ∀ id entry, memory.lookup id = some entry →
      entry.health = .fault ∨ entry.health = .degraded) :
    Exact volumeClasses volume memory (inspectVolume volume memory) := by
  rw [inspectVolume]
  cases health : volume.health with
  | fault =>
      refine volume_bad_exact written (fun _ => Iff.rfl) (by decide) ?_
      simp [Classification.new, volumeClasses, health]
  | degraded =>
      refine volume_bad_exact written (fun _ => or_comm) (by decide) ?_
      simp [Classification.new, volumeClasses, health]
  | ok =>
      have new : volumeClasses.new volume memory = none := by
        simp [Classification.new, volumeClasses, health]
      cases found : memory.lookup volume.serialNumber with
      | none => exact .unchanged (by rw [volume_old, new, found]; rfl) written
      | some entry =>
          exact .erase (by rw [volume_old, new, found]; simp) new (by rw [new]; rfl)
  | other =>
      refine .unchanged ?_ written
      simp [Classification.new, volumeClasses, health]

end Volume

theorem fan_discharged : Discharged (fanSensor : FruSensor ν _ _ _) fanClasses.onlyChanges
    (fun _ _ _ _ => True) fanClasses.Holds :=
  discharged_of_exact rfl fun fan _ memory _ => ⟨_, rfl, fan_exact fan memory⟩

theorem volume_discharged : Discharged (volumeSensor : FruSensor ν _ _ _)
    volumeClasses.onlyChanges (fun _ _ _ _ => True) volumeClasses.Holds :=
  discharged_of_exact rfl fun volume _ memory written =>
    ⟨_, rfl, volume_exact volume memory written⟩

/-- A poll of the disk groups and logical volumes keeps what is known of both logs. -/
theorem runVolumes_known (s : VolumeLogs ν)
    (poll : List (VolumeReading ν) × List (List (VolumeReading ν))) (t : VolumeLogs ν)
    (known : Known volumeClasses.onlyChanges volumeClasses.Holds s.diskGroups ∧
      Known volumeClasses.onlyChanges volumeClasses.Holds s.logicalVolumes)
    (_ : True) (step : volumeSystem.next s poll = some t) :
    Known volumeClasses.onlyChanges volumeClasses.Holds t.diskGroups ∧
      Known volumeClasses.onlyChanges volumeClasses.Holds t.logicalVolumes := by
  have scanned : ∀ (s : Log ν (VolumeReading ν) FruEntry) frus,
      Known volumeClasses.onlyChanges volumeClasses.Holds s →
        Known volumeClasses.onlyChanges volumeClasses.Holds (scan volumeSensor () s frus) :=
    fun _ frus known => volume_discharged.scan_free (fun _ _ _ _ => trivial) known () frus
  cases step
  refine ⟨scanned _ poll.1 known.1, ?_⟩
  show Known _ _ (poll.2.foldl getMsgsForFaultyLogicalVolumes s.logicalVolumes)
  have volumes := known.2
  generalize s.logicalVolumes = log at volumes ⊢
  induction poll.2 generalizing log with
  | nil => exact volumes
  | cons first rest ih => exact ih _ (scanned _ first volumes)

/-- The logs of the volumes have what was polled, in order. -/
theorem exists_run_volumes (s : VolumeLogs ν)
    (polls : List (List (VolumeReading ν) × List (List (VolumeReading ν)))) :
    ∃ t, volumeSystem.FreeRuns s polls t ∧
      t.diskGroups.history = s.diskGroups.history ++ polls.flatMap (·.1) ∧
      t.logicalVolumes.history = s.logicalVolumes.history ++ polls.flatMap (·.2.flatten) := by
  have volumes : ∀ (lists : List (List (VolumeReading ν))) (log : Log ν (VolumeReading ν) FruEntry),
      (lists.foldl getMsgsForFaultyLogicalVolumes log).history = log.history ++ lists.flatten := by
    intro lists
    induction lists with
    | nil => exact fun log => (List.append_nil _).symm
    | cons first rest ih =>
        intro log
        rw [List.foldl_cons, ih, getMsgsForFaultyLogicalVolumes, scan_history, List.append_assoc,
          List.flatten_cons]
  induction polls generalizing s with
  | nil => exact ⟨s, .nil s, (List.append_nil _).symm, (List.append_nil _).symm⟩
  | cons poll rest ih =>
      obtain ⟨t, tail, groups, logical⟩ := ih (runVolumes s poll.1 poll.2)
      refine ⟨t, .cons trivial rfl tail, ?_, ?_⟩
      · rw [groups, runVolumes, getMsgsForFaultyDiskGroups, scan_history, List.append_assoc,
          List.flatMap_cons]
      · rw [logical, runVolumes, volumes, List.append_assoc, List.flatMap_cons]

/-- After every poll the fan modules have their class recorded, and the disk groups and logical
volumes that are not well their health; alerts are raised for the changes and for nothing
else. The histories are those of the polls. -/
theorem volumes_follow_readings :
    (∀ polls : List (List (FanReading ν)),
      fanClasses.onlyChanges.Fulfilled fanSensor polls) ∧
    ∀ polls : List (List (VolumeReading ν) × List (List (VolumeReading ν))),
      ∃ s, volumeSystem.FreeRuns ⟨.empty, .empty⟩ polls s ∧
        s.diskGroups.history = polls.flatMap (·.1) ∧
        s.logicalVolumes.history = polls.flatMap (·.2.flatten) ∧
        volumeClasses.onlyChanges.Kept s.diskGroups ∧
        volumeClasses.onlyChanges.Kept s.logicalVolumes := by
  constructor
  · intro polls
    rw [fulfilled_iff_always]
    intro done rest t _ run
    refine fan_discharged.kept (run.invariant ?_ fan_discharged.known_empty)
    rintro s frus t known - step
    cases step
    exact fan_discharged.scan_free (fun _ _ _ _ => trivial) known _ frus
  · intro polls
    obtain ⟨s, run, groups, logical⟩ := exists_run_volumes ⟨.empty, .empty⟩ polls
    have known := run.invariant runVolumes_known
      ⟨volume_discharged.known_empty, volume_discharged.known_empty⟩
    exact ⟨s, run, groups, logical, volume_discharged.kept known.1,
      volume_discharged.kept known.2⟩

/-- A volume that is at fault in one poll and well in the next. -/
example : (runVolumes (runVolumes ⟨.empty, .empty⟩ [] [[(⟨1, .fault⟩ : VolumeReading Nat)]]) []
    [[⟨1, .ok⟩], [⟨2, .ok⟩]]).logicalVolumes.turns =
      [(⟨1, .fault⟩, [.fault]), (⟨1, .ok⟩, [.faultResolved]), (⟨2, .ok⟩, [])] := by
  decide

end Classes

end Realstor

end Sspl

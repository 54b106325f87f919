import Sspl.Raid.Tracking

/-!
# The turns of a run

For each array of the configuration file and for each array of `/proc/mdstat` the sensor
takes one turn. A turn sends alerts that fit what is open, apart from a `missing` alert on an
array whose last alert was another one, and it touches the data of its own array only.
-/

namespace Sspl

namespace Raid

open Iem (Text)

variable {watched : Text → Prop} {s t : State} {device name : Text} {o : Outside}
  {driveDict : Dict Text (List Text)}

/-- The last alert on the array has not hidden that its missing alert is open. -/
def Noticed (device : Text) (s : State) : Prop :=
  Pending (.count device) s.sent → s.data.prevAlertType.get? device = some (some .missing)

theorem leaves_driveMissing (h : Sound watched s) (names : List Text)
    (closed : watched device → ¬ Pending (.count device) s.sent) :
    (driveMissing o driveDict names device).Leaves (fun _ => Ready watched device)
      (fun _ => Kept watched) s := by
  iterate 5 apply Try.leaves_bind.mpr
  apply leaves_mapDriveStatus
  · intro drvs
    refine Ready.of_decided (h.toKept.congr rfl rfl) rfl rfl ?_
    intro names drives
    refine h.sendCount (.inl rfl) ?_ rfl rfl rfl rfl
    exact fun look => iff_of_true rfl (closed look)
  · exact fun _ _ => h.toKept.congr rfl rfl

theorem leaves_driveInserted (h : Sound watched s) (names : List Text)
    (last : s.data.prevAlertType.get? device = some (some .missing)) :
    (driveInserted names device).Leaves (fun _ => Ready watched device)
      (fun _ => Kept watched) s := by
  apply Try.leaves_bind.mpr
  apply Try.leaves_bind.mpr
  apply Try.leaves_ofExcept.mpr
  cases names.head? with
  | none => exact h.toKept.congr rfl rfl
  | some drive =>
      iterate 2 apply Try.leaves_bind.mpr
      apply leaves_mapDriveStatus
      · intro drvs
        refine Ready.of_decided (h.toKept.congr rfl rfl) rfl rfl ?_
        intro names drives
        refine h.sendCount (.inr rfl) ?_ rfl rfl rfl rfl
        exact fun _ => iff_of_false nofun (not_not.mpr (h.live.count device last))
      · exact fun _ _ => h.toKept.congr rfl rfl

/-- The array has fewer drives than it should have. -/
def Short (driveDict : Dict Text (List Text)) (totalDrives : Dict Text Nat) (device : Text) :
    Prop :=
  ∃ names ∈ driveDict.get? device, ∃ total ∈ totalDrives.get? device, names.length < total

theorem leaves_countTurn (h : Sound watched s) (idle : Idle s)
    (noticed : watched device → Short driveDict s.data.totalDrives device → Noticed device s) :
    (countTurn o driveDict device).Leaves (fun _ => Ready watched device)
      (fun _ => Kept watched) s := by
  apply Try.leaves_bind.mpr
  apply Try.leaves_get.mpr
  apply Try.leaves_bind.mpr
  apply Try.leaves_ofExcept.mpr
  rw [item]
  cases listed : driveDict.get? device with
  | none => exact h.toKept
  | some names =>
      apply Try.leaves_bind.mpr
      apply Try.leaves_ofExcept.mpr
      rw [item]
      cases announced : s.data.totalDrives.get? device with
      | none => exact h.toKept
      | some total =>
          apply Try.leaves_ite.mpr
          split
          · rename_i fewer
            apply leaves_driveMissing h
            intro look opened
            exact fewer.2.2 (noticed look ⟨names, listed, total, announced, fewer.1⟩ opened)
          · apply Try.leaves_ite.mpr
            split
            · rename_i enough
              exact leaves_driveInserted h names enough.2
            · exact h.ready idle device

theorem faulty_set (data : Data) (device name x y : Text) (value : AlertType) :
    Data.faulty { data with
      faultyDriveList := data.faultyDriveList.set device
        (((data.faultyDriveList.get? device).getD .empty).set name value) } x y = some true ↔
      x = device ∧ y = name ∨ data.faulty x y = some true := by
  simp only [Data.faulty, Dict.get?_set]
  by_cases here : x = device
  · subst here
    cases data.faultyDriveList.get? x with
    | none => by_cases same : y = name <;> simp [Dict.get?_set, same]
    | some names => by_cases same : y = name <;> simp [Dict.get?_set, same]
  · simp [here]

theorem faulty_erase (data : Data) (device name x y : Text) :
    Data.faulty { data with
      faultyDriveList := data.faultyDriveList.set device
        (((data.faultyDriveList.get? device).getD .empty).erase name) } x y = some true ↔
      ¬ (x = device ∧ y = name) ∧ data.faulty x y = some true := by
  simp only [Data.faulty, Dict.get?_set]
  by_cases here : x = device
  · subst here
    cases data.faultyDriveList.get? x with
    | none => simp [Dict.get?_erase]
    | some names => by_cases same : y = name <;> simp [Dict.get?_erase, same]
  · simp [here]

theorem leaves_driveFault (h : Sound watched s)
    (resource : s.resourceId = driveResource device name)
    (healthy : s.data.faulty device name = some false) :
    (driveFault device name).Leaves (fun _ => Ready watched device) (fun _ => Kept watched) s := by
  iterate 2 apply Try.leaves_bind.mpr
  apply leaves_mapDriveStatus
  · intro drvs
    refine Ready.of_decided (h.toKept.congr rfl rfl) rfl rfl ?_
    intro names drives
    refine h.sendDrive resource (.inl rfl) ?_ rfl rfl ?_ rfl
    · exact iff_of_true rfl (by rw [healthy]; exact nofun)
    · intro x y
      rw [ite_prop_iff_or]
      refine (faulty_set s.data device name x y .fault).trans ?_
      tauto
  · exact fun _ _ => h.toKept.congr rfl rfl

theorem leaves_driveResolved (h : Sound watched s)
    (resource : s.resourceId = driveResource device name)
    (faulty : s.data.faulty device name = some true) :
    (driveResolved device name).Leaves (fun _ => Ready watched device)
      (fun _ => Kept watched) s := by
  iterate 2 apply Try.leaves_bind.mpr
  apply leaves_mapDriveStatus
  · intro drvs
    refine Ready.of_decided (h.toKept.congr rfl rfl) rfl rfl ?_
    intro names drives
    refine h.sendDrive resource (.inr rfl) ?_ rfl rfl ?_ rfl
    · exact iff_of_false nofun (not_not.mpr faulty)
    · intro x y
      rw [ite_prop_iff_or]
      refine (faulty_erase s.data device name x y).trans ?_
      tauto
  · exact fun _ _ => h.toKept.congr rfl rfl

theorem leaves_driveDecision (h : Sound watched s) (idle : Idle s)
    (resource : s.resourceId = driveResource device name) {s₀ : State} (same : s.data = s₀.data)
    (drive : Drive) : (driveDecision s₀ drive device name).Leaves
      (fun _ => Ready watched device) (fun _ => Kept watched) s := by
  apply Try.leaves_ite.mpr
  rw [← same]
  split
  · rename_i down
    exact leaves_driveFault h resource down.2.1
  · apply Try.leaves_ite.mpr
    split
    · rename_i recovered
      exact leaves_driveResolved h resource recovered.2
    · exact h.ready idle device

theorem leaves_driveTurn (h : Sound watched s) (idle : Idle s) (i : Nat) :
    (driveTurn o driveDict device i).Leaves (fun _ t => Sound watched t ∧ Idle t)
      (fun _ => Kept watched) s := by
  apply Try.leaves_bind.mpr
  apply Try.leaves_get.mpr
  apply Try.leaves_bind.mpr
  apply Try.leaves_ofExcept.mpr
  cases item s.data.drives device with
  | error err => exact h.toKept
  | ok drives =>
      dsimp only
      cases drives[i]? with
      | none => exact ⟨h, idle⟩
      | some drive =>
          dsimp only
          cases drive.identity with
          | none => exact ⟨h, idle⟩
          | some path =>
              have named : Sound watched
                  { s with resourceId := driveResource device (path.drop 5) } :=
                ⟨h.toKept.congr rfl rfl, h.live⟩
              dsimp only
              apply Try.leaves_bind.mpr
              apply Try.leaves_modify.mpr
              apply Try.leaves_bind.mpr
              apply (leaves_driveDecision named idle rfl rfl drive).mono
              · exact fun _ t ready => leaves_sendDecided o driveDict ready
              · exact fun _ _ kept => kept

theorem leaves_driveTurns (h : Sound watched s) (idle : Idle s) (scan : Scan) :
    (driveTurns o scan device).Leaves (fun _ t => Sound watched t ∧ Idle t)
      (fun _ => Kept watched) s := by
  apply Try.leaves_bind.mpr
  apply Try.leaves_ofExcept.mpr
  cases item scan.driveStatusChanged device with
  | error err => exact h.toKept
  | ok changed =>
      apply Try.leaves_ite.mpr
      split
      · apply Try.leaves_bind.mpr
        apply Try.leaves_get.mpr
        apply Try.leaves_bind.mpr
        apply Try.leaves_ofExcept.mpr
        cases item s.data.drives device with
        | error err => exact h.toKept
        | ok drives =>
            exact Try.leaves_forM (I := fun _ t => Sound watched t ∧ Idle t)
              (fun i _ _ sound => leaves_driveTurn sound.1 sound.2 i) _ s ⟨h, idle⟩
      · exact ⟨h, idle⟩

theorem leaves_deviceTurn (h : Sound watched s) (idle : Idle s) (scan : Scan)
    (noticed : watched device → Short scan.driveDict s.data.totalDrives device →
      Noticed device s) :
    (deviceTurn o scan device).Leaves (fun _ t => Sound watched t ∧ Idle t)
      (fun _ => Kept watched) s := by
  apply Try.leaves_ite.mpr
  split
  · apply Try.leaves_bind.mpr
    apply (leaves_countTurn h idle noticed).mono
    · intro _ t ready
      apply Try.leaves_bind.mpr
      apply (leaves_sendDecided o scan.driveDict ready).mono
      · exact fun _ u sound => leaves_driveTurns sound.1 sound.2 scan
      · exact fun _ _ kept => kept
    · exact fun _ _ kept => kept
  · exact ⟨h, idle⟩

/-- The alerts on an array do not count as alerts on the number of its drives. -/
theorem alerts_count_send {alertType : AlertType} {drives : List Drive}
    (kind : alertType = .fault ∨ alertType = .faultResolved) (x : Text) :
    alerts (.count x) (send (alert alertType (some device) device drives) s).sent =
      alerts (.count x) s.sent := by
  show alerts _ (s.sent ++ [_]) = _
  rw [alerts_concat, subject_array kind, if_neg nofun]

/-- What the turn of an array leaves. -/
def ArrayDone (watched : Text → Prop) (s t : State) : Prop :=
  Sound watched t ∧ Idle t ∧ ∀ x, alerts (.count x) t.sent = alerts (.count x) s.sent

theorem leaves_arrayGone (h : Sound watched s) (gone : device ∉ s.data.faultyDeviceList) :
    (do
      Try.modify fun s => { s with alertType := some .fault }
      update fun data => { data with faultyDeviceList := insert device data.faultyDeviceList }
      sendJsonMsg o .fault (some device) device raidDownDriveStatus : Step).Leaves
      (fun _ => ArrayDone watched s) (fun _ => Kept watched) s := by
  iterate 2 apply Try.leaves_bind.mpr
  have sound : Sound watched (send (alert .fault (some device) device raidDownDriveStatus)
      { s with
        alertType := some .fault
        data := { s.data with
          faultyDeviceList := insert device s.data.faultyDeviceList } }) := by
    refine h.sendArray rfl (.inl rfl) ?_ rfl ?_ rfl rfl
    · exact iff_of_true rfl gone
    · intro x
      rw [ite_prop_iff_or, Finset.mem_insert]
      tauto
  apply (leaves_sendJsonMsg (P := ArrayDone watched s)
    ⟨sound, idle_send _ _, alerts_count_send (.inl rfl)⟩).mono
  · exact fun _ _ left => left
  · exact fun _ _ raised => raised.1.toKept

theorem leaves_arrayBack (h : Sound watched s) (gone : device ∈ s.data.faultyDeviceList) :
    (do
      Try.modify fun s => { s with alertType := some .faultResolved }
      mapDriveStatus device (.listed driveDict) "Down/Recovery".toList
      update fun data => { data with faultyDeviceList := data.faultyDeviceList.erase device }
      let s ← Try.get
      let drives ← Try.ofExcept (item s.data.drives device)
      sendJsonMsg o .faultResolved (some device) device drives : Step).Leaves
      (fun _ => ArrayDone watched s) (fun _ => Kept watched) s := by
  iterate 2 apply Try.leaves_bind.mpr
  apply leaves_mapDriveStatus
  · intro drvs
    iterate 3 apply Try.leaves_bind.mpr
    apply Try.leaves_ofExcept.mpr
    split
    · rename_i drives _
      have sound : Sound watched (send (alert .faultResolved (some device) device drives)
          { withDrives drvs { s with alertType := some .faultResolved } with
            data := { s.data with
              drives := drvs
              faultyDeviceList := s.data.faultyDeviceList.erase device } }) := by
        refine h.sendArray rfl (.inr rfl) ?_ rfl ?_ rfl rfl
        · exact iff_of_false nofun (not_not.mpr gone)
        · intro x
          rw [ite_prop_iff_or, Finset.mem_erase]
          tauto
      apply (leaves_sendJsonMsg (P := ArrayDone watched s)
        ⟨sound, idle_send _ _, alerts_count_send (.inr rfl)⟩).mono
      · exact fun _ _ left => left
      · exact fun _ _ raised => raised.1.toKept
    · exact h.toKept.congr rfl rfl
  · exact fun _ _ => h.toKept.congr rfl rfl

theorem leaves_arrayTurn (h : Sound watched s) (idle : Idle s) (mdDeviceList : List Text) :
    (arrayTurn o mdDeviceList driveDict device).Leaves
      (fun _ t => Sound watched t ∧ Idle t ∧
        ∀ x, alerts (.count x) t.sent = alerts (.count x) s.sent)
      (fun _ => Kept watched) s := by
  apply Try.leaves_bind.mpr
  apply Try.leaves_get.mpr
  apply Try.leaves_ite.mpr
  split
  · rename_i gone
    exact leaves_arrayGone h gone.2
  · apply Try.leaves_ite.mpr
    split
    · rename_i back
      exact leaves_arrayBack h back.2
    · exact ⟨h, idle, fun _ => rfl⟩

/-- An array that is there and has no fault is passed over. -/
theorem leaves_arrayTurn_present (mdDeviceList : List Text) :
    (arrayTurn o mdDeviceList driveDict device).Leaves
      (fun _ t => device ∈ mdDeviceList → device ∉ s.data.faultyDeviceList → t = s)
      (fun _ _ => True) s := by
  by_cases present : device ∈ mdDeviceList ∧ device ∉ s.data.faultyDeviceList
  · apply Try.leaves_bind.mpr
    apply Try.leaves_get.mpr
    rw [if_neg (fun gone => gone.1 present.1), if_neg (fun back => present.2 back.2)]
    exact fun _ _ => rfl
  · apply Try.Leaves.mono (Q := fun _ _ => True) (E := fun _ _ => True)
    · exact Try.leaves_iff.mpr trivial
    · exact fun _ _ _ listed healthy => absurd ⟨listed, healthy⟩ present
    · exact fun _ _ _ => trivial

structure Elsewhere (device : Text) (s t : State) : Prop where
  totals : t.data.totalDrives = s.data.totalDrives
  prev : ∀ x ≠ device, t.data.prevAlertType.get? x = s.data.prevAlertType.get? x
  array : ∀ x ≠ device, x ∈ t.data.faultyDeviceList ↔ x ∈ s.data.faultyDeviceList
  count : ∀ x ≠ device, alerts (.count x) t.sent = alerts (.count x) s.sent

instance (device : Text) : IsPreorder State (Elsewhere device) where
  refl _ := ⟨rfl, fun _ _ => rfl, fun _ _ => .rfl, fun _ _ => rfl⟩
  trans _ _ _ first second := {
    totals := second.totals.trans first.totals
    prev := fun x other => (second.prev x other).trans (first.prev x other)
    array := fun x other => (second.array x other).trans (first.array x other)
    count := fun x other => (second.count x other).trans (first.count x other) }

theorem Elsewhere.noticed (h : Elsewhere device s t) {x : Text} (other : x ≠ device)
    (noticed : Noticed x s) : Noticed x t := by
  intro opened
  rw [Pending, h.count x other] at opened
  rw [h.prev x other]
  exact noticed opened

/-- Nothing is sent and only other data change. -/
theorem Elsewhere.of_eq (totals : t.data.totalDrives = s.data.totalDrives)
    (prev : t.data.prevAlertType = s.data.prevAlertType)
    (array : t.data.faultyDeviceList = s.data.faultyDeviceList) (sent : t.sent = s.sent) :
    Elsewhere device s t := by
  constructor
  · exact totals
  · exact fun x _ => by rw [prev]
  · exact fun x _ => by rw [array]
  · exact fun x _ => by rw [sent]

theorem elsewhere_send (alertType : AlertType) (resourceId : Option Text) (device : Text)
    (drives : List Drive) (s : State) :
    Elsewhere device s (send (alert alertType resourceId device drives) s) := by
  constructor
  · rfl
  · exact fun x other => Dict.get?_set_of_ne _ _ other
  · exact fun _ _ => .rfl
  · intro x other
    show alerts _ (s.sent ++ [_]) = _
    rw [alerts_concat, if_neg]
    exact fun same => other (Alert.device_of_count same).1.symm

theorem mapDriveStatus_elsewhere (device : Text) (drives : Drives) (drvStatus : Text) :
    Try.Keeps (Elsewhere device) (mapDriveStatus device drives drvStatus) := by
  apply (mapDriveStatus_keeps device drives drvStatus).mono
  rintro s _ ⟨drvs, rfl⟩
  exact .of_eq rfl rfl rfl rfl

theorem sendJsonMsg_elsewhere (alertType : AlertType) (resourceId : Option Text)
    (drives : List Drive) :
    Try.Keeps (Elsewhere device) (sendJsonMsg o alertType resourceId device drives) := by
  apply (Try.Keeps.modify (elsewhere_send alertType resourceId device drives)).bind
  intro _
  apply Try.Keeps.get.bind
  intro s
  exact Try.Keeps.ite (fun _ => Try.Keeps.throw _) (fun _ => Try.Keeps.pure _)

theorem sendDecided_elsewhere : Try.Keeps (Elsewhere device) (sendDecided o driveDict device) := by
  apply Try.Keeps.get.bind
  intro s
  cases s.alertType with
  | none => exact Try.Keeps.pure _
  | some alertType =>
      apply Try.Keeps.ite
      · intro _
        apply (Try.Keeps.ofExcept _).bind
        intro names
        apply (Try.Keeps.modify fun s => .of_eq rfl rfl rfl rfl).bind
        intro _
        apply (Try.Keeps.ofExcept _).bind
        exact fun drives => sendJsonMsg_elsewhere _ _ _
      · exact fun _ => Try.Keeps.pure _

theorem countTurn_elsewhere : Try.Keeps (Elsewhere device) (countTurn o driveDict device) := by
  apply Try.Keeps.get.bind
  intro s
  apply (Try.Keeps.ofExcept _).bind
  intro names
  apply (Try.Keeps.ofExcept _).bind
  intro total
  apply Try.Keeps.ite
  · intro _
    apply (Try.Keeps.modify fun s => .of_eq rfl rfl rfl rfl).bind
    intro _
    apply Try.Keeps.get.bind
    intro s
    apply (Try.Keeps.modify fun s => .of_eq rfl rfl rfl rfl).bind
    intro _
    apply (Try.Keeps.modify fun s => .of_eq rfl rfl rfl rfl).bind
    intro _
    apply (mapDriveStatus_elsewhere device _ _).bind
    exact fun _ => Try.Keeps.modify fun s => .of_eq rfl rfl rfl rfl
  · intro _
    apply Try.Keeps.ite
    · intro _
      apply (Try.Keeps.modify fun s => .of_eq rfl rfl rfl rfl).bind
      intro _
      apply (Try.Keeps.ofExcept _).bind
      intro drive
      apply (Try.Keeps.modify fun s => .of_eq rfl rfl rfl rfl).bind
      intro _
      apply (mapDriveStatus_elsewhere device _ _).bind
      exact fun _ => Try.Keeps.modify fun s => .of_eq rfl rfl rfl rfl
    · exact fun _ => Try.Keeps.pure _

/-- What `driveFault` and `driveResolved` have in common. -/
theorem driveChange_elsewhere (alertType : AlertType) (drives : Drives) (drvStatus : Text)
    (change : Dict Text (Dict Text AlertType) → Dict Text (Dict Text AlertType)) :
    Try.Keeps (Elsewhere device) (do
      Try.modify fun s => { s with alertType := some alertType }
      mapDriveStatus device drives drvStatus
      Try.modify fun s => { s with driveStateChanged := true }
      update fun data => { data with faultyDriveList := change data.faultyDriveList }) := by
  apply (Try.Keeps.modify fun s => .of_eq rfl rfl rfl rfl).bind
  intro _
  apply (mapDriveStatus_elsewhere device _ _).bind
  intro _
  apply (Try.Keeps.modify fun s => .of_eq rfl rfl rfl rfl).bind
  exact fun _ => Try.Keeps.modify fun s => .of_eq rfl rfl rfl rfl

theorem driveDecision_elsewhere (s : State) (drive : Drive) (name : Text) :
    Try.Keeps (Elsewhere device) (driveDecision s drive device name) := by
  apply Try.Keeps.ite
  · exact fun _ => driveChange_elsewhere _ _ _
      (fun list => list.set device (((list.get? device).getD .empty).set name _))
  · intro _
    apply Try.Keeps.ite
    · exact fun _ => driveChange_elsewhere _ _ _
        (fun list => list.set device (((list.get? device).getD .empty).erase name))
    · exact fun _ => Try.Keeps.pure _

theorem driveTurn_elsewhere (i : Nat) :
    Try.Keeps (Elsewhere device) (driveTurn o driveDict device i) := by
  apply Try.Keeps.get.bind
  intro s
  apply (Try.Keeps.ofExcept _).bind
  intro drives
  cases drives[i]? with
  | none => exact Try.Keeps.pure _
  | some drive =>
      dsimp only
      cases drive.identity with
      | none => exact Try.Keeps.pure _
      | some path =>
          apply (Try.Keeps.modify fun s => .of_eq rfl rfl rfl rfl).bind
          intro _
          exact (driveDecision_elsewhere s drive _).bind fun _ => sendDecided_elsewhere

theorem deviceTurn_elsewhere (scan : Scan) :
    Try.Keeps (Elsewhere device) (deviceTurn o scan device) := by
  apply Try.Keeps.ite
  · intro _
    apply countTurn_elsewhere.bind
    intro _
    apply sendDecided_elsewhere.bind
    intro _
    apply (Try.Keeps.ofExcept _).bind
    intro changed
    apply Try.Keeps.ite
    · intro _
      apply Try.Keeps.get.bind
      intro s
      apply (Try.Keeps.ofExcept _).bind
      intro drives
      exact Try.Keeps.forM driveTurn_elsewhere _
    · exact fun _ => Try.Keeps.pure _
  · exact fun _ => Try.Keeps.pure _

theorem arrayTurn_elsewhere (mdDeviceList : List Text) :
    Try.Keeps (Elsewhere device) (arrayTurn o mdDeviceList driveDict device) := by
  have decide_ : ∀ alertType : AlertType, Try.Keeps (Elsewhere device)
      (Try.modify fun s => { s with alertType := some alertType } : Step) :=
    fun _ => Try.Keeps.modify fun s => .of_eq rfl rfl rfl rfl
  apply Try.Keeps.get.bind
  intro s
  apply Try.Keeps.ite
  · intro _
    apply (decide_ .fault).bind
    intro _
    refine Try.Keeps.bind (Try.Keeps.modify fun s => ?_) (fun _ => sendJsonMsg_elsewhere _ _ _)
    refine ⟨rfl, fun _ _ => rfl, fun x other => ?_, fun _ _ => rfl⟩
    exact Finset.mem_insert.trans (or_iff_right other)
  · intro _
    apply Try.Keeps.ite
    · intro _
      apply (decide_ .faultResolved).bind
      intro _
      apply (mapDriveStatus_elsewhere device _ _).bind
      intro _
      refine Try.Keeps.bind (Try.Keeps.modify fun s => ?_) (fun _ => ?_)
      · refine ⟨rfl, fun _ _ => rfl, fun x other => ?_, fun _ _ => rfl⟩
        exact Finset.mem_erase.trans (and_iff_right other)
      · apply Try.Keeps.get.bind
        intro s
        apply (Try.Keeps.ofExcept _).bind
        exact fun drives => sendJsonMsg_elsewhere _ _ _
    · exact fun _ => Try.Keeps.pure _

end Raid

end Sspl

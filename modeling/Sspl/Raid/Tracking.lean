import Sspl.Foundation.Alternation
import Sspl.Raid.Sensor

/-!
# Which alerts are open

An alert is about an array, about the number of its drives or about one of its drives, and
it opens or closes something there. The sensor keeps the arrays and the drives with a fault
in two collections of their own, so for these what is open can be read off its data. For the
number of drives it has only the type of the last alert of any kind: where that is `missing`
a missing alert is open, but not the other way round.

What an alert leaves in the store is the data with which it was sent, so it is enough to look
at the data whenever an alert is sent.
-/

namespace Sspl

namespace Raid

open Iem (Text)

inductive Subject
  | array (device : Text)
  /-- The number of drives of the array. -/
  | count (device : Text)
  | drive (device : Text) (resourceId : Option Text)
  deriving DecidableEq

namespace Subject

def opening : Subject → AlertType
  | array _ | drive _ _ => .fault
  | count _ => .missing

def closing : Subject → AlertType
  | array _ | drive _ _ => .faultResolved
  | count _ => .insertion

theorem opening_ne_closing (subject : Subject) : subject.opening ≠ subject.closing := by
  cases subject <;> exact (fun clash => nomatch clash)

end Subject

def Alert.subject (a : Alert) : Subject :=
  match a.alertType with
  | .missing | .insertion => .count a.device
  | .fault | .faultResolved =>
    if a.resourceId = some a.device then .array a.device else .drive a.device a.resourceId

theorem Alert.opening_or_closing (a : Alert) :
    a.alertType = a.subject.opening ∨ a.alertType = a.subject.closing := by
  unfold subject
  cases kind : a.alertType with
  | fault =>
      refine .inl ?_
      dsimp only
      split <;> rfl
  | faultResolved =>
      refine .inr ?_
      dsimp only
      split <;> rfl
  | missing => exact .inl rfl
  | insertion => exact .inr rfl

theorem Alert.device_of_count {a : Alert} {device : Text} (h : a.subject = .count device) :
    a.device = device ∧ (a.alertType = .missing ∨ a.alertType = .insertion) := by
  unfold subject at h
  cases kind : a.alertType with
  | fault =>
      rw [kind] at h
      dsimp only at h
      split at h <;> cases h
  | faultResolved =>
      rw [kind] at h
      dsimp only at h
      split at h <;> cases h
  | missing =>
      rw [kind] at h
      cases h
      exact ⟨rfl, .inl rfl⟩
  | insertion =>
      rw [kind] at h
      cases h
      exact ⟨rfl, .inr rfl⟩

theorem Alert.subject_of_missing {a : Alert} (h : a.alertType = .missing) :
    a.subject = .count a.device := by
  rw [subject, h]

/-- The alerts on one subject. -/
def alerts (subject : Subject) (sent : List Alert) : List AlertType :=
  entries subject (sent.map fun a => (a.subject, a.alertType))

/-- The last alert on the subject opened something. -/
def Pending (subject : Subject) (sent : List Alert) : Prop :=
  (alerts subject sent).getLast? = some subject.opening

instance (subject : Subject) (sent : List Alert) : Decidable (Pending subject sent) :=
  inferInstanceAs (Decidable (_ = _))

def Alternate (subject : Subject) (sent : List Alert) : Prop :=
  Alternating subject.opening subject.closing (alerts subject sent)

variable {subject : Subject} {sent : List Alert} {a : Alert} {device name : Text}

theorem alerts_concat (subject : Subject) (sent : List Alert) (a : Alert) :
    alerts subject (sent ++ [a]) =
      if a.subject = subject then alerts subject sent ++ [a.alertType]
      else alerts subject sent := by
  rw [alerts, List.map_append, List.map_singleton, entries_concat]
  rfl

theorem pending_concat : Pending subject (sent ++ [a]) ↔
    if a.subject = subject then a.alertType = subject.opening else Pending subject sent := by
  unfold Pending
  rw [alerts_concat]
  split
  · rw [List.getLast?_concat, Option.some.injEq]
  · exact Iff.rfl

theorem Alternate.concat (h : Alternate subject sent)
    (fits : a.subject = subject → (a.alertType = subject.opening ↔ ¬ Pending subject sent)) :
    Alternate subject (sent ++ [a]) := by
  unfold Alternate
  rw [alerts_concat]
  split
  · rename_i same
    refine Alternating.concat.mpr ⟨h, ?_⟩
    by_cases opened : Pending subject sent
    · have other := mt (fits same).mp (not_not.mpr opened)
      rw [h.due_second subject.opening_ne_closing opened]
      subst same
      exact a.opening_or_closing.resolve_left other
    · rw [h.due_first opened]
      exact (fits same).mpr opened
  · exact h

structure Open (data : Data) (sent : List Alert) : Prop where
  array : ∀ device, device ∈ data.faultyDeviceList ↔ Pending (.array device) sent
  drive : ∀ device name, data.faulty device name = some true ↔
    Pending (.drive device (driveResource device name)) sent
  count : ∀ device, data.prevAlertType.get? device = some (some .missing) →
    Pending (.count device) sent

/-- What has been sent and stored. The alerts on the number of drives are looked at for some
arrays only. -/
structure Kept (watched : Text → Prop) (s : State) : Prop where
  alternate : ∀ subject, (∀ device, subject = .count device → watched device) →
    Alternate subject s.sent
  stored : ∃ data, s.store = some data ∧ Open data s.sent

structure Sound (watched : Text → Prop) (s : State) : Prop extends Kept watched s where
  live : Open s.data s.sent

variable {watched : Text → Prop} {s t : State}

theorem Kept.congr (h : Kept watched s) (sent : t.sent = s.sent) (store : t.store = s.store) :
    Kept watched t := by
  constructor
  · rw [sent]
    exact h.alternate
  · rw [sent, store]
    exact h.stored

/-- A step that sends nothing and leaves alone what the alerts depend on. -/
structure Still (s t : State) : Prop where
  alertType : t.alertType = s.alertType
  driveStateChanged : t.driveStateChanged = s.driveStateChanged
  sent : t.sent = s.sent
  store : t.store = s.store
  array : t.data.faultyDeviceList = s.data.faultyDeviceList
  drive : ∀ device name, t.data.faulty device name = some true ↔
    s.data.faulty device name = some true
  count : ∀ device, t.data.prevAlertType.get? device = some (some .missing) ↔
    s.data.prevAlertType.get? device = some (some .missing)

instance : IsPreorder State Still where
  refl _ := ⟨rfl, rfl, rfl, rfl, rfl, fun _ _ => .rfl, fun _ => .rfl⟩
  trans _ _ _ first second := {
    alertType := second.alertType.trans first.alertType
    driveStateChanged := second.driveStateChanged.trans first.driveStateChanged
    sent := second.sent.trans first.sent
    store := second.store.trans first.store
    array := second.array.trans first.array
    drive := fun device name => (second.drive device name).trans (first.drive device name)
    count := fun device => (second.count device).trans (first.count device) }

theorem Still.sound (still : Still s t) (h : Sound watched s) : Sound watched t := by
  refine ⟨h.toKept.congr still.sent still.store, ?_⟩
  rw [still.sent]
  constructor
  · rw [still.array]
    exact h.live.array
  · exact fun device name => (still.drive device name).trans (h.live.drive device name)
  · exact fun device missing => h.live.count device ((still.count device).mp missing)

/-- An alert is sent after its subject has been noted in the data. -/
theorem Sound.sendAlert (h : Sound watched s) (sent : t.sent = s.sent)
    (fits : (∀ device, a.subject = .count device → watched device) →
      (a.alertType = a.subject.opening ↔ ¬ Pending a.subject s.sent))
    (array : ∀ device, device ∈ t.data.faultyDeviceList ↔
      if a.subject = .array device then a.alertType = .fault
      else device ∈ s.data.faultyDeviceList)
    (drive : ∀ device name, t.data.faulty device name = some true ↔
      if a.subject = .drive device (driveResource device name) then a.alertType = .fault
      else s.data.faulty device name = some true)
    (count : ∀ device, t.data.prevAlertType.get? device = some (some .missing) →
      s.data.prevAlertType.get? device = some (some .missing)) :
    Sound watched (send a t) := by
  have live : Open (send a t).data (send a t).sent := by
    show Open _ (t.sent ++ [a])
    rw [sent]
    constructor
    · intro device
      rw [pending_concat, ← h.live.array device]
      exact array device
    · intro device name
      rw [pending_concat, ← h.live.drive device name]
      exact drive device name
    · intro device missing
      have last : (if device = a.device then some (some a.alertType)
          else t.data.prevAlertType.get? device) = some (some .missing) :=
        (Dict.get?_set _ _ _ _).symm.trans missing
      rw [pending_concat]
      split at last
      · rename_i same
        have kind : a.alertType = .missing := Option.some.inj (Option.some.inj last)
        rw [if_pos (by rw [same, Alert.subject_of_missing kind])]
        exact kind
      · rename_i other
        rw [if_neg (fun same => other (Alert.device_of_count same).1.symm)]
        exact h.live.count device (count device last)
  refine ⟨⟨?_, (send a t).data, rfl, live⟩, live⟩
  intro subject look
  show Alternate subject (t.sent ++ [a])
  rw [sent]
  refine (h.alternate subject look).concat ?_
  rintro rfl
  exact fits look

theorem driveResource_ne (device name : Text) : driveResource device name ≠ some device := by
  intro same
  have lengths := congrArg List.length (Option.some.inj same)
  simp only [List.length_append] at lengths
  have : 0 < ":/dev/".toList.length := by decide
  omega

theorem driveResource_inj {name' : Text} :
    driveResource device name = driveResource device name' ↔ name = name' := by
  constructor
  · exact fun same => List.append_cancel_left (Option.some.inj same)
  · rintro rfl
    rfl

/-- Nothing is decided on that has not been sent. -/
def Idle (s : State) : Prop := s.driveStateChanged = true → s.alertType = none

/-- There is nothing to send, or sending it is right. -/
structure Ready (watched : Text → Prop) (device : Text) (s : State) : Prop where
  kept : Kept watched s
  quiet : s.driveStateChanged = true → s.alertType = none → Open s.data s.sent
  idle : s.driveStateChanged ≠ true → Open s.data s.sent
  decided : ∀ alertType names drives, s.driveStateChanged = true →
    s.alertType = some alertType →
      Sound watched (send (alert alertType s.resourceId device drives)
        { s with data := { s.data with
          prevDriveDict := s.data.prevDriveDict.set device names } })

theorem Still.leaveIdle (still : Still s t) (idle : Idle s) : Idle t := by
  unfold Idle
  rw [still.alertType, still.driveStateChanged]
  exact idle

theorem Ready.of_decided (kept : Kept watched s) {alertType : AlertType}
    (decided : s.alertType = some alertType) (changed : s.driveStateChanged = true)
    (sound : ∀ names drives, Sound watched (send (alert alertType s.resourceId device drives)
      { s with data := { s.data with
        prevDriveDict := s.data.prevDriveDict.set device names } })) :
    Ready watched device s where
  kept := kept
  quiet _ nothing := absurd (decided.symm.trans nothing) nofun
  idle unchanged := absurd changed unchanged
  decided _ names drives _ now := by
    cases Option.some.inj (decided.symm.trans now)
    exact sound names drives

theorem Sound.ready (h : Sound watched s) (idle : Idle s) (device : Text) :
    Ready watched device s where
  kept := h.toKept
  quiet _ _ := h.live
  idle _ := h.live
  decided _ _ _ changed decided := absurd (idle changed) (by rw [decided]; exact nofun)

theorem leaves_sendJsonMsg {P : State → Prop} {o : Outside} {alertType : AlertType}
    {resourceId : Option Text} {drives : List Drive}
    (sent : P (send (alert alertType resourceId device drives) s)) :
    (sendJsonMsg o alertType resourceId device drives).Leaves (fun _ => P) (fun _ => P) s := by
  apply Try.leaves_bind.mpr
  apply Try.leaves_bind.mpr
  apply Try.leaves_ite.mpr
  split
  · exact sent
  · exact sent

theorem idle_send (a : Alert) (s : State) : Idle (send a s) := fun _ => rfl

theorem leaves_sendDecided (o : Outside) (driveDict : Dict Text (List Text))
    (h : Ready watched device s) : (sendDecided o driveDict device).Leaves
      (fun _ t => Sound watched t ∧ Idle t) (fun _ => Kept watched) s := by
  apply Try.leaves_bind.mpr
  apply Try.leaves_get.mpr
  cases decided : s.alertType with
  | none =>
      dsimp only
      by_cases changed : s.driveStateChanged = true
      · exact ⟨⟨h.kept, h.quiet changed decided⟩, fun _ => decided⟩
      · exact ⟨⟨h.kept, h.idle changed⟩, fun now => absurd now changed⟩
  | some alertType =>
      dsimp only
      apply Try.leaves_ite.mpr
      split
      · rename_i changed
        apply Try.leaves_bind.mpr
        apply Try.leaves_ofExcept.mpr
        cases item driveDict device with
        | error err => exact h.kept
        | ok names =>
            apply Try.leaves_bind.mpr
            apply Try.leaves_bind.mpr
            apply Try.leaves_ofExcept.mpr
            cases item s.data.drives device with
            | error err => exact h.kept.congr rfl rfl
            | ok drives =>
                have sound := h.decided alertType names drives changed decided
                apply (leaves_sendJsonMsg (P := fun t => Sound watched t ∧ Idle t)
                  ⟨sound, idle_send _ _⟩).mono
                · exact fun _ _ left => left
                · exact fun _ _ raised => raised.1.toKept
      · rename_i unchanged
        exact ⟨⟨h.kept, h.idle unchanged⟩, fun now => absurd now unchanged⟩

def withDrives (drives : Dict Text (List Drive)) (s : State) : State :=
  { s with data := { s.data with drives := drives } }

/-- What `_map_drive_status` does: it changes the drives and nothing else. -/
def OnlyDrives (s t : State) : Prop := ∃ drives, t = withDrives drives s

instance : IsPreorder State OnlyDrives where
  refl s := ⟨s.data.drives, rfl⟩
  trans _ _ _ := by
    rintro ⟨drives, rfl⟩ ⟨drives', rfl⟩
    exact ⟨drives', rfl⟩

theorem mapDriveStatus_keeps (device : Text) (drives : Drives) (drvStatus : Text) :
    Try.Keeps OnlyDrives (mapDriveStatus device drives drvStatus) := by
  apply Try.Keeps.get.bind
  intro s
  apply (Try.Keeps.ofExcept _).bind
  intro drvs
  apply Try.Keeps.forM
  intro i
  apply Try.Keeps.get.bind
  intro s
  apply (Try.Keeps.ofExcept _).bind
  intro drvs
  cases drvs[i]? with
  | none => exact Try.Keeps.pure _
  | some drv =>
      apply (Try.Keeps.ofExcept _).bind
      intro drv
      exact Try.Keeps.modify fun s => ⟨_, rfl⟩

theorem leaves_mapDriveStatus {drives : Drives} {drvStatus : Text} {Q : PUnit → State → Prop}
    {E : Raised → State → Prop} (returned : ∀ drvs, Q ⟨⟩ (withDrives drvs s))
    (raised : ∀ err drvs, E err (withDrives drvs s)) :
    (mapDriveStatus device drives drvStatus).Leaves Q E s := by
  apply (mapDriveStatus_keeps device drives drvStatus s).mono
  · rintro _ _ ⟨drvs, rfl⟩
    exact returned drvs
  · rintro err _ ⟨drvs, rfl⟩
    exact raised err drvs

theorem subject_array {alertType : AlertType} {drives : List Drive}
    (kind : alertType = .fault ∨ alertType = .faultResolved) :
    (alert alertType (some device) device drives).subject = .array device := by
  rcases kind with rfl | rfl <;> exact if_pos rfl

theorem subject_drive {alertType : AlertType} {drives : List Drive}
    (kind : alertType = .fault ∨ alertType = .faultResolved) :
    (alert alertType (driveResource device name) device drives).subject =
      .drive device (driveResource device name) := by
  rcases kind with rfl | rfl <;> exact if_neg (driveResource_ne device name)

/-- An alert on an array, after the array has been added to those with a fault or removed. -/
theorem Sound.sendArray (h : Sound watched s) {alertType : AlertType} {drives : List Drive}
    {resourceId : Option Text} (resource : resourceId = some device)
    (kind : alertType = .fault ∨ alertType = .faultResolved)
    (turns : alertType = .fault ↔ device ∉ s.data.faultyDeviceList) (sent : t.sent = s.sent)
    (array : ∀ x, x ∈ t.data.faultyDeviceList ↔
      if x = device then alertType = .fault else x ∈ s.data.faultyDeviceList)
    (drive : t.data.faultyDriveList = s.data.faultyDriveList)
    (count : t.data.prevAlertType = s.data.prevAlertType) :
    Sound watched (send (alert alertType resourceId device drives) t) := by
  subst resource
  apply h.sendAlert sent
  · intro _
    rw [subject_array kind, ← h.live.array device]
    exact turns
  · intro x
    rw [subject_array kind, array x]
    simp only [Subject.array.injEq, eq_comm (a := device)]
    rfl
  · intro x name
    rw [subject_array kind, if_neg nofun, Data.faulty, drive]
    rfl
  · intro x missing
    rwa [count] at missing

/-- An alert on a drive, after the drive has been added to those with a fault or removed. -/
theorem Sound.sendDrive (h : Sound watched s) {alertType : AlertType} {drives : List Drive}
    {resourceId : Option Text} (resource : resourceId = driveResource device name)
    (kind : alertType = .fault ∨ alertType = .faultResolved)
    (turns : alertType = .fault ↔ s.data.faulty device name ≠ some true) (sent : t.sent = s.sent)
    (array : t.data.faultyDeviceList = s.data.faultyDeviceList)
    (drive : ∀ x y, t.data.faulty x y = some true ↔
      if x = device ∧ y = name then alertType = .fault else s.data.faulty x y = some true)
    (count : t.data.prevAlertType = s.data.prevAlertType) :
    Sound watched (send (alert alertType resourceId device drives) t) := by
  subst resource
  apply h.sendAlert sent
  · intro _
    rw [subject_drive kind, ← h.live.drive device name]
    exact turns
  · intro x
    rw [subject_drive kind, if_neg nofun, array]
  · intro x y
    have same : (Subject.drive device (driveResource device name) =
        .drive x (driveResource x y)) ↔ x = device ∧ y = name := by
      constructor
      · intro same
        obtain ⟨rfl, resources⟩ := Subject.drive.inj same
        exact ⟨rfl, (driveResource_inj.mp resources).symm⟩
      · rintro ⟨rfl, rfl⟩
        rfl
    rw [subject_drive kind, drive x y]
    simp only [same]
    rfl
  · intro x missing
    rwa [count] at missing

/-- An alert on the number of drives of an array. -/
theorem Sound.sendCount (h : Sound watched s) {alertType : AlertType} {drives : List Drive}
    {resourceId : Option Text} (kind : alertType = .missing ∨ alertType = .insertion)
    (turns : watched device → (alertType = .missing ↔ ¬ Pending (.count device) s.sent))
    (sent : t.sent = s.sent) (array : t.data.faultyDeviceList = s.data.faultyDeviceList)
    (drive : t.data.faultyDriveList = s.data.faultyDriveList)
    (count : t.data.prevAlertType = s.data.prevAlertType) :
    Sound watched (send (alert alertType resourceId device drives) t) := by
  have subject : (alert alertType resourceId device drives).subject = .count device := by
    rcases kind with rfl | rfl <;> rfl
  apply h.sendAlert sent
  · intro look
    rw [subject] at look ⊢
    exact turns (look device rfl)
  · intro x
    rw [subject, if_neg nofun, array]
  · intro x name
    rw [subject, if_neg nofun, Data.faulty, drive]
    rfl
  · intro x missing
    rwa [count] at missing

end Raid

end Sspl

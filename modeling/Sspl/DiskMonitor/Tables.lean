import Sspl.DiskMonitor.Monitor

/-!
# The two tables of drives

Examining the drives relies on it that the two tables are consistent: they have the same
paths, and of every drive it is known whether it belongs to the server. A drive that a
signal adds gets this information only if it belongs to the server. The others are lost
half-way between the tables, and with that the removal of the drive is too.
-/

namespace Sspl

namespace DiskMonitor

open Iem (Text)

/-- What the tables have of a path: `node_disk` in the first, and whether it is in the
second. -/
def shape (s : State) (path : Text) : Option (Option Bool) × Bool :=
  ((s.drives.get? path).map Entry.nodeDisk, (s.existingDrive.get? path).isSome)

abbrev SameTables : State → State → Prop := Try.SameView shape

def Output.isAck : Output → Bool
  | .ack .. => true
  | _ => false

def State.acks (s : State) : List Output := s.sent.filter Output.isAck

/-- The notes on jobs, objects and links. -/
structure SameObjects (s t : State) : Prop where
  smartJobs : t.smartJobs = s.smartJobs
  diskObjects : t.diskObjects = s.diskObjects
  driveById : t.driveById = s.driveById
  driveByDeviceName : t.driveByDeviceName = s.driveByDeviceName

instance : IsPreorder State SameObjects where
  refl _ := ⟨rfl, rfl, rfl, rfl⟩
  trans _ _ _ first second := {
    smartJobs := second.smartJobs.trans first.smartJobs
    diskObjects := second.diskObjects.trans first.diskObjects
    driveById := second.driveById.trans first.driveById
    driveByDeviceName := second.driveByDeviceName.trans first.driveByDeviceName }

structure Quiet (s t : State) : Prop extends SameObjects s t where
  drives : t.drives = s.drives
  existingDrive : t.existingDrive = s.existingDrive
  smartSupported : t.smartSupported = s.smartSupported
  smartUuids : t.smartUuids = s.smartUuids
  simulated : t.simulatedSmartFailures = s.simulatedSmartFailures
  acks : t.acks = s.acks

instance : IsPreorder State Quiet where
  refl s := ⟨refl s, rfl, rfl, rfl, rfl, rfl, rfl⟩
  trans _ _ _ first second := {
    toSameObjects := IsTrans.trans _ _ _ first.toSameObjects second.toSameObjects
    drives := second.drives.trans first.drives
    existingDrive := second.existingDrive.trans first.existingDrive
    smartSupported := second.smartSupported.trans first.smartSupported
    smartUuids := second.smartUuids.trans first.smartUuids
    simulated := second.simulated.trans first.simulated
    acks := second.acks.trans first.acks }

theorem Quiet.sameTables {s t : State} (h : Quiet s t) : SameTables s t := by
  funext path
  rw [shape, shape, h.drives, h.existingDrive]

theorem keeps_of_quiet {α : Type} {block : Try State Raised α} (h : Try.Keeps Quiet block) :
    Try.Keeps SameTables block := h.mono fun _ _ => Quiet.sameTables

section Quiet

variable (o : Outside)

theorem acks_append {s : State} {sent : List Output} (noAck : sent.filter Output.isAck = []) :
    (s.sent ++ sent).filter Output.isAck = s.acks := by
  rw [List.filter_append, noAck, List.append_nil, State.acks]

theorem quiet_write {output : Output} (noAck : output.isAck = false) :
    Try.Keeps Quiet (write output) :=
  .modify fun s => ⟨⟨rfl, rfl, rfl, rfl⟩, rfl, rfl, rfl, rfl, rfl, acks_append (by simp [noAck])⟩

theorem quiet_putCache : Try.Keeps Quiet putCache :=
  .modify fun _ => ⟨⟨rfl, rfl, rfl, rfl⟩, rfl, rfl, rfl, rfl, rfl, rfl⟩

theorem quiet_toolFault (tool : Tool) : Try.Keeps Quiet (toolFault tool) :=
  .modify fun _ => ⟨⟨rfl, rfl, rfl, rfl⟩, rfl, rfl, rfl, rfl, rfl, acks_append rfl⟩

theorem quiet_toolResolved (tool : Tool) : Try.Keeps Quiet (toolResolved tool) := by
  refine .modify fun s => ?_
  split
  · exact ⟨⟨rfl, rfl, rfl, rfl⟩, rfl, rfl, rfl, rfl, rfl, acks_append rfl⟩
  · exact refl s

theorem quiet_isLocalDrive (path : Text) : Try.Keeps Quiet (isLocalDrive o path) := by
  refine .bind .get fun s => .bind (.ofExcept _) fun _ => ?_
  refine .ite (fun _ => .bind (quiet_toolResolved _) fun _ => .pure _) fun _ => ?_
  exact .ite (fun _ => .bind (quiet_toolFault _) fun _ => .pure _) fun _ => .pure _

theorem quiet_sendMsg (path : Text) (alertType : AlertType) :
    Try.Keeps Quiet (sendMsg path alertType) := by
  refine .bind .get fun s => .bind (.ofExcept _) fun _ => .bind (.ofExcept _) fun _ =>
    .bind (.ofExcept _) fun _ => ?_
  exact .bind (quiet_write rfl) fun _ => .pure _

theorem quiet_getDriveFaultInfo (path : Text) : Try.Keeps Quiet (getDriveFaultInfo o path) := by
  refine .bind .get fun s => .bind (.ofExcept _) fun _ => .bind (.ofExcept _) fun _ => ?_
  refine .ite (fun _ => .bind (quiet_toolFault _) fun _ => ?_) fun _ => ?_
  all_goals
    refine .ite (fun _ => .bind (quiet_toolResolved _) fun _ => ?_) fun _ => ?_
    all_goals exact .pure _

theorem quiet_notifyDiskMsgHandler (path status serialNumber : Text) :
    Try.Keeps Quiet (notifyDiskMsgHandler path status serialNumber) :=
  .bind .get fun _ => .bind (.ofExcept _) fun _ => quiet_write rfl

theorem quiet_notifyMsgHandlerSnDeviceMappings (path serialNumber : Text) :
    Try.Keeps Quiet (notifyMsgHandlerSnDeviceMappings path serialNumber) :=
  .bind .get fun _ => .bind (.ofExcept _) fun _ => .bind (.ofExcept _) fun _ => quiet_write rfl

theorem quiet_scheduleSmartTest (path : Text) (serialNumber : Option Text) :
    Try.Keeps Quiet (scheduleSmartTest o path serialNumber) := by
  refine .bind .get fun s => .bind (.ofExcept _) fun interfaces => ?_
  refine .ite (fun _ => ?_) fun _ => .ite (fun _ => ?_) fun _ => .pure _
  · split
    · exact .pure _
    · exact .throw _
    · exact .throw _
  · exact .bind (.ofExcept _) fun _ => .throw _

theorem quiet_processSmartStatus (path status serialNumber : Text) :
    Try.Keeps Quiet (processSmartStatus o path status serialNumber) :=
  .ite (fun _ => .pure _) fun _ => .ite (fun _ => quiet_scheduleSmartTest o path none) fun _ =>
    quiet_notifyDiskMsgHandler _ _ _

/-- Only what is known of objects and links is new. -/
structure Refreshed (s t : State) : Prop where
  drives : t.drives = s.drives
  existingDrive : t.existingDrive = s.existingDrive
  smartSupported : t.smartSupported = s.smartSupported
  smartJobs : t.smartJobs = s.smartJobs
  smartUuids : t.smartUuids = s.smartUuids
  simulated : t.simulatedSmartFailures = s.simulatedSmartFailures
  acks : t.acks = s.acks

instance : IsPreorder State Refreshed where
  refl _ := ⟨rfl, rfl, rfl, rfl, rfl, rfl, rfl⟩
  trans _ _ _ first second := {
    drives := second.drives.trans first.drives
    existingDrive := second.existingDrive.trans first.existingDrive
    smartSupported := second.smartSupported.trans first.smartSupported
    smartJobs := second.smartJobs.trans first.smartJobs
    smartUuids := second.smartUuids.trans first.smartUuids
    simulated := second.simulated.trans first.simulated
    acks := second.acks.trans first.acks }

theorem Quiet.refreshed {s t : State} (h : Quiet s t) : Refreshed s t :=
  ⟨h.drives, h.existingDrive, h.smartSupported, h.smartJobs, h.smartUuids, h.simulated, h.acks⟩

theorem Refreshed.sameTables {s t : State} (h : Refreshed s t) : SameTables s t := by
  funext path
  rw [shape, shape, h.drives, h.existingDrive]

theorem addSymlink_refreshed (drive : Text) (s : State) (symlink : Text) :
    Refreshed s (addSymlink drive s symlink) := by
  rw [addSymlink]
  split
  · exact ⟨rfl, rfl, rfl, rfl, rfl, rfl, rfl⟩
  · split
    · exact ⟨rfl, rfl, rfl, rfl, rfl, rfl, rfl⟩
    · exact refl s

theorem foldl_refreshed {ι : Type} {update : State → ι → State}
    (each : ∀ s i, Refreshed s (update s i)) (s : State) (list : List ι) :
    Refreshed s (list.foldl update s) := by
  induction list generalizing s with
  | nil => exact refl s
  | cons i rest ih => exact IsTrans.trans _ _ _ (each s i) (ih _)

theorem addBlock_refreshed (block : UdiskBlock) (s : State) : Refreshed s (addBlock block s) := by
  have links := foldl_refreshed (addSymlink_refreshed block.drive) s block.symlinks
  rw [addBlock]
  exact IsTrans.trans _ _ _ links ⟨rfl, rfl, rfl, rfl, rfl, rfl, rfl⟩

theorem updateByIdPaths_refreshed (s : State) : Refreshed s (updateByIdPaths o s) := by
  rw [updateByIdPaths]
  refine IsTrans.trans (r := Refreshed) _ { s with diskObjects := o.managed } _
    ⟨rfl, rfl, rfl, rfl, rfl, rfl, rfl⟩ (foldl_refreshed (fun s object => ?_) _ _)
  split
  · split
    · exact addBlock_refreshed _ s
    · exact refl s
  · exact refl s

theorem quiet_initDrive (path : Text) : Try.Keeps Quiet (initDrive o path) := by
  refine .bind .get fun s => .bind (.ofExcept _) fun interfaces => ?_
  split
  · exact .pure _
  · refine .ite (fun _ => ?_) fun _ => ?_
    · refine .bind (quiet_notifyDiskMsgHandler _ _ _) fun _ =>
        .bind (quiet_notifyMsgHandlerSnDeviceMappings _ _) fun _ => ?_
      exact .ite (fun _ => quiet_scheduleSmartTest _ _ _) fun _ => .pure _
    · exact .ite (fun _ => quiet_scheduleSmartTest _ _ _) fun _ => .pure _

theorem quiet_initEach (paths : List Text) : Try.Keeps Quiet (initEach o paths) := by
  induction paths with
  | nil => exact .pure _
  | cons path rest ih =>
      exact .bind (.tryCatch (quiet_initDrive o path) fun _ => .pure _) fun _ => ih

theorem refreshed_initDrives : Try.Keeps Refreshed (initDrives o) :=
  .bind (.modify (updateByIdPaths_refreshed o)) fun _ =>
    (quiet_initEach o _).mono fun _ _ => Quiet.refreshed

theorem quiet_resendDrive (serialNumber path : Text) :
    Try.Keeps Quiet (resendDrive serialNumber path) := by
  refine .bind .get fun s => .bind (.ofExcept _) fun interfaces => ?_
  split
  · exact .pure _
  · refine .bind (.ofExcept _) fun serial => .ite (fun _ => ?_) fun _ => .pure _
    exact .bind (quiet_notifyDiskMsgHandler _ _ _) fun _ =>
      quiet_notifyMsgHandlerSnDeviceMappings _ _

theorem quiet_resendEach (serialNumber : Text) (paths : List Text) :
    Try.Keeps Quiet (resendEach serialNumber paths) := by
  induction paths with
  | nil => exact .pure _
  | cons path rest ih =>
      exact .bind (.tryCatch (quiet_resendDrive _ path) fun _ => .pure _) fun _ => ih

end Quiet

section Keeps

variable {o : Outside} {s : State}

theorem item_eq_ok {ν : Type} {table : Dict Text ν} {key : Text} {value : ν} :
    item table key = .ok value ↔ table.get? key = some value := by
  rw [item]
  cases table.get? key <;> simp [keyError]

theorem shape_set_existing {path : Text} {d e : Existing}
    (found : s.existingDrive.get? path = some d) :
    SameTables s { s with existingDrive := s.existingDrive.set path e } := by
  funext m
  rw [shape, shape, Dict.get?_set]
  split
  · rename_i here
    rw [here, found]
    rfl
  · rfl

theorem shape_set_drives {path : Text} {d e : Entry} (found : s.drives.get? path = some d)
    (nodeDisk : e.nodeDisk = d.nodeDisk) :
    SameTables s { s with drives := s.drives.set path e } := by
  funext m
  rw [shape, shape, Dict.get?_set]
  split
  · rename_i here
    rw [here, found, Option.map_some, Option.map_some, nodeDisk]
  · rfl

theorem keeps_setFaulty (o : Outside) (path : Text) (faultDetected : Option Bool) :
    Try.Keeps SameTables (setFaulty o path faultDetected) := by
  intro s
  rw [Try.leaves_iff]
  refine Try.leads_get.mpr (Try.leads_ofExcept (fun _ _ => rfl) fun existing found => ?_)
  refine Try.leads_ofExcept (fun _ _ => rfl) fun fault _ => ?_
  split
  · rfl
  · rw [Try.leads_modify]
    have same := shape_set_existing (e := { existing with faulty := fault }) (item_eq_ok.mp found)
    refine (Try.Leads.of_keeps (keeps_of_quiet (quiet_getDriveFaultInfo o path)) same).bind
      fun info t same => ?_
    rw [Try.leads_get]
    refine Try.leads_ofExcept (fun _ _ => same) fun drive found => ?_
    rw [Try.leads_modify]
    have entered := shape_set_drives (e := { drive with smartAttributes := some info })
      (item_eq_ok.mp found) rfl
    exact (Try.Leads.of_keeps (keeps_of_quiet (quiet_sendMsg path _)) (entered.trans same)).bind
      fun _ _ same => same

section Relation

variable {R : State → State → Prop} [IsPreorder State R] (quiet : ∀ s t, Quiet s t → R s t)
  (faulty : ∀ path faultDetected, Try.Keeps R (setFaulty o path faultDetected))

include quiet faulty

/-- A loop that only looks at the drives and sets what is faulty. -/
theorem keeps_updateFaults (faultDetected : Option Bool) (paths : List Text) :
    Try.Keeps R (updateFaults o faultDetected paths) := by
  induction paths generalizing faultDetected with
  | nil => exact .pure _
  | cons path rest ih =>
      refine .bind .get fun s => .bind (.ofExcept _) fun onNode =>
        .bind (.ofExcept _) fun deviceName => ?_
      refine .ite (fun _ => (quiet_toolFault _).mono quiet) fun _ => ?_
      refine .ite (fun _ => .bind ((quiet_toolResolved _).mono quiet) fun _ => ?_) fun _ => ?_
      all_goals
        refine .bind (.ofExcept _) fun _ => .bind (.ofExcept _) fun found => ?_
        cases found with
        | gone => exact ih _
        | unchanged => exact .bind (faulty path _) fun _ => ih _
        | detected fault => exact .bind (faulty path _) fun _ => ih _

/-- The end of a signal on a drive. -/
theorem keeps_finish_of : Try.Keeps R (do updateDriveFaults o; putCache) := by
  refine .bind (.bind .get fun _ => ?_) fun _ => quiet_putCache.mono quiet
  exact .ite (fun _ => keeps_updateFaults quiet faulty _ _) fun _ => .pure _

end Relation

theorem keeps_finish (o : Outside) : Try.Keeps SameTables (do updateDriveFaults o; putCache) :=
  keeps_finish_of (fun _ _ => Quiet.sameTables) (keeps_setFaulty o)

theorem answerUuids_tables (serialNumber response : Text) (uuids : List Text) (s : State) :
    SameTables s (answerUuids serialNumber response uuids s) := by
  induction uuids generalizing s with
  | nil => rfl
  | cons uuid rest ih =>
      rw [answerUuids]
      split
      · exact ih _
      · exact ih s

theorem keeps_finishDrive (o : Outside) (path : Text) (interfaces : Interfaces) :
    Try.Keeps SameTables (finishDrive o path interfaces) := by
  refine .bind (.ofExcept _) fun drive => .bind (.ofExcept _) fun status => .bind .get fun s => ?_
  refine .bind (.modify fun _ => rfl) fun _ => ?_
  exact .bind (keeps_of_quiet (quiet_processSmartStatus o path _ _)) fun _ =>
    .modify fun _ => answerUuids_tables _ _ _ _

theorem keeps_finishEach (o : Outside) (job : Job) (objects : List (Text × Interfaces)) :
    Try.Keeps SameTables (finishEach o job objects) := by
  induction objects with
  | nil => exact .pure _
  | cons object rest ih =>
      exact .ite (fun _ => .bind (keeps_finishDrive o _ _) fun _ => ih) fun _ => ih

theorem keeps_testDrive (o : Outside) (serialNumber uuid path : Text) :
    Try.Keeps SameTables (testDrive o serialNumber uuid path) := by
  refine .bind .get fun s => ?_
  split
  · exact .pure _
  · refine .tryCatch (.bind (.modify fun _ => rfl) fun _ =>
      keeps_of_quiet (quiet_scheduleSmartTest _ _ _)) ?_
    exact fun raised => .ite (fun _ => .pure _) fun _ => .modify fun _ => rfl

theorem keeps_testEach (o : Outside) (serialNumber uuid : Text) (paths : List Text) :
    Try.Keeps SameTables (testEach o serialNumber uuid paths) := by
  induction paths with
  | nil => exact .pure _
  | cons path rest ih => exact .bind (keeps_testDrive o _ _ _) fun _ => ih

theorem keeps_processMsg (o : Outside) (request : Request) :
    Try.Keeps SameTables (processMsg o request) := by
  cases request with
  | simulateFailure nodeRequest serialNumber => exact .modify fun _ => rfl
  | resendDriveStatus serialNumber =>
      exact .bind (.modify fun _ => rfl) fun _ => keeps_of_quiet (quiet_resendEach _ _)
  | diskSmartTest serialNumber uuid =>
      refine .bind (.modify fun _ => rfl) fun _ => .bind .get fun s => ?_
      refine .ite (fun _ => ?_) fun _ => .modify fun _ => rfl
      refine .ite (fun _ => ?_) fun _ => keeps_testEach o _ _ _
      exact .bind (.modify fun _ => rfl) fun _ => keeps_testEach o _ _ _

end Keeps

section Changes

variable {o : Outside} {s t : State} {path : Text} {drive : UdiskDrive} {e : Entry}
  {alertType : AlertType} {shapes : Text → Option (Option Bool) × Bool}

/-- An insertion or a removal can be told of a drive of which it is known where it is. -/
theorem sendMsg_run (found : s.drives.get? path = some e) {onNode : Bool}
    (known : e.nodeDisk = some onNode) (change : alertType = .insertion ∨ alertType = .missing) :
    ∃ existing output, (sendMsg path alertType).run s =
      (.ok existing, { s with sent := s.sent ++ [output] }) := by
  have entry := item_eq_ok.mpr found
  have node : nodeDisk s path = .ok onNode := by
    rw [nodeDisk, entry]
    simp only [bind, Except.bind, known, Option.elim]
  have type : ∃ resourceType, getResourceType s path = .ok resourceType := by
    rw [getResourceType, node]
    exact ⟨_, rfl⟩
  have info : ∃ specificInfo, getSpecificInfo s path alertType = .ok specificInfo := by
    rw [getSpecificInfo.eq_def, entry, node]
    cases onNode <;> obtain rfl | rfl := change <;> exact ⟨_, rfl⟩
  obtain ⟨resourceType, type⟩ := type
  obtain ⟨specificInfo, info⟩ := info
  rw [sendMsg, Try.run_bind_of_ok (Try.run_get s), type, Try.run_ofExcept_bind_ok, info,
    Try.run_ofExcept_bind_ok, entry, Try.run_ofExcept_bind_ok]
  exact ⟨_, _, rfl⟩

/-- Of a drive of which it is not known nothing can be told. -/
theorem sendMsg_unknown (found : s.drives.get? path = some e) (unknown : e.nodeDisk = none) :
    ∃ err, (sendMsg path alertType).run s = (.error err, s) := by
  have type : getResourceType s path = keyError := by
    rw [getResourceType, nodeDisk, item_eq_ok.mpr found]
    simp only [bind, Except.bind, unknown, Option.elim]
    rfl
  refine ⟨.py .keyError, ?_⟩
  rw [sendMsg, Try.run_bind_of_ok (Try.run_get s), type]
  rfl

/-- The device of the drive is known and `hdparm` takes it for one of the server. -/
def Local (o : Outside) (s : State) (path : Text) : Prop :=
  ∃ deviceName, s.driveByDeviceName.get? path = some deviceName ∧
    (o.command path (hdparm deviceName)).localDrive = true

theorem isLocalDrive_run {deviceName : Text}
    (found : s.driveByDeviceName.get? path = some deviceName) :
    ∃ t, (isLocalDrive o path).run s =
      (.ok (o.command path (hdparm deviceName)).localDrive, t) ∧ Quiet s t := by
  have run : ∃ t, (isLocalDrive o path).run s =
      (.ok (o.command path (hdparm deviceName)).localDrive, t) := by
    rw [isLocalDrive, Try.run_bind_of_ok (Try.run_get s), item_eq_ok.mpr found,
      Try.run_ofExcept_bind_ok]
    dsimp only
    split
    · exact ⟨_, rfl⟩
    · split <;> exact ⟨_, rfl⟩
  obtain ⟨t, run⟩ := run
  exact ⟨t, run, (quiet_isLocalDrive o path).of_run run⟩

theorem shape_set (e : Entry) (m : Text) :
    shape { s with drives := s.drives.set path e } m =
      if m = path then (some e.nodeDisk, (shape s path).2) else shape s m := by
  rw [shape, Dict.get?_set]
  split
  · rename_i here
    rw [here]
    rfl
  · rfl

theorem leads_finish (same : shape s = shapes) :
    Try.Leads shape (do updateDriveFaults o; putCache) s shapes :=
  .of_keeps (keeps_finish o) same

/-- The drive belongs to the server: its alert is sent and both entries are made. -/
theorem leads_insertDrive_local (here : Local o s path) (drive : UdiskDrive) :
    (insertDrive o path drive).Leads shape s fun m =>
      if m = path then (some (some true), true) else shape s m := by
  obtain ⟨deviceName, device, onNode⟩ := here
  obtain ⟨t, run, same⟩ : ∃ t, (isLocalDrive o path).run
      { s with drives := s.drives.set path { dbusInfo := drive } } = (.ok _, t) ∧ Quiet _ t :=
    isLocalDrive_run device
  rw [insertDrive, Try.leads_modify, Try.leads_bind_of_ok run, if_pos onNode, Try.leads_modify]
  have found : (t.drives.set path { dbusInfo := drive, nodeDisk := some true }).get? path =
      some { dbusInfo := drive, nodeDisk := some true } := Dict.get?_set_self ..
  obtain ⟨stored, output, sent⟩ := sendMsg_run
    (s := { t with drives := t.drives.set path { dbusInfo := drive, nodeDisk := some true } })
    found rfl (.inl rfl)
  rw [Try.leads_bind_of_ok sent, Try.leads_modify]
  refine leads_finish (funext fun m => ?_)
  rw [shape, Dict.get?_set, Dict.get?_set]
  split
  · rfl
  · rename_i other
    rw [same.drives, same.existingDrive, Dict.get?_set_of_ne _ _ other]
    rfl

/-- Otherwise the drive stays without `node_disk` in the first table. -/
theorem leads_insertDrive_other (other : ¬ Local o s path) (drive : UdiskDrive) :
    (insertDrive o path drive).Leads shape s fun m =>
      if m = path then (some none, (shape s path).2) else shape s m := by
  rw [insertDrive, Try.leads_modify]
  have half : shape { s with drives := s.drives.set path { dbusInfo := drive } } =
      fun m => if m = path then (some none, (shape s path).2) else shape s m :=
    funext (shape_set { dbusInfo := drive })
  cases device : s.driveByDeviceName.get? path with
  | none =>
      have raised : (isLocalDrive o path).run
          { s with drives := s.drives.set path { dbusInfo := drive } } =
            (.error (.py .keyError),
              { s with drives := s.drives.set path { dbusInfo := drive } }) := by
        rw [isLocalDrive, Try.run_bind_of_ok (Try.run_get _), item, device]
        rfl
      exact (Try.leads_bind_of_error raised).mpr half
  | some deviceName =>
      obtain ⟨t, run, same⟩ : ∃ t, (isLocalDrive o path).run
          { s with drives := s.drives.set path { dbusInfo := drive } } = (.ok _, t) ∧ Quiet _ t :=
        isLocalDrive_run device
      rw [Try.leads_bind_of_ok run, if_neg fun onNode => other ⟨deviceName, device, onNode⟩]
      have found : t.drives.get? path = some { dbusInfo := drive } := by
        rw [same.drives]
        exact Dict.get?_set_self ..
      obtain ⟨err, raised⟩ : ∃ err, (sendMsg path .insertion).run t = (.error err, t) :=
        sendMsg_unknown found rfl
      exact (Try.leads_bind_of_error raised).mpr (same.sameTables.trans half)

/-- A drive that is in both tables is taken out of both. -/
theorem leads_removeDrive {onNode : Bool} (known : shape s path = (some (some onNode), true)) :
    (removeDrive o path).Leads shape s fun m =>
      if m = path then (none, false) else shape s m := by
  obtain ⟨first, second⟩ := Prod.mk.inj known
  obtain ⟨e, found, nodeDisk⟩ := Option.map_eq_some_iff.mp first
  obtain ⟨existing, present⟩ := Option.isSome_iff_exists.mp second
  obtain ⟨stored, output, sent⟩ := sendMsg_run found nodeDisk (.inr rfl)
  rw [removeDrive, Try.leads_get, found]
  dsimp only
  rw [Try.leads_bind_of_ok sent, Try.leads_modify]
  refine Try.leads_ofExcept (fun err missing => ?_) fun _ _ => ?_
  · rw [item_eq_ok.mpr present] at missing
    cases missing
  · rw [Try.leads_modify]
    refine leads_finish (funext fun m => ?_)
    rw [shape, Dict.get?_erase, Dict.get?_erase]
    split <;> rfl

theorem leads_removeDrive_absent (absent : (shape s path).1 = none) :
    (removeDrive o path).Leads shape s (shape s) := by
  rw [removeDrive, Try.leads_get, Option.map_eq_none_iff.mp absent]
  rfl

end Changes

end DiskMonitor

end Sspl

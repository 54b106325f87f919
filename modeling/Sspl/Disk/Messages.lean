import Mathlib.Tactic.SplitIfs
import Sspl.Disk.Tables

/-!
# What a message does to the tables

A message of the drive manager sets one entry of its table, one of HPI one entry of the
other and the place of an entry of the first. Sending and serializing come after the entry
is set, so they change nothing about it, whether they succeed or raise.
-/

namespace Sspl

namespace Disk

open Iem (Text strip)

def tables (s : State) : Table × Table := (s.drvmngrDrives, s.hpiDrives)

/-- The tables are as they were. -/
abbrev SameTables : State → State → Prop := Try.SameView tables

section Blocks

variable {conf : Config} {now : Int} {s : State} {d : Drive} {k status pathId : Option Text}

theorem notNone_some {α : Type} (a : α) : notNone (some a) = .ok a := rfl

theorem keeps_write (output : Output) : Try.Keeps SameTables (write output) :=
  .modify fun _ => rfl

theorem keeps_serializeDiskStatus (conf : Config) :
    Try.Keeps SameTables (serializeDiskStatus conf) := by
  refine .modify fun s => ?_
  split <;> rfl

theorem keeps_serializeDiskInfo (conf : Config) :
    Try.Keeps SameTables (serializeDiskInfo conf) := by
  refine .modify fun s => ?_
  split <;> rfl

theorem keeps_sendAll (message : Drive → Except PyErr Output) (values : List (Option Drive)) :
    Try.Keeps SameTables (sendAll message values) := by
  induction values with
  | nil => exact .pure _
  | cons v rest ih =>
      exact .bind (.ofExcept _) fun _ => .bind (.ofExcept _) fun _ =>
        .bind (keeps_write _) fun _ => ih

theorem leads_publish (conf : Config) (k : Option Text) (d : Drive) (s : State) :
    (publish conf k d).Leads tables s (s.drvmngrDrives.set k (some d), s.hpiDrives) := by
  rw [publish, Try.leads_modify]
  exact .of_keeps (.bind (.ofExcept _) fun _ => .bind (keeps_write _) fun _ =>
    keeps_serializeDiskStatus conf) rfl

theorem countDrivemanagerEvent_same (conf : Config) (now : Int) (s : State) :
    SameTables s (countDrivemanagerEvent conf now s).1 := by
  unfold countDrivemanagerEvent
  dsimp only
  split_ifs <;> rfl

theorem checkDrivemanagerEventsInterval_run (conf : Config) (now : Int) (s : State) :
    (checkDrivemanagerEventsInterval conf now).run s =
      (if (countDrivemanagerEvent conf now s).2 then .error .typeError else .ok ⟨⟩,
        (countDrivemanagerEvent conf now s).1) := by
  rw [checkDrivemanagerEventsInterval, Try.run_bind_of_ok (Try.run_get s),
    Try.run_bind_of_ok (Try.run_modify _ s)]
  split <;> rfl

/-- With a partial reset the check raises, without one the rest follows. -/
theorem leads_check {c : Prop} [Decidable c] {rest : Block} {shown : Table × Table}
    (counted : (c → (countDrivemanagerEvent conf now s).2 = false) → ∀ t, tables t = tables s →
      rest.Leads tables t shown)
    (reset : c → (countDrivemanagerEvent conf now s).2 = true → tables s = shown) :
    (if c then do checkDrivemanagerEventsInterval conf now; rest else rest : Block).Leads tables s
      shown := by
  have same := countDrivemanagerEvent_same conf now s
  have run := checkDrivemanagerEventsInterval_run conf now s
  by_cases empty : c
  · rw [if_pos empty]
    cases found : (countDrivemanagerEvent conf now s).2 with
    | true =>
        rw [found, if_pos rfl] at run
        exact (Try.leads_bind_of_error run).mpr (same.trans (reset empty found))
    | false =>
        rw [found, if_neg nofun] at run
        exact (Try.leads_bind_of_ok run).mpr (counted (fun _ => found) _ same)
  · rw [if_neg empty]
    exact counted (fun here => absurd here empty) s rfl

/-- The message comes through to the entry of the drive: it tells something new, no partial
reset of the expander is found, and Halon has not set the status. -/
def Updates (conf : Config) (now : Int) (s : State) (d : Drive) (status pathId : Option Text) :
    Prop :=
  ∃ old new, d.status = some old ∧ status = some new ∧
    ¬ (conf.lower old = conf.lower new ∧ d.pathId = pathId) ∧
    (new = "EMPTY_None".toList → (countDrivemanagerEvent conf now s).2 = false) ∧
    ¬ conf.mentions "halon" old

theorem leads_updateDrive (updates : Updates conf now s d status pathId) :
    (updateDrive conf now k d status pathId).Leads tables s
      (s.drvmngrDrives.set k (some { d with status := status, pathId := pathId }),
        s.hpiDrives) := by
  obtain ⟨old, new, old_, rfl, changed, counted, halon⟩ := updates
  rw [updateDrive, old_, Try.leads_ofExcept_ok (notNone_some old),
    Try.leads_ofExcept_ok (notNone_some new), if_neg changed]
  refine leads_check (fun _ t same => ?_) (fun empty reset => ?_)
  · obtain ⟨drvmngr, hpi⟩ := Prod.mk.inj same
    rw [if_neg halon, ← drvmngr, ← hpi]
    exact leads_publish conf k _ t
  · rw [counted empty] at reset
    cases reset

theorem leads_updateDrive_not (not : ¬ Updates conf now s d status pathId) :
    (updateDrive conf now k d status pathId).Leads tables s (tables s) := by
  rw [updateDrive]
  cases old_ : d.status with
  | none => exact (Try.leads_ofExcept_error rfl).mpr rfl
  | some old =>
      rw [Try.leads_ofExcept_ok (notNone_some old)]
      cases new_ : status with
      | none => exact (Try.leads_ofExcept_error rfl).mpr rfl
      | some new =>
          rw [Try.leads_ofExcept_ok (notNone_some new)]
          by_cases same : conf.lower old = conf.lower new ∧ d.pathId = pathId
          · rw [if_pos same]
            rfl
          rw [if_neg same]
          refine leads_check (fun counted t left => ?_) (fun _ _ => rfl)
          by_cases halon : conf.mentions "halon" old
          · rw [if_pos halon]
            exact left
          · exact absurd ⟨old, new, old_, new_, same, counted, halon⟩ not

theorem leads_drivemanager {shown : Table × Table} (found : s.drvmngrDrives.existing k = some d) :
    (processDrivemanagerResponse conf now k status pathId).Leads tables s shown ↔
      (updateDrive conf now k d status pathId).Leads tables s shown := by
  rw [processDrivemanagerResponse, Try.leads_get, found]

theorem leads_drivemanager_new (missing : s.drvmngrDrives.existing k = none) :
    (processDrivemanagerResponse conf now k status pathId).Leads tables s
      (s.drvmngrDrives.set k (some (newDrive s.hpiDrives k status pathId)), s.hpiDrives) := by
  rw [processDrivemanagerResponse, Try.leads_get, missing]
  exact leads_publish conf k _ s

theorem leads_hds (conf : Config) (reason : Option Text)
    (found : s.drvmngrDrives.existing k = some d) :
    (processHDSResponse conf k status reason).Leads tables s
      (s.drvmngrDrives.set k (some { d with status := some (str status ++ '_' :: str reason) }),
        s.hpiDrives) := by
  rw [processHDSResponse, Try.leads_get, found]
  exact Try.leads_modify.mpr (.of_keeps (keeps_serializeDiskStatus conf) rfl)

theorem leads_hds_missing (conf : Config) (status reason : Option Text)
    (missing : s.drvmngrDrives.existing k = none) :
    (processHDSResponse conf k status reason).Leads tables s (tables s) := by
  rw [processHDSResponse, Try.leads_get, missing]
  rfl

theorem keeps_transmitAllResponses (table : Table) :
    Try.Keeps SameTables (transmitAllResponses table) :=
  .ite (fun _ => .pure _) (fun _ => .throw _)

theorem keeps_smartTestRequest (conf : Config) (k : Option Text) (nodeRequest : Text)
    (uuid : Option Text) : Try.Keeps SameTables (smartTestRequest conf k nodeRequest uuid) := by
  refine .bind .get fun s => .ite (fun _ => keeps_sendAll _ _) fun _ => ?_
  exact .bind (.ofExcept _) fun _ => keeps_write _

theorem keeps_statusRequest (conf : Config) (table : State → Table)
    (message : Drive → Except PyErr Output) (all one none_ : String) (k : Option Text)
    (nodeRequest : Text) (uuid : Option Text) :
    Try.Keeps SameTables (statusRequest conf table message all one none_ k nodeRequest uuid) := by
  refine .bind .get fun s => .ite (fun _ => ?_) fun _ => .ite (fun _ => ?_) fun _ => ?_
  · exact .bind (keeps_sendAll _ _) fun _ => keeps_write _
  · exact keeps_serializeDiskInfo conf
  · split
    · exact .bind (.ofExcept _) fun _ => .bind (keeps_write _) fun _ => keeps_write _
    · exact keeps_write _

/-- What `updatePlace` makes of the table. -/
def placed (table : Table) (k : Option Text) (drive : Drive) : Table :=
  match table.existing k with
  | some entry =>
    if entry.enclosure ≠ drive.enclosure ∨ entry.driveNum ≠ drive.driveNum then
      table.set k (some { entry with enclosure := drive.enclosure, driveNum := drive.driveNum })
    else table
  | none => table

theorem leads_updatePlace (conf : Config) (k : Option Text) (drive : Drive) (s : State) :
    (updatePlace conf k drive).Leads tables s (placed s.drvmngrDrives k drive, s.hpiDrives) := by
  rw [updatePlace, Try.leads_get, placed]
  cases s.drvmngrDrives.existing k with
  | none => rfl
  | some entry =>
      dsimp only
      split
      · exact leads_publish conf k _ s
      · rfl

theorem keeps_requestResend (k : Option Text) : Try.Keeps SameTables (requestResend k) := by
  refine .modify fun s => ?_
  split <;> rfl

/-- The state in which the drive of a message is entered. -/
def cleared (data : HpiData) (drive : Drive) (s : State) : State :=
  if data.diskInstalled = some true ∧ data.diskPowered = some true then
    removeReplacedDrive data.serialNumber drive.enclosure drive.driveNum s
  else s

theorem leads_hpi {data : HpiData} {drive : Drive} (valid : hpiDrive data = some drive)
    (ready : drive.HpiReady) :
    (processHpiResponse conf data).Leads tables s
      (placed (cleared data drive s).drvmngrDrives data.serialNumber drive,
        (cleared data drive s).hpiDrives.set data.serialNumber (some drive)) := by
  obtain ⟨msg, made⟩ := toHPIjsonMsg_ok.mpr ready
  rw [processHpiResponse, valid]
  refine Try.leads_ite_modify.mpr (Try.leads_modify.mpr ?_)
  refine (Try.leads_ofExcept_ok made).mpr (Try.leads_modify.mpr ?_)
  exact (leads_updatePlace conf _ drive _).bind fun _ _ same =>
    .of_keeps (keeps_requestResend _) same

theorem leads_hpi_not {data : HpiData} {drive : Drive} (valid : hpiDrive data = some drive)
    (not : ¬ drive.HpiReady) :
    (processHpiResponse conf data).Leads tables s ((cleared data drive s).drvmngrDrives,
      (cleared data drive s).hpiDrives.set data.serialNumber (some drive)) := by
  rw [processHpiResponse, valid]
  refine Try.leads_ite_modify.mpr (Try.leads_modify.mpr ?_)
  cases made : toHPIjsonMsg conf.hostId drive none with
  | ok msg => exact absurd (toHPIjsonMsg_ok.mp ⟨msg, made⟩) not
  | error err => exact (Try.leads_ofExcept_error rfl).mpr rfl

theorem leads_hpi_invalid {data : HpiData} (invalid : hpiDrive data = none) :
    (processHpiResponse conf data).Leads tables s (tables s) := by
  rw [processHpiResponse, invalid]
  rfl

/-- A message without a WWN gives the drive that has its path new data. -/
theorem leads_notpresent {data : HpiData} {found drive : Drive}
    (serial : data.serialNumber ≠ notPresent)
    (known : findByPath data.eventPath s.hpiDrives.values = .ok (some found))
    (valid : hpiDrive (knownData data found) = some drive) :
    (processHpiResponseZBXNotpresent conf data).Leads tables s
      (s.drvmngrDrives, s.hpiDrives.set found.serialNumber (some drive)) := by
  rw [processHpiResponseZBXNotpresent, if_neg serial, Try.leads_get, Try.leads_ofExcept_ok known]
  dsimp only
  rw [valid]
  exact Try.leads_modify.mpr (.of_keeps (.bind (.ofExcept _) fun _ => keeps_write _) rfl)

theorem leads_notpresent_not {data : HpiData} (not : ∀ found drive,
      data.serialNumber ≠ notPresent →
      findByPath data.eventPath s.hpiDrives.values = .ok (some found) →
      hpiDrive (knownData data found) ≠ some drive) :
    (processHpiResponseZBXNotpresent conf data).Leads tables s (tables s) := by
  rw [processHpiResponseZBXNotpresent]
  by_cases serial : data.serialNumber = notPresent
  · rw [if_pos serial]
    rfl
  rw [if_neg serial, Try.leads_get]
  cases known : findByPath data.eventPath s.hpiDrives.values with
  | error err => exact (Try.leads_ofExcept_error rfl).mpr rfl
  | ok result =>
      rw [Try.leads_ofExcept_ok rfl]
      cases result with
      | none => rfl
      | some found =>
          cases valid : hpiDrive (knownData data found) with
          | none =>
              simp only [valid]
              rfl
          | some drive => exact absurd valid (not found drive serial known)

end Blocks

end Disk

end Sspl

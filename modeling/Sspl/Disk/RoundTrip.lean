import Mathlib.Logic.Nontrivial.Basic
import Sspl.Disk.Runs

/-!
# The place of a drive, there and back

The handler writes the place that HPI knows of a drive as a path and reads it from there for
the entry of the drive manager. The enclosure comes back as it was. The number comes back
with the blanks of the continued line before it, so that the two entries never agree.
-/

namespace Sspl

namespace Disk

open Iem (Text)

/-- The entry of the drive manager has the place that HPI tells: the same enclosure and the same
number, compared as texts as the handler does. -/
def SamePlace (k : Option Text) (hpi : Drive) (s : State) : Prop :=
  ∃ created, s.drvmngrDrives.existing k = some created ∧
    created.enclosure = hpi.enclosure ∧ created.driveNum = hpi.driveNum

/-- A message of HPI for the same place finds the entry of the drive manager as it should be, and
writes nothing. -/
def NothingChanged (conf : Config) (k : Option Text) (hpi : Drive) (s : State) : Prop :=
  ∀ drive : Drive, drive.enclosure = hpi.enclosure → drive.driveNum = hpi.driveNum →
    (updatePlace conf k drive).run s = (.ok ⟨⟩, s)

/-- Another drive that turns up at the place would replace the one of the entry. -/
def Recognised (k : Option Text) (hpi : Drive) (s : State) : Prop :=
  ∀ other, other ≠ k → k ∈ replaced other hpi.enclosure hpi.driveNum s.drvmngrDrives

section Created

variable {conf : Config} {now : Int} {s t : State} {k status pathId : Option Text}
  {hpi created : Drive}

variable (conf now status pathId) in
/-- The entry that is made for a drive that HPI knows. -/
theorem created_place (new : s.drvmngrDrives.existing k = none)
    (known : s.hpiDrives.existing k = some hpi)
    (plain : '/' ∉ hpi.enclosure ∧ '/' ∉ hpi.driveNum) :
    ∃ created, ((processDrivemanagerResponse conf now k status pathId).run s).2.drvmngrDrives =
        s.drvmngrDrives.set k (some created) ∧
      created.enclosure = hpi.enclosure ∧ created.driveNum = margin ++ hpi.driveNum := by
  have leads : (processDrivemanagerResponse conf now k status pathId).Leads tables s _ :=
    leads_drivemanager_new new
  refine ⟨newDrive s.hpiDrives k status pathId, (Prod.mk.inj leads).1, ?_⟩
  rw [newDrive_known known plain.1 plain.2]
  exact ⟨rfl, rfl⟩

/-- The blanks tell the two numbers apart. -/
theorem margin_append_ne (number : Text) : margin ++ number ≠ number := by
  intro same
  have lengths : (margin ++ number).length = number.length := by rw [same]
  rw [List.length_append] at lengths
  have blanks : margin.length = 33 := List.length_replicate
  omega

theorem Table.existing_set (table : Table) (k : Option Text) (d : Drive) :
    Table.existing (table.set k (some d)) k = some d := by
  rw [existing_eq_some, Dict.get?_set_self]

variable (entry : t.drvmngrDrives.existing k = some created)

include entry in
theorem not_samePlace (other : created.driveNum ≠ hpi.driveNum) : ¬ SamePlace k hpi t := by
  rintro ⟨found, here, -, driveNum⟩
  rw [entry] at here
  cases here
  exact other driveNum

include entry in
/-- The entry is set anew, whether or not it can be sent. -/
theorem not_nothingChanged (other : created.driveNum ≠ hpi.driveNum) :
    ¬ NothingChanged conf k hpi t := by
  intro same
  have after := congrArg (fun ended => ended.2.drvmngrDrives.existing k) (same hpi rfl rfl)
  have leads := leads_updatePlace conf k hpi t
  dsimp only at after
  rw [(Prod.mk.inj leads).1, placed, entry] at after
  dsimp only at after
  rw [if_pos (.inr other), Table.existing_set] at after
  apply other
  rw [← Option.some.inj after]

include entry in
theorem not_recognised (other : created.driveNum ≠ hpi.driveNum) : ¬ Recognised k hpi t := by
  intro recognised
  obtain ⟨drive, different⟩ : ∃ drive : Option Text, drive ≠ k := exists_ne k
  obtain ⟨found, here, -, driveNum, -⟩ := mem_replaced.mp (recognised drive different)
  rw [existing_eq_some.mp entry] at here
  cases here
  exact other driveNum.symm

end Created

/-- Whatever path HPI has told: the new entry of the drive manager is at another place, the
next message of HPI for the same place changes it, and until then another drive at the place
does not replace it. -/
theorem place_never_round_trips (conf : Config) (now : Int) (s : State) (data : HpiData)
    (hpi : Drive) (status pathId : Option Text) (accepted : hpiDrive data = some hpi)
    (known : s.hpiDrives.existing data.serialNumber = some hpi)
    (new : s.drvmngrDrives.existing data.serialNumber = none) :
    let after := ((processDrivemanagerResponse conf now data.serialNumber status pathId).run s).2
    ¬ SamePlace data.serialNumber hpi after ∧ ¬ NothingChanged conf data.serialNumber hpi after ∧
      ¬ Recognised data.serialNumber hpi after := by
  intro after
  obtain ⟨created, table, -, driveNum⟩ :=
    created_place conf now status pathId new known (hpiDrive_plain accepted).2
  have entry : after.drvmngrDrives.existing data.serialNumber = some created := by
    rw [table, Table.existing_set]
  have other : created.driveNum ≠ hpi.driveNum := by
    rw [driveNum]
    exact margin_append_ne hpi.driveNum
  exact ⟨not_samePlace entry other, not_nothingChanged entry other, not_recognised entry other⟩

namespace Example

/-- HPI tells of a drive in the third place. -/
def told : HpiData where
  serialNumber := some "A".toList
  eventPath := some "enclosure/disk/3".toList
  status := some "OK_None".toList
  drawer := some "0".toList
  location := some "3".toList
  manufacturer := some "SEAGATE".toList
  productName := some "ST4000".toList
  productVersion := some "1".toList
  wwn := some "5000".toList
  diskInstalled := some true
  diskPowered := some true

def toldDrive : Drive where
  eventPath := told.eventPath
  status := told.status
  serialNumber := told.serialNumber
  drawer := told.drawer
  location := told.location
  manufacturer := told.manufacturer
  productName := told.productName
  productVersion := told.productVersion
  wwn := told.wwn
  diskInstalled := told.diskInstalled
  diskPowered := told.diskPowered
  enclosure := "enclosure".toList
  driveNum := "3".toList

def afterTold : State := ((processHpiResponse conf told).run (start conf)).2

def afterCreated : State :=
  ((processDrivemanagerResponse conf 0 told.serialNumber (some "OK_None".toList)
    (some "wwn-1".toList)).run afterTold).2

theorem told_accepted : hpiDrive told = some toldDrive := by decide +kernel

theorem told_known : afterTold.hpiDrives.existing told.serialNumber = some toldDrive := by
  decide +kernel

theorem told_new : afterTold.drvmngrDrives.existing told.serialNumber = none := by
  decide +kernel

/-- The drive manager has an entry for the drive that HPI has told of. -/
theorem place_never_round_trips_third :
    ¬ SamePlace told.serialNumber toldDrive afterCreated ∧
      ¬ NothingChanged conf told.serialNumber toldDrive afterCreated ∧
      ¬ Recognised told.serialNumber toldDrive afterCreated :=
  place_never_round_trips conf 0 afterTold told toldDrive (some "OK_None".toList)
    (some "wwn-1".toList) told_accepted told_known told_new

theorem created_driveNum : (afterCreated.drvmngrDrives.existing told.serialNumber).map
    Drive.driveNum = some (margin ++ "3".toList) := by
  decide +kernel

/-- A drive of which both have told is not at the same place for both. -/
theorem place_not_round_trips : ¬ ∀ conf now s data hpi status pathId,
    hpiDrive data = some hpi → s.hpiDrives.existing data.serialNumber = some hpi →
    s.drvmngrDrives.existing data.serialNumber = none →
      let after := ((processDrivemanagerResponse conf now data.serialNumber status pathId).run s).2
      SamePlace data.serialNumber hpi after ∧ NothingChanged conf data.serialNumber hpi after ∧
        Recognised data.serialNumber hpi after := by
  intro always
  obtain ⟨⟨created, entry, -, same⟩, -⟩ := always conf 0 afterTold told toldDrive
    (some "OK_None".toList) (some "wwn-1".toList) told_accepted told_known told_new
  have number := created_driveNum
  rw [afterCreated, entry, Option.map_some, same] at number
  exact absurd number (by decide)

end Example

end Disk

end Sspl

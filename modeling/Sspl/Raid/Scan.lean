import Sspl.Raid.Tracking

/-!
# What the text of `/proc/mdstat` says

The arrays that are listed, their drives and the number of drives they should have are
functions of the text. Reading it sends nothing and leaves alone what is open.
-/

namespace Sspl

namespace Raid

open Iem (Text)

variable {s t : State} {device : Text}

def mdDevices (contents : Text) : List Text := (lines contents).filterMap mdDevice

/-- The number of drives on a status line. -/
def announced (statusLine : Text) : Option Nat :=
  (totalChar statusLine).bind fun c => (digit c).toOption

/-- `drive_dict` after some lines. -/
def listed : List Text → Dict Text (List Text) → Dict Text (List Text)
  | [], driveDict => driveDict
  | line :: rest, driveDict => listed rest <|
    match mdDevice line with
    | none => driveDict
    | some device => driveDict.set device (driveNames line)

def setTotal : Option Text → Option Nat → Dict Text Nat → Dict Text Nat
  | some device, some total, totalDrives => totalDrives.set device total
  | _, _, totalDrives => totalDrives

/-- `_total_drives` after some lines, the first of which may be a status line. -/
def totals : Option Text → List Text → Dict Text Nat → Dict Text Nat
  | _, [], totalDrives => totalDrives
  | parsed, line :: rest, totalDrives =>
    totals (mdDevice line) rest (setTotal parsed (announced line) totalDrives)

/-- The data change, but not those that the alerts depend on. -/
theorem Still.of_data {data : Data} (array : data.faultyDeviceList = s.data.faultyDeviceList)
    (drive : data.faultyDriveList = s.data.faultyDriveList)
    (count : data.prevAlertType = s.data.prevAlertType) : Still s { s with data := data } := by
  refine ⟨rfl, rfl, rfl, rfl, array, fun x y => ?_, fun x => ?_⟩
  · rw [Data.faulty, drive]
    rfl
  · rw [count]

/-- Nor do the numbers of drives. -/
def SameTotals (s t : State) : Prop := Still s t ∧ t.data.totalDrives = s.data.totalDrives

instance : IsPreorder State SameTotals where
  refl s := ⟨refl s, rfl⟩
  trans _ _ _ first second :=
    ⟨IsTrans.trans _ _ _ first.1 second.1, second.2.trans first.2⟩

theorem appendDrive_keeps (identity : Dict Int Text) (status device : Text) (driveIndex : Nat) :
    Try.Keeps SameTotals (appendDrive identity status device driveIndex) := by
  apply (Try.Keeps.ofExcept _).bind
  exact fun c => Try.Keeps.modify fun s => ⟨.of_data rfl rfl rfl, rfl⟩

/-- After the number of drives has been set. -/
def parseStatus (identity : Dict Int Text) (total : Nat) (statusLine device : Text) :
    Try State Raised Bool := do
  let status := (statusLine.splitOn ' ').getLastD []
  update fun data => { data with drives := data.drives.set device [] }
  (List.range total).forM (appendDrive identity status device)
  let s ← Try.get
  if s.data.raidStatus.get? device = some status then return false
  else do
    update fun data => { data with raidStatus := data.raidStatus.set device status }
    return true

theorem parseStatus_keeps (identity : Dict Int Text) (total : Nat) (statusLine device : Text) :
    Try.Keeps SameTotals (parseStatus identity total statusLine device) := by
  apply (Try.Keeps.modify fun s => ⟨.of_data rfl rfl rfl, rfl⟩).bind
  intro _
  apply (Try.Keeps.forM (appendDrive_keeps identity _ device) _).bind
  intro _
  apply Try.Keeps.get.bind
  intro s
  apply Try.Keeps.ite
  · exact fun _ => Try.Keeps.pure _
  · intro _
    apply (Try.Keeps.modify fun s => ⟨.of_data rfl rfl rfl, rfl⟩).bind
    exact fun _ => Try.Keeps.pure _

theorem leaves_parseRaidStatus (identity : Dict Int Text) (line device : Text) (s : State) :
    (parseRaidStatus identity line device).Leaves
      (fun _ t => Still s t ∧ t.data.totalDrives =
        match announced line with
        | none => s.data.totalDrives
        | some total => s.data.totalDrives.set device total)
      (fun _ t => Still s t) s := by
  unfold parseRaidStatus announced
  cases totalChar line with
  | none => exact ⟨refl s, rfl⟩
  | some c =>
      apply Try.leaves_bind.mpr
      apply Try.leaves_ofExcept.mpr
      dsimp only [Option.bind_some]
      cases digit c with
      | error err => exact refl s
      | ok total =>
          have numbered : Still s { s with data := { s.data with
              totalDrives := s.data.totalDrives.set device total } } := .of_data rfl rfl rfl
          apply Try.leaves_bind.mpr
          apply (parseStatus_keeps identity total line device _).mono
          · exact fun _ t same => ⟨IsTrans.trans _ _ _ numbered same.1, same.2⟩
          · exact fun _ t same => IsTrans.trans _ _ _ numbered same.1

/-- What a line says, in addition to what the lines before said. -/
structure Reads (line : Text) (scan : Scan) (s : State) (scan' : Scan) (t : State) : Prop where
  still : Still s t
  mdDeviceList : scan'.mdDeviceList = scan.mdDeviceList ++ (mdDevice line).toList
  driveDict : scan'.driveDict = listed [line] scan.driveDict
  parsed : scan'.parsed = mdDevice line
  counted : t.data.totalDrives = totals scan.parsed [line] s.data.totalDrives

theorem leaves_statusLine (line : Text) (scan : Scan) (s : State) :
    (statusLine line scan).Leaves
      (fun scan' t => Still s t ∧ scan'.mdDeviceList = scan.mdDeviceList ∧
        scan'.driveDict = scan.driveDict ∧ scan'.parsed = none ∧
        t.data.totalDrives = totals scan.parsed [line] s.data.totalDrives)
      (fun _ t => Still s t) s := by
  unfold statusLine
  cases parsed : scan.parsed with
  | none => exact ⟨refl s, rfl, rfl, parsed, rfl⟩
  | some device =>
      apply Try.leaves_bind.mpr
      apply (leaves_parseRaidStatus scan.identity line device s).mono
      · rintro changed t ⟨still, counted⟩
        refine ⟨still, rfl, rfl, rfl, counted.trans ?_⟩
        show _ = setTotal _ (announced line) _
        cases announced line <;> rfl
      · exact fun _ _ still => still

theorem addDevice_still (device : Text) (s : State) :
    Still s { s with data := addDevice device s.data } := by
  refine ⟨rfl, rfl, rfl, rfl, rfl, fun x y => ?_, fun x => ?_⟩
  · unfold addDevice Data.faulty
    dsimp only
    split
    · rename_i absent
      rw [Option.isNone_iff_eq_none] at absent
      rw [Dict.get?_set]
      split
      · rename_i same
        rw [same, absent]
        simp
      · rfl
    · rfl
  · unfold addDevice
    dsimp only
    split
    · rename_i absent
      rw [Option.isNone_iff_eq_none] at absent
      rw [Dict.get?_set]
      split
      · rename_i same
        rw [same, absent]
        simp
      · rfl
    · rfl

theorem leaves_scanLine (o : Outside) (line : Text) (scan : Scan) (s : State) :
    (scanLine o line scan).Leaves (Reads line scan s) (fun _ t => Still s t) s := by
  apply Try.leaves_bind.mpr
  apply (leaves_statusLine line scan s).mono
  · rintro scan' t ⟨still, devices, drives, parsed, counted⟩
    cases device : mdDevice line with
    | none =>
        refine ⟨still, ?_, ?_, ?_, counted⟩
        · rw [devices, device, Option.toList_none, List.append_nil]
        · rw [drives, listed, listed, device]
        · rw [parsed, device]
    | some device =>
        apply Try.leaves_bind.mpr
        refine ⟨IsTrans.trans _ _ _ still (addDevice_still _ t), ?_, ?_, ?_, counted⟩
        · rw [← devices, ‹mdDevice line = _›]
          rfl
        · rw [← drives, listed, listed, ‹mdDevice line = _›]
        · rw [‹mdDevice line = _›]
  · exact fun _ _ still => still

theorem leaves_scanLines (o : Outside) (lines : List Text) (scan : Scan) (s : State) :
    (scanLines o lines scan).Leaves
      (fun scan' t => Still s t ∧
        scan'.mdDeviceList = scan.mdDeviceList ++ lines.filterMap mdDevice ∧
        scan'.driveDict = listed lines scan.driveDict ∧
        t.data.totalDrives = totals scan.parsed lines s.data.totalDrives)
      (fun _ t => Still s t) s := by
  induction lines generalizing scan s with
  | nil => exact ⟨refl s, (List.append_nil _).symm, rfl, rfl⟩
  | cons line rest ih =>
      apply Try.leaves_bind.mpr
      apply (leaves_scanLine o line scan s).mono
      · intro scan' t read
        apply (ih scan' t).mono
        · rintro last u ⟨still, devices, drives, counted⟩
          refine ⟨IsTrans.trans _ _ _ read.still still, ?_, ?_, ?_⟩
          · rw [devices, read.mdDeviceList, List.append_assoc]
            congr 1
            cases found : mdDevice line with
            | none => rw [List.filterMap_cons_none found]; rfl
            | some device => rw [List.filterMap_cons_some found]; rfl
          · rw [drives, read.driveDict]
            rfl
          · rw [counted, read.counted, read.parsed]
            rfl
        · exact fun _ u still => IsTrans.trans _ _ _ read.still still
      · exact fun _ _ still => still

/-- The results of `_process_mdstat` are those of the text. -/
theorem leaves_processMdstat (o : Outside) (s : State) :
    (processMdstat o).Leaves
      (fun scan t => Still s t ∧ scan.mdDeviceList = mdDevices s.data.contents ∧
        scan.driveDict = listed (lines s.data.contents) .empty ∧
        t.data.totalDrives = totals none (lines s.data.contents) s.data.totalDrives)
      (fun _ t => Still s t) s :=
  leaves_scanLines o (lines s.data.contents) {} s

end Raid

end Sspl

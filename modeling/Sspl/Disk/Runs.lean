import Sspl.Disk.Messages

/-!
# Runs of the handler of disk messages

The tables stay in order over a run exactly if every message finds them so that its entry
fits in with the others. A drive at a place where the drive manager has another one does
not: the old one is not taken out of the tables but set to `None` in both.
-/

namespace Sspl

namespace Disk

open Iem (Text notMem_of_mem_splitOn)

theorem int_margin (text : Text) : int (margin ++ text) = int text := by
  have same (n : Nat) : parseInt (List.replicate n ' ' ++ text) = parseInt text := by
    induction n with
    | zero => rfl
    | succ n ih => rw [List.replicate_succ, List.cons_append, parseInt_cons rfl, ih]
  rw [int, int, margin, same]

theorem splitOn_path {first second third last : Text} (first_ : '/' ∉ first)
    (second_ : '/' ∉ second) (third_ : '/' ∉ third) (last_ : '/' ∉ last) :
    (first ++ '/' :: (second ++ '/' :: (third ++ '/' :: last))).splitOn '/' =
      [first, second, third, last] := by
  rw [List.splitOn_append_cons_self_of_not_mem first_,
    List.splitOn_append_cons_self_of_not_mem second_,
    List.splitOn_append_cons_self_of_not_mem third_, List.splitOn_eq_singleton last_]

section Drives

variable {hpiDrives : Table} {k status pathId : Option Text} {d : Drive}

/-- HPI knows the place of the drive. -/
theorem newDrive_known (found : hpiDrives.existing k = some d) (enclosure : '/' ∉ d.enclosure)
    (driveNum : '/' ∉ d.driveNum) :
    newDrive hpiDrives k status pathId =
      { eventPath :=
          some (d.enclosure ++ "/disk/".toList ++ margin ++ d.driveNum ++ "/status".toList)
        status := status
        serialNumber := k
        pathId := pathId
        enclosure := d.enclosure
        driveNum := margin ++ d.driveNum } := by
  have blanks : '/' ∉ margin ++ d.driveNum := by
    simp only [List.mem_append, not_or]
    exact ⟨by decide, driveNum⟩
  have path : d.enclosure ++ "/disk/".toList ++ margin ++ d.driveNum ++ "/status".toList =
      d.enclosure ++ '/' :: ("disk".toList ++ '/' ::
        ((margin ++ d.driveNum) ++ '/' :: "status".toList)) := by
    simp
  have split := splitOn_path enclosure (by decide : '/' ∉ "disk".toList) blanks
    (by decide : '/' ∉ "status".toList)
  rw [newDrive, found]
  dsimp only
  rw [Drive.parseDriveMngrPath, Option.map_some, path, split]

theorem newDrive_unknown (missing : hpiDrives.existing k = none) :
    newDrive hpiDrives k status pathId =
      { eventPath := some (notAvailable ++ "/disk/-1/status".toList)
        status := status
        serialNumber := k
        pathId := pathId
        enclosure := notAvailable
        driveNum := "-1".toList } := by
  have split := splitOn_path (by decide : '/' ∉ notAvailable) (by decide : '/' ∉ "disk".toList)
    (by decide : '/' ∉ "-1".toList) (by decide : '/' ∉ "status".toList)
  rw [newDrive, missing]
  dsimp only
  rw [Drive.parseDriveMngrPath, Option.map_some,
    show notAvailable ++ "/disk/-1/status".toList = notAvailable ++ '/' :: ("disk".toList ++ '/' ::
      ("-1".toList ++ '/' :: "status".toList)) from rfl, split]

theorem hpiDrive_plain {data : HpiData} (valid : hpiDrive data = some d) :
    d.serialNumber = data.serialNumber ∧ '/' ∉ d.enclosure ∧ '/' ∉ d.driveNum := by
  rw [hpiDrive, Drive.parseHpiPath] at valid
  split at valid
  · rename_i enclosure second driveNum rest split
    obtain ⟨path, -, parts⟩ := Option.map_eq_some_iff.mp split
    cases valid
    have first : enclosure ∈ path.splitOn '/' := by simp [parts]
    have third : driveNum ∈ path.splitOn '/' := by simp [parts]
    exact ⟨rfl, notMem_of_mem_splitOn first, notMem_of_mem_splitOn third⟩
  · cases valid

end Drives

section Tables

variable {all : Prop} {drvmngrDrives hpiDrives table : Table} {k : Option Text} {d e : Drive}

theorem existing_eq_some : table.existing k = some d ↔ table.get? k = some (some d) := by
  rw [Table.existing, Option.join_eq_some_iff]

theorem Table.all_set {P : Option Text → Drive → Prop} (h : table.All P) :
    Table.All P (table.set k (some d)) ↔ P k d := by
  constructor
  · intro after
    obtain ⟨_, same, property⟩ := after k _ (Dict.get?_set_self ..)
    cases same
    exact property
  · intro property m v found
    by_cases same : m = k
    · subst same
      rw [Dict.get?_set_self] at found
      cases found
      exact ⟨d, rfl, property⟩
    · rw [Dict.get?_set_of_ne _ _ same] at found
      exact h m v found

theorem Drive.SameSlot.symm (h : d.SameSlot e) : e.SameSlot d := ⟨h.1.symm, h.2.symm⟩

theorem Drive.SameSlot.hasHpi (h : d.SameSlot e) (known : d.HasHpi) : e.HasHpi := by
  rwa [HasHpi, ← h.1]

/-- No other drive of the drive manager is at the place. -/
def Alone (table : Table) (k : Option Text) (d : Drive) : Prop :=
  d.HasHpi → ∀ m e, table.get? m = some (some e) → m ≠ k → ¬ d.SameSlot e

theorem wellFormed_set (h : WellFormed all drvmngrDrives hpiDrives) :
    WellFormed all (drvmngrDrives.set k (some d)) hpiDrives ↔
      (d.serialNumber = k ∧ d.Ready ∧ (all → d.HasHpi)) ∧ Alone drvmngrDrives k d := by
  constructor
  · rintro ⟨entries, -, slots⟩
    refine ⟨(Table.all_set h.drvmngr).mp entries, ?_⟩
    intro known m e found other same
    refine other (slots k m d e (Dict.get?_set_self ..) ?_ known same).symm
    rw [Dict.get?_set_of_ne _ _ other, found]
  · rintro ⟨entry, alone⟩
    refine ⟨(Table.all_set h.drvmngr).mpr entry, h.hpi, ?_⟩
    intro a b x y atA atB known same
    rw [Dict.get?_set] at atA atB
    split at atA <;> split at atB
    · exact (‹a = k›).trans (‹b = k›).symm
    · cases atA
      exact absurd same (alone known b y atB ‹_›)
    · cases atB
      exact absurd same.symm (alone (same.hasHpi known) a x atA ‹_›)
    · exact h.slots a b x y atA atB known same

theorem wellFormed_set_hpi (h : WellFormed all table hpiDrives) :
    WellFormed all drvmngrDrives (hpiDrives.set k (some d)) ↔
      WellFormed all drvmngrDrives hpiDrives ∧ d.serialNumber = k ∧ d.HpiReady := by
  constructor
  · rintro ⟨entries, hpi, slots⟩
    exact ⟨⟨entries, h.hpi, slots⟩, (Table.all_set h.hpi).mp hpi⟩
  · rintro ⟨⟨entries, -, slots⟩, entry⟩
    exact ⟨entries, (Table.all_set h.hpi).mpr entry, slots⟩

/-- A drive stays where it is. -/
theorem alone_of_sameSlot (h : WellFormed all drvmngrDrives hpiDrives)
    (found : drvmngrDrives.get? k = some (some e)) (same : d.SameSlot e) :
    Alone drvmngrDrives k d := by
  intro known m x atM other slot
  refine other (h.slots k m e x found atM (same.hasHpi known) ?_).symm
  exact ⟨same.1.symm.trans slot.1, same.2.symm.trans slot.2⟩

theorem alone_congr (enclosure : d.enclosure = e.enclosure)
    (driveNum : int d.driveNum = int e.driveNum) : Alone table k d ↔ Alone table k e := by
  simp only [Alone, Drive.HasHpi, Drive.SameSlot, enclosure, driveNum]

/-- The places in the table can be written as they stand in a path of HPI. -/
def Plain (hpiDrives : Table) : Prop :=
  ∀ k d, hpiDrives.get? k = some (some d) → '/' ∉ d.enclosure ∧ '/' ∉ d.driveNum

theorem Plain.set (h : Plain hpiDrives) (plain : '/' ∉ d.enclosure ∧ '/' ∉ d.driveNum) :
    Plain (hpiDrives.set k (some d)) := by
  intro m e found
  rw [Dict.get?_set] at found
  split at found
  · cases found
    exact plain
  · exact h m e found

theorem mem_replaced {enclosure driveNum : Text} {old : Option Text} :
    old ∈ replaced k enclosure driveNum table ↔ ∃ d, table.get? old = some (some d) ∧
      enclosure = d.enclosure ∧ driveNum = d.driveNum ∧ k ≠ old := by
  simp only [replaced, List.mem_filterMap, Option.bind_eq_some_iff]
  constructor
  · rintro ⟨item, mem, d, value, here⟩
    split at here
    · cases here
      exact ⟨d, value ▸ Dict.mem_items.mp mem, ‹_›⟩
    · cases here
  · rintro ⟨d, found, place⟩
    exact ⟨(old, some d), Dict.mem_items.mpr found, d, rfl, if_pos place⟩

end Tables

section Cleared

variable {s : State} {data : HpiData} {drive : Drive} {k : Option Text}

theorem get?_removeReplacedDrive (k : Option Text) (enclosure driveNum : Text) (s : State)
    (m : Option Text) :
    (removeReplacedDrive k enclosure driveNum s).drvmngrDrives.get? m =
        (if m ∈ replaced k enclosure driveNum s.drvmngrDrives then some none
          else s.drvmngrDrives.get? m) ∧
      (removeReplacedDrive k enclosure driveNum s).hpiDrives.get? m =
        (if m ∈ replaced k enclosure driveNum s.drvmngrDrives then some none
          else s.hpiDrives.get? m) := by
  rw [removeReplacedDrive]
  generalize replaced k enclosure driveNum s.drvmngrDrives = olds
  induction olds generalizing s with
  | nil => simp
  | cons old rest ih =>
      rw [List.foldl_cons, (ih _).1, (ih _).2, Dict.get?_set, Dict.get?_set]
      by_cases later : m ∈ rest <;> by_cases here : m = old <;> simp [later, here]

/-- No drive has to make room for the one of the message. -/
def Vacant (data : HpiData) (drive : Drive) (s : State) : Prop :=
  data.diskInstalled = some true → data.diskPowered = some true →
    ∀ m e, s.drvmngrDrives.get? m = some (some e) → m ≠ data.serialNumber →
      ¬ (drive.enclosure = e.enclosure ∧ drive.driveNum = e.driveNum)

theorem cleared_of_vacant (vacant : Vacant data drive s) : cleared data drive s = s := by
  rw [cleared]
  split
  · rename_i powered
    have nobody :
        replaced data.serialNumber drive.enclosure drive.driveNum s.drvmngrDrives = [] := by
      refine List.eq_nil_iff_forall_not_mem.mpr fun old mem => ?_
      obtain ⟨e, found, enclosure, driveNum, other⟩ := mem_replaced.mp mem
      exact vacant powered.1 powered.2 old e found other.symm ⟨enclosure, driveNum⟩
    rw [removeReplacedDrive, nobody, List.foldl_nil]
  · rfl

/-- Otherwise an entry is set to `None`. -/
theorem cleared_of_not_vacant (not : ¬ Vacant data drive s) :
    ∃ old, old ≠ data.serialNumber ∧ (cleared data drive s).drvmngrDrives.get? old = some none := by
  simp only [Vacant, Classical.not_imp, not_forall, not_not] at not
  obtain ⟨installed, powered, old, e, found, other, enclosure, driveNum⟩ := not
  refine ⟨old, other, ?_⟩
  rw [cleared, if_pos ⟨installed, powered⟩, (get?_removeReplacedDrive ..).1, if_pos]
  exact mem_replaced.mpr ⟨e, found, enclosure, driveNum, other.symm⟩

theorem cleared_plain (h : Plain s.hpiDrives) : Plain (cleared data drive s).hpiDrives := by
  rw [cleared]
  split
  · intro m e found
    rw [(get?_removeReplacedDrive ..).2] at found
    split at found
    · cases found
    · exact h m e found
  · exact h

theorem get?_placed {table : Table} {old : Option Text} (other : old ≠ k) :
    (placed table k drive).get? old = table.get? old := by
  unfold placed
  split
  · split
    · exact Dict.get?_set_of_ne _ _ other
    · rfl
  · rfl

end Cleared

section Steps

variable {conf : Config} {all : Prop} {now : Int} {s t : State}
  {k status pathId : Option Text}

/-- A message of the drive manager: the status can be split and there is a path, if the
message comes through; and a new drive is alone at the place that HPI knows of it. -/
def MeetsDrivemanager (conf : Config) (all : Prop) (now : Int) (s : State)
    (k status pathId : Option Text) : Prop :=
  match s.drvmngrDrives.existing k with
  | some d => Updates conf now s d status pathId → Complete status pathId
  | none => Complete status pathId ∧ k.isSome ∧
      match s.hpiDrives.existing k with
      | some h => (all → h.HasHpi) ∧ Alone s.drvmngrDrives k h
      | none => ¬ all

/-- A message of HPI with a valid path: all fields are there and the numbers are numbers,
no other drive has to make room, and a drive that moves is alone at its new place. -/
structure MeetsHpi (all : Prop) (s : State) (data : HpiData) (drive : Drive) : Prop where
  ready : drive.HpiReady
  vacant : Vacant data drive s
  moves : ∀ d, s.drvmngrDrives.get? data.serialNumber = some (some d) →
    d.enclosure ≠ drive.enclosure ∨ d.driveNum ≠ drive.driveNum →
      (all → drive.HasHpi) ∧ Alone s.drvmngrDrives data.serialNumber drive

/-- A message of HPI without a WWN: the drive that has its path has its serial number too. -/
def MeetsNotpresent (s : State) (data : HpiData) : Prop :=
  data.serialNumber ≠ notPresent → ∀ found drive,
    findByPath data.eventPath s.hpiDrives.values = .ok (some found) →
    hpiDrive (knownData data found) = some drive →
      data.serialNumber = found.serialNumber ∧ drive.HpiReady

/-- The condition on a message, in the state that it finds. Halon and the requests are free, and so
is the resending of all drives. -/
def Meets (conf : Config) (all : Prop) (s : State) : Message × Int → Prop
  | (.drivemanager k status pathId, now) =>
    k ≠ star → MeetsDrivemanager conf all now s k status pathId
  | (.hpi data, _) => data.serialNumber ≠ star →
    if data.serialNumber = notPresent ∨ data.wwn = notPresent then MeetsNotpresent s data
    else ∀ drive, hpiDrive data = some drive → MeetsHpi all s data drive
  | _ => True

structure Invariant (all : Prop) (s : State) : Prop where
  wellFormed : WellFormed all s.drvmngrDrives s.hpiDrives
  plain : Plain s.hpiDrives

/-- The block ends with tables that are in order exactly under the condition. -/
def Turns (all meets : Prop) (block : Block) (s : State) : Prop :=
  ∃ drvmngrDrives hpiDrives, block.Leads tables s (drvmngrDrives, hpiDrives) ∧ Plain hpiDrives ∧
    (WellFormed all drvmngrDrives hpiDrives ↔ meets)

theorem Turns.of_leads {meets : Prop} {block : Block} (h : Invariant all s)
    (leads : block.Leads tables s (tables s)) (met : meets) : Turns all meets block s :=
  ⟨_, _, leads, h.plain, iff_of_true h.wellFormed met⟩

theorem drivemanager_turns (h : Invariant all s) (conf : Config) (now : Int)
    (k status pathId : Option Text) :
    Turns all (MeetsDrivemanager conf all now s k status pathId)
      (processDrivemanagerResponse conf now k status pathId) s := by
  obtain ⟨wf, plain⟩ := h
  rw [MeetsDrivemanager]
  cases existing : s.drvmngrDrives.existing k with
  | some d =>
      have found := existing_eq_some.mp existing
      obtain ⟨_, same, serial, ready, known⟩ := wf.drvmngr k _ found
      cases same
      by_cases updates : Updates conf now s d status pathId
      · refine ⟨_, _, (leads_drivemanager existing).mpr (leads_updateDrive updates), plain,
          (wellFormed_set wf).trans ?_⟩
        constructor
        · rintro ⟨⟨-, after, -⟩, -⟩ -
          exact after.complete
        · intro complete
          exact ⟨⟨serial, ⟨complete updates, ready.driveNum, ready.serialNumber⟩, known⟩,
            alone_of_sameSlot wf found ⟨rfl, rfl⟩⟩
      · exact .of_leads ⟨wf, plain⟩ ((leads_drivemanager existing).mpr
          (leads_updateDrive_not updates)) (fun here => absurd here updates)
  | none =>
      refine ⟨_, _, leads_drivemanager_new existing, plain, (wellFormed_set wf).trans ?_⟩
      dsimp only
      cases hpi : s.hpiDrives.existing k with
      | some place =>
          have found := existing_eq_some.mp hpi
          obtain ⟨enclosure, driveNum⟩ := plain k place found
          obtain ⟨_, same, -, ready⟩ := wf.hpi k _ found
          cases same
          obtain ⟨diskNum, number⟩ := ready.driveNum
          have number' : int (margin ++ place.driveNum) = .ok diskNum := (int_margin _).trans number
          rw [newDrive_known hpi enclosure driveNum]
          refine Iff.trans (and_congr_right fun _ =>
            alone_congr (e := place) rfl (int_margin _)) ?_
          constructor
          · rintro ⟨⟨-, after, known⟩, alone⟩
            exact ⟨after.complete, after.serialNumber, known, alone⟩
          · rintro ⟨complete, serial, known, alone⟩
            exact ⟨⟨rfl, ⟨complete, ⟨diskNum, number'⟩, serial⟩, known⟩, alone⟩
      | none =>
          rw [newDrive_unknown hpi]
          constructor
          · rintro ⟨⟨-, after, known⟩, -⟩
            exact ⟨after.complete, after.serialNumber, fun wanted => known wanted rfl⟩
          · rintro ⟨complete, serial, notAll⟩
            exact ⟨⟨rfl, ⟨complete, ⟨-1, rfl⟩, serial⟩, fun wanted => absurd wanted notAll⟩,
              fun known => absurd rfl known⟩

theorem hds_turns (h : Invariant all s) (conf : Config) (k status reason : Option Text) :
    Turns all True (processHDSResponse conf k status reason) s := by
  obtain ⟨wf, plain⟩ := h
  cases existing : s.drvmngrDrives.existing k with
  | some d =>
      have found := existing_eq_some.mp existing
      obtain ⟨_, same, serial, ready, known⟩ := wf.drvmngr k _ found
      cases same
      refine ⟨_, _, leads_hds conf reason existing, plain, iff_of_true ?_ trivial⟩
      refine (wellFormed_set wf).mpr ⟨⟨serial, ⟨⟨?_, ready.complete.2⟩, ready.driveNum,
        ready.serialNumber⟩, known⟩, alone_of_sameSlot wf found ⟨rfl, rfl⟩⟩
      exact ⟨_, rfl, by simp⟩
  | none => exact .of_leads ⟨wf, plain⟩ (leads_hds_missing conf status reason existing) trivial

theorem wellFormed_placed (wf : WellFormed all s.drvmngrDrives s.hpiDrives) {drive : Drive}
    (ready : drive.HpiReady) : WellFormed all (placed s.drvmngrDrives k drive) s.hpiDrives ↔
      ∀ d, s.drvmngrDrives.get? k = some (some d) →
        d.enclosure ≠ drive.enclosure ∨ d.driveNum ≠ drive.driveNum →
          (all → drive.HasHpi) ∧ Alone s.drvmngrDrives k drive := by
  rw [placed]
  cases existing : s.drvmngrDrives.existing k with
  | none =>
      refine iff_of_true wf fun d found => ?_
      rw [existing_eq_some.mpr found] at existing
      cases existing
  | some entry =>
      have found := existing_eq_some.mp existing
      obtain ⟨_, same, serial, entryReady, -⟩ := wf.drvmngr k _ found
      cases same
      dsimp only
      by_cases moved : entry.enclosure ≠ drive.enclosure ∨ entry.driveNum ≠ drive.driveNum
      · rw [if_pos moved, wellFormed_set wf, alone_congr (e := drive) rfl rfl]
        constructor
        · rintro ⟨⟨-, -, known⟩, alone⟩ d found' -
          exact ⟨known, alone⟩
        · intro moves
          obtain ⟨known, alone⟩ := moves entry found moved
          exact ⟨⟨serial, ⟨entryReady.complete, ready.driveNum, entryReady.serialNumber⟩, known⟩,
            alone⟩
      · rw [if_neg moved]
        refine iff_of_true wf fun d found' moved' => ?_
        cases found.symm.trans found'
        exact absurd moved' moved

theorem hpi_turns (h : Invariant all s) (conf : Config) (data : HpiData) :
    Turns all (∀ drive, hpiDrive data = some drive → MeetsHpi all s data drive)
      (processHpiResponse conf data) s := by
  obtain ⟨wf, plain⟩ := h
  cases valid : hpiDrive data with
  | none =>
      refine .of_leads ⟨wf, plain⟩ (leads_hpi_invalid valid) ?_
      intro drive clash
      cases clash
  | some drive =>
      obtain ⟨serial, path⟩ := hpiDrive_plain valid
      have after : Plain ((cleared data drive s).hpiDrives.set data.serialNumber (some drive)) :=
        (cleared_plain plain).set path
      have only : (∀ other, some drive = some other → MeetsHpi all s data other) ↔
          MeetsHpi all s data drive := by simp
      rw [only]
      by_cases vacant : Vacant data drive s
      · rw [cleared_of_vacant vacant] at after
        by_cases ready : drive.HpiReady
        · have leads : (processHpiResponse conf data).Leads tables s _ := leads_hpi valid ready
          rw [cleared_of_vacant vacant] at leads
          refine ⟨_, _, leads, after, (wellFormed_set_hpi wf).trans ?_⟩
          rw [and_iff_left ⟨serial, ready⟩, wellFormed_placed wf ready]
          exact ⟨fun moves => ⟨ready, vacant, moves⟩, fun meets => meets.moves⟩
        · have leads : (processHpiResponse conf data).Leads tables s _ := leads_hpi_not valid ready
          rw [cleared_of_vacant vacant] at leads
          refine ⟨_, _, leads, after, (wellFormed_set_hpi wf).trans (iff_of_false ?_ ?_)⟩
          · exact fun entry => ready entry.2.2
          · exact fun meets => ready meets.ready
      · -- the entry that is `None` stays, whatever is sent
        obtain ⟨old, other, replaced⟩ := cleared_of_not_vacant vacant
        by_cases ready : drive.HpiReady
        · refine ⟨_, _, leads_hpi valid ready, after, iff_of_false ?_ (fun m => vacant m.vacant)⟩
          intro bad
          obtain ⟨d, same, -⟩ := bad.drvmngr old none ((get?_placed other).trans replaced)
          cases same
        · refine ⟨_, _, leads_hpi_not valid ready, after,
            iff_of_false ?_ (fun m => vacant m.vacant)⟩
          intro bad
          obtain ⟨d, same, -⟩ := bad.drvmngr old none replaced
          cases same

theorem notpresent_turns (h : Invariant all s) (conf : Config) (data : HpiData) :
    Turns all (MeetsNotpresent s data) (processHpiResponseZBXNotpresent conf data) s := by
  obtain ⟨wf, plain⟩ := h
  by_cases comes : ∃ found drive, data.serialNumber ≠ notPresent ∧
      findByPath data.eventPath s.hpiDrives.values = .ok (some found) ∧
      hpiDrive (knownData data found) = some drive
  · obtain ⟨found, drive, present, known, valid⟩ := comes
    obtain ⟨serial, path⟩ := hpiDrive_plain valid
    refine ⟨_, _, leads_notpresent present known valid, plain.set path,
      (wellFormed_set_hpi wf).trans ?_⟩
    have same : MeetsNotpresent s data ↔
        data.serialNumber = found.serialNumber ∧ drive.HpiReady := by
      constructor
      · exact fun meets => meets present found drive known valid
      · intro result _ found' drive' known' valid'
        cases known.symm.trans known'
        cases valid.symm.trans valid'
        exact result
    rw [same, and_iff_right wf, serial]
    rfl
  · refine .of_leads ⟨wf, plain⟩ (leads_notpresent_not ?_) ?_
    · exact fun found drive present known valid => comes ⟨found, drive, present, known, valid⟩
    · exact fun present found drive known valid =>
        absurd ⟨found, drive, present, known, valid⟩ comes

/-- A message leaves the tables in order exactly under its condition. -/
theorem processMsg_turns (h : Invariant all s) (conf : Config) (now : Int) (message : Message) :
    Turns all (Meets conf all s (message, now)) (processMsg conf now message) s := by
  cases message with
  | drivemanager k status pathId =>
      obtain rfl | other := eq_or_ne k star
      · refine .of_leads h ?_ (fun other => absurd rfl other)
        rw [processMsg, Try.leads_get, if_pos rfl]
        exact .of_keeps (keeps_transmitAllResponses s.drvmngrDrives) rfl
      · obtain ⟨drvmngr, hpi, leads, plain, same⟩ := drivemanager_turns h conf now k status pathId
        refine ⟨drvmngr, hpi, ?_, plain, same.trans (by simp [Meets, other])⟩
        rw [processMsg, Try.leads_get, if_neg other]
        exact leads
  | hds k status reason => exact hds_turns h conf k status reason
  | hpi data =>
      by_cases other : data.serialNumber = star
      · refine .of_leads h ?_ (fun no => absurd other no)
        rw [processMsg, Try.leads_get, if_pos other]
        exact .of_keeps (keeps_transmitAllResponses s.hpiDrives) rfl
      by_cases absent : data.serialNumber = notPresent ∨ data.wwn = notPresent
      · obtain ⟨drvmngr, hpi, leads, plain, same⟩ := notpresent_turns h conf data
        refine ⟨drvmngr, hpi, ?_, plain, same.trans (by simp [Meets, other, absent])⟩
        rw [processMsg, Try.leads_get, if_neg other, if_pos absent]
        exact leads
      · obtain ⟨drvmngr, hpi, leads, plain, same⟩ := hpi_turns h conf data
        refine ⟨drvmngr, hpi, ?_, plain, same.trans (by simp [Meets, other, absent])⟩
        rw [processMsg, Try.leads_get, if_neg other, if_neg absent]
        exact leads
  | smartTest k nodeRequest uuid =>
      exact .of_leads h (.of_keeps (keeps_smartTestRequest conf k nodeRequest uuid) rfl) trivial
  | drvmngrStatus k nodeRequest uuid =>
      exact .of_leads h (.of_keeps (keeps_statusRequest conf _ _ _ _ _ k nodeRequest uuid) rfl)
        trivial
  | hpiStatus k nodeRequest uuid =>
      exact .of_leads h (.of_keeps (keeps_statusRequest conf _ _ _ _ _ k nodeRequest uuid) rfl)
        trivial

theorem start_invariant (conf : Config) (all : Prop) : Invariant all (start conf) where
  wellFormed := ⟨fun _ _ found => by simp [start] at found,
    fun _ _ found => by simp [start] at found,
    fun _ _ _ _ found => by simp [start] at found⟩
  plain := fun _ _ found => by simp [start] at found

/-- The two tables of drives and the file are in order throughout a run exactly if every message
meets its condition in the state it finds. What is asked of a message depends on its kind; requests
for all drives are always in order. -/
theorem tables_consistent_iff {actions : List (Message × Int)}
    (run : (system conf).FreeRuns (start conf) actions s) :
    (system conf).Always (Consistent conf all) (start conf) actions ↔
      (system conf).Runs (Meets conf all) (start conf) actions s := by
  refine run.always_iff (I := Invariant all) ?_ ?_ ?_ (start_invariant conf all)
  · exact fun s h => wellFormed_iff_consistent.mp h.wellFormed
  · intro s a t h meets step
    cases step
    obtain ⟨_, _, leads, plain, same⟩ := processMsg_turns h conf a.2 a.1
    obtain ⟨rfl, rfl⟩ := leads
    exact ⟨same.mpr meets, plain⟩
  · intro s a t h step after
    cases step
    obtain ⟨_, _, leads, plain, same⟩ := processMsg_turns h conf a.2 a.1
    obtain ⟨rfl, rfl⟩ := leads
    exact same.mp (wellFormed_iff_consistent.mpr after)

/-- A message that asks for the data of all drives without being a request is answered only
while there are none. -/
theorem transmitAllResponses_ok {table : Table} :
    (∃ t, (transmitAllResponses table).run s = (.ok ⟨⟩, t)) ↔ table.items = [] := by
  rw [transmitAllResponses]
  split
  · exact iff_of_true ⟨s, rfl⟩ ‹_›
  · refine iff_of_false ?_ ‹_›
    rintro ⟨t, run⟩
    cases run

end Steps

section Decide

variable (conf : Config) (all : Prop) [Decidable all] (now : Int) (s : State) (data : HpiData)
  (d : Drive) (table : Table) (k status pathId : Option Text)

instance : Decidable d.HasHpi := inferInstanceAs (Decidable (d.enclosure ≠ notAvailable))

instance (e : Drive) : Decidable (d.SameSlot e) :=
  inferInstanceAs (Decidable (d.enclosure = e.enclosure ∧ int d.driveNum = int e.driveNum))

instance : Decidable (Complete status pathId) :=
  decidable_of_iff ((∃ text ∈ status, '_' ∈ text) ∧ pathId.isSome) Iff.rfl

instance : Decidable d.HpiReady :=
  decidable_of_iff ((toHPIjsonMsg [] d none).toOption.isSome = true) <| by
    have ready : (∃ msg, toHPIjsonMsg [] d none = .ok msg) ↔ d.HpiReady := toHPIjsonMsg_ok
    rw [← ready]
    cases toHPIjsonMsg [] d none <;> simp [Except.toOption]

instance : Decidable (Updates conf now s d status pathId) :=
  decidable_of_iff (∃ old ∈ d.status, ∃ new ∈ status,
      ¬ (conf.lower old = conf.lower new ∧ d.pathId = pathId) ∧
      (new = "EMPTY_None".toList → (countDrivemanagerEvent conf now s).2 = false) ∧
      ¬ conf.mentions "halon" old)
    ⟨fun ⟨old, h, new, h', rest⟩ => ⟨old, new, h, h', rest⟩,
      fun ⟨old, new, h, h', rest⟩ => ⟨old, h, new, h', rest⟩⟩

/-- A condition on the drives of a table can be looked up item by item. -/
theorem forall_items_iff {table : Table} (P : Option Text → Drive → Prop) :
    (∀ item ∈ table.items, ∀ e ∈ item.2, P item.1 e) ↔
      ∀ m e, table.get? m = some (some e) → P m e :=
  ⟨fun h m e found => h (m, some e) (Dict.mem_items.mpr found) e rfl,
    fun h item mem e has => h item.1 e (Dict.mem_items.mp (has ▸ mem))⟩

instance : Decidable (Alone table k d) :=
  decidable_of_iff (d.HasHpi → ∀ item ∈ table.items, ∀ e ∈ item.2, item.1 ≠ k → ¬ d.SameSlot e)
    (imp_congr_right fun _ => forall_items_iff fun m e => m ≠ k → ¬ d.SameSlot e)

instance : Decidable (Vacant data d s) :=
  decidable_of_iff (data.diskInstalled = some true ∧ data.diskPowered = some true →
      ∀ item ∈ s.drvmngrDrives.items, ∀ e ∈ item.2, item.1 ≠ data.serialNumber →
        ¬ (d.enclosure = e.enclosure ∧ d.driveNum = e.driveNum))
    (and_imp.trans (imp_congr_right fun _ => imp_congr_right fun _ =>
      forall_items_iff fun m e => m ≠ data.serialNumber →
        ¬ (d.enclosure = e.enclosure ∧ d.driveNum = e.driveNum)))

instance : Decidable (MeetsDrivemanager conf all now s k status pathId) := by
  delta MeetsDrivemanager
  generalize s.drvmngrDrives.existing k = entry
  generalize s.hpiDrives.existing k = place
  cases entry <;> cases place <;> infer_instance

instance : Decidable (MeetsHpi all s data d) :=
  decidable_of_iff (d.HpiReady ∧ Vacant data d s ∧
      ∀ e ∈ s.drvmngrDrives.existing data.serialNumber,
        e.enclosure ≠ d.enclosure ∨ e.driveNum ≠ d.driveNum →
          (all → d.HasHpi) ∧ Alone s.drvmngrDrives data.serialNumber d)
    ⟨fun h => ⟨h.1, h.2.1, fun e found => h.2.2 e (existing_eq_some.mpr found)⟩,
      fun h => ⟨h.ready, h.vacant, fun e found => h.moves e (existing_eq_some.mp found)⟩⟩

instance : Decidable (MeetsNotpresent s data) := by
  delta MeetsNotpresent
  generalize findByPath data.eventPath s.hpiDrives.values = result
  match result with
  | .ok (some found) =>
    exact decidable_of_iff (data.serialNumber ≠ notPresent →
        ∀ drive ∈ hpiDrive (knownData data found),
          data.serialNumber = found.serialNumber ∧ drive.HpiReady)
      ⟨fun h present _ drive same valid => by cases same; exact h present drive valid,
        fun h present drive valid => h present found drive rfl valid⟩
  | .ok none | .error _ => exact .isTrue fun _ _ _ same => by cases same

instance : ∀ message, Decidable (Meets conf all s message)
  | (.drivemanager k status pathId, now) =>
    inferInstanceAs (Decidable (k ≠ star → MeetsDrivemanager conf all now s k status pathId))
  | (.hpi data, _) =>
    decidable_of_iff (data.serialNumber ≠ star →
      if data.serialNumber = notPresent ∨ data.wwn = notPresent then MeetsNotpresent s data
      else ∀ drive ∈ hpiDrive data, MeetsHpi all s data drive) Iff.rfl
  | (.hds .., _) | (.smartTest .., _) | (.drvmngrStatus .., _) | (.hpiStatus .., _) =>
    .isTrue trivial

end Decide

namespace Example

def conf : Config := ⟨"host".toList, 14, 10, List.map Char.toLower⟩

def ok (serialNumber : String) : Message × Int :=
  (.drivemanager (some serialNumber.toList) (some "OK_None".toList) (some "wwn-1".toList), 0)

def installed (serialNumber place : String) : Message × Int :=
  (.hpi {
    serialNumber := some serialNumber.toList
    eventPath := some ("enclosure/disk/".toList ++ place.toList)
    status := some "OK_None".toList
    drawer := some "0".toList
    location := some place.toList
    manufacturer := some "SEAGATE".toList
    productName := some "ST4000".toList
    productVersion := some "1".toList
    wwn := some "5000".toList
    diskInstalled := some true
    diskPowered := some true }, 0)

/-- Two drives are told of by the drive manager and by HPI, Halon says that one is failed, and
all drives are asked for. -/
def served : List (Message × Int) :=
  [ok "A", installed "A" "3", installed "B" "4", ok "B",
    (.hds (some "A".toList) (some "halon".toList) (some "failed".toList), 1),
    (.drvmngrStatus star "host".toList none, 2), (.hpiStatus star "host".toList none, 3)]

theorem served_replay : ((system conf).replay (Meets conf False) (start conf) served).map (fun s =>
    s.drvmngrDrives.items.map fun item => (item.1, item.2.bind Drive.status)) =
    some [(some "A".toList, some "halon_failed".toList),
      (some "B".toList, some "OK_None".toList)] := by
  decide +kernel

/-- Both drives are in the table, with the status they were last given. -/
theorem tables_consistent_iff_served :
    (system conf).Always (Consistent conf False) (start conf) served ∧
      ((system conf).run (start conf) served).map (fun s =>
        s.drvmngrDrives.items.map fun item => (item.1, item.2.bind Drive.status)) =
        some [(some "A".toList, some "halon_failed".toList),
          (some "B".toList, some "OK_None".toList)] := by
  obtain ⟨s, replay, entries⟩ := Option.map_eq_some_iff.mp served_replay
  have runs := (Transition.System.replay_eq_some_iff _).mp replay
  have free := runs.mono fun _ _ _ => trivial
  refine ⟨(tables_consistent_iff free).mpr runs, ?_⟩
  rw [(Transition.System.run_eq_some_iff _).mpr free, Option.map_some, entries]

/-- A drive takes the place of another. -/
def replacement : List (Message × Int) := [ok "A", installed "A" "3", installed "B" "3"]

theorem replacement_none : ((system conf).run (start conf) replacement).map (fun s =>
    s.drvmngrDrives.get? (some "A".toList)) = some (some none) := by
  decide +kernel

/-- A replaced drive stays in the table as `None`. -/
theorem replaced_not_consistent : ¬ ∀ actions s,
    (system conf).FreeRuns (start conf) actions s → Consistent conf False s := by
  intro always
  obtain ⟨s, replay, found⟩ := Option.map_eq_some_iff.mp replacement_none
  have after := always replacement s ((Transition.System.run_eq_some_iff (system conf)).mp replay)
  obtain ⟨d, same, -⟩ := after.drvmngr _ _ found
  cases same

end Example

end Disk

end Sspl

import Sspl.Raid.Listing
import Sspl.Raid.Mapping

/-!
# What the turn of an array needs

A turn looks for the number of drives of its array, for the first of the drives that are listed,
and for the identity of each drive that is not up. Where what is kept of the array has these, the
turn ends without an exception, unless the daemon ends, and it leaves alone what is kept of the
other arrays.
-/

namespace Sspl

namespace Raid

open Iem (Text)

variable {s t : State} {o : Outside} {device drvStatus : Text} {drv : Drive}
  {driveDict : Dict Text (List Text)}

namespace Record

/-- Some drive is neither up nor has an identity. -/
def Blind (r : Record) : Prop := ∃ drv ∈ r.drives.getD [], ¬ drv.Seen

/-- A number of drives comes with drives, which are as they were read or have been mapped. -/
structure Good (r : Record) : Prop where
  tracked : r.totalDrives.isSome → r.drives.isSome
  sane : ∀ drv ∈ r.drives.getD [], drv.Sane

def faulty (r : Record) (name : Text) : Option Bool :=
  r.faultyDrives.map fun names => (names.get? name).isSome

/-- A `missing` alert is due. -/
def Lacks (r : Record) (names : List Text) : Prop :=
  (∃ total ∈ r.totalDrives, names.length < total) ∧ r.prevAlertType ≠ none ∧
    r.prevAlertType ≠ some (some .missing)

/-- An `insertion` alert is due. -/
def Refilled (r : Record) (names : List Text) : Prop :=
  (∃ total ∈ r.totalDrives, total ≤ names.length) ∧ r.prevAlertType = some (some .missing)

/-- An alert on the drive is due if its status is looked at. -/
def Reports (r : Record) (drv : Drive) : Prop :=
  ∃ path ∈ drv.identity,
    drv.status ∉ up ∧ r.faulty (path.drop 5) = some false ∧
        r.prevAlertType ≠ some (some .missing) ∨
      drv.status ∈ up ++ ["Down/Recovery".toList] ∧ r.faulty (path.drop 5) = some true

/-- Nothing that the sensor looks for is lacking, where `names` are the drives that are listed,
`changed` says whether the status has changed, and `back` that the array is found again in the
configuration file. -/
structure Safe (r : Record) (names : List Text) (changed : Bool) (back : Prop) : Prop where
  counted : r.totalDrives.isSome
  returned : back → names ≠ [] → ¬ r.Blind
  refilled : ¬ back → r.Refilled names → names ≠ [] ∧ ¬ r.Blind
  moved : ¬ back → changed → r.Blind → ¬ r.Lacks names → ∀ drv ∈ r.drives.getD [], ¬ r.Reports drv

/-- The array waits for its turn. -/
structure Awaits (r : Record) (names : List Text) (changed : Bool) (back : Prop) : Prop extends
    r.Safe names changed back where
  /-- Only the drives that are listed have an identity after the status has been read. -/
  fresh : changed → names = [] → ∀ drv ∈ r.drives.getD [], drv.identity = none

variable {r r' : Record}

theorem mem_drives {drvs : List Drive} (drives : r.drives = some drvs) :
    drv ∈ r.drives.getD [] ↔ drv ∈ drvs := by
  rw [drives]
  rfl

theorem Good.congr (h : r.Good) (total : r'.totalDrives = r.totalDrives)
    (drives : r'.drives = r.drives) : r'.Good := by
  constructor
  · rw [total, drives]
    exact h.tracked
  · rw [drives]
    exact h.sane

theorem not_blind (drives : ∀ drv ∈ r.drives.getD [], drv.Seen) : ¬ r.Blind := by
  rintro ⟨drv, mem, blind⟩
  exact blind (drives drv mem)

theorem seen_of_not_blind (h : ¬ r.Blind) : ∀ drv ∈ r.drives.getD [], drv.Seen := by
  intro drv mem
  by_contra blind
  exact h ⟨drv, mem, blind⟩

theorem not_reports {drv : Drive} (unnamed : drv.identity = none) : ¬ r.Reports drv := by
  rintro ⟨path, known, -⟩
  rw [unnamed] at known
  cases known

end Record

/-- The records are good, also those that are stored. -/
structure Steady (s : State) : Prop where
  live : ∀ x, (s.data.record x).Good
  stored : ∀ data ∈ s.store, ∀ x, (data.record x).Good

/-- In the turn of an array, which begins in the state `s`. -/
structure Within (device : Text) (s t : State) : Prop extends Steady t where
  others : ∀ x ≠ device, t.data.record x = s.data.record x

/-- The daemon ends between two alerts. -/
def Ended (err : Raised) (t : State) : Prop := err = .ended ∧ Steady t ∧ t.alertType = none

theorem Steady.within (h : Steady s) (device : Text) : Within device s s := ⟨h, fun _ _ => rfl⟩

namespace Within

variable {u : State} {drvs : List Drive}

theorem step (h : Within device s t) (others : ∀ x ≠ device, u.data.record x = t.data.record x)
    (own : (u.data.record device).Good) (store : u.store = t.store) : Within device s u := by
  refine ⟨⟨fun x => ?_, ?_⟩, fun x other => (others x other).trans (h.others x other)⟩
  · by_cases here : x = device
    · rw [here]
      exact own
    · rw [others x here]
      exact h.live x
  · rw [store]
    exact h.stored

/-- What belongs to no array changes. -/
theorem same (h : Within device s t) (records : ∀ x, u.data.record x = t.data.record x)
    (store : u.store = t.store) : Within device s u := by
  apply h.step (fun x _ => records x) _ store
  rw [records]
  exact h.live device

theorem sent (h : Within device s t) (alertType : AlertType) (resourceId : Option Text)
    (drives : List Drive) :
    Within device s (send (alert alertType resourceId device drives) t) := by
  have live : ∀ x, ((send (alert alertType resourceId device drives) t).data.record x).Good :=
    fun x => (h.live x).congr rfl rfl
  refine ⟨⟨live, ?_⟩, fun x other => ?_⟩
  · rintro _ ⟨⟩
    exact live
  · rw [← h.others x other, Data.record, Data.record, Record.mk.injEq]
    exact ⟨rfl, rfl, rfl, Dict.get?_set_of_ne _ _ other, rfl, rfl⟩

theorem leaves_send (h : Within device s t) (alertType : AlertType) (resourceId : Option Text)
    (drives : List Drive) :
    (sendJsonMsg o alertType resourceId device drives).Leaves
      (fun _ u => Within device s u ∧ u = send (alert alertType resourceId device drives) t)
      Ended t := by
  have sent := h.sent alertType resourceId drives
  apply Try.leaves_bind.mpr
  apply Try.leaves_bind.mpr
  apply Try.leaves_ite.mpr
  split
  · exact ⟨rfl, sent.toSteady, rfl⟩
  · exact ⟨sent, rfl⟩

/-- The drives of the array change. -/
theorem record_ownDrives (own : OwnDrives device t u)
    (now : u.data.drives.get? device = some drvs) (x : Text) : u.data.record x =
      if x = device then { t.data.record x with drives := some drvs } else t.data.record x := by
  obtain ⟨table, rfl, others⟩ := own
  split
  · rename_i here
    subst here
    rw [Data.record, Record.mk.injEq]
    exact ⟨now, rfl, rfl, rfl, rfl, rfl⟩
  · rename_i other
    rw [Data.record, Data.record, Record.mk.injEq]
    exact ⟨others x other, rfl, rfl, rfl, rfl, rfl⟩

theorem map {P : Drive → Prop} {drives : Drives} (h : Within device s t)
    (sane : ∀ drv, P drv → drv.Sane) (here : t.data.drives.get? device = some drvs)
    (each : ∀ drv ∈ drvs, ∃ drv',
      mapDrive t.data.missingDrv device drives drvStatus drv = .ok drv' ∧ P drv') :
    (mapDriveStatus device drives drvStatus).Leaves
      (fun _ u => Within device s u ∧ ∃ table drvs', u = withDrives table t ∧
        (∀ drv ∈ drvs', P drv) ∧
        u.data.record device = { t.data.record device with drives := some drvs' })
      (fun _ _ => False) t := by
  apply (leaves_mapDriveStatus_each here each).mono
  · rintro _ u ⟨own, drvs', now, holds⟩
    have record := record_ownDrives own now
    have same := record device
    rw [if_pos rfl] at same
    obtain ⟨table, rfl, -⟩ := own
    refine ⟨h.step (fun x other => ?_) ?_ rfl, table, drvs', rfl, holds, same⟩
    · rw [record, if_neg other]
    · rw [same]
      exact ⟨fun _ => rfl, fun drv mem => sane drv (holds drv mem)⟩
  · exact fun _ _ raised => raised

end Within

section Turn

variable {names : List Text} {changed : Bool} {scan : Scan} {alertType : AlertType}

/-- Every drive of the array is up or has an identity. -/
def Record.Clear (r : Record) : Prop := ∃ drvs, r.drives = some drvs ∧ ∀ drv ∈ drvs, drv.Seen

theorem Record.Clear.not_blind {r : Record} (h : r.Clear) : ¬ r.Blind := by
  obtain ⟨drvs, drives, seen⟩ := h
  apply Record.not_blind
  rw [drives]
  exact seen

theorem Record.Clear.of_not_blind {r : Record} (known : r.drives.isSome) (h : ¬ r.Blind) :
    r.Clear := by
  obtain ⟨drvs, drives⟩ := Option.isSome_iff_exists.mp known
  have seen := seen_of_not_blind h
  rw [drives] at seen
  exact ⟨drvs, drives, seen⟩

/-- What has been decided on is sent, and then the drives can be looked at. -/
structure Decided (device : Text) (changed : Bool) (t : State) : Prop where
  drives : (t.data.record device).drives.isSome
  sends : t.alertType.isSome → t.driveStateChanged = true
  settled : changed → (t.data.record device).Clear ∨
    (∀ drv ∈ (t.data.record device).drives.getD [], drv.identity = none) ∨
    t.alertType = none ∧
      ∀ drv ∈ (t.data.record device).drives.getD [], ¬ (t.data.record device).Reports drv

theorem leaves_driveMissing_within (h : Within device s t)
    (listed : driveDict.get? device = some names) (known : (t.data.record device).drives.isSome)
    (fresh : changed → names = [] →
      ∀ drv ∈ (t.data.record device).drives.getD [], drv.identity = none) :
    (driveMissing o driveDict names device).Leaves
      (fun _ u => Within device s u ∧ Decided device changed u) (fun _ _ => False) t := by
  obtain ⟨drvs, here⟩ := Option.isSome_iff_exists.mp known
  have sane := (h.live device).sane
  rw [here] at sane fresh
  have within : ∀ resourceId drive, Within device s { t with
      alertType := some .missing
      resourceId := resourceId
      data := { t.data with missingDrv := some drive } } :=
    fun _ _ => h.same (fun _ => rfl) rfl
  iterate 5 apply Try.leaves_bind.mpr
  apply ((within _ _).map (P := Drive.Mapped names changed) (fun _ => Drive.Mapped.sane)
    here ?_).mono
  · rintro _ _ ⟨within, table, drvs', rfl, holds, record⟩
    have drives := congrArg Record.drives record
    refine ⟨within.same (fun _ => rfl) rfl, congrArg Option.isSome drives, fun _ => rfl, ?_⟩
    intro moved
    by_cases none_ : names = []
    · refine .inr (.inl fun drv mem => ?_)
      exact (holds drv ((Record.mem_drives drives).mp mem)).fresh moved none_
    · exact .inl ⟨drvs', drives, fun drv mem => (holds drv mem).seen none_⟩
  · exact fun _ _ raised => raised
  · intro drv mem
    apply mapDrive_mapped listed (sane drv mem) (fun moved none_ => fresh moved none_ drv mem)
    exact fun some_ => mapDrive_missing listed some_ rfl (sane drv mem)

/-- The drives of an array without blind ones are mapped, and an alert is decided on. -/
theorem leaves_named_within (h : Within device s t) (clear : (t.data.record device).Clear)
    (name drvStatus : Text) :
    (mapDriveStatus device (.name name) drvStatus).Leaves
      (fun _ u => Within device s u ∧ (∃ table, u = withDrives table t) ∧
        (u.data.record device).Clear) (fun _ _ => False) t := by
  obtain ⟨drvs, here, seen⟩ := clear
  apply (h.map (P := Drive.Seen) (fun _ => Drive.Seen.sane) here ?_).mono
  · rintro _ _ ⟨within, table, drvs', rfl, holds, record⟩
    exact ⟨within, ⟨table, rfl⟩, drvs', by rw [record], holds⟩
  · exact fun _ _ raised => raised
  · exact fun drv mem => mapDrive_name (seen drv mem) name

theorem leaves_driveInserted_within (h : Within device s t) (clear : (t.data.record device).Clear)
    (some_ : names ≠ []) (changed : Bool) :
    (driveInserted names device).Leaves
      (fun _ u => Within device s u ∧ Decided device changed u) (fun _ _ => False) t := by
  cases names with
  | nil => exact absurd rfl some_
  | cons name rest =>
      have within : ∀ resourceId, Within device s
          { t with alertType := some .insertion, resourceId := resourceId } :=
        fun _ => h.same (fun _ => rfl) rfl
      iterate 4 apply Try.leaves_bind.mpr
      apply (leaves_named_within (within _) clear name "Down/Recovery".toList).mono
      · rintro _ _ ⟨within, ⟨table, rfl⟩, clear⟩
        refine ⟨within.same (fun _ => rfl) rfl, ?_, fun _ => rfl, fun _ => .inl clear⟩
        obtain ⟨drvs, drives, -⟩ := clear
        exact Option.isSome_iff_exists.mpr ⟨drvs, drives⟩
      · exact fun _ _ raised => raised

theorem leaves_countTurn_within (h : Within device s t) (idle : t.alertType = none)
    (listed : driveDict.get? device = some names)
    (awaits : (t.data.record device).Awaits names changed False) :
    (countTurn o driveDict device).Leaves
      (fun _ u => Within device s u ∧ Decided device changed u) (fun _ _ => False) t := by
  have known := (h.live device).tracked awaits.counted
  obtain ⟨total, counted⟩ := Option.isSome_iff_exists.mp awaits.counted
  apply Try.leaves_bind.mpr
  apply Try.leaves_get.mpr
  apply (leaves_item listed).mpr
  apply (leaves_item counted).mpr
  apply Try.leaves_ite.mpr
  split
  · exact leaves_driveMissing_within h listed known awaits.fresh
  · rename_i enough
    apply Try.leaves_ite.mpr
    split
    · rename_i refilled
      obtain ⟨some_, clear⟩ := awaits.refilled id ⟨⟨total, counted, refilled.1⟩, refilled.2⟩
      exact leaves_driveInserted_within h (.of_not_blind known clear) some_ changed
    · refine ⟨h, known, fun decided => ?_, fun moved => ?_⟩
      · rw [idle] at decided
        cases decided
      · by_cases blind : (t.data.record device).Blind
        · refine .inr (.inr ⟨idle, awaits.moved id moved blind ?_⟩)
          rintro ⟨⟨total', same, fewer⟩, seen, other⟩
          cases counted.symm.trans same
          exact enough ⟨fewer, seen, other⟩
        · exact .inl (.of_not_blind known blind)

theorem leaves_sendDecided_within (h : Within device s t)
    (listed : driveDict.get? device = some names) (known : (t.data.record device).drives.isSome)
    (sends : t.alertType.isSome → t.driveStateChanged = true) :
    (sendDecided o driveDict device).Leaves
      (fun _ u => Within device s u ∧ u.alertType = none ∧
        u.data.drives = t.data.drives ∧ (t.alertType = none → u = t)) Ended t := by
  obtain ⟨drvs, here⟩ := Option.isSome_iff_exists.mp known
  have here : t.data.drives.get? device = some drvs := here
  apply Try.leaves_bind.mpr
  apply Try.leaves_get.mpr
  cases decided : t.alertType with
  | none => exact ⟨h, decided, rfl, fun _ => rfl⟩
  | some alertType =>
      rw [decided] at sends
      dsimp only
      rw [if_pos (sends rfl)]
      have within : Within device s { t with data := { t.data with
          prevDriveDict := t.data.prevDriveDict.set device names } } := h.same (fun _ => rfl) rfl
      apply (leaves_item listed).mpr
      apply Try.leaves_bind.mpr
      apply (leaves_item here).mpr
      apply (within.leaves_send alertType t.resourceId drvs).mono
      · rintro _ _ ⟨within, rfl⟩
        exact ⟨within, rfl, rfl, fun clash => absurd clash (Option.some_ne_none _)⟩
      · exact fun _ _ ended => ended

/-- What `driveFault` and `driveResolved` do. -/
theorem leaves_driveChange (h : Within device s t) (clear : (t.data.record device).Clear)
    (name drvStatus : Text)
    (change : Dict Text (Dict Text AlertType) → Dict Text (Dict Text AlertType))
    (own : ∀ list, ∀ x ≠ device, (change list).get? x = list.get? x) :
    (do
      Try.modify fun s => { s with alertType := some alertType }
      mapDriveStatus device (.name name) drvStatus
      Try.modify fun s => { s with driveStateChanged := true }
      update fun data => { data with faultyDriveList := change data.faultyDriveList } : Step).Leaves
      (fun _ u => Within device s u ∧ (u.data.record device).Clear ∧ u.driveStateChanged = true)
      (fun _ _ => False) t := by
  have within : Within device s { t with alertType := some alertType } := h.same (fun _ => rfl) rfl
  iterate 2 apply Try.leaves_bind.mpr
  apply (leaves_named_within within clear name drvStatus).mono
  · rintro _ _ ⟨within, ⟨table, rfl⟩, clear⟩
    refine ⟨within.step (fun x other => ?_) ((within.live device).congr rfl rfl) rfl, clear, rfl⟩
    rw [Data.record, Data.record, Record.mk.injEq]
    exact ⟨rfl, rfl, rfl, rfl, own _ x other, rfl⟩
  · exact fun _ _ raised => raised

theorem leaves_driveDecision_within (h : Within device s t) (idle : t.alertType = none)
    (clear : (t.data.record device).Clear) (s₀ : State) (drive : Drive) (name : Text) :
    (driveDecision s₀ drive device name).Leaves
      (fun _ u => Within device s u ∧ (u.data.record device).Clear ∧
        (u.alertType.isSome → u.driveStateChanged = true)) (fun _ _ => False) t := by
  have decided : ∀ _ : PUnit, ∀ u : State, Within device s u ∧ (u.data.record device).Clear ∧
      u.driveStateChanged = true → Within device s u ∧ (u.data.record device).Clear ∧
        (u.alertType.isSome → u.driveStateChanged = true) :=
    fun _ _ ended => ⟨ended.1, ended.2.1, fun _ => ended.2.2⟩
  apply Try.leaves_ite.mpr
  split
  · apply (leaves_driveChange h clear name "Down".toList (fun list => list.set device
      (((list.get? device).getD .empty).set name .fault)) ?_).mono decided
    · exact fun _ _ raised => raised
    · exact fun list x other => Dict.get?_set_of_ne _ _ other
  · apply Try.leaves_ite.mpr
    split
    · apply (leaves_driveChange h clear name "UP".toList (fun list => list.set device
        (((list.get? device).getD .empty).erase name)) ?_).mono decided
      · exact fun _ _ raised => raised
      · exact fun list x other => Dict.get?_set_of_ne _ _ other
    · refine ⟨h, clear, fun decided => ?_⟩
      rw [idle] at decided
      cases decided

theorem leaves_driveTurn_clear (h : Within device s t) (idle : t.alertType = none)
    (listed : driveDict.get? device = some names) (clear : (t.data.record device).Clear) (i : Nat) :
    (driveTurn o driveDict device i).Leaves
      (fun _ u => Within device s u ∧ u.alertType = none ∧ (u.data.record device).Clear)
      Ended t := by
  obtain ⟨drvs, here, seen⟩ := clear
  have clear : (t.data.record device).Clear := ⟨drvs, here, seen⟩
  have here : t.data.drives.get? device = some drvs := here
  have named : ∀ resourceId, Within device s { t with resourceId := resourceId } :=
    fun _ => h.same (fun _ => rfl) rfl
  apply Try.leaves_bind.mpr
  apply Try.leaves_get.mpr
  apply (leaves_item here).mpr
  cases drvs[i]? with
  | none => exact ⟨h, idle, clear⟩
  | some drive =>
      dsimp only
      cases drive.identity with
      | none => exact ⟨h, idle, clear⟩
      | some path =>
          dsimp only
          apply Try.leaves_bind.mpr
          apply Try.leaves_modify.mpr
          apply Try.leaves_bind.mpr
          apply (leaves_driveDecision_within (named (driveResource device (path.drop 5))) idle clear
            t drive _).mono
          · rintro _ u ⟨within, clear, sends⟩
            obtain ⟨drvs, here, seen⟩ := clear
            have known := Option.isSome_iff_exists.mpr ⟨drvs, here⟩
            apply (leaves_sendDecided_within within listed known sends).mono
            · rintro _ v ⟨within, idle, drives, -⟩
              refine ⟨within, idle, drvs, ?_, seen⟩
              rw [Data.record, drives]
              exact here
            · exact fun _ _ ended => ended
          · exact fun _ _ raised => raised.elim

/-- Where no alert is due nothing happens. -/
theorem leaves_driveTurn_quiet (idle : t.alertType = none) {drvs : List Drive}
    (here : t.data.drives.get? device = some drvs)
    (quiet : ∀ drv ∈ drvs, ¬ (t.data.record device).Reports drv) (i : Nat) :
    (driveTurn o driveDict device i).Leaves
      (fun _ u => ∃ resourceId, u = { t with resourceId := resourceId }) (fun _ _ => False) t := by
  apply Try.leaves_bind.mpr
  apply Try.leaves_get.mpr
  apply (leaves_item here).mpr
  cases at_ : drvs[i]? with
  | none => exact ⟨t.resourceId, rfl⟩
  | some drive =>
      dsimp only
      cases identity : drive.identity with
      | none => exact ⟨t.resourceId, rfl⟩
      | some path =>
          dsimp only
          have none_ := quiet drive (List.mem_of_getElem? at_)
          have fault : ¬ (drive.status ∉ up ∧ t.data.faulty device (path.drop 5) = some false ∧
              t.data.prevAlertType.get? device ≠ some (some .missing)) :=
            fun fault => none_ ⟨path, identity, .inl fault⟩
          have resolved : ¬ (drive.status ∈ up ++ ["Down/Recovery".toList] ∧
              t.data.faulty device (path.drop 5) = some true) :=
            fun resolved => none_ ⟨path, identity, .inr resolved⟩
          have passed : ∀ u : State, (driveDecision t drive device (path.drop 5)).run u =
              (.ok ⟨⟩, u) := by
            intro u
            rw [driveDecision, if_neg fault, if_neg resolved]
            rfl
          apply Try.leaves_bind.mpr
          apply Try.leaves_modify.mpr
          apply (Try.leaves_bind_of_ok (passed _)).mpr
          apply Try.leaves_bind.mpr
          apply Try.leaves_get.mpr
          dsimp only
          rw [idle]
          exact ⟨_, rfl⟩

theorem leaves_driveTurns_within (h : Within device s t) (idle : t.alertType = none)
    (listed : scan.driveDict.get? device = some names)
    (changed_ : scan.driveStatusChanged.get? device = some changed)
    (known : (t.data.record device).drives.isSome)
    (settled : changed → (t.data.record device).Clear ∨
      ∀ drv ∈ (t.data.record device).drives.getD [], ¬ (t.data.record device).Reports drv) :
    (driveTurns o scan device).Leaves (fun _ u => Within device s u ∧ u.alertType = none)
      Ended t := by
  obtain ⟨drvs, here⟩ := Option.isSome_iff_exists.mp known
  rw [here] at settled
  have here : t.data.drives.get? device = some drvs := here
  apply (leaves_item changed_).mpr
  apply Try.leaves_ite.mpr
  split
  · rename_i moved
    apply Try.leaves_bind.mpr
    apply Try.leaves_get.mpr
    apply (leaves_item here).mpr
    obtain clear | quiet := settled moved
    · apply (Try.leaves_forM (I := fun _ u => Within device s u ∧ u.alertType = none ∧
        (u.data.record device).Clear) ?_ _ t ⟨h, idle, clear⟩).mono
      · exact fun _ _ ended => ⟨ended.1, ended.2.1⟩
      · exact fun _ _ ended => ended
      · exact fun i _ u now => leaves_driveTurn_clear now.1 now.2.1 listed now.2.2 i
    · apply (Try.leaves_forM (E := fun _ _ => False)
        (I := fun _ u => ∃ resourceId, u = { t with resourceId := resourceId })
        ?_ _ t ⟨t.resourceId, rfl⟩).mono
      · rintro _ _ ⟨_, rfl⟩
        exact ⟨h.same (fun _ => rfl) rfl, idle⟩
      · exact fun _ _ raised => raised.elim
      · rintro i _ _ ⟨resourceId, rfl⟩
        exact leaves_driveTurn_quiet (t := { t with resourceId := resourceId }) idle here quiet i
  · exact ⟨h, idle⟩

theorem leaves_deviceTurn_within (h : Steady s) (idle : s.alertType = none)
    (listed : scan.driveDict.get? device = some names)
    (changed_ : scan.driveStatusChanged.get? device = some changed)
    (awaits : (s.data.record device).Awaits names changed False) :
    (deviceTurn o scan device).Leaves (fun _ t => Within device s t ∧ t.alertType = none)
      Ended s := by
  apply Try.leaves_ite.mpr
  split
  · apply Try.leaves_bind.mpr
    apply (leaves_countTurn_within (h.within device) idle listed awaits).mono
    · rintro _ t ⟨within, drives, sends, settled⟩
      apply Try.leaves_bind.mpr
      apply (leaves_sendDecided_within within listed drives sends).mono
      · rintro _ u ⟨within, idle, same, unsent⟩
        have same : (u.data.record device).drives = (t.data.record device).drives := by
          rw [Data.record, same]
          rfl
        refine leaves_driveTurns_within within idle listed changed_ (same ▸ drives) fun moved => ?_
        obtain ⟨drvs, clear, seen⟩ | unnamed | ⟨quiet, none_⟩ := settled moved
        · exact .inl ⟨drvs, same.trans clear, seen⟩
        · refine .inr fun drv mem => Record.not_reports (unnamed drv ?_)
          rwa [same] at mem
        · rw [unsent quiet]
          exact .inr none_
      · exact fun _ _ ended => ended
    · exact fun _ _ raised => raised.elim
  · exact ⟨h.within device, idle⟩

end Turn

section Arrays

variable {names : List Text} {changed : Bool} {back back' : Prop} {r : Record}

theorem Record.Awaits.congr (h : r.Awaits names changed back) (same : back' ↔ back) :
    r.Awaits names changed back' := by
  rwa [propext same]

/-- After the alert that it is back an array has nothing left but its drives. -/
theorem Record.Awaits.of_resolved (counted : r.totalDrives.isSome)
    (resolved : r.prevAlertType = some (some .faultResolved))
    (mapped : ∀ drv ∈ r.drives.getD [], drv.Mapped names changed) :
    r.Awaits names changed False := by
  refine ⟨⟨counted, False.elim, fun _ refilled => ?_, fun _ moved blind _ drv mem => ?_⟩, ?_⟩
  · rw [Record.Refilled, resolved] at refilled
    cases refilled.2
  · obtain ⟨other, listed, unseen⟩ := blind
    by_cases none_ : names = []
    · exact Record.not_reports ((mapped drv mem).fresh moved none_)
    · exact absurd ((mapped other listed).seen none_) unseen
  · exact fun moved none_ drv mem => (mapped drv mem).fresh moved none_

/-- The array is added to those that are gone, or removed. -/
theorem Within.faulty (h : Within device s t) (list : Finset Text)
    (same : ∀ x ≠ device, x ∈ list ↔ x ∈ t.data.faultyDeviceList) :
    Within device s { t with data := { t.data with faultyDeviceList := list } } := by
  refine h.step (fun x other => ?_) ((h.live device).congr rfl rfl) rfl
  rw [Data.record, Data.record, Record.mk.injEq]
  exact ⟨rfl, rfl, rfl, rfl, rfl, decide_eq_decide.mpr (same x other)⟩

/-- The array is found again. -/
theorem leaves_arrayBack_within (h : Steady s) {mdDeviceList : List Text}
    (here : device ∈ mdDeviceList) (gone : device ∈ s.data.faultyDeviceList)
    (listed : driveDict.get? device = some names)
    (awaits : (s.data.record device).Awaits names changed True) :
    (arrayTurn o mdDeviceList driveDict device).Leaves
      (fun _ t => Within device s t ∧ t.alertType = none ∧ (t.data.record device).gone = false ∧
        (t.data.record device).Awaits names changed False) Ended s := by
  obtain ⟨drvs, drives⟩ := Option.isSome_iff_exists.mp ((h.live device).tracked awaits.counted)
  have within : Within device s { s with alertType := some .faultResolved } :=
    (h.within device).same (fun _ => rfl) rfl
  apply Try.leaves_bind.mpr
  apply Try.leaves_get.mpr
  rw [if_neg (fun absent => absent.1 here), if_pos ⟨here, gone⟩]
  iterate 2 apply Try.leaves_bind.mpr
  apply (within.map (P := Drive.Mapped names changed) (fun _ => Drive.Mapped.sane) drives ?_).mono
  · rintro _ _ ⟨within, table, drvs', rfl, holds, record⟩
    have drives' : table.get? device = some drvs' := congrArg Record.drives record
    have within := within.faulty (s.data.faultyDeviceList.erase device)
      (fun _ other => Finset.mem_erase.trans (and_iff_right other))
    iterate 2 apply Try.leaves_bind.mpr
    apply (leaves_item drives').mpr
    apply (within.leaves_send .faultResolved (some device) drvs').mono
    · rintro _ _ ⟨within, rfl⟩
      refine ⟨within, rfl, ?_, .of_resolved awaits.counted ?_ fun drv mem => ?_⟩
      · simp [Data.record, send]
      · exact Dict.get?_set_self ..
      · exact holds drv ((Record.mem_drives drives').mp mem)
    · exact fun _ _ ended => ended
  · exact fun _ _ raised => raised.elim
  · intro drv mem
    have mem := (Record.mem_drives drives).mpr mem
    apply mapDrive_mapped listed ((h.live device).sane drv mem)
      (fun moved none_ => awaits.fresh moved none_ drv mem)
    intro some_
    apply mapDrive_seen listed (fun clash => absurd clash (by decide))
    exact Record.seen_of_not_blind (awaits.returned trivial some_) drv mem

theorem leaves_arrayTurn_within (h : Steady s) (idle : s.alertType = none)
    {mdDeviceList : List Text} (listed : device ∈ mdDeviceList → driveDict.get? device = some names)
    (awaits : device ∈ mdDeviceList →
      (s.data.record device).Awaits names changed (s.data.record device).gone) :
    (arrayTurn o mdDeviceList driveDict device).Leaves
      (fun _ t => Within device s t ∧ t.alertType = none ∧ (device ∈ mdDeviceList →
        (t.data.record device).gone = false ∧ (t.data.record device).Awaits names changed False))
      Ended s := by
  by_cases back : device ∈ mdDeviceList ∧ device ∈ s.data.faultyDeviceList
  · obtain ⟨here, gone⟩ := back
    have gone_ : (s.data.record device).gone = true := decide_eq_true gone
    have awaits := (awaits here).congr (iff_of_true trivial gone_)
    apply (leaves_arrayBack_within h here gone (listed here) awaits).mono
    · exact fun _ _ ended => ⟨ended.1, ended.2.1, fun _ => ended.2.2⟩
    · exact fun _ _ ended => ended
  · apply Try.leaves_bind.mpr
    apply Try.leaves_get.mpr
    apply Try.leaves_ite.mpr
    split
    · rename_i gone
      have decided : Within device s { s with alertType := some .fault } :=
        (h.within device).same (fun _ => rfl) rfl
      have within := decided.faulty (insert device s.data.faultyDeviceList)
        (fun _ other => Finset.mem_insert.trans (or_iff_right other))
      iterate 2 apply Try.leaves_bind.mpr
      apply (within.leaves_send .fault (some device) raidDownDriveStatus).mono
      · rintro _ _ ⟨within, rfl⟩
        exact ⟨within, rfl, fun here => absurd here gone.1⟩
      · exact fun _ _ ended => ended
    · have healthy : device ∈ mdDeviceList → (s.data.record device).gone = false :=
        fun here => decide_eq_false fun gone => back ⟨here, gone⟩
      refine ⟨h.within device, idle, fun here => ⟨healthy here, (awaits here).congr ?_⟩⟩
      rw [healthy here]
      exact iff_of_false id Bool.false_ne_true

end Arrays

end Raid

end Sspl

import Sspl.Raid.Alternate
import Sspl.Raid.Awaiting

/-!
# Rounds that come to their end

A round looks at every array that is listed. It raises where it looks for something that it
does not keep: the number of drives of an array that has never had one, the first drive of an
array without drives, and the identity of a drive that is not up and whose role `mdadm` does
not report. In a run without such rounds the sensor goes on, and what it keeps and stores stays
as the next round needs it.
-/

namespace Sspl

namespace Raid

open Iem (Text)

variable {s t : State} {o : Outside} {device : Text} {driveDict : Dict Text (List Text)}

section Round

variable {arrays : List Listing} {changed : Listing → Bool} {scan : Scan}

/-- The arrays of the configuration file, as long as `rest` of them are left. -/
structure Looking (arrays : List Listing) (changed : Listing → Bool) (rest : List Text)
    (t : State) : Prop extends Steady t where
  idle : t.alertType = none
  awaits : ∀ a ∈ arrays, (t.data.record a.device).Awaits a.names (changed a)
    (a.device ∈ rest ∧ (t.data.record a.device).gone)

theorem leaves_lookFor (listed : ∀ a ∈ arrays, driveDict.get? a.device = some a.names)
    (distinct : ∀ a ∈ arrays, ∀ b ∈ arrays, a.device = b.device → a = b) {rest : List Text}
    (h : Looking arrays changed (device :: rest) s) :
    (arrayTurn o (arrays.map Listing.device) driveDict device).Leaves
      (fun _ => Looking arrays changed rest) Ended s := by
  by_cases here : device ∈ arrays.map Listing.device
  · obtain ⟨a, mem, rfl⟩ := List.mem_map.mp here
    have own := h.awaits a mem
    apply (leaves_arrayTurn_within h.toSteady h.idle (fun _ => listed a mem)
      (fun _ => own.congr (and_iff_right (.head _)).symm)).mono
    · rintro _ t ⟨within, idle, settled⟩
      obtain ⟨present, done⟩ := settled here
      refine ⟨within.toSteady, idle, fun b mem' => ?_⟩
      by_cases same : b.device = a.device
      · rw [distinct b mem' a mem same]
        refine done.congr (iff_of_false (fun back => ?_) id)
        rw [present] at back
        cases back.2
      · rw [within.others _ same]
        exact (h.awaits b mem').congr (and_congr_left fun _ => by simp [same])
    · exact fun _ _ ended => ended
  · have absent : device ∈ arrays.map Listing.device →
        (s.data.record device).Awaits [] false (s.data.record device).gone :=
      fun there => absurd there here
    apply (leaves_arrayTurn_within h.toSteady h.idle (fun there => absurd there here) absent).mono
    · rintro _ t ⟨within, idle, -⟩
      refine ⟨within.toSteady, idle, fun b mem => ?_⟩
      have other : b.device ≠ device := fun same => here (same ▸ List.mem_map_of_mem mem)
      rw [within.others _ other]
      exact (h.awaits b mem).congr (and_congr_left fun _ => by simp [other])
    · exact fun _ _ ended => ended

theorem leaves_processMissing (listed : ∀ a ∈ arrays, driveDict.get? a.device = some a.names)
    (distinct : ∀ a ∈ arrays, ∀ b ∈ arrays, a.device = b.device → a = b)
    (h : Looking arrays changed (confDevices o.conf) s) :
    (processMissingMdDevices o (arrays.map Listing.device) driveDict).Leaves
      (fun _ => Looking arrays changed []) Ended s := by
  rw [confDevices] at h
  rw [processMissingMdDevices]
  cases file : o.conf.bind confDeviceList with
  | none =>
      rw [file] at h
      exact h
  | some devices =>
      rw [file] at h
      exact Try.leaves_forM (fun _ _ _ => leaves_lookFor listed distinct) devices s h

theorem leaves_deviceTurns (listed : ∀ a ∈ arrays, scan.driveDict.get? a.device = some a.names)
    (changed_ : ∀ a ∈ arrays, scan.driveStatusChanged.get? a.device = some (changed a))
    (distinct : (arrays.map Listing.device).Nodup) (h : Looking arrays changed [] s) :
    ((arrays.map Listing.device).forM (deviceTurn o scan)).Leaves
      (fun _ t => Steady t ∧ t.alertType = none) Ended s := by
  apply (Try.leaves_forM (I := fun rest t => (Steady t ∧ t.alertType = none) ∧ rest.Nodup ∧
    ∀ x ∈ rest, ∃ a ∈ arrays, a.device = x ∧
      (t.data.record x).Awaits a.names (changed a) False) ?_ _ s ?_).mono
  · exact fun _ _ ended => ended.1
  · exact fun _ _ ended => ended
  · rintro x rest t ⟨⟨steady, idle⟩, distinct, awaits⟩
    obtain ⟨a, mem, rfl, own⟩ := awaits x (.head _)
    obtain ⟨single, distinct⟩ := List.nodup_cons.mp distinct
    apply (leaves_deviceTurn_within steady idle (listed a mem) (changed_ a mem) own).mono
    · rintro _ u ⟨within, idle⟩
      refine ⟨⟨within.toSteady, idle⟩, distinct, fun y later => ?_⟩
      rw [within.others y fun same => single (same ▸ later)]
      exact awaits y (.tail _ later)
    · exact fun _ _ ended => ended
  · refine ⟨⟨h.toSteady, h.idle⟩, distinct, fun x there => ?_⟩
    obtain ⟨a, mem, rfl⟩ := List.mem_map.mp there
    refine ⟨a, mem, rfl, (h.awaits a mem).congr (iff_of_false id fun back => ?_)⟩
    exact List.not_mem_nil back.1

theorem Listing.parsed_good (a : Listing) {r : Record} (good : r.Good) :
    (a.parsed o r).Good := by
  rw [parsed, read]
  cases has : a.marks with
  | none => exact good.congr rfl rfl
  | some marks =>
      obtain ⟨-, -, isMarks, -, below⟩ := Listing.total_spec has
      refine ⟨fun _ => rfl, fun drv mem => .inl ?_⟩
      obtain ⟨i, less, rfl⟩ := List.mem_map.mp mem
      have small : i < marks.length := (List.mem_range.mp less).trans_le below
      have mark := getElem?_markField (List.getElem?_eq_getElem small)
      dsimp only
      rw [mark]
      obtain up_ | down := isMarks _ (List.getElem_mem small)
      · rw [up_]
        exact .tail _ (.head _)
      · rw [down]
        exact .head _

theorem Listing.parsed_gone (a : Listing) (r : Record) : (a.parsed o r).gone = r.gone := by
  rw [parsed, read]
  cases a.marks <;> rfl

theorem driveNames_ne_nil {line : Text} (some_ : driveFields line ≠ []) : driveNames line ≠ [] := by
  have grows : ∀ (fields names : List Text), names ≠ [] → fields.foldl (fun names field =>
      if field ∉ names then names ++ [driveName field] else names) names ≠ [] := by
    intro fields
    induction fields with
    | nil => exact fun _ some_ => some_
    | cons field rest ih =>
        intro names some_
        apply ih
        dsimp only
        split
        · exact List.append_ne_nil_of_left_ne_nil some_ _
        · exact some_
  rw [driveNames]
  cases fields : driveFields line with
  | nil => exact absurd fields some_
  | cons field rest => exact grows rest _ (by simp)

theorem Listing.parsed_fresh (a : Listing) {r r' : Record} (moved : a.changed r')
    (none_ : a.names = []) : ∀ drv ∈ (a.parsed o r).drives.getD [], drv.identity = none := by
  have fields : driveFields a.line = [] := by
    by_contra some_
    exact driveNames_ne_nil some_ none_
  have identity : identities o a.line = .empty := by
    rw [identities, fields]
    rfl
  rw [parsed, read]
  rw [Listing.changed] at moved
  cases has : a.marks with
  | none =>
      rw [has] at moved
      cases moved
  | some marks =>
      intro drv mem
      obtain ⟨i, -, rfl⟩ := List.mem_map.mp mem
      rw [identity]
      rfl

/-- If the text is new, it lists arrays in the format of the kernel, and nothing that the round
looks for is lacking for them. -/
def Meets (s : State) : Action → Prop
  | .run o => ∀ status ∈ o.mdstat, s.data.contents ≠ status →
    ∃ arrays, InFormat status arrays ∧ ∀ a ∈ arrays,
      (a.parsed o (s.data.record a.device)).Safe a.names (a.changed (s.data.record a.device))
        (a.device ∈ confDevices o.conf ∧ a.device ∈ s.data.faultyDeviceList)
  | .restart | .reboot => True

/-- The round comes to its end, unless the daemon itself ends: no other exception leaves it. -/
def Finishes (o : Outside) (s : State) : Prop :=
  ((notifyNodeDataMsgHandler o).run s).1 = .ok ⟨⟩ ∨
    ((notifyNodeDataMsgHandler o).run s).1 = .error .ended

/-- After the text has been read the arrays of the configuration file are looked for. -/
theorem Steady.looking {contents : Text} {scan₀ scan' : Scan} (h : Steady s)
    (idle : s.alertType = none)
    (safe : ∀ a ∈ arrays, (a.parsed o (s.data.record a.device)).Safe a.names
      (a.changed (s.data.record a.device))
      (a.device ∈ confDevices o.conf ∧ a.device ∈ s.data.faultyDeviceList))
    (read : Scanned o arrays scan₀ { s with data := { s.data with contents := contents } }
      scan' t) :
    Looking arrays (fun a => a.changed (s.data.record a.device)) (confDevices o.conf) t := by
  have records : ∀ a ∈ arrays, t.data.record a.device = a.parsed o (s.data.record a.device) :=
    read.own
  obtain ⟨data, same⟩ := read.data
  constructor
  · constructor
    · intro x
      by_cases here : x ∈ arrays.map Listing.device
      · obtain ⟨a, mem, rfl⟩ := List.mem_map.mp here
        rw [records a mem]
        exact a.parsed_good (h.live _)
      · rw [(read.others x here).1]
        exact h.live x
    · rw [same]
      exact h.stored
  · rw [same]
    exact idle
  · intro a mem
    rw [records a mem]
    refine ⟨?_, fun moved none_ => a.parsed_fresh moved none_⟩
    have gone : ((a.parsed o (s.data.record a.device)).gone = true) =
        (a.device ∈ s.data.faultyDeviceList) := by
      rw [a.parsed_gone]
      exact decide_eq_true_eq
    rw [gone]
    exact safe a mem

theorem leaves_round (h : Steady s) (idle : s.alertType = none) (meets : Meets s (.run o)) :
    (notifyNodeDataMsgHandler o).Leaves (fun _ t => Steady t ∧ t.alertType = none) Ended s := by
  rw [notifyNodeDataMsgHandler]
  apply Try.leaves_bind.mpr
  apply Try.leaves_modify.mpr
  have begun : Steady { s with driveStateChanged := false, resourceId := none } :=
    ⟨h.live, h.stored⟩
  cases new : o.mdstat with
  | none => exact ⟨begun, idle⟩
  | some status =>
      dsimp only
      apply Try.leaves_bind.mpr
      apply Try.leaves_get.mpr
      apply Try.leaves_ite.mpr
      split
      · exact ⟨begun, idle⟩
      · rename_i other
        obtain ⟨arrays, format, safe⟩ := meets status new other
        iterate 2 apply Try.leaves_bind.mpr
        apply (leaves_inFormat (o := o) (s := { s with
          driveStateChanged := false
          resourceId := none
          data := { s.data with contents := status } }) format).mono
        · rintro scan t read
          have looking := begun.looking idle safe read
          have devices : scan.mdDeviceList = arrays.map Listing.device := read.devices
          have distinct := List.inj_on_of_nodup_map format.distinct
          rw [devices]
          apply Try.leaves_bind.mpr
          apply (leaves_processMissing read.listed (fun a mem b mem' => distinct mem mem')
            looking).mono
          · exact fun _ u looking =>
              leaves_deviceTurns read.listed read.changed format.distinct looking
          · exact fun _ _ ended => ended
        · exact fun _ _ raised => raised.elim

theorem Steady.initData (h : Steady s) : Steady (initData s) := by
  have live : ∀ x, ((s.store.getD {}).record x).Good := by
    cases stored : s.store with
    | none => exact fun _ => ⟨nofun, nofun⟩
    | some data => exact h.stored data stored
  refine ⟨live, ?_⟩
  rintro _ ⟨⟩
  exact live

theorem steady_next {a : Action} (h : Steady s ∧ s.alertType = none) (meets : Meets s a)
    (step : next s a = some t) : Steady t ∧ t.alertType = none := by
  cases a with
  | run o =>
      rw [next] at step
      split at step
      · cases step
        have left := leaves_round h.1 h.2 meets
        unfold Try.Leaves at left
        rw [run]
        split at left
        · rename_i ended
          rw [ended]
          exact left
        · rename_i ended
          rw [ended]
          exact ⟨⟨left.2.1.live, left.2.1.stored⟩, left.2.2⟩
      · cases step
  | restart =>
      cases step
      exact ⟨h.1.initData, h.2⟩
  | reboot =>
      cases step
      have steady : Steady { s with alertType := none } := ⟨h.1.live, h.1.stored⟩
      exact ⟨steady.initData, rfl⟩

theorem steady_start : Steady start ∧ start.alertType = none := by
  have empty : Steady {
      data := {}
      alertType := none
      driveStateChanged := false
      resourceId := none
      store := none
      sent := []
      running := false } := ⟨fun _ => ⟨nofun, nofun⟩, nofun⟩
  exact ⟨empty.initData, rfl⟩

theorem finishes_of_meets (h : Steady s ∧ s.alertType = none) (meets : Meets s (.run o)) :
    Finishes o s := by
  have left := leaves_round h.1 h.2 meets
  unfold Try.Leaves at left
  split at left
  · rename_i ended
    exact .inl (by rw [ended])
  · rename_i ended
    refine .inr ?_
    rw [ended, left.1]

/-- In a run in which nothing is lacking every round comes to its end. What may be lacking is the
number of drives of an array, or the role of a drive when an alert is raised or closed. -/
theorem rounds_finish {actions done rest : List Action} (h : system.Runs Meets start actions s)
    (split : actions = done ++ .run o :: rest) (reached : system.FreeRuns start done t) :
    Finishes o t := by
  rw [split] at h
  obtain ⟨before, after⟩ := h.prefix_suffix reached
  have steady := before.invariant (I := fun s => Steady s ∧ s.alertType = none)
    (fun _ _ _ steady meets step => steady_next steady meets step) steady_start
  cases after with
  | cons meets _ _ => exact finishes_of_meets steady meets

end Round

namespace Rounds

def outside (mdstat : Text) : Outside := { StatusLine.outside with mdstat := some mdstat }

theorem plain_blocks : '[' ∉ StatusLine.blocks := by decide

theorem isMarks_upDown : IsMarks StatusLine.upDown := by simp [IsMarks, StatusLine.upDown]

def degraded : Listing where
  device := "/dev/md0".toList
  line := StatusLine.pair
  status := statusText StatusLine.blocks 1 StatusLine.upDown
  marks := some StatusLine.upDown
  more := []
  named := StatusLine.pair_device
  shape := ⟨isMarks_upDown, StatusLine.blocks, 1, plain_blocks, rfl⟩
  plain := List.forall_mem_singleton.mpr (by decide +kernel)

def mirror : Text := degraded.line ++ '\n' :: degraded.status

theorem inFormat_mirror : InFormat mirror [degraded] := by
  constructor
  · exact ⟨[], by decide +kernel, nofun⟩
  · exact List.nodup_singleton _

theorem clear_degraded {r : Record} : (degraded.parsed (outside mirror) r).Clear := by
  refine ⟨[{ status := "U".toList, identity := some "/dev/sdb1".toList },
    { status := "_".toList, identity := some "/dev/sda1".toList }], ?_, ?_⟩
  · show some (entries _ _ _) = _
    decide +kernel
  · exact List.forall_mem_cons.mpr ⟨.inl (.head _), List.forall_mem_singleton.mpr (.inr rfl)⟩

theorem meets_mirror : Meets start (.run (outside mirror)) := by
  rintro status ⟨⟩ -
  refine ⟨[degraded], inFormat_mirror, List.forall_mem_singleton.mpr ?_⟩
  have clear := (clear_degraded (r := start.data.record degraded.device)).not_blind
  constructor
  · rfl
  · exact fun _ _ => clear
  · exact fun _ refilled => absurd refilled.2 (by decide +kernel)
  · exact fun _ _ blind => absurd blind clear

/-- A mirror has lost one of its drives. -/
theorem rounds_finish_degraded : Finishes (outside mirror) start := by
  have step : next start (.run (outside mirror)) = some (run (outside mirror) start) := rfl
  have split : [Action.run (outside mirror)] = [] ++ .run (outside mirror) :: [] := rfl
  exact rounds_finish (.single meets_mirror step) split (.nil start)

def stripe : Listing where
  device := "/dev/md0".toList
  line := "md0 : active raid0 sda1[1] sdb1[0]".toList
  status := "      2093056 blocks 512k chunks".toList
  marks := none
  more := []
  named := by decide +kernel
  shape := by decide +kernel
  plain := List.forall_mem_singleton.mpr (by decide +kernel)

def stripes : Text := stripe.line ++ '\n' :: stripe.status

theorem inFormat_stripes : InFormat stripes [stripe] := by
  constructor
  · exact ⟨[], by decide +kernel, nofun⟩
  · exact List.nodup_singleton _

theorem stripes_raise :
    ((notifyNodeDataMsgHandler (outside stripes)).run start).1 = .error .keyError := by
  decide +kernel

/-- An array without a number of drives ends the monitoring of all arrays. -/
theorem stripes_not_finish : ¬ ∀ o actions s, system.FreeRuns start actions s →
    (∀ status ∈ o.mdstat, ∃ arrays, InFormat status arrays) → Finishes o s := by
  intro always
  have formatted : ∀ status ∈ (outside stripes).mdstat, ∃ arrays, InFormat status arrays := by
    rintro status ⟨⟩
    exact ⟨[stripe], inFormat_stripes⟩
  obtain ended | ended := always (outside stripes) [] start (.nil _) formatted
  · cases stripes_raise.symm.trans ended
  · cases stripes_raise.symm.trans ended

end Rounds

end Raid

end Sspl

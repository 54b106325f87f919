import Sspl.Raid.Scan
import Sspl.Raid.Turns

/-!
# The alerts alternate

The alerts on an array and those on its drives alternate in every run. So do the `missing`
and `insertion` alerts of an array, as long as no other alert comes between a `missing` alert
and the next text that lists too few drives: the sensor takes the type of the last alert for
the last `missing` or `insertion`, and sends `missing` a second time.
-/

namespace Sspl

namespace Raid

open Iem (Text)

variable {watched near : Text → Prop} {s t : State} {device : Text} {o : Outside}

def confDevices (conf : Option Text) : List Text := (conf.bind confDeviceList).getD []

/-- What is left to do in the loop over the configuration file. An array with an open `missing`
alert is not to be reported as back. -/
structure ArraysLeft (watched near : Text → Prop) (totalDrives : Dict Text Nat)
    (rest : List Text) (s : State) : Prop where
  sound : Sound watched s
  idle : Idle s
  totals : s.data.totalDrives = totalDrives
  noticed : ∀ device, near device → Noticed device s
  healthy : ∀ device, near device → Pending (.count device) s.sent → device ∈ rest →
    device ∉ s.data.faultyDeviceList

theorem arraysLeft_turn {driveDict : Dict Text (List Text)} {totalDrives : Dict Text Nat}
    {mdDeviceList : List Text} (present : ∀ device, near device → device ∈ mdDeviceList)
    (rest : List Text) (h : ArraysLeft watched near totalDrives (device :: rest) s) :
    (arrayTurn o mdDeviceList driveDict device).Leaves
      (fun _ => ArraysLeft watched near totalDrives rest) (fun _ => Kept watched) s := by
  apply (((leaves_arrayTurn h.sound h.idle mdDeviceList).and
    (leaves_arrayTurn_present mdDeviceList)).and (arrayTurn_elsewhere mdDeviceList s)).mono
  · rintro _ t ⟨⟨⟨sound, idle, counts⟩, passed⟩, other⟩
    -- An array with an open alert is passed over in its own turn, and not touched in others.
    have untouched : ∀ x, near x → Pending (.count x) t.sent →
        t.data.prevAlertType.get? x = some (some .missing) ∧
          (x ∈ rest → x ∉ t.data.faultyDeviceList) := by
      intro x close opened
      rw [Pending, counts x] at opened
      by_cases here : x = device
      · subst here
        have healthy := h.healthy x close opened (.head _)
        rw [passed (present x close) healthy]
        exact ⟨h.noticed x close opened, fun _ => healthy⟩
      · rw [other.prev x here, other.array x here]
        exact ⟨h.noticed x close opened, fun later => h.healthy x close opened (.tail _ later)⟩
    refine ⟨sound, idle, other.totals.trans h.totals, ?_, ?_⟩
    · exact fun x close opened => (untouched x close opened).1
    · exact fun x close opened => (untouched x close opened).2
  · exact fun _ _ raised => raised.1.1

theorem leaves_processMissingMdDevices {driveDict : Dict Text (List Text)}
    {mdDeviceList : List Text} (present : ∀ device, near device → device ∈ mdDeviceList)
    {totalDrives : Dict Text Nat}
    (h : ArraysLeft watched near totalDrives (confDevices o.conf) s) :
    (processMissingMdDevices o mdDeviceList driveDict).Leaves
      (fun _ => ArraysLeft watched near totalDrives []) (fun _ => Kept watched) s := by
  unfold processMissingMdDevices
  unfold confDevices at h
  cases found : o.conf.bind confDeviceList with
  | none =>
      rw [found] at h
      exact h
  | some devices =>
      rw [found] at h
      exact Try.leaves_forM (fun _ rest _ left => arraysLeft_turn present rest left) devices s h

/-- What is left to do in the loop over `/proc/mdstat`. -/
structure DevicesLeft (watched near : Text → Prop) (totalDrives : Dict Text Nat)
    (rest : List Text) (s : State) : Prop where
  sound : Sound watched s
  idle : Idle s
  totals : s.data.totalDrives = totalDrives
  once : ∀ device, near device → rest.count device ≤ 1
  noticed : ∀ device, near device → device ∈ rest → Noticed device s

theorem devicesLeft_turn {scan : Scan} {totalDrives : Dict Text Nat}
    (covers : ∀ device, watched device → Short scan.driveDict totalDrives device → near device)
    (rest : List Text) (h : DevicesLeft watched near totalDrives (device :: rest) s) :
    (deviceTurn o scan device).Leaves (fun _ => DevicesLeft watched near totalDrives rest)
      (fun _ => Kept watched) s := by
  have noticed : watched device → Short scan.driveDict s.data.totalDrives device →
      Noticed device s := by
    intro look short
    rw [h.totals] at short
    exact h.noticed device (covers device look short) (.head _)
  apply ((leaves_deviceTurn h.sound h.idle scan noticed).and (deviceTurn_elsewhere scan s)).mono
  · rintro _ t ⟨⟨sound, idle⟩, other⟩
    refine ⟨sound, idle, other.totals.trans h.totals, fun x close => ?_, fun x close later => ?_⟩
    · exact List.count_le_count_cons.trans (h.once x close)
    · have here : x ≠ device := by
        rintro rfl
        have twice := h.once x close
        rw [List.count_cons_self] at twice
        have := List.count_pos_iff.mpr later
        omega
      exact other.noticed here (h.noticed x close (.tail _ later))
  · exact fun _ _ raised => raised.1

/-- Where the text lists too few drives of the array, it lists the array once, and either no
`missing` alert of the array is open or it is the last alert on the array and stays so until
the drives are counted. -/
def Unhidden (device : Text) (s : State) (conf : Option Text) (contents : Text) : Prop :=
  Short (listed (lines contents) .empty) (totals none (lines contents) s.data.totalDrives)
    device → (mdDevices contents).count device ≤ 1 ∧ (Pending (.count device) s.sent →
      s.data.prevAlertType.get? device = some (some .missing) ∧
        ¬ (device ∈ s.data.faultyDeviceList ∧ device ∈ confDevices conf))

def Quiet (device : Text) (s : State) : Action → Prop
  | .run o => ∀ contents ∈ o.mdstat, contents ≠ s.data.contents → Unhidden device s o.conf contents
  | .restart | .reboot => True

instance (driveDict : Dict Text (List Text)) (totalDrives : Dict Text Nat) (device : Text) :
    Decidable (Short driveDict totalDrives device) :=
  inferInstanceAs (Decidable (∃ names ∈ driveDict.get? device,
    ∃ total ∈ totalDrives.get? device, names.length < total))

instance (device : Text) (s : State) (conf : Option Text) (contents : Text) :
    Decidable (Unhidden device s conf contents) :=
  inferInstanceAs (Decidable (_ → _ ∧ (_ → _ ∧ ¬ (_ ∧ _))))

instance (device : Text) (s : State) : (a : Action) → Decidable (Quiet device s a)
  | .run o => inferInstanceAs (Decidable (∀ contents ∈ o.mdstat, contents ≠ s.data.contents →
      Unhidden device s o.conf contents))
  | .restart | .reboot => .isTrue trivial

theorem mem_of_listed {lines : List Text} {driveDict : Dict Text (List Text)}
    {names : List Text} (found : (listed lines driveDict).get? device = some names) :
    device ∈ lines.filterMap mdDevice ∨ driveDict.get? device = some names := by
  induction lines generalizing driveDict with
  | nil => exact .inr found
  | cons line rest ih =>
      rw [listed] at found
      rcases ih found with later | before
      · exact .inl (List.mem_filterMap.mpr (by
          obtain ⟨x, mem, same⟩ := List.mem_filterMap.mp later
          exact ⟨x, .tail _ mem, same⟩))
      · cases here : mdDevice line with
        | none =>
            rw [here] at before
            exact .inr before
        | some x =>
            rw [here] at before
            dsimp only at before
            rw [Dict.get?_set] at before
            split at before
            · rename_i same
              exact .inl (List.mem_filterMap.mpr ⟨line, .head _, by rw [here, same]⟩)
            · exact .inr before

/-- The text has changed. -/
theorem leaves_changed (h : Sound watched s) (idle : Idle s)
    (unhidden : ∀ device, watched device → Unhidden device s o.conf s.data.contents) :
    Try.Leaves (do
      let scan ← processMdstat o
      processMissingMdDevices o scan.mdDeviceList scan.driveDict
      scan.mdDeviceList.forM (deviceTurn o scan))
      (fun _ => Sound watched) (fun _ => Kept watched) s := by
  apply Try.leaves_bind.mpr
  apply (leaves_processMdstat o s).mono
  · rintro scan t ⟨still, devices, drives, counted⟩
    let near := fun device => watched device ∧ Short scan.driveDict t.data.totalDrives device
    have calm : ∀ device, near device → (mdDevices s.data.contents).count device ≤ 1 ∧
        (Pending (.count device) s.sent →
          s.data.prevAlertType.get? device = some (some .missing) ∧
            ¬ (device ∈ s.data.faultyDeviceList ∧ device ∈ confDevices o.conf)) := by
      rintro device ⟨look, short⟩
      rw [drives, counted] at short
      exact unhidden device look short
    have present : ∀ device, near device → device ∈ scan.mdDeviceList := by
      rintro device ⟨-, names, found, -⟩
      rw [drives] at found
      rw [devices]
      exact (mem_of_listed found).resolve_right nofun
    apply Try.leaves_bind.mpr
    have arrays : ArraysLeft watched near t.data.totalDrives (confDevices o.conf) t := by
      refine ⟨still.sound h, still.leaveIdle idle, rfl, ?_, ?_⟩
      · intro device close opened
        rw [Pending, still.sent] at opened
        exact (still.count device).mpr ((calm device close).2 opened).1
      · intro device close opened listed faulty
        rw [Pending, still.sent] at opened
        rw [still.array] at faulty
        exact ((calm device close).2 opened).2 ⟨faulty, listed⟩
    apply (leaves_processMissingMdDevices present arrays).mono
    · intro _ u left
      refine Try.leaves_forM (I := DevicesLeft watched near t.data.totalDrives)
        (fun _ rest _ left => devicesLeft_turn ?_ rest left) _ u ?_ |>.mono
        (fun _ _ left => left.sound) (fun _ _ kept => kept)
      · exact fun device look short => ⟨look, short⟩
      · refine ⟨left.sound, left.idle, left.totals, ?_, fun x close _ => left.noticed x close⟩
        intro x close
        rw [devices]
        exact (calm x close).1
    · exact fun _ _ kept => kept
  · exact fun _ t still => h.toKept.congr still.sent still.store

theorem leaves_notify (h : Sound watched s)
    (quiet : ∀ device, watched device → Quiet device s (.run o)) :
    (notifyNodeDataMsgHandler o).Leaves (fun _ => Sound watched) (fun _ => Kept watched) s := by
  apply Try.leaves_bind.mpr
  apply Try.leaves_modify.mpr
  have begun : Sound watched { s with driveStateChanged := false, resourceId := none } :=
    ⟨h.toKept.congr rfl rfl, h.live⟩
  cases read : o.mdstat with
  | none => exact begun
  | some contents =>
      apply Try.leaves_bind.mpr
      apply Try.leaves_get.mpr
      apply Try.leaves_ite.mpr
      split
      · exact begun
      · rename_i changed
        apply Try.leaves_bind.mpr
        apply Try.leaves_modify.mpr
        apply leaves_changed
        · refine Still.sound ?_ begun
          exact .of_data rfl rfl rfl
        · exact nofun
        · exact fun device look => quiet device look contents read (Ne.symm changed)

/-- While the thread runs its data say what is open; the stored data always do. -/
structure Keeping (watched : Text → Prop) (s : State) : Prop where
  kept : Kept watched s
  live : s.running = true → Open s.data s.sent

theorem Keeping.start : Keeping watched start := by
  have nothing : Open {} [] := by
    constructor
    · exact fun device => iff_of_false (Finset.notMem_empty device) nofun
    · exact fun device name => iff_of_false nofun nofun
    · exact fun device missing => nomatch missing
  exact ⟨⟨fun subject _ => trivial, {}, rfl, nothing⟩, fun _ => nothing⟩

/-- The stored data are those of the last alert. -/
theorem Keeping.initData (h : Kept watched s) : Keeping watched (initData s) := by
  obtain ⟨data, stored, tracks⟩ := h.stored
  unfold Raid.initData
  rw [stored]
  exact ⟨⟨h.alternate, data, rfl, tracks⟩, fun _ => tracks⟩

theorem Keeping.next (h : Keeping watched s) {a : Action}
    (quiet : ∀ device, watched device → Quiet device s a) (step : next s a = some t) :
    Keeping watched t := by
  cases a with
  | run o =>
      change (if s.running then some (run o s) else none) = some t at step
      split at step
      · rename_i running
        cases step
        have left := leaves_notify ⟨h.kept, h.live running⟩ quiet
        unfold Try.Leaves at left
        unfold Raid.run
        split at left
        · rename_i ended
          rw [ended]
          exact ⟨left.toKept, fun _ => left.live⟩
        · rename_i ended
          rw [ended]
          exact ⟨left.congr rfl rfl, nofun⟩
      · cases step
  | restart =>
      cases step
      exact Keeping.initData h.kept
  | reboot =>
      cases step
      exact Keeping.initData (h.kept.congr rfl rfl)

/-- The alerts that were sent on an array alternate, and so do those on the number of its drives
and on each of its drives. -/
structure Alternates (device : Text) (sent : List Alert) : Prop where
  array : Alternating .fault .faultResolved (alerts (.array device) sent)
  count : Alternating .missing .insertion (alerts (.count device) sent)
  drive : ∀ name, Alternating .fault .faultResolved
    (alerts (.drive device (driveResource device name)) sent)

/-- The alerts on arrays and on their drives alternate whatever happens. -/
theorem array_and_drives_alternate {actions : List Action}
    (h : system.FreeRuns start actions s) : system.Always (fun t => ∀ device,
      Alternating .fault .faultResolved (alerts (.array device) t.sent) ∧
      ∀ name, Alternating .fault .faultResolved
        (alerts (.drive device (driveResource device name)) t.sent)) start actions := by
  have keeping := h.always (I := Keeping fun _ => False)
    (fun s a t inv _ step => inv.next (fun _ none => none.elim) step) Keeping.start
  intro done rest t split reached device
  have kept := (keeping done rest t split reached).kept
  exact ⟨kept.alternate (.array device) nofun, fun name => kept.alternate (.drive device _) nofun⟩

/-- All alerts on an array alternate as long as no open `missing` alert is hidden:
`prev_alert_type` keeps it, and the array is not closed as found again before its drives are
counted. Restarts may come after any alert. -/
theorem all_alerts_alternate {actions : List Action}
    (h : system.Runs (Quiet device) start actions s) :
    system.Always (fun t => Alternates device t.sent) start actions := by
  have keeping := h.always (I := Keeping (· = device))
    (fun s a t inv quiet step => inv.next (by rintro _ rfl; exact quiet) step) Keeping.start
  intro done rest t split reached
  have kept := (keeping done rest t split reached).kept
  constructor
  · exact kept.alternate (.array device) nofun
  · exact kept.alternate (.count device) (by rintro _ same; cases same; rfl)
  · exact fun name => kept.alternate (.drive device _) nofun

namespace Example

def mdstat (drives status : String) : Text :=
  "md0 : active raid1 ".toList ++ drives.toList ++ "\n  1046528 blocks ".toList ++ status.toList

def outside (drives status : String) : Outside where
  mdstat := some (mdstat drives status)
  conf := some "ARRAY /dev/md/0".toList
  examine path :=
    if path = "/dev/sda1".toList then "   Device Role : Active device 0".toList
    else if path = "/dev/sdb1".toList then "   Device Role : Active device 1".toList
    else "   Device Role : Active device 2".toList
  order := id
  ends _ := false

def md0 : Text := "/dev/md0".toList

def allUp : Outside := outside "sda1[0] sdb1[1] sdc1[2]" "[3/3] [UUU]"

/-- A drive fails, is taken out, is put in again and comes back, with a restart meanwhile. -/
def repaired : List Action :=
  [.run allUp,
    .run (outside "sda1[0] sdb1[1] sdc1[2](F)" "[3/2] [UU_]"),
    .run (outside "sda1[0] sdb1[1]" "[3/2] [UU_]"),
    .reboot,
    .run (outside "sda1[0] sdb1[1] sdc1[3]" "[3/2] [UU_]"),
    .run allUp]

theorem repaired_sent : (system.replay (Quiet md0) start repaired).map (fun s =>
    s.sent.map fun a => (a.alertType, a.resourceId)) =
      some [(.fault, driveResource md0 "sdc1".toList),
        (.missing, driveResource md0 "sdc1".toList),
        (.insertion, driveResource md0 "sda1".toList),
        (.faultResolved, driveResource md0 "sdc1".toList)] := by
  decide +kernel

/-- A drive of three fails and is replaced. -/
theorem all_alerts_alternate_repaired :
    system.Always (fun t => Alternates md0 t.sent) start repaired := by
  obtain ⟨s, replay, -⟩ := Option.map_eq_some_iff.mp repaired_sent
  exact all_alerts_alternate (system.replay_eq_some_iff.mp replay)

/-- One drive comes back in the same half minute in which another is taken out, and then the
text changes again. -/
def hidden : List Action :=
  [.run allUp,
    .run (outside "sda1[0] sdb1[1](F) sdc1[2]" "[3/2] [U_U]"),
    .run (outside "sda1[0] sdb1[1]" "[3/2] [UU_]"),
    .run (outside "sda1[0] sdb1[1]" "[3/2] [UU_]\n  bitmap: 0/1")]

theorem hidden_counts : (system.run start hidden).map (fun s => alerts (.count md0) s.sent) =
    some [.missing, .missing] := by
  decide +kernel

/-- The array has two `missing` alerts without an insertion between them. -/
theorem hidden_not_alternate : ¬ ∀ device actions s, system.FreeRuns start actions s →
    Alternates device s.sent := by
  intro always
  obtain ⟨s, replay, counts⟩ := Option.map_eq_some_iff.mp hidden_counts
  have alternate := (always md0 _ s (system.run_eq_some_iff.mp replay)).count
  rw [counts] at alternate
  exact nomatch alternate.2.1

end Example

end Raid

end Sspl

import Sspl.Raid.Integrity

/-!
# The alerts on RAID integrity

The fault-state file of an array says which alert was the last. A count of zero looks for the
word `fault` in it, which `fault_resolved` contains too: it resolves what is resolved already.
A mismatch looks for `fault_resolved`, and would find it in the name of an array that has this
in it.
-/

namespace Sspl

namespace Raid

namespace Integrity

open Iem (Text rstrip notMem_of_mem_splitOn)
open Node (AlertType)

/-- What the name of a device cannot have: a colon, or blanks at its end. -/
structure Plain (device : Text) : Prop where
  colon : ':' ∉ device
  stripped : rstrip device = device

theorem plain_getDevices {content : List Text} {device : Text}
    (mem : device ∈ getDevices content) : Plain device := by
  obtain ⟨line, -, rfl⟩ := List.mem_map.mp mem
  have head : ':' ∉ (line.splitOn ':').headD [] := by
    refine notMem_of_mem_splitOn (?_ : _ ∈ line.splitOn ':')
    cases parts : line.splitOn ':' with
    | nil => exact absurd parts (List.splitOn_ne_nil _ _)
    | cons first rest => exact .head _
  have front : rstrip ((line.splitOn ':').headD []) <+: (line.splitOn ':').headD [] :=
    List.rdropWhile_prefix _ _
  exact ⟨fun colon => head (front.subset colon), List.rdropWhile_idempotent _ _⟩

section Record

variable {device : Text} {alertType : AlertType}

theorem word_suffix_record : word alertType <:+ record device alertType :=
  ⟨device ++ [':'], by simp [record]⟩

theorem rstrip_record : rstrip (record device alertType) = record device alertType := by
  refine List.rdropWhile_eq_self_iff.mpr fun some_ => ?_
  have nonempty : word alertType ≠ [] := by cases alertType <;> decide
  rw [← word_suffix_record.getLast nonempty]
  revert nonempty
  cases alertType <;> decide

theorem fault_infix_record : word .fault <:+: record device alertType := by
  have inWord : word .fault <:+: word alertType := by cases alertType <;> decide
  exact inWord.trans word_suffix_record.isInfix

theorem faultResolved_infix_record : word .faultResolved <:+: record device .faultResolved :=
  word_suffix_record.isInfix

theorem device_of_record (plain : Plain device) :
    rstrip (((record device alertType).splitOn ':').headD []) = device := by
  rw [record, List.splitOn_append_cons_self_of_not_mem plain.colon]
  exact plain.stripped

theorem record_inj {other : AlertType} (same : record device alertType = record device other) :
    alertType = other := by
  have words : word alertType = word other := by simpa [record] using same
  revert words
  cases alertType <;> cases other <;> decide

end Record

section Alert

variable {s t : Sensor} {device other : Text} {alertType : AlertType} {turn : Turn} {r : Result}

/-- The alerts for the device alternate, and its file records the last of them, from which a new
process goes on. -/
structure Lawful (device : Text) (s : Sensor) : Prop where
  alternating : Alternating .fault .faultResolved (s.alertsOf device)
  file : s.files device = (s.alertsOf device).getLast?.map (record device)

theorem alertsOf_alert : (s.alert device alertType).alertsOf other =
    if device = other then s.alertsOf other ++ [alertType] else s.alertsOf other := by
  rw [Sensor.alertsOf, Sensor.alert, List.map_append, List.map_singleton, entries_concat,
    Sensor.alertsOf]

theorem Lawful.alert_iff (h : Lawful device s) : Lawful device (s.alert device alertType) ↔
    alertType = due .fault .faultResolved (s.alertsOf device) := by
  have news : (s.alert device alertType).alertsOf device = s.alertsOf device ++ [alertType] := by
    rw [alertsOf_alert, if_pos rfl]
  constructor
  · intro after
    have alternating := after.alternating
    rw [news] at alternating
    exact (Alternating.concat.mp alternating).2
  · intro next
    constructor
    · rw [news]
      exact Alternating.concat.mpr ⟨h.alternating, next⟩
    · rw [news, List.getLast?_concat]
      exact Function.update_self ..

theorem Lawful.alert_other (h : Lawful device s) (different : other ≠ device) :
    Lawful device (s.alert other alertType) := by
  have news : (s.alert other alertType).alertsOf device = s.alertsOf device := by
    rw [alertsOf_alert, if_neg different]
  have file : (s.alert other alertType).files device = s.files device :=
    Function.update_of_ne different.symm ..
  exact ⟨news ▸ h.alternating, by rw [file, news]; exact h.file⟩

/-- What the file says is what is due next. -/
theorem Lawful.due_of_file (h : Lawful device s) :
    s.files device = none ∧ due .fault .faultResolved (s.alertsOf device) = .fault ∨
    s.files device = some (record device .fault) ∧
      due .fault .faultResolved (s.alertsOf device) = .faultResolved ∨
    s.files device = some (record device .faultResolved) ∧
      due .fault .faultResolved (s.alertsOf device) = .fault := by
  rw [h.file]
  obtain ⟨empty, next⟩ | ⟨last, next⟩ | ⟨last, next⟩ := h.alternating.due_cases
  · exact .inl ⟨by rw [empty]; rfl, next⟩
  · exact .inr (.inl ⟨by rw [last]; rfl, next⟩)
  · exact .inr (.inr ⟨by rw [last]; rfl, next⟩)

/-- A count of zero resolves whatever the file records. -/
theorem Lawful.resolve_iff (h : Lawful device s) (plain : Plain device) :
    Lawful device (s.resolve device) ↔ s.files device ≠ some (record device .faultResolved) := by
  have resolves (alertType : AlertType) (file : s.files device = some (record device alertType)) :
      s.resolve device = s.alert device .faultResolved := by
    rw [Sensor.resolve, file]
    simp only [rstrip_record, device_of_record plain]
    exact if_pos ⟨fault_infix_record, trivial⟩
  obtain ⟨file, next⟩ | ⟨file, next⟩ | ⟨file, next⟩ := h.due_of_file
  · rw [Sensor.resolve, file]
    exact iff_of_true h (by simp)
  · rw [resolves _ file, h.alert_iff, next, file]
    exact iff_of_true rfl fun same => by cases record_inj (Option.some.inj same)
  · rw [resolves _ file, h.alert_iff, next, file]
    exact iff_of_false (by simp) (by simp)

/-- A mismatch raises a fault unless the file records one and `fault_resolved` is not in it. -/
theorem Lawful.mismatch_iff (h : Lawful device s) :
    Lawful device (s.mismatch device) ↔ (s.files device = some (record device .fault) →
      ¬ word .faultResolved <:+: record device .fault) := by
  obtain ⟨file, next⟩ | ⟨file, next⟩ | ⟨file, next⟩ := h.due_of_file
  · rw [Sensor.mismatch, file]
    exact iff_of_true (h.alert_iff.mpr next.symm) (by simp)
  · rw [Sensor.mismatch, file]
    simp only [rstrip_record, forall_const]
    split
    · rename_i found
      rw [h.alert_iff, next]
      exact iff_of_false (by simp) (fun none => none found)
    · rename_i none
      exact iff_of_true h none
  · rw [Sensor.mismatch, file]
    simp only [rstrip_record]
    rw [if_pos faultResolved_infix_record, h.alert_iff, next]
    exact iff_of_true rfl fun same => by cases record_inj (Option.some.inj same)

/-- A result for another device changes nothing for this one. -/
theorem Lawful.judge_other (h : Lawful device s) (different : turn.device ≠ device) :
    Lawful device (s.judge turn r) := by
  have alerted (alertType : AlertType) : Lawful device (s.alert turn.device alertType) :=
    h.alert_other different
  have resolved : Lawful device (s.resolve turn.device) := by
    rw [Sensor.resolve]
    split
    · exact h
    · dsimp only
      split
      · exact alerted _
      · exact h
  have mismatched : Lawful device (s.mismatch turn.device) := by
    rw [Sensor.mismatch]
    split
    · exact alerted _
    · split
      · exact alerted _
      · exact h
  rw [Sensor.judge]
  split
  · split
    · exact resolved
    · split
      · exact mismatched
      · exact h
  · exact h

end Alert

section Runs

variable {s t : Sensor} {device : Text} {a : Action}

/-- A count of zero is not read for the device when its file records that the fault is resolved,
and no round begins with a mismatch when the file records a fault in which the word for the
resolution occurs. -/
def Steady (device : Text) (s : Sensor) : Action → Prop
  | .result r => ∀ turn ∈ s.turn, turn.device = device →
      turn.stage.method = .checkMismatchCount →
      (r.response = mismatchCountResponse →
        s.files device ≠ some (record device .faultResolved)) ∧
      (r.response ≠ mismatchCountResponse → turn.stage.retry = false →
        s.files device = some (record device .fault) →
        ¬ word .faultResolved <:+: record device .fault)
  | .round _ => True
  | .restart => True

structure Invariant (device : Text) (s : Sensor) : Prop where
  lawful : Lawful device s
  plain : ∀ turn ∈ s.turn, Plain turn.device ∧ ∀ later ∈ turn.rest, Plain later

theorem Invariant.start (device : Text) : Invariant device start :=
  ⟨⟨trivial, rfl⟩, nofun⟩

theorem plain_begin {devices : List Text} (plain : ∀ device ∈ devices, Plain device) :
    ∀ turn ∈ Turn.begin devices, Plain turn.device ∧ ∀ later ∈ turn.rest, Plain later := by
  intro turn mem
  cases devices with
  | nil => cases mem
  | cons first rest =>
      cases mem
      exact ⟨plain _ (.head _), fun later mem => plain later (.tail _ mem)⟩

/-- The law after a result, for the device whose turn it is. -/
theorem judge_iff {turn : Turn} {r : Result} (h : Lawful turn.device s)
    (plain : Plain turn.device) : Lawful turn.device (s.judge turn r) ↔
      (turn.stage.method = .checkMismatchCount →
        (r.response = mismatchCountResponse →
          s.files turn.device ≠ some (record turn.device .faultResolved)) ∧
        (r.response ≠ mismatchCountResponse → turn.stage.retry = false →
          s.files turn.device = some (record turn.device .fault) →
          ¬ word .faultResolved <:+: record turn.device .fault)) := by
  rw [Sensor.judge]
  by_cases count : turn.stage.method = .checkMismatchCount
  · by_cases zero : r.response = mismatchCountResponse
    · rw [if_pos count, if_pos zero, h.resolve_iff plain]
      simp [count, zero]
    · rw [if_pos count, if_neg zero]
      by_cases first : turn.stage.retry = false
      · rw [if_pos first, h.mismatch_iff]
        simp [count, zero, first]
      · rw [if_neg first]
        simp [h, zero, first]
  · rw [if_neg count]
    simp [h, count]

/-- A step keeps the law exactly if it is steady. -/
theorem Invariant.step_iff (h : Invariant device s) (step : system.next s a = some t) :
    (Lawful device t ↔ Steady device s a) ∧
      ∀ turn ∈ t.turn, Plain turn.device ∧ ∀ later ∈ turn.rest, Plain later := by
  cases a with
  | round content =>
      cases idle : s.turn with
      | some turn => simp [system, idle] at step
      | none =>
          simp only [system, idle, Option.some.injEq] at step
          subst step
          refine ⟨iff_of_true ⟨h.lawful.alternating, h.lawful.file⟩ trivial, ?_⟩
          exact plain_begin fun _ mem => plain_getDevices mem
  | result r =>
      cases busy : s.turn with
      | none => simp [system, busy] at step
      | some turn =>
          simp only [system, busy, Option.some.injEq] at step
          subst step
          obtain ⟨plain, later⟩ := h.plain turn busy
          have judged : Lawful device (s.take turn r) ↔ Lawful device (s.judge turn r) :=
            ⟨fun after => ⟨after.alternating, after.file⟩,
              fun after => ⟨after.alternating, after.file⟩⟩
          constructor
          · rw [judged]
            by_cases own : turn.device = device
            · subst own
              rw [judge_iff h.lawful plain]
              simp [Steady, busy]
            · exact iff_of_true (h.lawful.judge_other own) (by simp [Steady, busy, own])
          · show ∀ after ∈ turn.next r, _
            rw [Turn.next]
            split
            · rintro after ⟨⟩
              exact ⟨plain, later⟩
            · exact plain_begin later
  | restart =>
      cases step
      exact ⟨iff_of_true ⟨h.lawful.alternating, h.lawful.file⟩ trivial, nofun⟩

/-- In a run of rounds, results and restarts, the alerts for an array alternate and its file
always records the last of them exactly if every step is steady. -/
theorem integrity_alerts_iff {actions : List Action} (runs : system.FreeRuns start actions s) :
    system.Always (Lawful device) start actions ↔
      system.Runs (Steady device) start actions s := by
  refine Transition.System.Runs.always_iff (I := Invariant device) (fun _ h => h.lawful) ?_ ?_ runs
    (.start device)
  · exact fun _ _ _ h steady step => ⟨(h.step_iff step).1.mpr steady, (h.step_iff step).2⟩
  · exact fun _ _ _ h step lawful => (h.step_iff step).1.mp lawful

end Runs

/-- `/proc/mdstat` with one array. -/
def oneArray : List Text :=
  ["Personalities : [raid1]".toList, "md0 : active raid1 sdb1[1] sda1[0]".toList,
    "      1048512 blocks [2/2] [UU]".toList, "unused devices: <none>".toList]

def md0 : Text := "md0".toList

/-- The check is accepted, and the array is found idle. -/
def checked : List Action :=
  [.round oneArray, .result ⟨[], []⟩, .result ⟨"idle".toList, []⟩]

def mismatchOf (count : String) : Action := .result ⟨count.toList, []⟩

/-- A mismatch is found, the process is restarted, and the next round finds none. -/
def synchronised : List Action :=
  checked ++ [mismatchOf "128", mismatchOf "64", .restart] ++ checked ++ [mismatchOf "0"]

/-- A mismatch is found and the array is synchronised. -/
theorem integrity_alerts_iff_synchronised :
    ∃ s, system.run start synchronised = some s ∧
      s.alertsOf md0 = [.fault, .faultResolved] ∧
      (system.Always (Lawful md0) start synchronised ↔
        system.Runs (Steady md0) start synchronised s) := by
  have ended : (system.run start synchronised).map (Sensor.alertsOf · md0) =
      some [.fault, .faultResolved] := by decide +kernel
  obtain ⟨s, run, alerts⟩ := Option.map_eq_some_iff.mp ended
  exact ⟨s, run, alerts, integrity_alerts_iff (system.run_eq_some_iff.mp run)⟩

/-- Another round without a mismatch resolves the fault once more. -/
theorem integrity_alerts_repeat :
    ∃ s, system.run start (synchronised ++ checked ++ [mismatchOf "0"]) = some s ∧
      ¬ Lawful md0 s := by
  have ended : (system.run start (synchronised ++ checked ++ [mismatchOf "0"])).map
      (Sensor.alertsOf · md0) = some [.fault, .faultResolved, .faultResolved] := by
    decide +kernel
  obtain ⟨s, run, alerts⟩ := Option.map_eq_some_iff.mp ended
  refine ⟨s, run, fun lawful => ?_⟩
  have alternating := lawful.alternating
  rw [alerts] at alternating
  exact absurd alternating (by decide)

end Integrity

end Raid

end Sspl

import Mathlib.Data.Nat.Basic
import Mathlib.Order.Basic
import Sspl.Node.UsageCalls

/-!
# The alerts on disk space

`_generate_disk_space_alert` raises a fault at or above the threshold and resolves it at or
below. Its messages say that usage has increased beyond the threshold and that it is lower than
the threshold. At the threshold itself the second half undoes what the first has done: both
alerts are raised in one call, or a fault is resolved that is still there.
-/

namespace Sspl

namespace Node

namespace Usage

variable {ρ : Type}

section Law

variable [LinearOrder ρ]

/-- Each call raises at most one alert, the alerts alternate, and each call leaves the flag set
exactly when its reading is at or above the threshold. -/
structure DiskSpaceLaw (threshold : ρ) (calls : List (Call ρ)) : Prop where
  single : ∀ call ∈ calls, call.alerts.length ≤ 1
  alternating : Alternating .fault .faultResolved (alertsOf calls)
  flag : ∀ call ∈ calls, call.high = true ↔ threshold ≤ call.usage

variable {threshold usage : ρ} {high high' : Bool} {alerts : List AlertType}

/-- Away from the threshold a call does what it should. -/
theorem DiskOutcome.lawful (h : DiskOutcome threshold usage high high' alerts)
    (away : usage ≠ threshold) : alerts.length ≤ 1 ∧ (high' = true ↔ threshold ≤ usage) := by
  cases h with
  | fault idle above => exact ⟨le_refl 1, iff_of_true rfl above.le⟩
  | both idle same => exact absurd same away
  | resolved outstanding atMost =>
      have below := lt_of_le_of_ne atMost away
      exact ⟨le_refl 1, iff_of_false (by simp) (not_le.mpr below)⟩
  | idle idle below => exact ⟨Nat.zero_le 1, iff_of_false (by simp) (not_le.mpr below)⟩
  | held outstanding above => exact ⟨Nat.zero_le 1, iff_of_true rfl above.le⟩

/-- At the threshold every call leaves the flag cleared. -/
theorem DiskOutcome.cleared (h : DiskOutcome threshold usage high high' alerts)
    (same : usage = threshold) : high' = false := by
  cases h with
  | fault idle above => exact absurd same above.ne'
  | both idle same => rfl
  | resolved outstanding atMost => rfl
  | idle idle below => rfl
  | held outstanding above => exact absurd same above.ne'

/-- The flag follows the alerts, which alternate at the threshold, too. -/
theorem DiskOutcome.follows {call : Call ρ} {calls : List (Call ρ)}
    (h : Follows .fault .faultResolved Call.alerts calls (high = true))
    (outcome : DiskOutcome threshold usage high high' call.alerts) :
    Follows .fault .faultResolved Call.alerts (call :: calls) (high' = true) := by
  generalize raised : call.alerts = alerts at outcome
  cases outcome with
  | fault idle above => exact h.raise (by simp [idle]) raised rfl
  | both idle same => exact h.pulse (by decide) (by simp [idle]) raised (by simp)
  | resolved outstanding atMost => exact h.settle (by decide) outstanding raised (by simp)
  | idle idle below => exact h.silent raised (by simp [idle])
  | held outstanding above => exact h.silent raised (by simp [outstanding])

end Law

section Runs

variable [LinearOrder ρ] {c : Settings ρ} {s t : State ρ} {a : Action ρ}

structure DiskInvariant (c : Settings ρ) (s : State ρ) : Prop where
  synced : Synced s.handler
  follows : ∀ data, s.handler.files .disk = some data →
    Follows .fault .faultResolved Call.alerts (s.calls .disk) (data.highUsage = true)
  lawful : ∀ call ∈ s.calls .disk, call.usage ≠ c.threshold .disk →
    call.alerts.length ≤ 1 ∧ (call.high = true ↔ c.threshold .disk ≤ call.usage)
  cleared : ∀ call ∈ s.calls .disk, call.usage = c.threshold .disk → call.high = false

theorem DiskInvariant.start (c : Settings ρ) : DiskInvariant c start := by
  refine ⟨start_synced, fun data here => ?_, nofun, nofun⟩
  rw [start_files] at here
  cases here
  exact .nil (by simp)

theorem DiskInvariant.step (h : DiskInvariant c s) (step : (system c).next s a = some t) :
    DiskInvariant c t := by
  have synced := h.synced.step step
  by_cases own : ∃ usage time, a = .call .disk usage time
  · obtain ⟨usage, time, rfl⟩ := own
    cases step
    obtain ⟨data, here, same⟩ := h.synced .disk
    obtain ⟨data', news, call, changed, calls, -, high, outcome⟩ :=
      called_disk (c := c) usage time here same
    refine ⟨synced, ?_, ?_, ?_⟩
    · intro data'' here'
      rw [changed.here] at here'
      cases here'
      rw [calls, Function.update_self, ← high]
      exact outcome.follows (h.follows data here)
    · rw [calls, Function.update_self]
      exact List.forall_mem_cons.mpr ⟨outcome.lawful, h.lawful⟩
    · rw [calls, Function.update_self]
      exact List.forall_mem_cons.mpr ⟨outcome.cleared, h.cleared⟩
  · have elsewhere := step_elsewhere h.synced (fun usage time call => own ⟨usage, time, call⟩) step
    refine ⟨synced, ?_, ?_, ?_⟩
    · rw [elsewhere.1, elsewhere.2]
      exact h.follows
    · rw [elsewhere.2]
      exact h.lawful
    · rw [elsewhere.2]
      exact h.cleared

/-- The samples recorded for a resource are those of its calls. -/
theorem exists_call_iff (resource : Resource) {usage : ρ} {actions : List (Action ρ)}
    (runs : (system c).FreeRuns s actions t) :
    (∃ call ∈ t.calls resource, call.usage = usage) ↔
      (∃ call ∈ s.calls resource, call.usage = usage) ∨
        ∃ time, .call resource usage time ∈ actions := by
  induction runs with
  | nil s => simp
  | @cons s m t a rest guard step tail ih =>
      rw [ih]
      cases a with
      | call called taken time =>
          cases step
          by_cases same : called = resource
          · subst same
            simp [Usage.called]
            grind
          · have other : resource ≠ called := Ne.symm same
            simp [Usage.called, other, Function.update_of_ne]
      | diskNotRead =>
          cases step
          simp
      | restart newProcess =>
          cases step
          simp [restarted]

/-- The law holds in the runs in which no disk usage is read that is at the threshold, and in no
others. The alerts alternate in all runs. -/
theorem disk_space_law_iff {actions : List (Action ρ)}
    (runs : (system c).FreeRuns start actions s) :
    (DiskSpaceLaw (c.threshold .disk) (s.calls .disk) ↔
      ∀ usage time, .call .disk usage time ∈ actions → usage ≠ c.threshold .disk) ∧
    Alternating .fault .faultResolved (alertsOf (s.calls .disk)) := by
  have h : DiskInvariant c s := runs.invariant (fun _ _ _ h _ step => h.step step) (.start c)
  obtain ⟨data, here, -⟩ := h.synced .disk
  have alternating := (h.follows data here).alternating
  refine ⟨⟨?_, ?_⟩, alternating⟩
  · rintro law usage time mem rfl
    obtain ⟨call, recorded, same⟩ :=
      (exists_call_iff .disk runs).mpr (.inr ⟨time, mem⟩)
    have cleared := h.cleared call recorded same
    have set := (law.flag call recorded).mpr same.ge
    simp [cleared] at set
  · intro away
    have lawful : ∀ call ∈ s.calls .disk, call.alerts.length ≤ 1 ∧
        (call.high = true ↔ c.threshold .disk ≤ call.usage) := by
      intro call mem
      apply h.lawful call mem
      obtain ⟨old, clash, -⟩ | ⟨time, taken⟩ := (exists_call_iff .disk runs).mp ⟨call, mem, rfl⟩
      · simp [start] at clash
      · exact away _ time taken
    exact ⟨fun call mem => (lawful call mem).1, alternating, fun call mem => (lawful call mem).2⟩

end Runs

def filling : List (Action Nat) :=
  [.call .disk 79 0, .call .disk 81 60, .restart true, .call .disk 82 120, .call .disk 30 180]

/-- The disk fills up and is cleared, with no reading at the threshold. -/
theorem disk_space_law_iff_filling :
    ∃ s, (system defaults).run start filling = some s ∧
      (DiskSpaceLaw (defaults.threshold .disk) (s.calls .disk) ↔
        ∀ usage time, .call .disk usage time ∈ filling → usage ≠ defaults.threshold .disk) ∧
      Alternating .fault .faultResolved (alertsOf (s.calls .disk)) := by
  have runs : (system defaults).FreeRuns start filling _ :=
    (system defaults).run_eq_some_iff.mp rfl
  exact ⟨_, rfl, disk_space_law_iff runs⟩

/-- One reading of 80 percent is a fault and its resolution. -/
theorem disk_space_unlawful :
    ∃ s, (system defaults).run start [.call .disk 80 0] = some s ∧
      alertsOf (s.calls .disk) = [.fault, .faultResolved] ∧
      ¬ DiskSpaceLaw (defaults.threshold .disk) (s.calls .disk) := by
  refine ⟨_, rfl, by decide +kernel, fun law => ?_⟩
  exact absurd (law.single _ (.head _)) (by decide +kernel)

end Usage

end Node

end Sspl

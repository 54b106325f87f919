import Mathlib.Data.Nat.Basic
import Sspl.Node.UsageCalls

/-!
# The alerts on high usage of processor and memory

The handler does not keep when usage became high. It keeps one time in the file: that of the
last low sample, or that of the first high one if there was no low one before it, or -1. The
law below says the same of the samples themselves: a fault is raised when usage is high and
was not below the threshold for the wait threshold. The time in the file has this meaning as
long as no fault is outstanding, which is the only time when it is read.

The resolution waits until the counter in the file has reached the limit. Low samples count
it up, but a high one does not set it back: as soon as usage is high again when the counter
is above zero, the fault is resolved too early.
-/

namespace Sspl

namespace Node

namespace Usage

variable {ρ : Type}

section Law

/-- The calls after the last resolution. -/
def sinceResolved (calls : List (Call ρ)) : List (Call ρ) :=
  calls.takeWhile (fun call => .faultResolved ∉ call.alerts)

variable [LinearOrder ρ]

/-- When the last low sample since the last resolution was taken. -/
def lastBelow (threshold : ρ) (calls : List (Call ρ)) : Option Nat :=
  ((sinceResolved calls).find? (fun call => call.usage < threshold)).map Call.time

/-- When the first high sample since the last resolution was taken. -/
def firstAtOrAbove (threshold : ρ) (calls : List (Call ρ)) : Option Nat :=
  ((sinceResolved calls).reverse.find? (fun call => threshold ≤ call.usage)).map Call.time

/-- The time from which the wait threshold is counted, for a high sample taken at `time`. -/
def reference (threshold : ρ) (calls : List (Call ρ)) (time : Nat) : Nat :=
  (lastBelow threshold calls).getD ((firstAtOrAbove threshold calls).getD time)

/-- The sample of `call` is to raise a fault, after the calls `earlier`. -/
structure FaultDue (m : Member ρ) (call : Call ρ) (earlier : List (Call ρ)) : Prop where
  notOutstanding : ¬ Outstanding earlier
  high : m.threshold ≤ call.usage
  waited : m.waitThreshold ≤ call.time - reference m.threshold earlier call.time

/-- Every call raises a fault exactly when one is due, after usage has been high for long enough,
and the alerts alternate. -/
structure HighUsageLaw (m : Member ρ) (calls : List (Call ρ)) : Prop where
  fault : ∀ call earlier, call :: earlier <:+ calls →
    (.fault ∈ call.alerts ↔ FaultDue m call earlier)
  alternating : Alternating .fault .faultResolved (alertsOf calls)

/-- A fault is resolved only by the last of as many low samples in a row as the limit asks for. -/
def Debounced (m : Member ρ) (calls : List (Call ρ)) : Prop :=
  ∀ call earlier, call :: earlier <:+ calls → .faultResolved ∈ call.alerts →
    ∃ lows rest, call :: earlier = lows ++ rest ∧
      iterationLimit m.waitThreshold m.transmitInterval + 1 ≤ lows.length ∧
      ∀ low ∈ lows, low.usage < m.threshold

end Law

section Times

variable {threshold : ρ} {call : Call ρ} {calls : List (Call ρ)}

theorem sinceResolved_quiet (quiet : .faultResolved ∉ call.alerts) :
    sinceResolved (call :: calls) = call :: sinceResolved calls :=
  List.takeWhile_cons_of_pos (by simpa using quiet)

theorem sinceResolved_resolved (resolved : .faultResolved ∈ call.alerts) :
    sinceResolved (call :: calls) = [] :=
  List.takeWhile_cons_of_neg (by simpa using resolved)

variable [LinearOrder ρ]

theorem lastBelow_low (quiet : .faultResolved ∉ call.alerts) (below : call.usage < threshold) :
    lastBelow threshold (call :: calls) = some call.time := by
  rw [lastBelow, sinceResolved_quiet quiet, List.find?_cons_of_pos (by simpa using below)]
  rfl

theorem lastBelow_high (quiet : .faultResolved ∉ call.alerts) (high : threshold ≤ call.usage) :
    lastBelow threshold (call :: calls) = lastBelow threshold calls := by
  rw [lastBelow, sinceResolved_quiet quiet, List.find?_cons_of_neg (by simpa using high)]
  rfl

theorem firstAtOrAbove_high (quiet : .faultResolved ∉ call.alerts)
    (high : threshold ≤ call.usage) :
    firstAtOrAbove threshold (call :: calls) =
      some ((firstAtOrAbove threshold calls).getD call.time) := by
  rw [firstAtOrAbove, sinceResolved_quiet quiet, List.reverse_cons, List.find?_append,
    List.find?_cons_of_pos (by simpa using high)]
  cases found : (sinceResolved calls).reverse.find? (fun call => threshold ≤ call.usage) with
  | none => simp [firstAtOrAbove, found]
  | some first => simp [firstAtOrAbove, found]

/-- The time that the file is to keep. -/
def sinceTime (threshold : ρ) (calls : List (Call ρ)) : Option Nat :=
  (lastBelow threshold calls).or (firstAtOrAbove threshold calls)

theorem reference_eq (time : Nat) :
    reference threshold calls time = (sinceTime threshold calls).getD time := by
  rw [reference, sinceTime]
  cases lastBelow threshold calls with
  | none => rfl
  | some last => rfl

theorem sinceTime_low (quiet : .faultResolved ∉ call.alerts) (below : call.usage < threshold) :
    sinceTime threshold (call :: calls) = some call.time := by
  rw [sinceTime, lastBelow_low quiet below, Option.some_or]

theorem sinceTime_high (quiet : .faultResolved ∉ call.alerts) (high : threshold ≤ call.usage) :
    sinceTime threshold (call :: calls) = some (reference threshold calls call.time) := by
  rw [sinceTime, lastBelow_high quiet high, firstAtOrAbove_high quiet high, reference]
  cases lastBelow threshold calls with
  | none => rfl
  | some last => rfl

theorem sinceTime_resolved (resolved : .faultResolved ∈ call.alerts) :
    sinceTime threshold (call :: calls) = none := by
  rw [sinceTime, lastBelow, firstAtOrAbove, sinceResolved_resolved resolved]
  rfl

end Times

section Recorded

variable [LinearOrder ρ] {m : Member ρ} {data data' : Persistent} {call : Call ρ}
  {calls : List (Call ρ)}

/-- The file says what the law needs to know of the calls. -/
structure Recorded (m : Member ρ) (data : Persistent) (calls : List (Call ρ)) : Prop where
  follows : Follows .fault .faultResolved Call.alerts calls (data.highUsage = true)
  time : data.highUsage = false →
    data.usageTimeMap = ((sinceTime m.threshold calls).map Int.ofNat).getD (-1)
  law : HighUsageLaw m calls

theorem Recorded.since_eq (h : Recorded m data calls) (idle : data.highUsage = false)
    (time : Nat) : since data time = reference m.threshold calls time := by
  rw [since, h.time idle, reference_eq]
  cases sinceTime m.threshold calls with
  | none => rfl
  | some start =>
      rw [if_neg (by simp)]
      rfl

theorem Recorded.notOutstanding (h : Recorded m data calls) (idle : data.highUsage = false) :
    ¬ Outstanding calls := by
  rw [Outstanding, ← h.follows.on_iff, idle]
  simp

theorem HighUsageLaw.next (h : HighUsageLaw m calls)
    (due : .fault ∈ call.alerts ↔ FaultDue m call calls)
    (alternating : Alternating .fault .faultResolved (alertsOf (call :: calls))) :
    HighUsageLaw m (call :: calls) := by
  refine ⟨fun later earlier suffix => ?_, alternating⟩
  obtain same | inside := List.suffix_cons_iff.mp suffix
  · cases same
    exact due
  · exact h.fault later earlier inside

/-- The file keeps its meaning: one case for each thing a call can do. -/
theorem Recorded.next (h : Recorded m data calls)
    (outcome : Outcome m call.usage call.time data data' call.alerts) :
    Recorded m data' (call :: calls) := by
  generalize raised : call.alerts = alerts at outcome
  cases outcome with
  | fault idle high waited =>
      have follows : Follows .fault .faultResolved Call.alerts (call :: calls) (true = true) :=
        h.follows.raise (by simp [idle]) raised rfl
      refine ⟨follows, fun clash => by simp at clash, h.law.next ?_ follows.alternating⟩
      refine iff_of_true (by simp [raised]) ⟨h.notOutstanding idle, high, ?_⟩
      rw [← h.since_eq idle]
      exact waited
  | waiting idle high early iterations =>
      have follows : Follows .fault .faultResolved Call.alerts (call :: calls) (false = true) :=
        h.follows.silent raised (by simp [idle])
      have quiet : .faultResolved ∉ call.alerts := by simp [raised]
      refine ⟨follows, fun _ => ?_, h.law.next ?_ follows.alternating⟩
      · rw [sinceTime_high quiet high, h.since_eq idle]
        rfl
      · rw [h.since_eq idle] at early
        exact iff_of_false (by simp [raised]) (fun due => early due.waited)
  | low idle below iterations =>
      have follows : Follows .fault .faultResolved Call.alerts (call :: calls) (false = true) :=
        h.follows.silent raised (by simp [idle])
      have quiet : .faultResolved ∉ call.alerts := by simp [raised]
      refine ⟨follows, fun _ => ?_, h.law.next ?_ follows.alternating⟩
      · rw [sinceTime_low quiet below]
        rfl
      · exact iff_of_false (by simp [raised]) (fun due => absurd below (not_lt.mpr due.high))
  | held outstanding high =>
      have follows := h.follows.silent raised .rfl
      refine ⟨follows, fun idle => ?_, h.law.next ?_ follows.alternating⟩
      · simp [outstanding] at idle
      · have held := h.follows.on_iff.mp outstanding
        exact iff_of_false (by simp [raised]) (fun due => due.notOutstanding held)
  | counting outstanding below more =>
      have follows : Follows .fault .faultResolved Call.alerts (call :: calls) (true = true) :=
        h.follows.silent raised (by simp [outstanding])
      refine ⟨follows, fun idle => by simp at idle, h.law.next ?_ follows.alternating⟩
      have held := h.follows.on_iff.mp outstanding
      exact iff_of_false (by simp [raised]) (fun due => due.notOutstanding held)
  | resolved outstanding below enough =>
      have follows : Follows .fault .faultResolved Call.alerts (call :: calls) (false = true) :=
        h.follows.settle (by decide) outstanding raised (by simp)
      refine ⟨follows, fun _ => ?_, h.law.next ?_ follows.alternating⟩
      · rw [sinceTime_resolved (by simp [raised])]
        rfl
      · have held := h.follows.on_iff.mp outstanding
        exact iff_of_false (by simp [raised]) (fun due => due.notOutstanding held)

end Recorded

section Runs

variable [LinearOrder ρ] {c : Settings ρ} {m : Member ρ} {s t : State ρ} {a : Action ρ}

/-- What each call for the resource keeps of its file and of the calls, every step keeps. -/
theorem member_step {P : Persistent → List (Call ρ) → Prop} (mem : m ∈ members c)
    (synced : Synced s.handler)
    (h : ∀ data, s.handler.files m.resource = some data → P data (s.calls m.resource))
    (next : ∀ usage time, a = .call m.resource usage time →
      ∀ data, s.handler.files m.resource = some data →
        s.handler.highUsage m.resource = data.highUsage →
        ∀ data' call, call.usage = usage →
          Outcome m call.usage call.time data data' call.alerts →
          P data (s.calls m.resource) → P data' (call :: s.calls m.resource))
    (step : (system c).next s a = some t) :
    ∀ data, t.handler.files m.resource = some data → P data (t.calls m.resource) := by
  intro data' here'
  by_cases own : ∃ usage time, a = .call m.resource usage time
  · obtain ⟨usage, time, rfl⟩ := own
    cases step
    obtain ⟨data, here, same⟩ := synced m.resource
    obtain ⟨_, news, call, changed, calls, sample, outcome⟩ :=
      called_member usage time mem here same
    rw [changed.here] at here'
    cases here'
    rw [calls, Function.update_self]
    exact next usage time rfl data here same _ call sample outcome (h data here)
  · have elsewhere := step_elsewhere synced (fun usage time call => own ⟨usage, time, call⟩) step
    rw [elsewhere.1] at here'
    rw [elsewhere.2]
    exact h data' here'

structure Invariant (m : Member ρ) (s : State ρ) : Prop where
  synced : Synced s.handler
  recorded : ∀ data, s.handler.files m.resource = some data →
    Recorded m data (s.calls m.resource)

theorem Invariant.start (m : Member ρ) : Invariant m start := by
  refine ⟨start_synced, fun data here => ?_⟩
  rw [start_files] at here
  cases here
  refine ⟨.nil (by simp), fun _ => rfl, fun call earlier suffix => ?_, trivial⟩
  simp [Usage.start] at suffix

theorem Invariant.step (mem : m ∈ members c) (h : Invariant m s)
    (step : (system c).next s a = some t) : Invariant m t := by
  refine ⟨h.synced.step step, member_step mem h.synced h.recorded ?_ step⟩
  exact fun _ _ _ _ _ _ _ _ _ outcome recorded => recorded.next outcome

/-- In every state that calls and restarts lead to, each call for processor or memory has raised
a fault exactly when one was due, and the alerts of each of the two alternate. -/
theorem high_usage_law {actions : List (Action ρ)}
    (runs : (system c).FreeRuns start actions s) :
    ∀ m ∈ members c, HighUsageLaw m (s.calls m.resource) := by
  intro m mem
  have h : Invariant m s := runs.invariant (fun _ _ _ h _ step => h.step mem step) (.start m)
  obtain ⟨data, here, -⟩ := h.synced m.resource
  exact (h.recorded data here).law

end Runs

/-- The processor is busy for a minute, in which there is a restart. -/
def busyMinute : List (Action Nat) :=
  [.call .cpu 30 0, .call .cpu 90 60, .restart true, .call .memory 85 70, .call .cpu 95 120]

/-- One fault is raised when usage has been high for a minute. -/
theorem high_usage_law_busyMinute :
    ∃ s, (system defaults).run start busyMinute = some s ∧ alertsOf (s.calls .cpu) = [.fault] ∧
      ∀ m ∈ members defaults, HighUsageLaw m (s.calls m.resource) := by
  have runs : (system defaults).FreeRuns start busyMinute _ :=
    (system defaults).run_eq_some_iff.mp rfl
  exact ⟨_, rfl, by decide +kernel, high_usage_law runs⟩

section Debounce

variable [LinearOrder ρ] {c : Settings ρ} {m : Member ρ} {data data' : Persistent}
  {call : Call ρ} {calls : List (Call ρ)} {s t : State ρ} {a : Action ρ}

/-- `fault_resolved_iters` as the next call for the resource reads it. -/
def storedIterations (s : Handler) (resource : Resource) : Int :=
  ((s.files resource).map Persistent.faultResolvedIterations).getD 0

/-- Usage does not go high again while low samples are being counted for an outstanding fault. -/
def Steady (m : Member ρ) (s : State ρ) : Action ρ → Prop
  | .call resource usage _ => resource = m.resource → m.threshold ≤ usage →
      s.handler.highUsage m.resource = true → storedIterations s.handler m.resource ≤ 0
  | .diskNotRead => True
  | .restart _ => True

instance Steady.decidable (m : Member ρ) (s : State ρ) : (a : Action ρ) → Decidable (Steady m s a)
  | .call resource usage _ => inferInstanceAs (Decidable (resource = m.resource →
      m.threshold ≤ usage → s.handler.highUsage m.resource = true →
      storedIterations s.handler m.resource ≤ 0))
  | .diskNotRead => .isTrue trivial
  | .restart _ => .isTrue trivial

/-- The counter of an outstanding fault counts low samples that were taken in a row. -/
structure Counted (m : Member ρ) (data : Persistent) (calls : List (Call ρ)) : Prop where
  lows : data.highUsage = true → ∃ lows rest, calls = lows ++ rest ∧
    data.faultResolvedIterations ≤ lows.length ∧ ∀ low ∈ lows, low.usage < m.threshold
  debounced : Debounced m calls

theorem Debounced.next (h : Debounced m calls) (last : .faultResolved ∈ call.alerts →
    ∃ lows rest, call :: calls = lows ++ rest ∧
      iterationLimit m.waitThreshold m.transmitInterval + 1 ≤ lows.length ∧
      ∀ low ∈ lows, low.usage < m.threshold) : Debounced m (call :: calls) := by
  intro later earlier suffix resolved
  obtain same | inside := List.suffix_cons_iff.mp suffix
  · cases same
    exact last resolved
  · exact h later earlier inside resolved

theorem Counted.next (h : Counted m data calls)
    (outcome : Outcome m call.usage call.time data data' call.alerts)
    (steady : m.threshold ≤ call.usage → data.highUsage = true →
      data.faultResolvedIterations ≤ 0) :
    Counted m data' (call :: calls) := by
  generalize raised : call.alerts = alerts at outcome
  cases outcome with
  | fault idle high waited =>
      refine ⟨fun _ => ⟨[], _, rfl, by simp, by simp⟩, h.debounced.next ?_⟩
      simp [raised]
  | waiting idle high early iterations =>
      refine ⟨fun outstanding => by simp at outstanding, h.debounced.next ?_⟩
      simp [raised]
  | low idle below iterations =>
      refine ⟨fun outstanding => by simp at outstanding, h.debounced.next ?_⟩
      simp [raised]
  | held outstanding high =>
      refine ⟨fun _ => ⟨[], _, rfl, steady high outstanding, by simp⟩, h.debounced.next ?_⟩
      simp [raised]
  | counting outstanding below more =>
      obtain ⟨lows, rest, split, counted, low⟩ := h.lows outstanding
      refine ⟨fun _ => ⟨call :: lows, rest, by rw [split]; rfl, ?_, ?_⟩, h.debounced.next ?_⟩
      · show data.faultResolvedIterations + 1 ≤ _
        rw [List.length_cons]
        omega
      · exact List.forall_mem_cons.mpr ⟨below, low⟩
      · simp [raised]
  | resolved outstanding below enough =>
      obtain ⟨lows, rest, split, counted, low⟩ := h.lows outstanding
      refine ⟨fun idle => by simp at idle, h.debounced.next fun _ => ?_⟩
      refine ⟨call :: lows, rest, by rw [split]; rfl, ?_, List.forall_mem_cons.mpr ⟨below, low⟩⟩
      rw [List.length_cons]
      omega

structure CountedInvariant (m : Member ρ) (s : State ρ) : Prop where
  synced : Synced s.handler
  counted : ∀ data, s.handler.files m.resource = some data → Counted m data (s.calls m.resource)

theorem CountedInvariant.start (m : Member ρ) : CountedInvariant m start := by
  refine ⟨start_synced, fun data here => ?_⟩
  rw [start_files] at here
  cases here
  refine ⟨fun outstanding => by simp at outstanding, fun call earlier suffix => ?_⟩
  simp [Usage.start] at suffix

theorem CountedInvariant.step (mem : m ∈ members c) (h : CountedInvariant m s)
    (steady : Steady m s a) (step : (system c).next s a = some t) : CountedInvariant m t := by
  refine ⟨h.synced.step step, member_step mem h.synced h.counted ?_ step⟩
  rintro usage time rfl data here same data' call sample outcome counted
  apply counted.next outcome
  intro high outstanding
  have read := steady rfl (sample ▸ high) (same.trans outstanding)
  rwa [storedIterations, here] at read

/-- As long as usage does not go high again while the counter of an outstanding fault is above
zero, every resolution is preceded by the low samples that it needs. -/
theorem resolution_debounced (mem : m ∈ members c) {actions : List (Action ρ)}
    (runs : (system c).Runs (Steady m) start actions s) : Debounced m (s.calls m.resource) := by
  have h : CountedInvariant m s :=
    runs.invariant (fun _ _ _ h steady step => h.step mem steady step) (.start m)
  obtain ⟨data, here, -⟩ := h.synced m.resource
  exact (h.counted data here).debounced

end Debounce

/-- After a busy minute the processor is quiet for two samples in a row. -/
def quietAgain : List (Action Nat) :=
  busyMinute ++ [.call .cpu 96 180, .call .cpu 20 240, .restart false, .call .cpu 30 300]

/-- The fault is resolved after two low samples in a row. -/
theorem resolution_debounced_quietAgain :
    ∃ s, (system defaults).run start quietAgain = some s ∧
      alertsOf (s.calls .cpu) = [.fault, .faultResolved] ∧
      Debounced (cpu defaults) (s.calls .cpu) := by
  have runs : (system defaults).Runs (Steady (cpu defaults)) start quietAgain _ :=
    (system defaults).replay_eq_some_iff.mp (by rfl)
  refine ⟨_, (system defaults).run_eq_some_iff.mpr (runs.mono fun _ _ _ => trivial), ?_,
    resolution_debounced (.head _) runs⟩
  decide +kernel

/-- The processor is busy again between the two quiet samples. -/
def oscillating : List (Action Nat) :=
  busyMinute ++ [.call .cpu 20 180, .call .cpu 96 240, .call .cpu 30 300]

/-- Usage falls, rises and falls again while a fault is outstanding: the counter of the first fall
is kept, and the second one resolves the fault with its first sample. -/
theorem resolution_not_debounced :
    ∃ s, (system defaults).run start oscillating = some s ∧
      ¬ Debounced (cpu defaults) (s.calls .cpu) := by
  refine ⟨_, rfl, fun debounced => ?_⟩
  obtain ⟨lows, rest, split, enough, low⟩ :=
    debounced _ _ (List.suffix_refl _) (by decide +kernel)
  obtain _ | ⟨last, _ | ⟨busy, more⟩⟩ := lows
  · exact absurd enough (by decide)
  · rw [List.length_singleton] at enough
    exact absurd enough (by decide)
  · have taken := List.cons.inj (List.cons.inj split).2
    exact absurd (taken.1 ▸ low busy (by simp)) (by decide +kernel)

end Usage

end Node

end Sspl

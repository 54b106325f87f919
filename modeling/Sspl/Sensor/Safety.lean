import Sspl.Sensor.Thread

/-!
# A running sensor has running dependees

As long as no `initialize` raises, what each sensor knows of its dependees is what
they are: it has heard from a dependee exactly when that has left `WAITING` and has
called it, and then what its status is. A sensor that has concluded `RUNNING` has
heard from all its dependees.

When an `initialize` raises, `start_thread` assigns `InitState.INIT_FAILED` to
`status`, and this is the number of `SensorThreadState.RUNNING`.
-/

namespace Sspl

open DependencyState InitState SensorThreadState

namespace Sensor

variable {ν : Type} {x y : Sensor ν}

/-- What holds of each sensor by itself while no `initialize` raises. -/
structure Sound (x : Sensor ν) : Prop where
  outcomes : false ∉ x.outcomes
  succeeded : x.thread.initStatus = initSuccess → x.outcomes ≠ []
  deps : x.thread.depsStatus = depsSuccess → x.thread.remainingDependees = ∅
  failures : x.thread.numFailedDependees = 0 → ∀ p ∈ x.heard, p.2 = true
  untold : x.thread.status = waiting → x.telling = ∅
  running : x.thread.status = running →
    x.thread.remainingDependees = ∅ ∧ x.thread.numFailedDependees = 0 ∧ x.outcomes ≠ []

/-- A step of the sensor itself: it hears nothing, and when it leaves `WAITING` it
has all its dependers to call. -/
structure Own (x y : Sensor ν) : Prop where
  remaining : y.thread.remainingDependees = x.thread.remainingDependees
  dependers : y.thread.waitingDependers = x.thread.waitingDependers
  heard : y.heard = x.heard
  left : x.thread.status ≠ waiting → y.thread.status = x.thread.status ∧ y.telling = x.telling
  leaves : x.thread.status = waiting → y.thread.status = waiting ∧ y.telling = x.telling ∨
    y.thread.status ≠ waiting ∧ y.telling = x.thread.waitingDependers

theorem Own.trans {z : Sensor ν} (first : Own x y) (second : Own y z) : Own x z where
  remaining := second.remaining.trans first.remaining
  dependers := second.dependers.trans first.dependers
  heard := second.heard.trans first.heard
  left before := by
    obtain ⟨status, telling⟩ := first.left before
    obtain ⟨status', telling'⟩ := second.left (status ▸ before)
    exact ⟨status'.trans status, telling'.trans telling⟩
  leaves still := by
    obtain ⟨still', telling⟩ | ⟨left, telling⟩ := first.leaves still
    · rw [← telling, ← first.dependers]
      exact second.leaves still'
    · obtain ⟨status, telling'⟩ := second.left left
      exact .inr ⟨status ▸ left, telling'.trans telling⟩

theorem Sound.startThread (h : Sound x) : Sound x.startThread ∧ Own x x.startThread :=
  ⟨⟨h.outcomes, nofun, h.deps, h.failures, h.untold, h.running⟩,
    rfl, rfl, rfl, fun _ => ⟨rfl, rfl⟩, fun still => .inl ⟨still, rfl⟩⟩

theorem Sound.initializeReturns (h : Sound x) :
    Sound x.initializeReturns ∧ Own x x.initializeReturns := by
  have outcomes : false ∉ x.outcomes ++ [true] := by simpa using h.outcomes
  have some : x.outcomes ++ [true] ≠ [] := by simp
  exact ⟨⟨outcomes, fun _ => some, h.deps, h.failures, h.untold,
      fun runs => ⟨(h.running runs).1, (h.running runs).2.1, some⟩⟩,
    rfl, rfl, rfl, fun _ => ⟨rfl, rfl⟩, fun still => .inl ⟨still, rfl⟩⟩

theorem Sound.enterScheduler (h : Sound x) : Sound x.enterScheduler ∧ Own x x.enterScheduler :=
  ⟨⟨h.outcomes, h.succeeded, h.deps, h.failures, h.untold, h.running⟩,
    rfl, rfl, rfl, fun _ => ⟨rfl, rfl⟩, fun still => .inl ⟨still, rfl⟩⟩

theorem Sound.noteInterval (h : Sound x) :
    Sound { x with thread := x.thread.noteInterval } ∧
      Own x { x with thread := x.thread.noteInterval } :=
  ⟨⟨h.outcomes, h.succeeded, h.deps, h.failures, h.untold, h.running⟩,
    rfl, rfl, rfl, fun _ => ⟨rfl, rfl⟩, fun still => .inl ⟨still, rfl⟩⟩

variable [DecidableEq ν]

theorem heardFrom_receive (x : Sensor ν) (s d : ν) (value : Bool) :
    (x.receive s value).heardFrom d =
      x.heardFrom d ++ if s = d then [value] else [] := by
  by_cases same : s = d <;> simp [heardFrom, receive, same]

theorem Sound.told (h : Sound x) (d : ν) : Sound (x.told d) :=
  ⟨h.outcomes, h.succeeded, h.deps, h.failures,
    fun still => by rw [Sensor.told, h.untold still, Finset.erase_empty], h.running⟩

/-- A running sensor has nothing left to hear. -/
theorem Sound.receive (h : Sound x) (value : Bool)
    (notRunning : x.thread.status ≠ SensorThreadState.running) :
    Sound (x.receive s value) where
  outcomes := h.outcomes
  succeeded := h.succeeded
  deps success := by
    simp only [Sensor.receive, SensorThread.noteEvent, h.deps success, Finset.erase_empty]
  failures none := by
    cases value with
    | false => cases none
    | true =>
        intro p mem
        obtain mem | last := List.mem_append.mp mem
        · exact h.failures none p mem
        · cases List.mem_singleton.mp last
          rfl
  untold := h.untold
  running runs := absurd runs notRunning

theorem Sound.conclude (h : Sound x) (free : x.telling = ∅) :
    Sound x.conclude ∧ Own x x.conclude := by
  by_cases still : x.thread.status = waiting
  · have deps : x.thread.depsOutcome = depsSuccess →
        x.thread.numFailedDependees = 0 ∧ x.thread.remainingDependees = ∅ := by
      intro success
      obtain ⟨none, done | before⟩ := SensorThread.depsOutcome_eq_success success
      · exact ⟨none, done⟩
      · exact ⟨none, h.deps before⟩
    obtain ⟨run, -, -⟩ | ⟨run, -⟩ | ⟨run, success, init⟩ := conclude_cases still
    · rw [run]
      exact ⟨⟨h.outcomes, h.succeeded, fun success => (deps success).2, h.failures, fun _ => rfl,
        h.running⟩, rfl, rfl, rfl, fun left => absurd still left, fun _ => .inl ⟨still, free.symm⟩⟩
    · rw [run]
      exact ⟨⟨h.outcomes, h.succeeded, fun success => (deps success).2, h.failures, nofun, nofun⟩,
        rfl, rfl, rfl, fun left => absurd still left, fun _ => .inr ⟨nofun, rfl⟩⟩
    · rw [run]
      exact ⟨⟨h.outcomes, h.succeeded, fun success => (deps success).2, h.failures, nofun,
        fun _ => ⟨(deps success).2, (deps success).1, h.succeeded init⟩⟩,
        rfl, rfl, rfl, fun left => absurd still left, fun _ => .inr ⟨nofun, rfl⟩⟩
  · have run : x.conclude = x := by
      rw [conclude_of_left still, ← free]
    rw [run]
    exact ⟨h, rfl, rfl, rfl, fun _ => ⟨rfl, rfl⟩, fun still' => absurd still' still⟩

end Sensor

namespace Start

variable {ν : Type} [DecidableEq ν] {g : SensorGraph ν} {σ τ : State ν} {s d : ν}

/-- The event of `s` has arrived at `d`, which has not concluded yet. -/
def delivered (σ : State ν) (s d : ν) : State ν :=
  Function.update (Function.update σ s ((σ s).told d)) d
    ((σ d).receive s (decide ((σ s).thread.status = running)))

theorem delivered_depender :
    delivered σ s d d = (σ d).receive s (decide ((σ s).thread.status = running)) := by
  rw [delivered, Function.update_self]

/-- A property of the sensors holds after the delivery when it holds of the two
that take part in it and of the others. -/
theorem delivered_induction {P : ν → Sensor ν → Prop}
    (elsewhere : ∀ e, e ≠ s → e ≠ d → P e (σ e)) (told : P s ((σ s).told d))
    (receive : P d ((σ d).receive s (decide ((σ s).thread.status = running)))) (e : ν) :
    P e (delivered σ s d e) := by
  refine (Function.forall_update_iff _ P).mpr ⟨receive, fun e notDepender => ?_⟩ e
  exact (Function.forall_update_iff σ fun e x => e ≠ d → P e x).mpr
    ⟨fun _ => told, elsewhere⟩ e notDepender

theorem delivered_status (σ : State ν) (s d e : ν) :
    (delivered σ s d e).thread.status = (σ e).thread.status :=
  delivered_induction (P := fun e x => x.thread.status = (σ e).thread.status)
    (fun _ _ _ => rfl) rfl rfl e

theorem delivered_dependers (σ : State ν) (s d e : ν) :
    (delivered σ s d e).thread.waitingDependers = (σ e).thread.waitingDependers :=
  delivered_induction
    (P := fun e x => x.thread.waitingDependers = (σ e).thread.waitingDependers)
    (fun _ _ _ => rfl) rfl rfl e

section Delivered

variable (differ : d ≠ s)
include differ

theorem delivered_telling (x e : ν) :
    x ∈ (delivered σ s d e).telling ↔ x ∈ (σ e).telling ∧ ¬ (e = s ∧ x = d) := by
  refine delivered_induction
    (P := fun e y => x ∈ y.telling ↔ x ∈ (σ e).telling ∧ ¬ (e = s ∧ x = d)) ?_ ?_ ?_ e
  · intro e hs hd
    simp [hs]
  · simp [Sensor.told, Finset.mem_erase, and_comm]
  · simp [differ, Sensor.receive]

theorem delivered_remaining (x e : ν) :
    e ∈ (delivered σ s d x).thread.remainingDependees ↔
      e ∈ (σ x).thread.remainingDependees ∧ ¬ (x = d ∧ e = s) := by
  refine delivered_induction (P := fun x y => e ∈ y.thread.remainingDependees ↔
    e ∈ (σ x).thread.remainingDependees ∧ ¬ (x = d ∧ e = s)) ?_ ?_ ?_ x
  · intro x hs hd
    simp [hd]
  · simp [differ.symm, Sensor.told]
  · simp [Sensor.receive, SensorThread.noteEvent, and_comm]

theorem delivered_heardFrom (untold : (σ d).heardFrom s = []) (x e : ν) :
    (delivered σ s d x).heardFrom e = if x = d ∧ e = s
      then [decide ((σ s).thread.status = running)] else (σ x).heardFrom e := by
  refine delivered_induction (P := fun x y => y.heardFrom e = if x = d ∧ e = s
    then [decide ((σ s).thread.status = running)] else (σ x).heardFrom e) ?_ ?_ ?_ x
  · intro x hs hd
    simp [hd]
  · simp only [differ.symm, false_and, if_false]
    rfl
  · rw [Sensor.heardFrom_receive]
    by_cases same : e = s
    · simp [same, untold]
    · simp [same, Ne.symm same]

end Delivered

/-- An event is the delivery followed by the conclusion of the depender. -/
theorem event_eq_delivered (differ : d ≠ s) :
    Function.update (Function.update σ s ((σ s).told d)) d
        ((Function.update σ s ((σ s).told d) d).event s
          (decide ((Function.update σ s ((σ s).told d) s).thread.status = running))) =
      Function.update (delivered σ s d) d (delivered σ s d d).conclude := by
  rw [delivered_depender, delivered, Function.update_idem, Function.update_self,
    Function.update_of_ne differ]
  rfl

omit [DecidableEq ν] in
/-- A sensor cannot call itself, for it holds its own lock. -/
theorem differ_of_telling (mem : d ∈ (σ s).telling) (free : (σ d).telling = ∅) : d ≠ s := by
  rintro rfl
  rw [free] at mem
  simp at mem

/-- What a sensor has heard is what its dependees are. -/
structure Inv (g : SensorGraph ν) (σ : State ν) : Prop where
  sound : ∀ s, (σ s).Sound
  dependers : ∀ s, (σ s).thread.waitingDependers = g.dependers s
  telling : ∀ s, (σ s).telling ⊆ g.dependers s
  remaining : ∀ d s, s ∈ (σ d).thread.remainingDependees ↔ s ∈ g.deps d ∧ (σ d).heardFrom s = []
  heard : ∀ d s, (σ d).heardFrom s =
    if s ∈ g.deps d ∧ (σ s).thread.status ≠ waiting ∧ d ∉ (σ s).telling
    then [decide ((σ s).thread.status = running)] else []

namespace Inv

/-- When a sensor leaves `WAITING` all its dependers are to be called. -/
theorem telling_of_own {y : Sensor ν} (h : Inv g σ) (own : (σ s).Own y) :
    y.telling ⊆ g.dependers s := by
  by_cases still : (σ s).thread.status = waiting
  · obtain ⟨-, same⟩ | ⟨-, all⟩ := own.leaves still
    · rw [same]
      exact h.telling s
    · rw [all, h.dependers]
  · rw [(own.left still).2]
    exact h.telling s

/-- A step of a sensor itself does not change what it has told to whom. -/
theorem heard_of_own {y : Sensor ν} (h : Inv g σ) (own : (σ s).Own y) (d : ν) :
    (σ d).heardFrom s = if s ∈ g.deps d ∧ y.thread.status ≠ waiting ∧ d ∉ y.telling
      then [decide (y.thread.status = SensorThreadState.running)] else [] := by
  rw [h.heard]
  by_cases still : (σ s).thread.status = waiting
  · rw [if_neg (fun known => known.2.1 still)]
    obtain ⟨waits, -⟩ | ⟨-, all⟩ := own.leaves still
    · rw [if_neg (fun known => known.2.1 waits)]
    · rw [all, h.dependers, if_neg (fun known => known.2.2 (g.mem_dependers.mpr known.1))]
  · rw [(own.left still).1, (own.left still).2]

theorem own {y : Sensor ν} (h : Inv g σ) (own : (σ s).Own y) (sound : y.Sound) :
    Inv g (Function.update σ s y) := by
  have heardFrom : ∀ d e, (Function.update σ s y d).heardFrom e = (σ d).heardFrom e := by
    intro d e
    refine (Function.forall_update_iff σ fun d x => x.heardFrom e = (σ d).heardFrom e).mpr
      ⟨?_, fun _ _ => rfl⟩ d
    rw [Sensor.heardFrom, own.heard]
    rfl
  refine ⟨?_, ?_, ?_, fun d e => ?_, fun d => ?_⟩
  · exact (Function.forall_update_iff σ fun _ x => x.Sound).mpr ⟨sound, fun e _ => h.sound e⟩
  · exact (Function.forall_update_iff σ fun e x => x.thread.waitingDependers = g.dependers e).mpr
      ⟨own.dependers.trans (h.dependers s), fun e _ => h.dependers e⟩
  · exact (Function.forall_update_iff σ fun e x => x.telling ⊆ g.dependers e).mpr
      ⟨h.telling_of_own own, fun e _ => h.telling e⟩
  · rw [heardFrom]
    refine (Function.forall_update_iff σ fun d x => e ∈ x.thread.remainingDependees ↔
      e ∈ g.deps d ∧ (σ d).heardFrom e = []).mpr ⟨?_, fun d _ => h.remaining d e⟩ d
    rw [own.remaining]
    exact h.remaining s e
  · simp only [heardFrom]
    exact (Function.forall_update_iff σ fun e x => (σ d).heardFrom e =
      if e ∈ g.deps d ∧ x.thread.status ≠ waiting ∧ d ∉ x.telling
      then [decide (x.thread.status = SensorThreadState.running)] else []).mpr
        ⟨h.heard_of_own own d, fun e _ => h.heard d e⟩

/-- A sensor that is still to be told has heard nothing. -/
theorem heardFrom_of_telling (h : Inv g σ) (mem : d ∈ (σ s).telling) :
    (σ d).heardFrom s = [] := by
  rw [h.heard, if_neg (fun known => known.2.2 mem)]

theorem left_of_telling (h : Inv g σ) (mem : d ∈ (σ s).telling) :
    (σ s).thread.status ≠ waiting := by
  intro still
  rw [(h.sound s).untold still] at mem
  simp at mem

theorem deps_of_telling (h : Inv g σ) (mem : d ∈ (σ s).telling) : s ∈ g.deps d :=
  g.mem_dependers.mp (h.telling s mem)

theorem notRunning_of_telling (h : Inv g σ) (mem : d ∈ (σ s).telling) :
    (σ d).thread.status ≠ SensorThreadState.running := by
  intro runs
  have waits := (h.remaining d s).mpr ⟨h.deps_of_telling mem, h.heardFrom_of_telling mem⟩
  rw [((h.sound d).running runs).1] at waits
  simp at waits

/-- The event arrives: the dependee has one depender less to call. -/
theorem deliver (h : Inv g σ) (mem : d ∈ (σ s).telling) (differ : d ≠ s) :
    Inv g (delivered σ s d) := by
  refine ⟨?_, fun e => ?_, fun e x told => ?_, fun x e => ?_, fun x e => ?_⟩
  · exact delivered_induction (P := fun _ x => x.Sound) (fun e _ _ => h.sound e)
      ((h.sound s).told d) ((h.sound d).receive _ (h.notRunning_of_telling mem))
  · rw [delivered_dependers, h.dependers]
  · exact h.telling e ((delivered_telling differ x e).mp told).1
  · rw [delivered_remaining differ, delivered_heardFrom differ (h.heardFrom_of_telling mem),
      h.remaining]
    split <;> simp_all
  · simp only [delivered_heardFrom differ (h.heardFrom_of_telling mem), delivered_status,
      delivered_telling differ]
    by_cases both : x = d ∧ e = s
    · obtain ⟨rfl, rfl⟩ := both
      simp [h.deps_of_telling mem, h.left_of_telling mem]
    · have same : ¬ (e = s ∧ x = d) := fun swapped => both ⟨swapped.2, swapped.1⟩
      rw [if_neg both, h.heard]
      simp only [same, not_false_eq_true, and_true]

/-- What a waiting sensor knows lets it conclude correctly. -/
theorem safe (h : Inv g σ) (runs : (σ d).thread.status = running) :
    (σ d).outcomes.getLast? = some true ∧
      ∀ s ∈ g.deps d, (σ s).thread.status = running := by
  obtain ⟨none, noFailed, some⟩ := (h.sound d).running runs
  constructor
  · have last := List.getLast_mem some
    rw [List.getLast?_eq_getLast_of_ne_nil some]
    cases value : (σ d).outcomes.getLast some with
    | true => rfl
    | false => exact absurd (value ▸ last) (h.sound d).outcomes
  · intro s dep
    have told : (σ d).heardFrom s ≠ [] := by
      intro untold
      have waits := (h.remaining d s).mpr ⟨dep, untold⟩
      rw [none] at waits
      simp at waits
    have heard := h.heard d s
    split at heard
    · have mem : decide ((σ s).thread.status = running) ∈ (σ d).heardFrom s := by simp [heard]
      simp only [Sensor.heardFrom, List.mem_map, List.mem_filter] at mem
      obtain ⟨p, ⟨mem, -⟩, value⟩ := mem
      have good := (h.sound d).failures noFailed p mem
      rw [value] at good
      simpa using good
    · exact absurd heard told

theorem initial (start : (system g).init σ) : Inv g σ := by
  obtain ⟨order, all, rfl⟩ := start
  rw [prepareAll_eq]
  have known : ∀ d, (if d ∈ order then g.deps d else ∅) = g.deps d := by
    intro d
    split
    · rfl
    · rename_i absent
      refine (Finset.eq_empty_of_forall_notMem fun s dep => absent ?_).symm
      rw [← List.mem_toFinset, all]
      exact (g.closed d s dep).1
  refine ⟨fun s => ?_, fun s => ?_, fun s => ?_, fun d s => ?_, fun d s => ?_⟩
  · exact ⟨nofun, nofun, nofun, nofun, fun _ => rfl, nofun⟩
  · rw [SensorGraph.dependers, ← all]
    rfl
  · exact Finset.empty_subset _
  · rw [preparedSensor, known]
    exact (and_iff_left rfl).symm
  · rw [if_neg (fun told => told.2.1 rfl)]
    rfl

/-- A step in which no `initialize` raises is a step of one sensor by itself, or a
delivery followed by the conclusion of the depender. -/
theorem step_cases (h : Inv g σ) {a : Action ν} (noRaise : ∀ s, a ≠ .initializeEnds s false)
    (step : (system g).next σ a = some τ) :
    (∃ s y, τ = Function.update σ s y ∧ (σ s).Own y ∧ y.Sound) ∨
      ∃ s d, d ∈ (σ s).telling ∧ d ≠ s ∧
        τ = Function.update (delivered σ s d) d (delivered σ s d d).conclude ∧
        (delivered σ s d d).telling = ∅ := by
  cases a with
  | startThread s =>
      obtain ⟨-, rfl⟩ := Option.ite_some_none_eq_some.mp step
      obtain ⟨sound, own⟩ := (h.sound s).startThread
      exact .inl ⟨s, _, rfl, own, sound⟩
  | initializeEnds s returns =>
      cases returns with
      | false => exact absurd rfl (noRaise s)
      | true =>
          obtain ⟨-, rfl⟩ := Option.ite_some_none_eq_some.mp step
          obtain ⟨sound, own⟩ := (h.sound s).initializeReturns
          exact .inl ⟨s, _, rfl, own, sound⟩
  | conclude s =>
      obtain ⟨⟨-, free⟩, rfl⟩ := Option.ite_some_none_eq_some.mp step
      obtain ⟨sound, own⟩ := (h.sound s).enterScheduler
      obtain ⟨sound', own'⟩ := sound.conclude free
      exact .inl ⟨s, _, rfl, own.trans own', sound'⟩
  | checkAndRun s =>
      obtain ⟨⟨-, free⟩, rfl⟩ := Option.ite_some_none_eq_some.mp step
      obtain ⟨sound, own⟩ := (h.sound s).noteInterval
      obtain ⟨sound', own'⟩ := sound.conclude free
      exact .inl ⟨s, _, rfl, own.trans own', sound'⟩
  | event s d =>
      obtain ⟨⟨mem, free⟩, rfl⟩ := Option.ite_some_none_eq_some.mp step
      have differ := differ_of_telling mem free
      refine .inr ⟨s, d, mem, differ, event_eq_delivered differ, ?_⟩
      rw [delivered_depender]
      exact free

/-- Every step in which no `initialize` raises preserves the invariant. -/
theorem next (h : Inv g σ) {a : Action ν} (noRaise : ∀ s, a ≠ .initializeEnds s false)
    (step : (system g).next σ a = some τ) : Inv g τ := by
  obtain ⟨s, y, rfl, own, sound⟩ | ⟨s, d, mem, differ, rfl, free⟩ := h.step_cases noRaise step
  · exact h.own own sound
  · have after := h.deliver mem differ
    obtain ⟨sound, own⟩ := (after.sound d).conclude free
    exact after.own own sound

end Inv

/-- A sensor is `RUNNING` only if its own `initialize` has succeeded, the last time
it was called, and all sensors it depends on are `RUNNING`. -/
def Safe (g : SensorGraph ν) (σ : State ν) : Prop :=
  ∀ d, (σ d).thread.status = running →
    (σ d).outcomes.getLast? = some true ∧ ∀ s ∈ g.deps d, (σ s).thread.status = running

/-- No `initialize` of any sensor raises in the run. -/
def NoneRaises (actions : List (Action ν)) : Prop := ∀ s, .initializeEnds s false ∉ actions

theorem runs_of_noneRaises {actions : List (Action ν)} (none : NoneRaises actions)
    (run : (system g).FreeRuns σ actions τ) :
    (system g).Runs (fun _ a => ∀ s, a ≠ .initializeEnds s false) σ actions τ := by
  refine run.strengthen ?_
  rintro done _ rest _ rfl - s rfl
  exact none s (by simp)

/-- When an `initialize` raises the sensor gets the number of `RUNNING`. -/
theorem unsafe_of_raises (step : (system g).next σ (.initializeEnds s false) = some τ) :
    ¬ Safe g τ := by
  obtain ⟨-, rfl⟩ := Option.ite_some_none_eq_some.mp step
  intro safe
  have last := (safe s (by simp [Sensor.initializeRaises]; rfl)).1
  simp [Sensor.initializeRaises] at last

/-- Sensors are safe in every state of a run, under any interleaving of their threads, exactly when
no `initialize` raises in it. One that raises leaves the status at `INIT_FAILED`, which has the
same value as `RUNNING`. -/
theorem safe_iff (g : SensorGraph ν) {σ τ : State ν} {actions : List (Action ν)}
    (start : (system g).init σ) (run : (system g).FreeRuns σ actions τ) :
    (system g).Always (Safe g) σ actions ↔ NoneRaises actions := by
  constructor
  · intro safe s raises
    obtain ⟨done, rest, rfl⟩ := List.append_of_mem raises
    obtain ⟨before, left, right⟩ := run.split
    cases right with
    | cons _ step _ =>
        refine unsafe_of_raises step (safe (done ++ [.initializeEnds s false]) rest _ ?_
          (left.append (.single trivial step)))
        simp
  · intro none done rest reached split left
    have inv := (runs_of_noneRaises none run).always (I := Inv g)
      (fun _ _ _ h noRaise step => h.next noRaise step) (Inv.initial start)
    exact fun d runs => (inv done rest reached split left).safe runs

section Disks

/-- Two of the sensors of a node: the disk monitor depends on the HPI monitor. -/
inductive Monitor
  | hpiMonitor
  | diskMonitor
  deriving DecidableEq

open Monitor

def monitorDeps : Monitor → Finset Monitor
  | .hpiMonitor => ∅
  | .diskMonitor => {.hpiMonitor}

def monitors : SensorGraph Monitor where
  sensors := {.hpiMonitor, .diskMonitor}
  deps := monitorDeps
  closed := by
    rintro (_ | _) (_ | _) - <;> exact ⟨by decide, by decide⟩

theorem monitors_acyclic : Acyclic monitors.DependsOn := by
  refine .of_rank (fun | .hpiMonitor => 0 | .diskMonitor => 1) ?_
  rintro (_ | _) (_ | _) <;> simp [SensorGraph.DependsOn, monitors, monitorDeps]

/-- Both monitors were prepared. -/
def monitorsPrepared : State Monitor := prepareAll monitors [.hpiMonitor, .diskMonitor]

theorem monitorsPrepared_init : (system monitors).init monitorsPrepared :=
  ⟨[.hpiMonitor, .diskMonitor], by decide, rfl⟩

def State.after (σ : State Monitor) (actions : List (Action Monitor)) : State Monitor :=
  ((system monitors).run σ actions).getD σ

/-- The `initialize` of the HPI monitor raises, and the monitor is taken for running. -/
theorem raising_sensor_runs :
    ¬ ∀ (g : SensorGraph Monitor) (σ τ : State Monitor) (actions : List (Action Monitor)),
      Acyclic g.DependsOn → (system g).init σ → (system g).FreeRuns σ actions τ → Safe g τ := by
  intro always
  have first : (system monitors).next monitorsPrepared (.startThread .hpiMonitor) =
      some (monitorsPrepared.after [.startThread .hpiMonitor]) := rfl
  have second : (system monitors).next (monitorsPrepared.after [.startThread .hpiMonitor])
      (.initializeEnds .hpiMonitor false) = some (monitorsPrepared.after
        [.startThread .hpiMonitor, .initializeEnds .hpiMonitor false]) := rfl
  exact unsafe_of_raises second (always monitors _ _ _ monitors_acyclic monitorsPrepared_init
    (.cons trivial first (.single trivial second)))

/-- The disk monitor is initialized first and waits for the HPI monitor. -/
def diskFirst : List (Action Monitor) :=
  [.startThread .diskMonitor, .initializeEnds .diskMonitor true, .conclude .diskMonitor,
    .checkAndRun .diskMonitor, .startThread .hpiMonitor, .initializeEnds .hpiMonitor true,
    .conclude .hpiMonitor, .event .hpiMonitor .diskMonitor]

theorem diskFirst_run :
    (system monitors).run monitorsPrepared diskFirst = some (monitorsPrepared.after diskFirst) :=
  rfl

theorem diskFirst_noneRaises : NoneRaises diskFirst := by
  intro s
  simp [diskFirst]

/-- The disk monitor is started before the drive manager and waits for it. -/
theorem diskFirst_safe : (system monitors).Always (Safe monitors) monitorsPrepared diskFirst :=
  (safe_iff monitors monitorsPrepared_init
    ((system monitors).run_eq_some_iff.mp diskFirst_run)).mpr diskFirst_noneRaises

end Disks

end Start

end Sspl

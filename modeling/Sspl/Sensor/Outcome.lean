import Sspl.Sensor.Safety

/-!
# Every depender learns the outcome

A sensor that has left `WAITING` has called each of its dependers once, or is
still going through them, and the argument of the call is its final status. When
all sensors have executed `start_thread` and no call is under way, a sensor that
still waits would wait for another one that waits, and the dependencies are acyclic.

None of this holds when an `initialize` raises: the status is assigned without
telling the dependers, even after it was final.
-/

namespace Sspl

open DependencyState InitState SensorThreadState

namespace Sensor

variable {ν : Type} {x y : Sensor ν}

/-- What `start_thread` leaves behind: a sensor that waits for its dependees only. -/
structure Settled (x : Sensor ν) : Prop where
  ready : x.stage = .concluding ∨ (x.stage = .idle ∧ x.executed = true) →
    x.thread.initStatus = initSuccess
  waits : x.thread.status = waiting → x.stage = .idle → x.executed = true →
    x.thread.remainingDependees ≠ ∅

theorem settled_created (ν : Type) : (created : Sensor ν).Settled := by
  refine ⟨?_, nofun⟩
  rintro (concluding | ⟨-, executed⟩)
  · cases concluding
  · cases executed

theorem settled_startThread (x : Sensor ν) : x.startThread.Settled := by
  refine ⟨?_, nofun⟩
  rintro (concluding | ⟨idle, -⟩)
  · cases concluding
  · cases idle

theorem settled_initializeReturns (x : Sensor ν) : x.initializeReturns.Settled :=
  ⟨fun _ => rfl, nofun⟩

variable [DecidableEq ν]

/-- A waiting sensor that is initialized still has a dependee to hear from. -/
theorem settled_conclude (ready : x.stage = .concluding ∨ (x.stage = .idle ∧ x.executed = true) →
    x.thread.initStatus = initSuccess) : x.conclude.Settled := by
  by_cases still : x.thread.status = waiting
  · obtain ⟨run, notFailed, notSucceeded⟩ | ⟨run, -⟩ | ⟨run, -⟩ := conclude_cases still
    · rw [run]
      refine ⟨ready, fun _ idle executed none => ?_⟩
      have noFailed : x.thread.numFailedDependees = 0 := by
        by_contra some
        exact notFailed (SensorThread.depsOutcome_of_failed some)
      exact notSucceeded ⟨SensorThread.depsOutcome_of_none noFailed none,
        ready (.inr ⟨idle, executed⟩)⟩
    · rw [run]
      exact ⟨ready, nofun⟩
    · rw [run]
      exact ⟨ready, nofun⟩
  · rw [conclude_of_left still]
    exact ⟨ready, fun waits => absurd waits still⟩

/-- The sensor got its status from an `initialize` that has raised. -/
def Raised (x : Sensor ν) : Prop := false ∈ x.outcomes ∧ x.thread.status = running

theorem Raised.conclude (h : x.Raised) : x.conclude.Raised := by
  have left : x.thread.status ≠ waiting := by
    rw [h.2]
    nofun
  rw [conclude_of_left left]
  exact h

end Sensor

namespace Start

variable {ν : Type} [DecidableEq ν] {g : SensorGraph ν} {σ τ : State ν} {s d : ν}

theorem forall_update {P : Sensor ν → Prop} {y : Sensor ν} (h : ∀ e, P (σ e)) (new : P y) (s : ν) :
    ∀ e, P (Function.update σ s y e) :=
  (Function.forall_update_iff σ fun _ x => P x).mpr ⟨new, fun e _ => h e⟩

theorem settled_next (h : ∀ s, (σ s).Settled) {a : Action ν}
    (noRaise : ∀ s, a ≠ .initializeEnds s false) (step : (system g).next σ a = some τ) :
    ∀ s, (τ s).Settled := by
  cases a with
  | startThread s =>
      obtain ⟨-, rfl⟩ := Option.ite_some_none_eq_some.mp step
      exact forall_update h (Sensor.settled_startThread _) s
  | initializeEnds s returns =>
      cases returns with
      | false => exact absurd rfl (noRaise s)
      | true =>
          obtain ⟨-, rfl⟩ := Option.ite_some_none_eq_some.mp step
          exact forall_update h (Sensor.settled_initializeReturns _) s
  | conclude s =>
      obtain ⟨⟨concluding, -⟩, rfl⟩ := Option.ite_some_none_eq_some.mp step
      have settled : (σ s).enterScheduler.conclude.Settled :=
        Sensor.settled_conclude fun _ => (h s).ready (.inl concluding)
      exact forall_update h settled s
  | checkAndRun s =>
      obtain ⟨-, rfl⟩ := Option.ite_some_none_eq_some.mp step
      have settled : (σ s).checkAndRun.Settled := Sensor.settled_conclude (h s).ready
      exact forall_update h settled s
  | event s d =>
      obtain ⟨-, rfl⟩ := Option.ite_some_none_eq_some.mp step
      have told : ((σ s).told d).Settled := ⟨(h s).ready, (h s).waits⟩
      have others := forall_update h told s
      have settled : ∀ value, ((Function.update σ s ((σ s).told d) d).event s value).Settled :=
        fun _ => Sensor.settled_conclude (others d).ready
      exact forall_update others (settled _) d

/-- A status that is not `WAITING` stays. -/
def Frozen (σ τ : State ν) : Prop :=
  ∀ s, (σ s).thread.status ≠ waiting → (τ s).thread.status = (σ s).thread.status

omit [DecidableEq ν] in
theorem Frozen.trans {υ : State ν} (first : Frozen σ τ) (second : Frozen τ υ) : Frozen σ υ := by
  intro s left
  have same := first s left
  rw [← same]
  exact second s (same ▸ left)

theorem frozen_update {y : Sensor ν} (own : (σ s).Own y) : Frozen σ (Function.update σ s y) :=
  (Function.forall_update_iff σ fun e x => (σ e).thread.status ≠ waiting →
    x.thread.status = (σ e).thread.status).mpr ⟨fun left => (own.left left).1, fun _ _ _ => rfl⟩

theorem frozen_next (h : Inv g σ) {a : Action ν} (noRaise : ∀ s, a ≠ .initializeEnds s false)
    (step : (system g).next σ a = some τ) : Frozen σ τ := by
  obtain ⟨s, y, rfl, own, -⟩ | ⟨s, d, mem, differ, rfl, free⟩ := h.step_cases noRaise step
  · exact frozen_update own
  · have arrived : Frozen σ (delivered σ s d) := fun e _ => delivered_status σ s d e
    exact arrived.trans (frozen_update (((h.deliver mem differ).sound d).conclude free).2)

/-- All sensors have executed `start_thread`, and no call of `event` is under way: whoever is going
to be told has been told. -/
def Complete (g : SensorGraph ν) (σ : State ν) : Prop :=
  ∀ s ∈ g.sensors, (σ s).executed = true ∧ (σ s).stage = .idle ∧ (σ s).telling = ∅

/-- Every depender of a sensor that has left `WAITING` has received exactly one
event from it with its status, unless its turn is still to come, and in the end
nobody waits and whoever depends on a sensor whose `initialize` failed has failed. -/
structure Informed (g : SensorGraph ν) (σ : State ν) : Prop where
  told : ∀ s, (σ s).thread.status ≠ waiting → ∀ d ∈ g.dependers s, (σ d).heardFrom s =
    if d ∈ (σ s).telling then [] else [decide ((σ s).thread.status = running)]
  failed : Complete g σ → ∀ s, false ∈ (σ s).outcomes →
    ∀ d, Relation.ReflTransGen g.DependsOn s d → (σ d).thread.status = failed
  noneWaiting : Complete g σ → ∀ s ∈ g.sensors, (σ s).thread.status ≠ waiting

/-- The dependers are informed in every state of the run, and no status that was
final in one of them is another one later. -/
def Learned (g : SensorGraph ν) (σ : State ν) (actions : List (Action ν)) : Prop :=
  (system g).Always (Informed g) σ actions ∧
    ∀ done middle rest before after, actions = done ++ middle ++ rest →
      (system g).FreeRuns σ done before → (system g).FreeRuns before middle after →
        Frozen before after

/-- The invariants of the runs in which no `initialize` raises. -/
structure Undisturbed (g : SensorGraph ν) (σ : State ν) : Prop where
  inv : Inv g σ
  settled : ∀ s, (σ s).Settled

namespace Undisturbed

theorem next (h : Undisturbed g σ) {a : Action ν} (noRaise : ∀ s, a ≠ .initializeEnds s false)
    (step : (system g).next σ a = some τ) : Undisturbed g τ :=
  ⟨h.inv.next noRaise step, settled_next h.settled noRaise step⟩

theorem initial (start : (system g).init σ) : Undisturbed g σ := by
  refine ⟨.initial start, fun s => ?_⟩
  obtain ⟨order, -, rfl⟩ := start
  rw [prepareAll_eq]
  exact ⟨(Sensor.settled_created ν).ready, nofun⟩

/-- Whoever waits in the end waits for another one who waits, but not in a circle. -/
theorem noneWaiting (h : Undisturbed g σ) (acyclic : Acyclic g.DependsOn)
    (complete : Complete g σ) : ∀ s ∈ g.sensors, (σ s).thread.status ≠ waiting := by
  refine acyclic.induction_on (s := g.sensors) g.sensors.finite_toSet ?_
  intro d mem dependees still
  obtain ⟨executed, idle, -⟩ := complete d mem
  obtain ⟨s, remaining⟩ :=
    Finset.nonempty_iff_ne_empty.mpr ((h.settled d).waits still idle executed)
  obtain ⟨dep, untold⟩ := (h.inv.remaining d s).mp remaining
  have sensor := (g.closed d s dep).2
  have heard := h.inv.heard d s
  rw [untold, if_pos ⟨dep, dependees s sensor dep, by simp [(complete s sensor).2.2]⟩] at heard
  cases heard

theorem informed (h : Undisturbed g σ) (acyclic : Acyclic g.DependsOn) : Informed g σ where
  told s left d mem := by
    rw [h.inv.heard]
    have dep := g.mem_dependers.mp mem
    by_cases turn : d ∈ (σ s).telling
    · rw [if_neg (fun known => known.2.2 turn), if_pos turn]
    · rw [if_pos ⟨dep, left, turn⟩, if_neg turn]
  failed _ s raised := absurd raised (h.inv.sound s).outcomes
  noneWaiting := h.noneWaiting acyclic

theorem frozen (h : Undisturbed g σ) {actions : List (Action ν)}
    (run : (system g).Runs (fun _ a => ∀ s, a ≠ .initializeEnds s false) σ actions τ) :
    Frozen σ τ := by
  induction run with
  | nil => exact fun _ _ => rfl
  | cons noRaise step _ ih =>
      exact (frozen_next h.inv noRaise step).trans (ih (h.next noRaise step))

end Undisturbed

theorem learned_of_noneRaises (acyclic : Acyclic g.DependsOn) {actions : List (Action ν)}
    (start : (system g).init σ) (run : (system g).FreeRuns σ actions τ)
    (none : NoneRaises actions) : Learned g σ actions := by
  have quiet := runs_of_noneRaises none run
  have always := quiet.always (I := Undisturbed g)
    (fun _ _ _ h noRaise step => h.next noRaise step) (.initial start)
  constructor
  · intro done rest reached split left
    exact (always done rest reached split left).informed acyclic
  · rintro done middle rest before after rfl left right
    rw [List.append_assoc] at quiet
    have later := (quiet.prefix_suffix left).2
    exact (always done (middle ++ rest) before (List.append_assoc ..) left).frozen
      (later.prefix_suffix right).1

theorem raised_next (h : (σ s).Raised) {a : Action ν} (step : (system g).next σ a = some τ) :
    (τ s).Raised := by
  have update : ∀ (ρ : State ν) (e : ν) (y : Sensor ν), (ρ s).Raised →
      ((ρ e).Raised → y.Raised) → (Function.update ρ e y s).Raised := by
    intro ρ e y raised keeps
    by_cases here : s = e
    · subst here
      rw [Function.update_self]
      exact keeps raised
    · rwa [Function.update_of_ne here]
  cases a with
  | startThread e =>
      obtain ⟨-, rfl⟩ := Option.ite_some_none_eq_some.mp step
      exact update σ e _ h id
  | initializeEnds e returns =>
      obtain ⟨-, rfl⟩ := Option.ite_some_none_eq_some.mp step
      refine update σ e _ h fun raised => ?_
      cases returns with
      | false => exact ⟨List.mem_append_left _ raised.1, rfl⟩
      | true => exact ⟨List.mem_append_left _ raised.1, raised.2⟩
  | conclude e =>
      obtain ⟨-, rfl⟩ := Option.ite_some_none_eq_some.mp step
      refine update σ e _ h fun raised => ?_
      have entered : (σ e).enterScheduler.Raised := raised
      exact entered.conclude
  | checkAndRun e =>
      obtain ⟨-, rfl⟩ := Option.ite_some_none_eq_some.mp step
      refine update σ e _ h fun raised => ?_
      have noted : Sensor.Raised { σ e with thread := (σ e).thread.noteInterval } := raised
      exact noted.conclude
  | event e d =>
      obtain ⟨-, rfl⟩ := Option.ite_some_none_eq_some.mp step
      refine update _ d _ (update σ e _ h id) fun raised => ?_
      have received : ∀ value,
          ((Function.update σ e ((σ e).told d) d).receive e value).Raised := fun _ => raised
      exact (received _).conclude

/-- A sensor whose `initialize` has raised in the run ends with the number of `RUNNING`. -/
theorem raised_of_mem {actions : List (Action ν)} (run : (system g).FreeRuns σ actions τ)
    (mem : .initializeEnds s false ∈ actions) : (τ s).Raised := by
  obtain ⟨done, rest, rfl⟩ := List.append_of_mem mem
  obtain ⟨before, -, right⟩ := run.split
  cases right with
  | cons _ step tail =>
      refine tail.invariant (I := fun σ => (σ s).Raised)
        (fun _ _ _ raised _ step => raised_next raised step) ?_
      obtain ⟨-, rfl⟩ := Option.ite_some_none_eq_some.mp step
      rw [Function.update_self]
      exact ⟨List.mem_append_right _ (.head _), rfl⟩

/-- In a run in which no `initialize` raises all dependers learn the outcome, and
of the runs that start all sensors these are the only ones. -/
theorem learned_iff (g : SensorGraph ν) (acyclic : Acyclic g.DependsOn) {σ τ : State ν}
    {actions : List (Action ν)} (start : (system g).init σ)
    (run : (system g).FreeRuns σ actions τ) :
    (NoneRaises actions → Learned g σ actions) ∧
      (Complete g τ → (Learned g σ actions ↔ NoneRaises actions)) := by
  have learned := learned_of_noneRaises acyclic start run
  refine ⟨learned, fun complete => ⟨fun known s raises => ?_, learned⟩⟩
  obtain ⟨raised, runs⟩ := raised_of_mem run raises
  have informed := known.1 actions [] τ (List.append_nil _).symm run
  have fails := informed.failed complete s raised s .refl
  rw [runs] at fails
  cases fails

section Disks

/-- The disk monitor is started after the HPI monitor has failed to. -/
def hpiRaises : List (Action Monitor) :=
  [.startThread .hpiMonitor, .initializeEnds .hpiMonitor false, .startThread .diskMonitor,
    .initializeEnds .diskMonitor true, .conclude .diskMonitor]

/-- Both have executed `start_thread`, and the disk monitor waits for an event. -/
theorem depender_not_told :
    ¬ ∀ (g : SensorGraph Monitor) (σ τ : State Monitor) (actions : List (Action Monitor)),
      Acyclic g.DependsOn → (system g).init σ → (system g).FreeRuns σ actions τ →
        Learned g σ actions := by
  intro always
  have run := (system monitors).run_eq_some_iff.mp (show (system monitors).run monitorsPrepared
    hpiRaises = some (monitorsPrepared.after hpiRaises) from rfl)
  have informed := (always monitors _ _ _ monitors_acyclic monitorsPrepared_init run).1
    hpiRaises [] _ rfl run
  have complete : Complete monitors (monitorsPrepared.after hpiRaises) := by
    rintro (_ | _) - <;> exact ⟨rfl, rfl, rfl⟩
  exact informed.noneWaiting complete .diskMonitor (by decide) rfl

/-- The disk monitor is told that the drive manager is running. -/
theorem diskFirst_learned : Learned monitors monitorsPrepared diskFirst ∧
    (Learned monitors monitorsPrepared diskFirst ↔ NoneRaises diskFirst) := by
  have complete : Complete monitors (monitorsPrepared.after diskFirst) := by
    rintro (_ | _) - <;> exact ⟨rfl, rfl, rfl⟩
  have outcome := learned_iff monitors monitors_acyclic monitorsPrepared_init
    ((system monitors).run_eq_some_iff.mp diskFirst_run)
  exact ⟨outcome.1 diskFirst_noneRaises, outcome.2 complete⟩

end Disks

end Start

end Sspl

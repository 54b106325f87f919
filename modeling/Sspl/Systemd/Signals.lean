import Sspl.Systemd.Disabled

/-!
# Signals that repeat a state

systemd signals a change of a unit's properties also when its `ActiveState` is the same as
before. The handler does nothing when the state it has read is the previous state of the object,
and the previous state is what was read before the last change. A repeated state is never that
one, so the handler acts on it again, and sets the time from which a service waits.
-/

namespace Sspl

namespace ServiceMonitor

variable {ν : Type}

/-- The service waits for a threshold to pass. -/
def AwaitsThreshold (x : Service ν) (u : UnitActiveState) : Prop :=
  u = .active ∧ x.serviceState = .failed ∨ u = .failed ∧ x.serviceState ≠ .failed

/-- The name is in the sets, and the object in the state, in which the handler leaves them when it
has read this state. -/
structure Agrees (x : Service ν) (c : Shared ν) (u : UnitActiveState) : Prop where
  active : u = .active → x.serviceState ≠ .inactive ∧ x.name ∉ c.failedWaitingServices ∧
    (x.serviceState = .failed → x.name ∈ c.activeWaitingServices)
  failed : u = .failed → x.name ∉ c.activeWaitingServices ∧
    (x.serviceState ≠ .failed → x.name ∈ c.failedWaitingServices)
  down : u.Down → x.serviceState ≠ .active ∧ x.name ∉ c.failedWaitingServices ∧
    x.name ∉ c.activeWaitingServices

/-- There is nothing left for the handler to do: if the service waits, the clock stands where
it stood when it began to. -/
structure Settled (x : Service ν) (c : Shared ν) (u : UnitActiveState) (now : Int) : Prop where
  agrees : Agrees x c u
  still : AwaitsThreshold x u → now = x.waitingTimestamp

/-- What happens between the checks: signals that read the recorded state, and all that does not
act on the service. -/
def Meanwhile (n : ν) (u : UnitActiveState) : Action ν → Prop
  | .propertiesChanged m which reply _ => m = n → which = none ∧ reply = some u
  | .visit m _ _ => m ≠ n
  | .unitFilesChanged m _ _ => m ≠ n
  | .restartProcess => False
  | _ => True

/-- What the checks go by is the same for both. -/
structure SameRecord (x y : Service ν) (c d : Shared ν) : Prop where
  serviceState : y.serviceState = x.serviceState
  waitingTimestamp : y.waitingTimestamp = x.waitingTimestamp
  nonactiveEnterTimestamp : y.nonactiveEnterTimestamp = x.nonactiveEnterTimestamp
  nonActive : y.name ∈ d.nonActive ↔ x.name ∈ c.nonActive
  failedWaiting : y.name ∈ d.failedWaitingServices ↔ x.name ∈ c.failedWaitingServices
  activeWaiting : y.name ∈ d.activeWaitingServices ↔ x.name ∈ c.activeWaitingServices

theorem SameRecord.refl (x : Service ν) (c : Shared ν) : SameRecord x x c c :=
  ⟨rfl, rfl, rfl, .rfl, .rfl, .rfl⟩

theorem SameRecord.trans {x y z : Service ν} {c d e : Shared ν} (first : SameRecord x y c d)
    (second : SameRecord y z d e) : SameRecord x z c e :=
  ⟨second.serviceState.trans first.serviceState,
    second.waitingTimestamp.trans first.waitingTimestamp,
    second.nonactiveEnterTimestamp.trans first.nonactiveEnterTimestamp,
    second.nonActive.trans first.nonActive, second.failedWaiting.trans first.failedWaiting,
    second.activeWaiting.trans first.activeWaiting⟩

theorem SameRecord.symm {x y : Service ν} {c d : Shared ν} (h : SameRecord x y c d) :
    SameRecord y x d c :=
  ⟨h.serviceState.symm, h.waitingTimestamp.symm, h.nonactiveEnterTimestamp.symm,
    h.nonActive.symm, h.failedWaiting.symm, h.activeWaiting.symm⟩

theorem SameRecord.agrees {x y : Service ν} {c d : Shared ν} {u : UnitActiveState}
    (h : SameRecord x y c d) (old : Agrees x c u) : Agrees y d u := by
  obtain ⟨active, failed, down⟩ := old
  constructor <;> rw [h.serviceState, h.failedWaiting, h.activeWaiting]
  · exact active
  · exact failed
  · exact down

theorem SameRecord.settled {x y : Service ν} {c d : Shared ν} {u : UnitActiveState} {now : Int}
    (h : SameRecord x y c d) : Settled y d u now ↔ Settled x c u now := by
  constructor
  · rintro ⟨agrees, still⟩
    rw [AwaitsThreshold, h.serviceState, h.waitingTimestamp] at still
    exact ⟨h.symm.agrees agrees, still⟩
  · rintro ⟨agrees, still⟩
    refine ⟨h.agrees agrees, ?_⟩
    rw [AwaitsThreshold, h.serviceState, h.waitingTimestamp]
    exact still

section Handler

variable [DecidableEq ν] {x : Service ν} {c : Shared ν} {u : UnitActiveState}

/-- After the handler has read a state, the sets agree with it. -/
theorem react_agrees (now : Int) (c : Shared ν) (state : x.state = some u)
    (moved : x.state ≠ x.previousState) : Agrees (react now x c).1 (react now x c).2 u := by
  obtain ⟨rfl, service, run⟩ | ⟨rfl, service, run⟩ | ⟨rfl, service, run⟩ | ⟨rfl, service, run⟩ |
      ⟨rfl, service, run⟩ | ⟨down, r, run, ⟨service, rfl⟩ | ⟨service, rfl⟩ | ⟨service, rfl⟩⟩ :=
    react_cases now c state moved <;> rw [run]
  · exact ⟨by simp [service], nofun, fun down => absurd rfl down.1⟩
  · exact ⟨by simp, nofun, fun down => absurd rfl down.1⟩
  · exact ⟨by simp [service], nofun, fun down => absurd rfl down.1⟩
  · exact ⟨nofun, by simp, fun down => absurd rfl down.2⟩
  · exact ⟨nofun, by simp [service], fun down => absurd rfl down.2⟩
  · exact ⟨fun up => absurd up down.1, fun up => absurd up down.2, by simp [service]⟩
  · exact ⟨fun up => absurd up down.1, fun up => absurd up down.2, by simp [service]⟩
  · exact ⟨fun up => absurd up down.1, fun up => absurd up down.2, by simp⟩

theorem react_waits (now : Int) (c : Shared ν) (state : x.state = some u)
    (moved : x.state ≠ x.previousState) (awaits : AwaitsThreshold x u) :
    (react now x c).1.waitingTimestamp = now := by
  obtain ⟨rfl, service, run⟩ | ⟨rfl, service, run⟩ | ⟨rfl, service, run⟩ | ⟨rfl, service, run⟩ |
      ⟨rfl, service, run⟩ | ⟨down, -⟩ := react_cases now c state moved
  · rw [run]
  · simp [AwaitsThreshold, service] at awaits
  · simp [AwaitsThreshold, service] at awaits
  · rw [run]
  · simp [AwaitsThreshold, service] at awaits
  · obtain ⟨up, -⟩ | ⟨up, -⟩ := awaits
    · exact absurd up down.1
    · exact absurd up down.2

theorem react_settled (now : Int) (state : x.state = some u) (moved : x.state ≠ x.previousState)
    (settled : Settled x c u now) : SameRecord x (react now x c).1 c (react now x c).2 := by
  obtain ⟨⟨active, failed, quiet⟩, still⟩ := settled
  obtain ⟨rfl, service, run⟩ | ⟨rfl, service, run⟩ | ⟨rfl, service, run⟩ | ⟨rfl, service, run⟩ |
      ⟨rfl, service, run⟩ | ⟨down, r, run, ⟨service, rfl⟩ | ⟨service, rfl⟩ | ⟨service, rfl⟩⟩ :=
    react_cases now c state moved <;> rw [run]
  · obtain ⟨-, failedWaiting, activeWaiting⟩ := active rfl
    exact ⟨rfl, still (.inl ⟨rfl, service⟩), rfl, by simp, by simp [failedWaiting],
      by simp [activeWaiting service]⟩
  · exact absurd service (active rfl).1
  · obtain ⟨-, failedWaiting, -⟩ := active rfl
    exact ⟨rfl, rfl, rfl, by simp, by simp [failedWaiting], by simp⟩
  · obtain ⟨activeWaiting, failedWaiting⟩ := failed rfl
    exact ⟨rfl, still (.inr ⟨rfl, service⟩), rfl, by simp, by simp [failedWaiting service],
      by simp [activeWaiting]⟩
  · obtain ⟨activeWaiting, -⟩ := failed rfl
    exact ⟨rfl, rfl, rfl, by simp, by simp, by simp [activeWaiting]⟩
  · obtain ⟨-, failedWaiting, activeWaiting⟩ := quiet down
    exact ⟨rfl, rfl, rfl, by simp, by simp [failedWaiting], by simp [activeWaiting]⟩
  · obtain ⟨-, failedWaiting, activeWaiting⟩ := quiet down
    exact ⟨rfl, rfl, rfl, by simp, by simp [failedWaiting], by simp [activeWaiting]⟩
  · exact absurd service (quiet down).1

/-- What the handler does when it reads the recorded state again. -/
theorem react_same_iff (now : Int) (c : Shared ν) (state : x.state = some u)
    (moved : x.state ≠ x.previousState) :
    SameRecord x (react now x c).1 c (react now x c).2 ↔ Settled x c u now := by
  constructor
  · intro same
    refine ⟨same.symm.agrees (react_agrees now c state moved), fun awaits => ?_⟩
    exact (react_waits now c state moved awaits).symm.trans same.waitingTimestamp
  · exact react_settled now state moved

end Handler

section Runs

variable [DecidableEq ν] {n : ν} {s t r : State ν} {x : Service ν} {u : UnitActiveState}
  {cfg : Config ν}

/-- A service that waits in `failed_waiting_services` from the first state on, and has waited
for longer than the threshold, is alerted when it is checked in the second one; and nothing that
the checks go by has changed. -/
structure Idempotent (cfg : Config ν) (n : ν) (s t : State ν) : Prop where
  record : ∀ x, s.services n = some x →
    ∃ y, t.services n = some y ∧ SameRecord x y s.shared t.shared
  alerted : n ∈ s.shared.failedWaitingServices → ∀ x, s.services n = some x → ∀ bus now,
    x.inSameStateForThresholdTime cfg now = true →
      ∃ v, next cfg (t.enterLoop cfg .failedWaiting) (.visit n bus now) = some v ∧
        v.checkAlerts n = t.checkAlerts n ++ [.fault]

/-- What holds of the service after signals that have changed nothing. -/
structure Repeating (x : Service ν) (u : UnitActiveState) (n : ν) (s t : State ν) : Prop where
  names : Named t
  moving : Moving n t
  record : ∃ y, t.services n = some y ∧ y.state = some u ∧ SameRecord x y s.shared t.shared

theorem Repeating.idempotent (h : Repeating x u n s t) (names : Named s)
    (found : s.services n = some x) : Idempotent cfg n s t := by
  obtain ⟨y, here, -, same⟩ := h.record
  refine ⟨?_, ?_⟩
  · intro x' found'
    cases found.symm.trans found'
    exact ⟨y, here, same⟩
  · intro listed x' found' bus now overdue
    cases found.symm.trans found'
    have name := names.services n x found
    have name' := h.names.services n y here
    have waits : n ∈ t.shared.failedWaitingServices := by
      have still := same.failedWaiting.mpr (name.symm ▸ listed)
      rwa [name'] at still
    have overdue' : y.inSameStateForThresholdTime cfg now = true := by
      rw [Service.inSameStateForThresholdTime, same.waitingTimestamp]
      exact overdue
    refine visit_overdue h.names here bus .failed failedAlert now rfl waits ?_
    have visits : ∀ body : Service ν → State ν, (t.services n).map body = some (body y) := by
      intro body
      rw [here, Option.map_some]
    exact (visits _).trans (by rw [overdue'])

/-- A step that does not act on the service. -/
theorem Repeating.elsewhere {a : Action ν} (h : Repeating x u n s t)
    (meanwhile : Meanwhile n u a) (other : ∀ now, a ≠ .propertiesChanged n none (some u) now)
    (step : next cfg t a = some r) : Repeating x u n s r := by
  obtain ⟨names, moving, y, here, state, same⟩ := h
  have kept : r.services n = t.services n ∧ (∀ z : Service ν, z.name = n →
      SameRecord z z t.shared r.shared) := by
    have rest : ∀ {d : Shared ν}, SameAt n t.shared d → ∀ z : Service ν, z.name = n →
        SameRecord z z t.shared d := by
      rintro d sets z rfl
      exact ⟨rfl, rfl, rfl, sets.nonActive, sets.failedWaiting, sets.activeWaiting⟩
    cases next_cases step with
    | restartProcess => exact meanwhile.elim
    | restartSensor => exact ⟨rfl, fun z _ => .refl z _⟩
    | stop => exact ⟨rfl, fun z _ => .refl z _⟩
    | visit point listed visited =>
        have still := visit_undisturbed names (Ne.symm meanwhile) visited
        exact ⟨still.service, rest still.shared⟩
    | follow => exact ⟨rfl, fun z _ => .refl z _⟩
    | wait => exact ⟨rfl, fun z _ => .refl z _⟩
    | poll => exact ⟨rfl, fun z _ => .refl z _⟩
    | @signal m which reply now _ point handled =>
        have elsewhere : n ≠ m := by
          rintro rfl
          obtain ⟨rfl, rfl⟩ := meanwhile rfl
          exact other now rfl
        have still := handleSignal_undisturbed names elsewhere handled
        exact ⟨still.service, rest still.shared⟩
    | unchanged => exact ⟨rfl, fun z _ => .refl z _⟩
    | changed point found changed =>
        have still := setService_undisturbed names (Ne.symm meanwhile) found
          (Keeps.handleUnitStateChange changed).local_
        exact ⟨still.service, rest still.shared⟩
    | raise => exact ⟨rfl, fun z _ => ⟨rfl, rfl, rfl, .rfl, .rfl, .rfl⟩⟩
    | lose => exact ⟨rfl, fun z _ => ⟨rfl, rfl, rfl, .rfl, .rfl, .rfl⟩⟩
  refine ⟨names.step step, moving.step names step, y, kept.1.trans here, state, ?_⟩
  exact same.trans (kept.2 y (names.services n y here))

/-- A signal that reads the recorded state. -/
theorem Repeating.signal {now : Int} (h : Repeating x u n s t)
    (step : next cfg t (.propertiesChanged n none (some u) now) = some r) :
    (Settled x s.shared u now → Repeating x u n s r) ∧
      ∀ z, r.services n = some z → SameRecord x z s.shared r.shared →
        Settled x s.shared u now := by
  have names' := h.names.step step
  have moving' := h.moving.step h.names step
  obtain ⟨-, moving, y, here, state, same⟩ := h
  simp only [next] at step
  split at step
  · simp only [State.handleSignal, here, Option.bind_some] at step
    split at step
    · cases step
      have observed : y.observe u = y := if_neg (not_not.mpr state)
      have acted := react_same_iff now t.shared state
        (moving.service y here (state.trans_ne (by simp)))
      rw [same.settled] at acted
      simp only [propertiesChangedHandler, Option.map_some, observed] at names' moving' ⊢
      refine ⟨fun settled => ⟨names', moving', (react now y t.shared).1, ?_,
        (react_state now y _).1.trans state, same.trans (acted.mpr settled)⟩, ?_⟩
      · exact Function.update_self ..
      · intro z here' same'
        cases (Function.update_self ..).symm.trans here'
        exact acted.mp (same.symm.trans same')
    · cases step
  · cases step

/-- Signals that repeat the recorded state of a service change nothing exactly when each of them
finds its object settled. -/
theorem repeating_idempotent_iff {actions : List (Action ν)} (names : Named s)
    (found : s.services n = some x) (h : Repeating x u n s t)
    (meanwhile : ∀ a ∈ actions, Meanwhile n u a) (run : (system cfg).FreeRuns t actions r) :
    (system cfg).Always (Idempotent cfg n s) t actions ↔
      ∀ now, Action.propertiesChanged n none (some u) now ∈ actions → Settled x s.shared u now := by
  induction run with
  | nil => simp [Transition.System.Runs.always_nil, h.idempotent names found]
  | @cons t t' r a rest _ step _ ih =>
      have taken : next cfg t a = some t' := step
      rw [Transition.System.Runs.always_cons step, and_iff_right (h.idempotent names found)]
      have later : ∀ a ∈ rest, Meanwhile n u a := fun a mem =>
        meanwhile a (List.mem_cons_of_mem _ mem)
      by_cases repeated : ∃ now, a = .propertiesChanged n none (some u) now
      · obtain ⟨now, rfl⟩ := repeated
        obtain ⟨keeps, needs⟩ := h.signal taken
        constructor
        · intro always now' mem
          obtain ⟨z, here, same⟩ := (always [] rest t' rfl (.nil t')).record x found
          have first := needs z here same
          obtain equal | mem := List.mem_cons.mp mem
          · cases equal
            exact first
          · exact (ih (keeps first) later).mp always now' mem
        · intro all
          have first := all now List.mem_cons_self
          exact (ih (keeps first) later).mpr fun now' mem => all now' (List.mem_cons_of_mem _ mem)
      · have other : ∀ now, a ≠ .propertiesChanged n none (some u) now := fun now same =>
          repeated ⟨now, same⟩
        rw [ih (h.elsewhere (meanwhile a List.mem_cons_self) other taken) later]
        constructor
        · rintro all now mem
          obtain same | mem := List.mem_cons.mp mem
          · exact absurd same.symm (other now)
          · exact all now mem
        · exact fun all now mem => all now (List.mem_cons_of_mem _ mem)

/-- In every reachable state, signals that repeat the recorded state of a service change
nothing exactly when each of them finds its object settled: the sets agree with that state,
and a service that waits has begun to at the same reading of the clock. -/
theorem repeated_signals_idempotent_iff {before actions : List (Action ν)}
    (reached : (system cfg).FreeRuns (fresh cfg) before s) (found : s.services n = some x)
    (recorded : x.state = some u) (meanwhile : ∀ a ∈ actions, Meanwhile n u a)
    (run : (system cfg).FreeRuns s actions t) :
    (system cfg).Always (Idempotent cfg n s) s actions ↔
      ∀ now, Action.propertiesChanged n none (some u) now ∈ actions → Settled x s.shared u now := by
  have kept : Named s ∧ Moving n s := by
    refine reached.invariant (I := fun s => Named s ∧ Moving n s) ?_
      ⟨restarted_named cfg _, restarted_moving cfg n _⟩
    rintro s a t ⟨names, moving⟩ - step
    exact ⟨names.step step, moving.step names step⟩
  obtain ⟨names, moving⟩ := kept
  exact repeating_idempotent_iff names found ⟨names, moving, x, found, recorded, .refl x _⟩
    meanwhile run

end Runs

namespace Example

/-- The service is active when the sensor starts. -/
def starting : List (Action Unit) := [.visit () (answers .active) 0, .advance]

def repeatedly (state : UnitActiveState) (times : List Int) : List (Action Unit) :=
  times.map fun now => .propertiesChanged () none (some state) now

theorem repeatedly_meanwhile (state : UnitActiveState) (times : List Int) :
    ∀ a ∈ repeatedly state times, Meanwhile () state a := by
  intro a mem
  obtain ⟨now, -, rfl⟩ := List.mem_map.mp mem
  exact fun _ => ⟨rfl, rfl⟩

theorem starting_active :
    ((system config).run (fresh config) starting).map (fun s =>
      ((s.services ()).map fun x => (x.state, x.serviceState),
        decide (() ∈ s.shared.failedWaitingServices),
        ((system config).run s (repeatedly .active [10, 20])).isSome)) =
      some (some (some .active, .active), false, true) := by
  decide

/-- Signals that repeat the active state change nothing. -/
theorem active_idempotent : ∃ s t : State Unit,
    (system config).FreeRuns s (repeatedly .active [10, 20]) t ∧
      (system config).Always (Idempotent config () s) s (repeatedly .active [10, 20]) := by
  obtain ⟨s, replay, found⟩ := Option.map_eq_some_iff.mp starting_active
  simp only [Prod.mk.injEq, decide_eq_false_iff_not] at found
  obtain ⟨object, unlisted, again⟩ := found
  obtain ⟨x, found, object⟩ := Option.map_eq_some_iff.mp object
  obtain ⟨recorded, service⟩ := Prod.mk.inj object
  obtain ⟨t, again⟩ := Option.isSome_iff_exists.mp again
  have run := (Transition.System.run_eq_some_iff _).mp again
  have settled : ∀ now, Settled x s.shared .active now := by
    intro now
    refine ⟨⟨fun _ => ⟨by simp [service], unlisted, by simp [service]⟩, nofun,
      fun down => absurd rfl down.1⟩, ?_⟩
    rintro (⟨-, failed⟩ | ⟨wrong, -⟩)
    · cases service.symm.trans failed
    · cases wrong
  exact ⟨s, t, run, (repeated_signals_idempotent_iff
    ((Transition.System.run_eq_some_iff _).mp replay) found recorded
    (repeatedly_meanwhile _ _) run).mpr fun now _ => settled now⟩

/-- The service fails, and stays failed. -/
def failing : List (Action Unit) := starting ++ repeatedly .failed [10]

theorem failing_repeated :
    ((system config).run (fresh config) failing).map (fun s =>
      ((s.services ()).map fun x => (x.unitState, x.state, x.waitingTimestamp),
        ((system config).run s (repeatedly .failed [20])).map fun t =>
          (t.services ()).map Service.waitingTimestamp)) =
      some (some (some .enabled, some .failed, 10), some (some 20)) := by
  decide

/-- A second signal with the same state starts the waiting of a failed service anew. -/
theorem repeated_signal_delays : ¬ ∀ (before actions : List (Action Unit)) (s t : State Unit)
    (x : Service Unit) (u : UnitActiveState), (system config).FreeRuns (fresh config) before s →
      s.services () = some x → x.unitState = some .enabled → x.state = some u →
      (∀ a ∈ actions, Meanwhile () u a) → (system config).FreeRuns s actions t →
        (system config).Always (Idempotent config () s) s actions := by
  intro all
  obtain ⟨s, replay, found⟩ := Option.map_eq_some_iff.mp failing_repeated
  simp only [Prod.mk.injEq] at found
  obtain ⟨object, again⟩ := found
  obtain ⟨x, found, object⟩ := Option.map_eq_some_iff.mp object
  simp only [Prod.mk.injEq] at object
  obtain ⟨enabled, recorded, since⟩ := object
  obtain ⟨t, again, later⟩ := Option.map_eq_some_iff.mp again
  obtain ⟨y, found', later⟩ := Option.map_eq_some_iff.mp later
  have run := (Transition.System.run_eq_some_iff _).mp again
  have kept := all failing _ s t x .failed ((Transition.System.run_eq_some_iff _).mp replay) found
    enabled recorded (repeatedly_meanwhile _ _) run _ [] t (List.append_nil _).symm run
  obtain ⟨z, found'', same⟩ := kept.record x found
  cases found'.symm.trans found''
  have stamp := same.waitingTimestamp
  rw [since, later] at stamp
  cases stamp

end Example

end ServiceMonitor

end Sspl

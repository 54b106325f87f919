import Sspl.Systemd.Enabling

/-!
# A service that is disabled

`DisabledState` takes the name of a service out of `non_active`, and leaves it in the two sets
of services that wait. A failed service that is disabled is alerted when its threshold has
passed, and one that has become active again is resolved.

A disabled service comes into the sets again through handlers that are still called: of signals
that an earlier object has connected, or that its own object has lost.
-/

namespace Sspl

namespace ServiceMonitor

variable {ν : Type}

/-- The loops of `check_service_threshold_time`. -/
def Loop.Checks (l : Loop) : Prop := l = .activeWaiting ∨ l = .failedWaiting ∨ l = .nonActive

/-- The steps of one call of `check_service_threshold_time`. -/
def Action.InCheck : Action ν → Prop
  | .visit _ _ _ => True
  | .advance => True
  | _ => False

/-- The service is in `DisabledState`. -/
def DisabledNow (n : ν) (s : State ν) : Prop :=
  ∃ x, s.services n = some x ∧ x.unitState = some .disabled

/-- The name is in none of the sets that are checked. -/
structure Idle (n : ν) (c : Shared ν) : Prop where
  nonActive : n ∉ c.nonActive
  failedWaiting : n ∉ c.failedWaitingServices
  activeWaiting : n ∉ c.activeWaitingServices

/-- The name is in none of the sets that `DisabledState` leaves as they are. -/
def Unwaited (n : ν) (c : Shared ν) : Prop :=
  n ∉ c.failedWaitingServices ∧ n ∉ c.activeWaitingServices

/-- The handler puts the name of the object into a set when it reads this state. -/
def BeginsWait (x : Service ν) (u : UnitActiveState) : Prop :=
  u = .active ∧ x.serviceState = .failed ∨ u = .failed ∧ x.serviceState ≠ .failed ∨
    u.Down ∧ x.serviceState = .active

/-- The object whose handler a signal calls. -/
def State.receiver (s : State ν) (n : ν) : Option Nat → Option (Service ν)
  | none => s.services n
  | some i => (s.earlier n)[i]?

/-- No object of the name has observed the same state twice in a row. -/
def Service.Moved (x : Service ν) : Prop := x.state ≠ none → x.state ≠ x.previousState

structure Moving (n : ν) (s : State ν) : Prop where
  service : ∀ x, s.services n = some x → x.Moved
  earlier : ∀ x ∈ s.earlier n, x.Moved

section

variable [DecidableEq ν]

/-- No alert is raised for the name from any of the loops on. -/
def Silent (cfg : Config ν) (n : ν) (s : State ν) : Prop :=
  ∀ l : Loop, l.Checks → ∀ actions t, (∀ a ∈ actions, a.InCheck) →
    (system cfg).FreeRuns (s.enterLoop cfg l) actions t → t.checkAlerts n = s.checkAlerts n

/-- If the service is disabled, a check that begins now raises no alert for it, whichever set it is
found in. -/
def Muted (cfg : Config ν) (n : ν) (s : State ν) : Prop := DisabledNow n s → Silent cfg n s

/-- A step that makes a service `DisabledState`, or acts on one that is, leaves its name in no
set. -/
def Calm (n : ν) (s : State ν) : Action ν → Prop
  | .unitFilesChanged m bus _ => m = n → bus.isEnabled = some false → ∀ x,
      s.services n = some x → x.unitState ≠ some .disabled → Unwaited n s.shared
  | .visit m bus _ => m = n → bus.unit = true →
      ∀ l todo, s.point = .within l todo → l = .starting ∨ l = .errored →
        (bus.isEnabled = some false → s.shared.monitorState n = none ∨
          s.shared.monitorState n = some .active → Unwaited n s.shared) ∧
        (bus.isEnabled = none → DisabledNow n s → s.shared.monitorState n ≠ some .inactive)
  | .propertiesChanged m which reply _ => m = n → DisabledNow n s → ∀ y,
      s.receiver n which = some y → ∀ u, reply = some u → ¬ BeginsWait y u
  | _ => True

end

section Check

variable [DecidableEq ν] {n m : ν} {s t : State ν} {x : Service ν} {cfg : Config ν}

/-- A call of `check_service_threshold_time` for which the name is in no set. -/
structure Passing (n : ν) (before : List AlertType) (s : State ν) : Prop where
  names : Named s
  idle : Idle n s.shared
  alerts : s.checkAlerts n = before
  point : ∀ l todo, s.point = .within l todo → l.Checks ∧ n ∉ todo

theorem Undisturbed.idle (h : Undisturbed n s t) : Idle n t.shared ↔ Idle n s.shared := by
  constructor
  · intro idle
    exact ⟨mt h.shared.nonActive.mpr idle.nonActive, mt h.shared.failedWaiting.mpr
      idle.failedWaiting, mt h.shared.activeWaiting.mpr idle.activeWaiting⟩
  · intro idle
    exact ⟨mt h.shared.nonActive.mp idle.nonActive, mt h.shared.failedWaiting.mp
      idle.failedWaiting, mt h.shared.activeWaiting.mp idle.activeWaiting⟩

theorem passing_enterLoop (cfg : Config ν) {before : List AlertType} (names : Named s)
    (idle : Idle n s.shared) (alerts : s.checkAlerts n = before) {l : Loop} (checks : l.Checks) :
    Passing n before (s.enterLoop cfg l) where
  names := enterLoop_named names l
  idle := idle
  alerts := alerts
  point l' todo here := by
    cases here
    obtain rfl | rfl | rfl := checks
    · exact ⟨.inl rfl, idle.activeWaiting⟩
    · exact ⟨.inr (.inl rfl), idle.failedWaiting⟩
    · exact ⟨.inr (.inr rfl), idle.nonActive⟩

theorem Loop.Checks.next {l following : Loop} (h : l.Checks) (next : l.next = some following) :
    following.Checks := by
  obtain rfl | rfl | rfl := h
  · cases next
    exact .inr (.inl rfl)
  · cases next
    exact .inr (.inr rfl)
  · cases next

theorem Passing.step {before : List AlertType} {a : Action ν} (h : Passing n before s)
    (check : a.InCheck) (step : next cfg s a = some t) : Passing n before t := by
  obtain ⟨names, idle, alerts, passed⟩ := h
  cases a with
  | visit m bus now =>
      cases next_cases step with
      | stop visited =>
          exact ⟨⟨names.services, names.earlier⟩, idle, alerts, fun _ _ here => by cases here⟩
      | @visit l todo m bus now u point listed visited =>
          obtain ⟨checks, unlisted⟩ := passed l todo point
          have other : n ≠ m := fun same => unlisted (same ▸ listed)
          have still := visit_undisturbed names other visited
          have names' := visit_named names visited
          refine ⟨⟨names'.services, names'.earlier⟩, still.idle.mpr idle,
            still.alerts.trans alerts, ?_⟩
          rintro l' todo' here
          cases here
          exact ⟨checks, fun mem => unlisted (Finset.mem_of_mem_erase mem)⟩
  | advance =>
      simp only [next] at step
      split at step
      · rename_i l todo point
        obtain ⟨checks, -⟩ := passed l todo point
        split at step
        · split at step
          · rename_i following next
            cases step
            exact passing_enterLoop cfg names idle alerts (checks.next next)
          · cases step
            exact ⟨⟨names.services, names.earlier⟩, idle, alerts, fun _ _ here => by cases here⟩
        · cases step
      · cases step
  | _ => cases check

theorem silent_of_idle (names : Named s) (idle : Idle n s.shared) : Silent cfg n s := by
  intro l checks actions t inCheck run
  have guarded : (system cfg).Runs (fun _ a => a.InCheck) (s.enterLoop cfg l) actions t :=
    run.strengthen fun done a rest m split _ => inCheck a (by simp [split])
  have passing := passing_enterLoop cfg names idle rfl checks
  have kept : ∀ u a v, Passing n (s.checkAlerts n) u → a.InCheck → (system cfg).next u a = some v →
      Passing n (s.checkAlerts n) v := fun _ _ _ h check step => h.step check step
  exact (guarded.invariant kept passing).alerts

/-- An overdue service that a loop visits is alerted. -/
theorem checkService_alerts (cfg : Config ν) (names : Named s) (found : s.services n = some x)
    (new : ServiceState) (alert : Alert) (now : Int) :
    (s.checkService cfg x true new alert now).checkAlerts n =
      s.checkAlerts n ++ [alert.alertType] := by
  have name : (newServiceState now new x s.shared).1.name = n :=
    (Local.newServiceState now new x s.shared).name.trans (names.services n x found)
  rw [State.checkService, if_pos rfl]
  refine (checkAlerts_append (s.setService x.name _) _ _ _).trans ?_
  rw [if_pos ⟨rfl, name⟩]
  rfl

/-- A loop that has the name in its set alerts the service when it is overdue. -/
theorem visit_overdue (names : Named s) (found : s.services n = some x) {l : Loop}
    {todo : Finset ν} (bus : Bus) (new : ServiceState) (alert : Alert) (now : Int)
    (point : (s.enterLoop cfg l).point = .within l todo) (listed : n ∈ todo)
    (visited : (s.enterLoop cfg l).visit cfg n bus now l =
      some ((s.enterLoop cfg l).checkService cfg x true new alert now)) :
    ∃ u, next cfg (s.enterLoop cfg l) (.visit n bus now) = some u ∧
      u.checkAlerts n = s.checkAlerts n ++ [alert.alertType] := by
  obtain ⟨u, after⟩ : ∃ u, (s.enterLoop cfg l).checkService cfg x true new alert now = u :=
    ⟨_, rfl⟩
  have names' : Named (s.enterLoop cfg l) := enterLoop_named names l
  have grown := checkService_alerts cfg names' found new alert now
  refine ⟨{ u with point := .within l (todo.erase n) }, ?_, ?_⟩
  · simp only [next, point, listed, if_true, visited, after]
  · rw [after] at grown
    exact grown

theorem not_silent (names : Named s) (found : s.services n = some x) {l : Loop} {todo : Finset ν}
    (bus : Bus) (new : ServiceState) (alert : Alert) (now : Int) (checks : l.Checks)
    (point : (s.enterLoop cfg l).point = .within l todo) (listed : n ∈ todo)
    (visited : (s.enterLoop cfg l).visit cfg n bus now l =
      some ((s.enterLoop cfg l).checkService cfg x true new alert now)) : ¬ Silent cfg n s := by
  intro silent
  obtain ⟨u, step, grown⟩ := visit_overdue names found bus new alert now point listed visited
  have same := silent l checks [.visit n bus now] u (by simp [Action.InCheck])
    (.single trivial step)
  rw [grown] at same
  exact absurd same (by simp)

omit [DecidableEq ν] in
theorem inSameState_overdue (cfg : Config ν) (x : Service ν) :
    x.inSameStateForThresholdTime cfg (x.waitingTimestamp + cfg.thresholdWaitingTime + 1) =
      true := by
  rw [Service.inSameStateForThresholdTime, decide_eq_true_eq]
  omega

omit [DecidableEq ν] in
theorem isNonactive_overdue (cfg : Config ν) (x : Service ν) :
    x.isNonactiveForThresholdTime cfg (x.nonactiveEnterTimestamp + cfg.nonactiveThreshold + 1) =
      true := by
  rw [Service.isNonactiveForThresholdTime, decide_eq_true_eq]
  omega

theorem idle_of_silent (names : Named s) (found : s.services n = some x)
    (silent : Silent cfg n s) : Idle n s.shared := by
  have bus : Bus := ⟨true, none, true, none⟩
  have visits : ∀ body : Service ν → State ν, (s.services n).map body = some (body x) := by
    intro body
    rw [found, Option.map_some]
  let afterWaiting := x.waitingTimestamp + cfg.thresholdWaitingTime + 1
  refine ⟨fun listed => ?_, fun listed => ?_, fun listed => ?_⟩
  · refine not_silent names found bus .failed inactiveAlert
      (x.nonactiveEnterTimestamp + cfg.nonactiveThreshold + 1) (.inr (.inr rfl)) rfl listed ?_
      silent
    exact (visits _).trans (by rw [isNonactive_overdue])
  · refine not_silent names found bus .failed failedAlert afterWaiting (.inr (.inl rfl)) rfl
      listed ?_ silent
    exact (visits _).trans (by rw [inSameState_overdue])
  · refine not_silent names found bus .active resolvedAlert afterWaiting (.inl rfl) rfl listed ?_
      silent
    exact (visits _).trans (by rw [inSameState_overdue])

end Check

section Methods

variable [DecidableEq ν] {n : ν} {x : Service ν} {c : Shared ν} {cfg : Config ν} {bus : Bus}
  {now : Int}

theorem react_state (now : Int) (x : Service ν) (c : Shared ν) :
    (react now x c).1.state = x.state ∧ (react now x c).1.previousState = x.previousState ∧
      (react now x c).1.unitState = x.unitState := by
  unfold react
  split
  · exact ⟨rfl, rfl, rfl⟩
  · split
    · split
      · exact ⟨rfl, rfl, rfl⟩
      · exact newServiceState_state now .active x c
      · exact ⟨rfl, rfl, rfl⟩
    · split <;> exact ⟨rfl, rfl, rfl⟩
    · split
      · exact newServiceState_state now .inactive x c
      · exact ⟨rfl, rfl, rfl⟩

theorem handler_unitState {r : Service ν × Shared ν} {reply : Option UnitActiveState}
    (h : propertiesChangedHandler now reply x c = some r) : r.1.unitState = x.unitState := by
  obtain ⟨u, -, rfl⟩ := Option.map_eq_some_iff.mp h
  exact (react_state now _ c).2.2.trans (observe_unitState x u)

theorem handler_moved {r : Service ν × Shared ν} {reply : Option UnitActiveState}
    (h : propertiesChangedHandler now reply x c = some r) (moved : x.Moved) : r.1.Moved := by
  obtain ⟨u, -, rfl⟩ := Option.map_eq_some_iff.mp h
  obtain ⟨state, previous, -⟩ := react_state now (x.observe u) c
  intro _
  rw [state, previous]
  exact (observe_state x u moved).2

theorem newServiceState_moved (now : Int) (new : ServiceState) (c : Shared ν) (moved : x.Moved) :
    (newServiceState now new x c).1.Moved := by
  obtain ⟨state, previous, -⟩ := newServiceState_state now new x c
  intro observed
  rw [state, previous]
  exact moved (state ▸ observed)

theorem enabled_moved (cfg : Config ν) (bus : Bus) (now : Int) (c : Shared ν) (moved : x.Moved) :
    (EnabledState.enter cfg bus now x c).1.Moved := by
  unfold EnabledState.enter
  split
  · dsimp only
    split
    · rename_i handled
      exact handler_moved handled moved
    · exact moved
  · exact moved

theorem newUnitState_moved (cfg : Config ν) (bus : Bus) (now : Int) (new : UnitState)
    (c : Shared ν) (moved : x.Moved) : (newUnitState cfg bus now new x c).1.Moved := by
  unfold newUnitState
  split
  · cases new with
    | disabled => exact moved
    | enabled => exact enabled_moved cfg bus now c moved
    | monitoringDisabled => exact moved
  · exact moved

theorem load_moved (now : Int) (n : ν) (c : Shared ν) : (load now n c).1.Moved := by
  unfold load
  split
  · rename_i data found
    have previous := (newServiceState_state now data.serviceMonitorState (Service.created n now)
      c).2.1
    intro observed same
    exact observed (same.trans previous)
  · exact fun observed => absurd rfl observed

/-- An enabled service is not in `DisabledState`, whatever the calls to D-Bus return. -/
theorem newUnitState_enabled_ne (cfg : Config ν) (bus : Bus) (now : Int) (x : Service ν)
    (c : Shared ν) : (newUnitState cfg bus now .enabled x c).1.unitState ≠ some .disabled := by
  unfold newUnitState UnitState.enter EnabledState.enter
  split
  · dsimp only
    split
    · split
      · rename_i handled
        rw [handler_unitState handled]
        exact nofun
      · exact nofun
    · exact nofun
  · rename_i same
    rw [not_not.mp same]
    decide

/-- The sets of an idle name after the handler has acted on the observed state. -/
theorem react_idle_iff (now : Int) (idle : Idle x.name c) {u : UnitActiveState}
    (state : x.state = some u) (moved : x.state ≠ x.previousState) :
    Idle x.name (react now x c).2 ↔ ¬ BeginsWait x u := by
  obtain ⟨nonActive, failedWaiting, activeWaiting⟩ := idle
  obtain ⟨rfl, service, run⟩ | ⟨rfl, service, run⟩ | ⟨rfl, service, run⟩ | ⟨rfl, service, run⟩ |
      ⟨rfl, service, run⟩ | ⟨down, r, run, ⟨service, rfl⟩ | ⟨service, rfl⟩ | ⟨service, rfl⟩⟩ :=
    react_cases now c state moved <;> rw [run]
  · exact iff_of_false (fun after => after.activeWaiting (by simp))
      (not_not.mpr (.inl ⟨rfl, service⟩))
  · exact iff_of_true ⟨by simp, by simp, by simp⟩ (by simp [BeginsWait, service])
  · exact iff_of_true ⟨by simpa using nonActive, by simp, by simpa using activeWaiting⟩
      (by simp [BeginsWait, service, UnitActiveState.Down])
  · exact iff_of_false (fun after => after.failedWaiting (by simp))
      (not_not.mpr (.inr (.inl ⟨rfl, service⟩)))
  · exact iff_of_true ⟨by simpa using nonActive, by simpa using failedWaiting, by simp⟩
      (by simp [BeginsWait, service])
  · exact iff_of_true ⟨by simpa using nonActive, by simp, by simp⟩
      (by simp [BeginsWait, service, down.1])
  · exact iff_of_true ⟨by simpa using nonActive, by simp, by simp⟩
      (by simp [BeginsWait, service, down.2])
  · exact iff_of_false (fun after => after.nonActive (by simp))
      (not_not.mpr (.inr (.inr ⟨down, service⟩)))

theorem handler_idle_iff (idle : Idle x.name c) (movedBefore : x.Moved) {u : UnitActiveState}
    {r : Service ν × Shared ν} (h : propertiesChangedHandler now (some u) x c = some r) :
    Idle x.name r.2 ↔ ¬ BeginsWait x u := by
  cases h
  obtain ⟨state, moved⟩ := observe_state x u movedBefore
  have observed := react_idle_iff now (x := x.observe u) ((observe_name x u).symm ▸ idle) state
    moved
  rw [observe_name] at observed
  rw [observed, BeginsWait, BeginsWait, observe_serviceState]

/-- What rebuilding the object does to the sets, by what the cache has. -/
theorem load_sets (now : Int) (n : ν) (c : Shared ν) :
    ((c.monitorState n = none ∨ c.monitorState n = some .active) ∧ (load now n c).2 = c) ∨
      (c.monitorState n = some .failed ∧ Idle n (load now n c).2) ∨
      (c.monitorState n = some .inactive ∧ n ∈ (load now n c).2.nonActive ∧
        Unwaited n (load now n c).2) := by
  unfold load Shared.monitorState
  split
  · rename_i data found
    rw [found, Option.map_some]
    cases recorded : data.serviceMonitorState with
    | active =>
        refine .inl ⟨.inr rfl, ?_⟩
        rw [fromCache, recorded]
        rfl
    | failed =>
        have changes : (Service.created n now).serviceState ≠ .failed := by
          rw [show (Service.created n now).serviceState = .active from rfl]
          decide
        obtain ⟨nonActive, failedWaiting, activeWaiting⟩ :=
          newServiceState_leaves now (c := c) changes (by decide)
        refine .inr (.inl ⟨rfl, ?_⟩)
        rw [fromCache, recorded]
        exact ⟨nonActive, failedWaiting, activeWaiting⟩
    | inactive =>
        refine .inr (.inr ⟨rfl, ?_⟩)
        rw [fromCache, recorded]
        simp [newServiceState, Service.created, ServiceState.enter, Unwaited]
  · rename_i missing
    rw [missing]
    exact .inl ⟨.inl rfl, rfl⟩

end Methods

section Steps

variable [DecidableEq ν] {n m : ν} {s t u : State ν} {x : Service ν} {cfg : Config ν} {bus : Bus}
  {now : Int}

theorem Moving.setService (h : Moving n s) {r : Service ν × Shared ν} (moved : r.1.Moved) :
    Moving n (s.setService m r) where
  service y here := by
    by_cases same : n = m
    · subst same
      simp only [State.setService, Function.update_self, Option.some.injEq] at here
      exact here ▸ moved
    · simp only [State.setService, Function.update_of_ne same] at here
      exact h.service y here
  earlier := h.earlier

theorem Moving.replaceService (h : Moving n s) {r : Service ν × Shared ν} (moved : r.1.Moved) :
    Moving n (s.replaceService n r) where
  service := (h.setService moved).service
  earlier y mem := by
    simp only [State.replaceService, Function.update_self, List.mem_append,
      Option.mem_toList] at mem
    obtain old | current := mem
    · exact h.earlier y old
    · exact h.service y current

theorem Undisturbed.moving (h : Undisturbed n s t) (moving : Moving n s) : Moving n t :=
  ⟨h.service ▸ moving.service, h.earlier ▸ moving.earlier⟩

theorem handleUnitStateChange_moved {c : Shared ν} {r : Service ν × Shared ν} (moved : x.Moved)
    (changed : handleUnitStateChange cfg bus now x c = some r) : r.1.Moved := by
  obtain ⟨isEnabled, -, rfl⟩ := Option.map_eq_some_iff.mp changed
  exact newUnitState_moved cfg bus now _ c moved

theorem checkService_moving (h : Moving n s) (moved : x.Moved) (overdue : Bool)
    (new : ServiceState) (alert : Alert) (now : Int) :
    Moving n (s.checkService cfg x overdue new alert now) := by
  unfold State.checkService
  split
  · have set := h.setService (m := x.name) (newServiceState_moved now new s.shared moved)
    exact ⟨set.service, set.earlier⟩
  · exact h

theorem visit_moving (names : Named s) (h : Moving n s) {l : Loop}
    (visited : s.visit cfg m bus now l = some t) : Moving n t := by
  by_cases same : n = m
  · subst same
    cases l with
    | starting =>
        cases visited
        obtain run | run | ⟨r, changed, run⟩ := initializeService_cases cfg n bus now s <;> rw [run]
        · exact h
        · exact ⟨h.service, h.earlier⟩
        · exact h.replaceService (handleUnitStateChange_moved (load_moved now n _) changed)
    | errored =>
        cases visited
        obtain run | run | ⟨r, changed, run⟩ := initializeService_cases cfg n bus now s <;> rw [run]
        · exact h
        · exact ⟨h.service, h.earlier⟩
        · exact h.replaceService (handleUnitStateChange_moved (load_moved now n _) changed)
    | resubscribing =>
        obtain ⟨x, found, rfl⟩ := Option.map_eq_some_iff.mp visited
        exact h.setService (newUnitState_moved cfg bus now _ _ (h.service x found))
    | activeWaiting =>
        obtain ⟨x, found, rfl⟩ := Option.map_eq_some_iff.mp visited
        exact checkService_moving h (h.service x found) ..
    | failedWaiting =>
        obtain ⟨x, found, rfl⟩ := Option.map_eq_some_iff.mp visited
        exact checkService_moving h (h.service x found) ..
    | nonActive =>
        obtain ⟨x, found, rfl⟩ := Option.map_eq_some_iff.mp visited
        exact checkService_moving h (h.service x found) ..
  · exact (visit_undisturbed names same visited).moving h

theorem handleSignal_moving (names : Named s) (h : Moving n s) {which : Option Nat}
    {reply : Option UnitActiveState} (handled : s.handleSignal m which reply now = some t) :
    Moving n t := by
  by_cases same : n = m
  · subst same
    obtain rfl | ⟨x, r, found, changed, -, rfl⟩ | ⟨i, x, r, found, -, changed, rfl⟩ :=
      handleSignal_cases handled
    · exact h
    · exact h.setService (handler_moved changed (h.service x found))
    · refine ⟨h.service, fun y mem => ?_⟩
      simp only [Function.update_self] at mem
      obtain old | rfl := List.mem_or_eq_of_mem_set mem
      · exact h.earlier y old
      · exact handler_moved changed (h.earlier x (List.mem_of_getElem? found))
  · exact (handleSignal_undisturbed names same handled).moving h

omit [DecidableEq ν] in
theorem restarted_moving (cfg : Config ν) (n : ν) (s : State ν) : Moving n (s.restarted cfg) where
  service _ found := by cases found
  earlier _ mem := by cases mem

theorem Moving.step {a : Action ν} (h : Moving n s) (names : Named s)
    (step : next cfg s a = some t) : Moving n t := by
  cases next_cases step with
  | restartProcess => exact restarted_moving cfg n s
  | restartSensor => exact ⟨h.service, h.earlier⟩
  | stop => exact ⟨h.service, h.earlier⟩
  | visit point listed visited =>
      have moved := visit_moving names h visited
      exact ⟨moved.service, moved.earlier⟩
  | follow => exact ⟨h.service, h.earlier⟩
  | wait => exact ⟨h.service, h.earlier⟩
  | poll => exact ⟨h.service, h.earlier⟩
  | signal point handled => exact handleSignal_moving names h handled
  | unchanged => exact h
  | @changed m bus now x r point found changed =>
      by_cases same : n = m
      · subst same
        exact h.setService (handleUnitStateChange_moved (h.service x found) changed)
      · exact (setService_undisturbed names same found
          (Keeps.handleUnitStateChange changed).local_).moving h
  | raise => exact ⟨h.service, h.earlier⟩
  | lose => exact ⟨h.service, h.earlier⟩

theorem Undisturbed.disabledNow (h : Undisturbed n s t) : DisabledNow n t ↔ DisabledNow n s := by
  rw [DisabledNow, DisabledNow, h.service]

/-- What there is to show of a state, when it is known of the one before. -/
def Rests (n : ν) (s : State ν) : Prop := DisabledNow n s → Idle n s.shared

theorem Undisturbed.rests (h : Undisturbed n s t) (rests : Rests n s) : Rests n t :=
  fun disabled => h.idle.mpr (rests (h.disabledNow.mp disabled))

theorem newUnitState_disabled_idle (cfg : Config ν) (bus : Bus) (now : Int) (c : Shared ν)
    (change : x.unitState ≠ some .disabled) :
    Idle x.name (newUnitState cfg bus now .disabled x c).2 ↔ Unwaited x.name c := by
  rw [newUnitState, if_pos change]
  constructor
  · exact fun idle => ⟨idle.failedWaiting, idle.activeWaiting⟩
  · exact fun unwaited => ⟨fun mem => (Finset.mem_erase.mp mem).1 rfl, unwaited.1, unwaited.2⟩

theorem rests_setService {r : Service ν × Shared ν} (enabled : r.1.unitState ≠ some .disabled) :
    Rests n (s.setService n r) := by
  rintro ⟨x, found, disabled⟩
  simp only [State.setService, Function.update_self, Option.some.injEq] at found
  exact absurd disabled (found ▸ enabled)

omit [DecidableEq ν] in
theorem rests_disabled {r : Service ν × Shared ν} {t : State ν}
    (found : t.services n = some r.1) (shared : t.shared = r.2)
    (disabled : r.1.unitState = some .disabled) : Rests n t ↔ Idle n r.2 := by
  rw [Rests, shared]
  exact imp_iff_right ⟨r.1, found, disabled⟩

theorem newUnitState_disabled (cfg : Config ν) (bus : Bus) (now : Int) (x : Service ν)
    (c : Shared ν) : (newUnitState cfg bus now .disabled x c).1.unitState = some .disabled := by
  unfold newUnitState
  split
  · rfl
  · exact not_not.mp ‹_›

/-- The object cannot be put in place of the one that is there, but the sets are changed. -/
theorem rests_unread (rests : Rests n s) (now : Int) :
    Rests n { s with shared := (load now n s.shared).2 } ↔
      (DisabledNow n s → s.shared.monitorState n ≠ some .inactive) := by
  obtain ⟨known, same⟩ | ⟨known, idle⟩ | ⟨known, mem, -⟩ := load_sets now n s.shared
  · rw [same]
    refine iff_of_true rests fun _ inactive => ?_
    rw [inactive] at known
    simp at known
  · exact iff_of_true (fun _ => idle) fun _ inactive => by cases known.symm.trans inactive
  · exact ⟨fun after disabled _ => (after disabled).nonActive mem,
      fun never disabled => absurd known (never disabled)⟩

theorem initializeService_rests (rests : Rests n s) (cfg : Config ν) (bus : Bus) (now : Int) :
    Rests n (s.initializeService cfg n bus now) ↔ (bus.unit = true →
      (bus.isEnabled = some false → s.shared.monitorState n = none ∨
        s.shared.monitorState n = some .active → Unwaited n s.shared) ∧
      (bus.isEnabled = none → DisabledNow n s → s.shared.monitorState n ≠ some .inactive)) := by
  have name := load_name now n s.shared
  have unit := (load_new now n s.shared).1
  rw [State.initializeService]
  cases loaded : bus.unit with
  | false => exact iff_of_true rests fun h => by cases h
  | true =>
      rw [if_pos rfl, imp_iff_right rfl]
      dsimp only
      cases read : bus.isEnabled with
      | none =>
          simp only [handleUnitStateChange, read, Option.map_none]
          rw [rests_unread rests now]
          exact ⟨fun never => ⟨fun off => (by cases off), fun _ => never⟩,
            fun both => both.2 trivial⟩
      | some isEnabled =>
          simp only [handleUnitStateChange, read, Option.map_some]
          cases isEnabled with
          | true =>
              rw [if_pos rfl]
              refine iff_of_true ?_ ⟨fun off => (by cases off), fun unread => (by cases unread)⟩
              have enabled := newUnitState_enabled_ne cfg bus now (load now n s.shared).1
                (load now n s.shared).2
              have set : Rests n (s.setService n _) := rests_setService enabled
              exact fun disabled => set disabled
          | false =>
              rw [if_neg Bool.false_ne_true]
              refine (rests_disabled (Function.update_self ..) rfl
                (newUnitState_disabled cfg bus now _ _)).trans ?_
              have idle := newUnitState_disabled_idle cfg bus now (load now n s.shared).2
                (unit.trans_ne (by decide))
              rw [name] at idle
              rw [idle]
              obtain ⟨known, same⟩ | ⟨known, after⟩ | ⟨known, -, unwaited⟩ :=
                load_sets now n s.shared
              · rw [same]
                refine ⟨fun unwaited => ⟨fun _ _ => unwaited, fun unread => ?_⟩, fun both => ?_⟩
                · cases unread
                · exact both.1 rfl known
              · refine iff_of_true ⟨after.failedWaiting, after.activeWaiting⟩
                  ⟨?_, fun unread => by cases unread⟩
                simp [known]
              · refine iff_of_true unwaited ⟨?_, fun unread => by cases unread⟩
                simp [known]

theorem newServiceState_idle (now : Int) {new : ServiceState} {c : Shared ν}
    (settled : new ≠ .inactive) (idle : Idle x.name c) :
    Idle x.name (newServiceState now new x c).2 := by
  by_cases change : x.serviceState ≠ new
  · obtain ⟨nonActive, failedWaiting, activeWaiting⟩ :=
      newServiceState_leaves now (c := c) change settled
    exact ⟨nonActive, failedWaiting, activeWaiting⟩
  · rw [newServiceState, if_neg change]
    exact idle

theorem checkService_rests (names : Named s) (rests : Rests n s) (found : s.services n = some x)
    (overdue : Bool) {new : ServiceState} (settled : new ≠ .inactive) (alert : Alert) (now : Int) :
    Rests n (s.checkService cfg x overdue new alert now) := by
  obtain rfl := names.services n x found
  unfold State.checkService
  split
  · rintro ⟨y, here, disabled⟩
    simp only [State.raiseAlert, State.setService, Function.update_self,
      Option.some.injEq] at here
    subst here
    rw [(newServiceState_state now new x s.shared).2.2] at disabled
    obtain ⟨nonActive, failedWaiting, activeWaiting⟩ :=
      newServiceState_idle now settled (rests ⟨x, found, disabled⟩)
    exact ⟨nonActive, failedWaiting, activeWaiting⟩
  · exact rests

/-- One visit of a loop. -/
theorem visit_rests (names : Named s) (rests : Rests n s) {l : Loop} {todo : Finset ν}
    (point : s.point = .within l todo) (visited : s.visit cfg m bus now l = some t) :
    Rests n t ↔ Calm n s (.visit m bus now) := by
  by_cases same : m = n
  · subst same
    have elsewhere : Rests m t → l ≠ .starting → l ≠ .errored →
        (Rests m t ↔ Calm m s (.visit m bus now)) := by
      intro after first second
      refine iff_of_true after ?_
      rintro - - l' todo' here init
      cases point.symm.trans here
      exact (init.elim first second).elim
    have initialized : (l = .starting ∨ l = .errored) → t = s.initializeService cfg m bus now →
        (Rests m t ↔ Calm m s (.visit m bus now)) := by
      rintro init rfl
      rw [initializeService_rests rests cfg bus now]
      constructor
      · intro h _ loaded _ _ _ _
        exact h loaded
      · exact fun h loaded => h rfl loaded l todo point init
    cases l with
    | starting =>
        cases visited
        exact initialized (.inl rfl) rfl
    | errored =>
        cases visited
        exact initialized (.inr rfl) rfl
    | resubscribing =>
        obtain ⟨x, found, rfl⟩ := Option.map_eq_some_iff.mp visited
        exact elsewhere (rests_setService (newUnitState_enabled_ne cfg bus now x _)) nofun nofun
    | activeWaiting =>
        obtain ⟨x, found, rfl⟩ := Option.map_eq_some_iff.mp visited
        refine elsewhere (checkService_rests names rests found _ ?_ _ now) nofun nofun
        decide
    | failedWaiting =>
        obtain ⟨x, found, rfl⟩ := Option.map_eq_some_iff.mp visited
        refine elsewhere (checkService_rests names rests found _ ?_ _ now) nofun nofun
        decide
    | nonActive =>
        obtain ⟨x, found, rfl⟩ := Option.map_eq_some_iff.mp visited
        refine elsewhere (checkService_rests names rests found _ ?_ _ now) nofun nofun
        decide
  · refine iff_of_true ((visit_undisturbed names (Ne.symm same) visited).rests rests) ?_
    exact fun here => absurd here same

/-- What a signal does to the object that it calls. -/
theorem handleSignal_receiver {which : Option Nat} {reply : Option UnitActiveState}
    (handled : s.handleSignal m which reply now = some t) :
    ∃ y, s.receiver m which = some y ∧ (reply = none ∧ t = s ∨
      ∃ u r, reply = some u ∧ propertiesChangedHandler now (some u) y s.shared = some r ∧
        t.shared = r.2 ∧ (which = none ∧ t.services = Function.update s.services m (some r.1) ∨
          which ≠ none ∧ t.services = s.services)) := by
  cases which with
  | none =>
      obtain ⟨y, found, step⟩ := Option.bind_eq_some_iff.mp handled
      refine ⟨y, found, ?_⟩
      split at step
      · cases reply with
        | none =>
            cases step
            exact .inl ⟨rfl, rfl⟩
        | some u =>
            cases step
            exact .inr ⟨u, _, rfl, rfl, rfl, .inl ⟨rfl, rfl⟩⟩
      · cases step
  | some i =>
      obtain ⟨y, found, step⟩ := Option.bind_eq_some_iff.mp handled
      refine ⟨y, found, ?_⟩
      split at step
      · cases reply with
        | none =>
            cases step
            exact .inl ⟨rfl, rfl⟩
        | some u =>
            cases step
            exact .inr ⟨u, _, rfl, rfl, rfl, .inr ⟨nofun, rfl⟩⟩
      · cases step

theorem signal_rests (names : Named s) (moving : Moving n s) (rests : Rests n s)
    {which : Option Nat} {reply : Option UnitActiveState}
    (handled : s.handleSignal m which reply now = some t) :
    Rests n t ↔ Calm n s (.propertiesChanged m which reply now) := by
  by_cases same : m = n
  · subst same
    obtain ⟨y, received, ⟨rfl, rfl⟩ | ⟨u, r, rfl, run, shared, services⟩⟩ :=
      handleSignal_receiver handled
    · exact iff_of_true rests fun _ _ _ _ _ read => by cases read
    · have unit := handler_unitState run
      have still : DisabledNow m t ↔ DisabledNow m s := by
        obtain ⟨rfl, services⟩ | ⟨-, services⟩ := services
        · rw [DisabledNow, DisabledNow, services, Function.update_self,
            show s.services m = some y from received]
          simp only [Option.some.injEq, exists_eq_left', unit]
        · rw [DisabledNow, DisabledNow, services]
      have name : y.name = m := by
        cases which with
        | none => exact names.services m y received
        | some i => exact names.earlier m y (List.mem_of_getElem? received)
      have moved : y.Moved := by
        cases which with
        | none => exact moving.service y received
        | some i => exact moving.earlier y (List.mem_of_getElem? received)
      by_cases disabled : DisabledNow m s
      · have idle := handler_idle_iff (name.symm ▸ rests disabled) moved run
        rw [name, ← shared] at idle
        rw [Rests, imp_iff_right (still.mpr disabled), idle]
        constructor
        · intro quiet _ _ y' here u' read
          cases received.symm.trans here
          cases read
          exact quiet
        · exact fun h => h rfl disabled y received u rfl
      · exact iff_of_true (fun after => absurd (still.mp after) disabled)
          fun _ now => absurd now disabled
  · refine iff_of_true ((handleSignal_undisturbed names (Ne.symm same) handled).rests rests) ?_
    exact fun here => absurd here same

theorem unitFilesChanged_rests (names : Named s) (rests : Rests n s) (found : s.services m = some x)
    {r : Service ν × Shared ν} (changed : handleUnitStateChange cfg bus now x s.shared = some r) :
    Rests n (s.setService m r) ↔ Calm n s (.unitFilesChanged m bus now) := by
  by_cases same : m = n
  · subst same
    obtain ⟨isEnabled, read, rfl⟩ := Option.map_eq_some_iff.mp changed
    cases isEnabled with
    | true =>
        refine iff_of_true (rests_setService (newUnitState_enabled_ne cfg bus now x _)) ?_
        intro _ disabled
        cases read.symm.trans disabled
    | false =>
        rw [if_neg Bool.false_ne_true, rests_disabled (Function.update_self ..) rfl
          (newUnitState_disabled cfg bus now _ _)]
        by_cases already : x.unitState = some .disabled
        · rw [newUnitState, if_neg (not_not.mpr already)]
          refine iff_of_true (rests ⟨x, found, already⟩) fun _ _ y here change => ?_
          cases found.symm.trans here
          exact absurd already change
        · have idle := newUnitState_disabled_idle cfg bus now s.shared already
          rw [names.services m x found] at idle
          rw [idle]
          constructor
          · exact fun unwaited _ _ _ _ _ => unwaited
          · exact fun h => h rfl read x found already
  · refine iff_of_true ((setService_undisturbed names (Ne.symm same) found
      (Keeps.handleUnitStateChange changed).local_).rests rests) ?_
    exact fun here => absurd here same

theorem step_rests {a : Action ν} (names : Named s) (moving : Moving n s) (rests : Rests n s)
    (step : next cfg s a = some t) : Rests n t ↔ Calm n s a := by
  cases a with
  | restartProcess =>
      cases next_cases step
      refine iff_of_true ?_ trivial
      rintro ⟨_, found, _⟩
      cases found
  | restartSensor =>
      cases next_cases step
      exact iff_of_true rests trivial
  | visit m bus now =>
      simp only [next] at step
      split at step
      · rename_i l todo point
        split at step
        · split at step
          · rename_i u visited
            cases step
            have moved := visit_rests names rests point visited
            exact moved
          · rename_i missing
            cases step
            refine iff_of_true rests ?_
            rintro - - l' todo' here init
            cases point.symm.trans here
            obtain rfl | rfl := init <;> cases missing
        · cases step
      · cases step
  | advance => cases next_cases step <;> exact iff_of_true rests trivial
  | poll =>
      cases next_cases step
      exact iff_of_true rests trivial
  | propertiesChanged m which reply now =>
      cases next_cases step with
      | signal point handled => exact signal_rests names moving rests handled
  | unitFilesChanged m bus now =>
      simp only [next] at step
      split at step
      · obtain ⟨x, found, rfl⟩ := Option.map_eq_some_iff.mp step
        cases changed : handleUnitStateChange cfg bus now x s.shared with
        | some r => exact unitFilesChanged_rests names rests found changed
        | none =>
            have unread : bus.isEnabled = none := Option.map_eq_none_iff.mp changed
            refine iff_of_true rests fun _ read => ?_
            cases unread.symm.trans read
      · cases step
  | processAlert =>
      refine iff_of_true ?_ trivial
      cases next_cases step <;> intro disabled <;> obtain ⟨nonActive, failed, active⟩ :=
        rests disabled <;> exact ⟨nonActive, failed, active⟩

/-- What holds of a service in every state of a calm run. -/
structure Resting (n : ν) (s : State ν) : Prop where
  names : Named s
  moving : Moving n s
  rests : Rests n s

theorem Resting.muted (h : Resting n s) : Muted cfg n s :=
  fun disabled => silent_of_idle h.names (h.rests disabled)

omit [DecidableEq ν] in
theorem fresh_resting (cfg : Config ν) (n : ν) : Resting n (fresh cfg) where
  names := restarted_named cfg _
  moving := restarted_moving cfg n _
  rests := fun ⟨_, found, _⟩ => by cases found

/-- No alert is raised for a disabled service exactly in the calm runs: a service enters
`DisabledState` with nothing waiting for it, and no handler of an earlier object is called for it
with a state that starts a wait. -/
theorem disabled_service_silent_iff {actions : List (Action ν)}
    (run : (system cfg).FreeRuns (fresh cfg) actions t) :
    (system cfg).Always (Muted cfg n) (fresh cfg) actions ↔
      (system cfg).Runs (Calm n) (fresh cfg) actions t := by
  refine run.always_iff (I := Resting n) (fun _ h => h.muted) ?_ ?_ (fresh_resting cfg n)
  · intro s a t h calm step
    exact ⟨h.names.step step, h.moving.step h.names step,
      (step_rests h.names h.moving h.rests step).mpr calm⟩
  · intro s a t h step muted
    refine (step_rests h.names h.moving h.rests step).mp fun disabled => ?_
    obtain ⟨x, found, -⟩ := id disabled
    exact idle_of_silent (h.names.step step) found (muted disabled)

end Steps

namespace Example

/-- The answers for a service that is disabled. -/
def disabledAnswers (state : UnitActiveState) : Bus :=
  { answers state with isEnabled := some false }

/-- The service is disabled while it is active. -/
def disablingActive : List (Action Unit) :=
  [.visit () (answers .active) 0, .advance, .unitFilesChanged () (disabledAnswers .active) 10]

theorem disablingActive_calm : ∃ t : State Unit,
    (system config).Runs (Calm ()) (fresh config) disablingActive t ∧
      (t.services ()).map Service.unitState = some (some .disabled) := by
  refine ⟨_, .cons ?_ rfl (.cons trivial rfl (.cons ?_ rfl (.nil _))), rfl⟩
  · rintro - - l todo point init
    exact ⟨fun disabled => (by cases disabled), fun unread => (by cases unread)⟩
  · rintro - - x found -
    exact ⟨by decide, by decide⟩

/-- An active service is disabled. -/
theorem disabled_service_silent : ∃ t : State Unit,
    (t.services ()).map Service.unitState = some (some .disabled) ∧
      (system config).Always (Muted config ()) (fresh config) disablingActive := by
  obtain ⟨t, run, disabled⟩ := disablingActive_calm
  exact ⟨t, disabled, (disabled_service_silent_iff (run.mono fun _ _ _ => trivial)).mpr run⟩

/-- The service is disabled after it has failed. -/
def disablingFailed : List (Action Unit) :=
  [.visit () (answers .active) 0, .advance, .propertiesChanged () none (some .failed) 10,
    .unitFilesChanged () (disabledAnswers .failed) 20]

/-- The check that follows, from its second loop on. -/
def afterDisabling : List (Action Unit) := [.visit () (disabledAnswers .failed) 41]

theorem disablingFailed_alerts :
    ((system config).run (fresh config) disablingFailed).map (fun s =>
      ((s.services ()).map Service.unitState, s.checkAlerts (),
        ((system config).run (s.enterLoop config .failedWaiting) afterDisabling).map fun t =>
          t.checkAlerts ())) = some (some (some .disabled), [], some [.fault]) := by
  decide

/-- A service that waits after a failure is disabled, and alerted when its time is up. -/
theorem disabled_service_alerted : ¬ ∀ actions t,
    (system config).FreeRuns (fresh config) actions t →
      (system config).Always (Muted config ()) (fresh config) actions := by
  intro all
  obtain ⟨s, replay, found⟩ := Option.map_eq_some_iff.mp disablingFailed_alerts
  simp only [Prod.mk.injEq] at found
  obtain ⟨disabled, before, check⟩ := found
  obtain ⟨t, checked, after⟩ := Option.map_eq_some_iff.mp check
  obtain ⟨x, object, disabled⟩ := Option.map_eq_some_iff.mp disabled
  have run := (Transition.System.run_eq_some_iff _).mp replay
  have silent := all _ s run disablingFailed [] s (List.append_nil _).symm run ⟨x, object, disabled⟩
  have same := silent .failedWaiting (.inr (.inl rfl)) afterDisabling t
    (by simp [afterDisabling, Action.InCheck]) ((Transition.System.run_eq_some_iff _).mp checked)
  rw [before, after] at same
  cases same

end Example

end ServiceMonitor

end Sspl

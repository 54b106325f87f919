import Mathlib.Algebra.GroupWithZero.Nat
import Sspl.Systemd.Watch

/-!
# What is alerted when a service cannot be monitored

A unit state is entered with calls to D-Bus. `EnabledState` connects to the signal, takes the
name out of `monitoring_disabled` and then reads the properties; when the read fails it enters
`MonitoringDisabled`, which raises an alert since the name is gone. The next round tries again,
connects a second time and alerts a second time.

A tally beside the state says whether the last attempt to monitor a service has failed, and how
many alerts had been raised when the failures began. Disabling the service ends them too.
-/

namespace Sspl

namespace ServiceMonitor

variable {ν : Type}

/-- The signals that call the handler of the object. -/
def Service.subscriptions (x : Service ν) : Nat :=
  (if x.propertiesChangedSignal then 1 else 0) + x.leakedSignals

/-- The signals that call a handler for the name. -/
def State.subscriptions (s : State ν) (n : ν) : Nat :=
  (((s.services n).toList ++ s.earlier n).map Service.subscriptions).sum

/-- One of the calls made on entering `EnabledState` fails. -/
def Bus.Fails (bus : Bus) : Prop := bus.connects = false ∨ bus.activeState = none

instance (bus : Bus) : Decidable bus.Fails := inferInstanceAs (Decidable (_ ∨ _))

/-- The unit state that an object enters, with the calls made then. -/
inductive Entry
  | enabled (bus : Bus)
  | disabled
  deriving DecidableEq

section

variable [DecidableEq ν]

/-- The alerts for the name in the queue. -/
def Shared.queued (c : Shared ν) (n : ν) : Nat := c.alerts.countP (·.resourceId = n)

/-- The alerts for a service that cannot be monitored, raised and in the queue. -/
def State.registrations (s : State ν) (n : ν) : Nat :=
  s.shared.queued n + s.sent.countP fun p => p.1 = .registration ∧ p.2.resourceId = n

/-- What a service with this unit state enters when `is_enabled` is read. -/
def Entry.read (bus : Bus) (unitState : Option UnitState) : Option Entry :=
  bus.isEnabled.bind fun isEnabled =>
    if isEnabled then if unitState = some .enabled then none else some (.enabled bus)
    else if unitState = some .disabled then none else some .disabled

/-- What the object of the name enters in a step. -/
def entering (n : ν) (s : State ν) : Action ν → Option Entry
  | .visit m bus _ =>
    if m = n then
      match s.point with
      | .within .starting _ => if bus.unit then Entry.read bus none else none
      | .within .errored _ => if bus.unit then Entry.read bus none else none
      | .within .resubscribing _ => (s.services n).bind fun x =>
        if x.unitState = some .enabled then none else some (.enabled bus)
      | _ => none
    else none
  | .unitFilesChanged m bus _ =>
    if m = n then (s.services n).bind fun x => Entry.read bus x.unitState else none
  | _ => none

/-- The sensor with what is counted for a service: whether its last attempt failed, and how many
alerts had been raised when the failures began. -/
structure Tally (ν : Type) where
  state : State ν
  /-- The last attempt to monitor the service has failed. -/
  failing : Bool
  /-- The alerts before the first of the failures. -/
  base : Nat

def Tally.record (n : ν) (s : Tally ν) (t : State ν) : Option Entry → Tally ν
  | some (.enabled bus) =>
    if bus.Fails then ⟨t, true, s.base⟩ else ⟨t, false, t.registrations n⟩
  | some .disabled => ⟨t, false, t.registrations n⟩
  | none => ⟨t, s.failing, s.base⟩

/-- A new process has no failure behind it. -/
def Tally.next (cfg : Config ν) (n : ν) (s : Tally ν) (a : Action ν) : Option (Tally ν) :=
  (ServiceMonitor.next cfg s.state a).map fun t =>
    match a with
    | .restartProcess => ⟨t, false, t.registrations n⟩
    | a => s.record n t (entering n s.state a)

/-- The sensor with the tally of one service, from before its first start. -/
def tallied (cfg : Config ν) (n : ν) : Transition.System (Tally ν) (Action ν) where
  init s := s = ⟨fresh cfg, false, 0⟩
  next := Tally.next cfg n

/-- One alert was raised since the failures of the service began, however often it was tried again,
and one signal at most calls a handler. -/
structure OneAlert (n : ν) (s : Tally ν) : Prop where
  alerts : s.state.registrations n = s.base + if s.failing then 1 else 0
  subscriptions : s.state.subscriptions n ≤ 1

/-- An attempt that connects finds no signal connected; and if it then cannot read the
properties, the service is not in `monitoring_disabled`. -/
def Unencumbered (n : ν) (s : Tally ν) (a : Action ν) : Prop :=
  ∀ bus, entering n s.state a = some (.enabled bus) → bus.connects = true →
    s.state.subscriptions n = 0 ∧
      (bus.activeState = none → n ∉ s.state.shared.monitoringDisabled)

end

section Methods

variable [DecidableEq ν] {n : ν} {x : Service ν} {c : Shared ν} {cfg : Config ν} {bus : Bus}
  {now : Int}

/-- A method that neither connects nor raises an alert. -/
structure Quiet (x : Service ν) (c : Shared ν) (r : Service ν × Shared ν) : Prop where
  name : r.1.name = x.name
  alerts : r.2.alerts = c.alerts
  monitoringDisabled : r.2.monitoringDisabled = c.monitoringDisabled
  subscriptions : r.1.subscriptions = x.subscriptions

theorem Quiet.newServiceState (now : Int) (new : ServiceState) (x : Service ν) (c : Shared ν) :
    Quiet x c (newServiceState now new x c) := by
  unfold ServiceMonitor.newServiceState
  split
  · cases new <;> exact ⟨rfl, rfl, rfl, rfl⟩
  · exact ⟨rfl, rfl, rfl, rfl⟩

omit [DecidableEq ν] in
theorem Quiet.trans {r t : Service ν × Shared ν} (first : Quiet x c r) (second : Quiet r.1 r.2 t) :
    Quiet x c t :=
  ⟨second.name.trans first.name, second.alerts.trans first.alerts,
    second.monitoringDisabled.trans first.monitoringDisabled,
    second.subscriptions.trans first.subscriptions⟩

omit [DecidableEq ν] in
theorem Quiet.observe (x : Service ν) (c : Shared ν) (u : UnitActiveState) :
    Quiet x c (x.observe u, c) := by
  unfold Service.observe
  split <;> exact ⟨rfl, rfl, rfl, rfl⟩

theorem Quiet.react (now : Int) (x : Service ν) (c : Shared ν) : Quiet x c (react now x c) := by
  unfold ServiceMonitor.react
  split
  · exact ⟨rfl, rfl, rfl, rfl⟩
  · split
    · split
      · exact ⟨rfl, rfl, rfl, rfl⟩
      · exact (Quiet.newServiceState now .active x c).trans ⟨rfl, rfl, rfl, rfl⟩
      · exact ⟨rfl, rfl, rfl, rfl⟩
    · split <;> exact ⟨rfl, rfl, rfl, rfl⟩
    · split
      · exact (Quiet.newServiceState now .inactive x c).trans ⟨rfl, rfl, rfl, rfl⟩
      · exact ⟨rfl, rfl, rfl, rfl⟩

theorem Quiet.handler {r : Service ν × Shared ν} {reply : Option UnitActiveState}
    (h : propertiesChangedHandler now reply x c = some r) : Quiet x c r := by
  obtain ⟨state, -, rfl⟩ := Option.map_eq_some_iff.mp h
  exact (Quiet.observe x c state).trans (.react now _ c)

/-- `EnabledState` was entered with these calls. -/
structure Attempted (bus : Bus) (x : Service ν) (c : Shared ν) (r : Service ν × Shared ν) :
    Prop where
  name : r.1.name = x.name
  queued : ∀ n, r.2.queued n = c.queued n + if n = x.name ∧ bus.Fails ∧
    (bus.connects = true ∨ n ∉ c.monitoringDisabled) then 1 else 0
  monitoringDisabled : ∀ n, n ∈ r.2.monitoringDisabled ↔
    if n = x.name then bus.Fails else n ∈ c.monitoringDisabled
  subscriptions : r.1.subscriptions = x.subscriptions + if bus.connects then 1 else 0

/-- `DisabledState` was entered. -/
structure Dropped (x : Service ν) (c : Shared ν) (r : Service ν × Shared ν) : Prop where
  name : r.1.name = x.name
  alerts : r.2.alerts = c.alerts
  monitoringDisabled : ∀ n, n ∈ r.2.monitoringDisabled ↔ n ≠ x.name ∧ n ∈ c.monitoringDisabled
  subscriptions : r.1.subscriptions ≤ x.subscriptions

theorem queued_monitoringDisabled (cfg : Config ν) (x : Service ν) (c : Shared ν) (n : ν) :
    (MonitoringDisabled.enter cfg x c).2.queued n =
      c.queued n + if n = x.name ∧ n ∉ c.monitoringDisabled then 1 else 0 := by
  by_cases mem : x.name ∈ c.monitoringDisabled
  · have still : ¬ (n = x.name ∧ n ∉ c.monitoringDisabled) := by
      rintro ⟨rfl, other⟩
      exact other mem
    simp [MonitoringDisabled.enter, Shared.queued, mem, still]
  · by_cases same : n = x.name
    · subst same
      simp [MonitoringDisabled.enter, Shared.queued, mem, getAlert]
    · simp [MonitoringDisabled.enter, Shared.queued, mem, getAlert, same, Ne.symm same]

theorem mem_monitoringDisabled (cfg : Config ν) (x : Service ν) (c : Shared ν) (n : ν) :
    n ∈ (MonitoringDisabled.enter cfg x c).2.monitoringDisabled ↔
      n = x.name ∨ n ∈ c.monitoringDisabled := Finset.mem_insert

omit [DecidableEq ν] in
theorem subscriptions_subscribe (x : Service ν) :
    x.subscribe.subscriptions = x.subscriptions + 1 := by
  cases signal : x.propertiesChangedSignal with
  | true =>
      simp only [Service.subscriptions, Service.subscribe, signal, if_true]
      omega
  | false => simp [Service.subscriptions, Service.subscribe, signal, Nat.add_comm]

theorem Attempted.enter (cfg : Config ν) (bus : Bus) (now : Int) (x : Service ν) (c : Shared ν) :
    Attempted bus x c (EnabledState.enter cfg bus now x c) := by
  unfold EnabledState.enter
  cases connects : bus.connects with
  | false =>
      have fails : bus.Fails := .inl connects
      rw [if_neg Bool.false_ne_true]
      refine ⟨rfl, fun n => ?_, fun n => ?_, ?_⟩
      · rw [queued_monitoringDisabled]
        simp only [fails, connects, Bool.false_eq_true, true_and, false_or]
      · rw [mem_monitoringDisabled]
        by_cases same : n = x.name
        · simp [same, fails]
        · simp [same]
      · rw [connects]
        rfl
  | true =>
      rw [if_pos rfl]
      have count := subscriptions_subscribe x
      cases read : bus.activeState with
      | none =>
          have fails : bus.Fails := .inr read
          refine ⟨rfl, fun n => ?_, fun n => ?_, by rw [connects]; exact count⟩
          · have alerts := queued_monitoringDisabled cfg
              { x.subscribe with unitState := some .monitoringDisabled }
              (c.discardMonitoringDisabled x.name) n
            refine alerts.trans (congrArg (c.queued n + ·) (if_congr ?_ rfl rfl))
            simp only [fails, connects, true_or, and_true]
            exact and_iff_left_of_imp fun same mem => (Finset.mem_erase.mp mem).1 same
          · refine (mem_monitoringDisabled ..).trans ?_
            by_cases same : n = x.name
            · simp [same, fails, Service.subscribe]
            · simp [same, Service.subscribe]
      | some u =>
          have succeeds : ¬ bus.Fails := by simp [Bus.Fails, connects, read]
          have quiet := (Quiet.observe x.subscribe (c.discardMonitoringDisabled x.name) u).trans
            (.react now _ _)
          refine ⟨quiet.name, fun n => ?_, fun n => ?_, ?_⟩
          · rw [if_neg fun both => succeeds both.2.1]
            exact congrArg (List.countP _) quiet.alerts
          · refine (iff_of_eq (congrArg (n ∈ ·) quiet.monitoringDisabled)).trans ?_
            by_cases same : n = x.name
            · simp [same, succeeds, Shared.discardMonitoringDisabled]
            · simp [same, Shared.discardMonitoringDisabled]
          · rw [connects]
            exact quiet.subscriptions.trans count

theorem Dropped.enter (x : Service ν) (c : Shared ν) : Dropped x c (DisabledState.enter x c) := by
  refine ⟨rfl, rfl, fun n => Finset.mem_erase, ?_⟩
  rw [Service.subscriptions, Service.subscriptions]
  exact Nat.add_le_add_right (Nat.zero_le _) _

/-- The unit state is not the one that is entered. -/
theorem Attempted.newUnitState (cfg : Config ν) (now : Int) (c : Shared ν)
    (change : x.unitState ≠ some .enabled) :
    Attempted bus x c (newUnitState cfg bus now .enabled x c) := by
  have entered := Attempted.enter cfg bus now { x with unitState := some .enabled } c
  rw [ServiceMonitor.newUnitState, if_pos change]
  exact ⟨entered.name, entered.queued, entered.monitoringDisabled, entered.subscriptions⟩

theorem Dropped.newUnitState (cfg : Config ν) (bus : Bus) (now : Int) (c : Shared ν)
    (change : x.unitState ≠ some .disabled) :
    Dropped x c (newUnitState cfg bus now .disabled x c) := by
  have entered := Dropped.enter { x with unitState := some .disabled } c
  rw [ServiceMonitor.newUnitState, if_pos change]
  exact ⟨entered.name, entered.alerts, entered.monitoringDisabled, entered.subscriptions⟩

/-- What the object makes of the unit state that it enters, if any. -/
def Entered (x : Service ν) (c : Shared ν) (r : Service ν × Shared ν) : Option Entry → Prop
  | none => r = (x, c)
  | some (.enabled bus) => Attempted bus x c r
  | some .disabled => Dropped x c r

theorem entered_handleUnitStateChange {r : Service ν × Shared ν}
    (h : handleUnitStateChange cfg bus now x c = some r) :
    Entered x c r (Entry.read bus x.unitState) := by
  obtain ⟨isEnabled, read, rfl⟩ := Option.map_eq_some_iff.mp h
  rw [Entry.read, read, Option.bind_some]
  cases isEnabled with
  | true =>
      rw [if_pos rfl]
      by_cases same : x.unitState = some .enabled
      · rw [if_pos same]
        exact if_neg (not_not.mpr same)
      · rw [if_neg same]
        exact .newUnitState cfg now c same
  | false =>
      rw [if_neg Bool.false_ne_true]
      by_cases same : x.unitState = some .disabled
      · rw [if_pos same]
        exact if_neg (not_not.mpr same)
      · rw [if_neg same]
        exact .newUnitState cfg bus now c same

theorem Entered.name {entry : Option Entry} {r : Service ν × Shared ν}
    (h : Entered x c r entry) : r.1.name = x.name := by
  cases entry with
  | none =>
      cases h
      rfl
  | some entry =>
      cases entry with
      | enabled bus => exact Attempted.name h
      | disabled => exact Dropped.name h

/-- A new object has no signal and no unit state. -/
theorem load_new (now : Int) (n : ν) (c : Shared ν) :
    (load now n c).1.unitState = none ∧ (load now n c).1.subscriptions = 0 ∧
      (load now n c).2.alerts = c.alerts ∧
      (load now n c).2.monitoringDisabled = c.monitoringDisabled := by
  unfold load
  split
  · rename_i data found
    have quiet := Quiet.newServiceState now data.serviceMonitorState (Service.created n now) c
    have unit := (newServiceState_state now data.serviceMonitorState (Service.created n now) c).2.2
    exact ⟨unit, quiet.subscriptions, quiet.alerts, quiet.monitoringDisabled⟩
  · exact ⟨rfl, rfl, rfl, rfl⟩

theorem Entered.other {entry : Option Entry} {r : Service ν × Shared ν}
    (h : Entered x c r entry) (other : n ≠ x.name) :
    r.2.queued n = c.queued n ∧ (n ∈ r.2.monitoringDisabled ↔ n ∈ c.monitoringDisabled) := by
  cases entry with
  | none =>
      cases h
      exact ⟨rfl, .rfl⟩
  | some entry =>
      cases entry with
      | enabled bus =>
          obtain ⟨-, queued, disabled, -⟩ := h
          refine ⟨(queued n).trans ?_, (disabled n).trans ?_⟩
          · rw [if_neg fun both => other both.1, Nat.add_zero]
          · rw [if_neg other]
      | disabled =>
          obtain ⟨-, alerts, disabled, -⟩ := h
          exact ⟨congrArg (List.countP _) alerts, (disabled n).trans (and_iff_right other)⟩

end Methods

section Steps

variable [DecidableEq ν] {n m : ν} {s t u : State ν} {x : Service ν} {cfg : Config ν} {bus : Bus}
  {now : Int}

/-- No alert for the name is raised, no signal connected, and no unit state entered. -/
structure Steady (n : ν) (s t : State ν) : Prop where
  registrations : t.registrations n = s.registrations n
  monitoringDisabled : n ∈ t.shared.monitoringDisabled ↔ n ∈ s.shared.monitoringDisabled
  subscriptions : t.subscriptions n = s.subscriptions n

/-- What a step in which the object of the name enters a unit state does to the tally. -/
def Effect (n : ν) (s t : State ν) : Option Entry → Prop
  | none => Steady n s t
  | some (.enabled bus) =>
    t.registrations n = s.registrations n +
        (if bus.Fails ∧ (bus.connects = true ∨ n ∉ s.shared.monitoringDisabled) then 1 else 0) ∧
      (n ∈ t.shared.monitoringDisabled ↔ bus.Fails) ∧
      t.subscriptions n = s.subscriptions n + if bus.connects then 1 else 0
  | some .disabled => t.registrations n = s.registrations n ∧
      n ∉ t.shared.monitoringDisabled ∧ t.subscriptions n ≤ s.subscriptions n

theorem Entered.effect {c : Shared ν} {r : Service ν × Shared ν} {entry : Option Entry}
    (h : Entered x c r entry) (name : x.name = n) (alerts : c.alerts = s.shared.alerts)
    (disabled : c.monitoringDisabled = s.shared.monitoringDisabled) (shared : t.shared = r.2)
    (sent : t.sent = s.sent)
    (signals : t.subscriptions n + x.subscriptions = s.subscriptions n + r.1.subscriptions) :
    Effect n s t entry := by
  have queued : c.queued n = s.shared.queued n := by rw [Shared.queued, alerts, Shared.queued]
  cases entry with
  | none =>
      cases h
      refine ⟨?_, by rw [shared, disabled], Nat.add_right_cancel signals⟩
      rw [State.registrations, State.registrations, shared, sent, queued]
  | some entry =>
      cases entry with
      | enabled bus =>
          obtain ⟨-, grown, members, count⟩ := h
          refine ⟨?_, ?_, ?_⟩
          · rw [State.registrations, State.registrations, shared, sent, grown n, queued, ← disabled,
              name]
            simp only [true_and]
            omega
          · rw [shared, members n, if_pos name.symm]
          · omega
      | disabled =>
          obtain ⟨-, same, members, count⟩ := h
          refine ⟨?_, ?_, ?_⟩
          · rw [State.registrations, State.registrations, shared, sent, Shared.queued, same]
            exact congrArg (· + _) queued
          · rw [shared, members n]
            exact fun both => both.1 name.symm
          · omega

theorem subscriptions_setService {r : Service ν × Shared ν} (found : s.services n = some x) :
    (s.setService n r).subscriptions n + x.subscriptions =
      s.subscriptions n + r.1.subscriptions := by
  simp only [State.subscriptions, State.setService, Function.update_self, found,
    Option.toList_some, List.singleton_append, List.map_cons, List.sum_cons]
  omega

theorem subscriptions_replaceService (r : Service ν × Shared ν) :
    (s.replaceService n r).subscriptions n = s.subscriptions n + r.1.subscriptions := by
  simp only [State.subscriptions, State.replaceService, State.setService, Function.update_self,
    Option.toList_some, List.singleton_append, List.map_cons, List.sum_cons, List.map_append,
    List.sum_append]
  omega

theorem subscriptions_other {r : Service ν × Shared ν} (other : n ≠ m) :
    (s.setService m r).subscriptions n = s.subscriptions n ∧
      (s.replaceService m r).subscriptions n = s.subscriptions n := by
  simp [State.subscriptions, State.replaceService, State.setService, Function.update_of_ne other]

/-- Only the alerts and the sets have changed, and not for this name. -/
theorem Steady.of_shared (queued : t.shared.queued n = s.shared.queued n)
    (disabled : n ∈ t.shared.monitoringDisabled ↔ n ∈ s.shared.monitoringDisabled)
    (sent : t.sent = s.sent) (signals : t.subscriptions n = s.subscriptions n) : Steady n s t :=
  ⟨by rw [State.registrations, State.registrations, queued, sent], disabled, signals⟩

theorem Entered.steady {r : Service ν × Shared ν} {entry : Option Entry}
    (h : Entered x s.shared r entry) (name : x.name = m) (other : n ≠ m) :
    Steady n s (s.setService m r) := by
  obtain ⟨queued, disabled⟩ := h.other (name ▸ other)
  exact .of_shared queued disabled rfl (subscriptions_other other).1

theorem Quiet.steady {r : Service ν × Shared ν} (h : Quiet x s.shared r)
    (found : s.services m = some x) : Steady n s (s.setService m r) := by
  refine .of_shared (congrArg (List.countP _) h.alerts)
    (iff_of_eq (congrArg (n ∈ ·) h.monitoringDisabled)) rfl ?_
  by_cases same : n = m
  · subst same
    have count := subscriptions_setService (r := r) found
    have kept := h.subscriptions
    omega
  · exact (subscriptions_other same).1

theorem initializeService_steady (other : n ≠ m) :
    Steady n s (s.initializeService cfg m bus now) := by
  obtain ⟨-, -, alerts, disabled⟩ := load_new now m s.shared
  obtain run | run | ⟨r, changed, run⟩ := initializeService_cases cfg m bus now s <;> rw [run]
  · exact ⟨rfl, .rfl, rfl⟩
  · exact .of_shared (congrArg (List.countP _) alerts)
      (iff_of_eq (congrArg (n ∈ ·) disabled)) rfl rfl
  · have name : (load now m s.shared).1.name = m := load_name now m s.shared
    obtain ⟨queued, members⟩ := (entered_handleUnitStateChange changed).other (n := n)
      (by rwa [name])
    refine .of_shared (queued.trans (congrArg (List.countP _) alerts))
      (members.trans (iff_of_eq (congrArg (n ∈ ·) disabled))) rfl (subscriptions_other other).2

theorem initializeService_effect (cfg : Config ν) (n : ν) (bus : Bus) (now : Int) (s : State ν) :
    Effect n s (s.initializeService cfg n bus now)
      (if bus.unit then Entry.read bus none else none) := by
  obtain ⟨unit, signals, alerts, disabled⟩ := load_new now n s.shared
  have name : (load now n s.shared).1.name = n := load_name now n s.shared
  rw [State.initializeService]
  cases loaded : bus.unit with
  | false => exact ⟨rfl, .rfl, rfl⟩
  | true =>
      rw [if_pos rfl, if_pos rfl]
      dsimp only
      cases changed : handleUnitStateChange cfg bus now (load now n s.shared).1
          (load now n s.shared).2 with
      | none =>
          have unread : bus.isEnabled = none := Option.map_eq_none_iff.mp changed
          rw [Entry.read, unread]
          exact .of_shared (congrArg (List.countP _) alerts)
            (iff_of_eq (congrArg (n ∈ ·) disabled)) rfl rfl
      | some r =>
          have entered := entered_handleUnitStateChange changed
          rw [unit] at entered
          refine entered.effect name alerts disabled rfl rfl ?_
          rw [subscriptions_replaceService, signals, Nat.add_zero]

theorem checkService_steady (found : s.services x.name = some x) (overdue : Bool)
    (new : ServiceState) (alert : Alert) (now : Int) :
    Steady n s (s.checkService cfg x overdue new alert now) := by
  unfold State.checkService
  split
  · have moved : Steady n s (s.setService x.name (newServiceState now new x s.shared)) :=
      (Quiet.newServiceState now new x s.shared).steady found
    refine ⟨Eq.trans ?_ moved.registrations, moved.monitoringDisabled, moved.subscriptions⟩
    simp [State.registrations, State.raiseAlert, State.setService, Shared.queued]
  · exact ⟨rfl, .rfl, rfl⟩

/-- One visit of a loop. -/
theorem visit_effect (names : Named s) {l : Loop} {todo : Finset ν}
    (point : s.point = .within l todo) (visited : s.visit cfg m bus now l = some t) :
    Effect n s t (entering n s (.visit m bus now)) := by
  by_cases same : m = n
  · subst same
    rw [entering, if_pos rfl, point]
    cases l with
    | starting =>
        cases visited
        exact initializeService_effect cfg m bus now s
    | errored =>
        cases visited
        exact initializeService_effect cfg m bus now s
    | resubscribing =>
        obtain ⟨x, found, rfl⟩ := Option.map_eq_some_iff.mp visited
        rw [found, Option.bind_some]
        have entered : Entered x s.shared (newUnitState cfg bus now .enabled x s.shared)
            (if x.unitState = some .enabled then none else some (.enabled bus)) := by
          by_cases enabled : x.unitState = some .enabled
          · rw [if_pos enabled]
            exact if_neg (not_not.mpr enabled)
          · rw [if_neg enabled]
            exact .newUnitState cfg now s.shared enabled
        exact entered.effect (names.services m x found) rfl rfl rfl rfl
          (subscriptions_setService found)
    | activeWaiting =>
        obtain ⟨x, found, rfl⟩ := Option.map_eq_some_iff.mp visited
        exact checkService_steady ((names.services m x found).symm ▸ found) ..
    | failedWaiting =>
        obtain ⟨x, found, rfl⟩ := Option.map_eq_some_iff.mp visited
        exact checkService_steady ((names.services m x found).symm ▸ found) ..
    | nonActive =>
        obtain ⟨x, found, rfl⟩ := Option.map_eq_some_iff.mp visited
        exact checkService_steady ((names.services m x found).symm ▸ found) ..
  · rw [entering, if_neg same]
    have other := Ne.symm same
    cases l with
    | starting =>
        cases visited
        exact initializeService_steady other
    | errored =>
        cases visited
        exact initializeService_steady other
    | resubscribing =>
        obtain ⟨x, found, rfl⟩ := Option.map_eq_some_iff.mp visited
        have name := names.services m x found
        by_cases enabled : x.unitState = some .enabled
        · have entered : Entered x s.shared (newUnitState cfg bus now .enabled x s.shared) none :=
            if_neg (not_not.mpr enabled)
          exact entered.steady name other
        · have entered : Entered x s.shared (newUnitState cfg bus now .enabled x s.shared)
              (some (.enabled bus)) := Attempted.newUnitState cfg now s.shared enabled
          exact entered.steady name other
    | activeWaiting =>
        obtain ⟨x, found, rfl⟩ := Option.map_eq_some_iff.mp visited
        exact checkService_steady ((names.services m x found).symm ▸ found) ..
    | failedWaiting =>
        obtain ⟨x, found, rfl⟩ := Option.map_eq_some_iff.mp visited
        exact checkService_steady ((names.services m x found).symm ▸ found) ..
    | nonActive =>
        obtain ⟨x, found, rfl⟩ := Option.map_eq_some_iff.mp visited
        exact checkService_steady ((names.services m x found).symm ▸ found) ..

/-- A `KeyError` of a loop: there is no object to enter a unit state. -/
theorem entering_of_stop {l : Loop} {todo : Finset ν} (point : s.point = .within l todo)
    (visited : s.visit cfg m bus now l = none) : entering n s (.visit m bus now) = none := by
  by_cases same : m = n
  · subst same
    rw [entering, if_pos rfl, point]
    cases l with
    | starting => cases visited
    | errored => cases visited
    | resubscribing =>
        rw [Option.map_eq_none_iff.mp visited]
        rfl
    | activeWaiting => rfl
    | failedWaiting => rfl
    | nonActive => rfl
  · rw [entering, if_neg same]

theorem entering_of_unread (unread : bus.isEnabled = none) :
    entering n s (.unitFilesChanged m bus now) = none := by
  rw [entering]
  split
  · cases s.services n with
    | none => rfl
    | some x =>
        rw [Option.bind_some, Entry.read, unread]
        rfl
  · rfl

theorem handleSignal_steady (names : Named s) {which : Option Nat}
    {reply : Option UnitActiveState} (step : s.handleSignal m which reply now = some t) :
    Steady n s t := by
  obtain rfl | ⟨x, r, found, handled, -, rfl⟩ | ⟨i, x, r, found, -, handled, rfl⟩ :=
    handleSignal_cases step
  · exact ⟨rfl, .rfl, rfl⟩
  · exact (Quiet.handler handled).steady found
  · have quiet := Quiet.handler handled
    refine .of_shared (congrArg (List.countP _) quiet.alerts)
      (iff_of_eq (congrArg (n ∈ ·) quiet.monitoringDisabled)) rfl ?_
    by_cases same : n = m
    · subst same
      obtain ⟨bound, rfl⟩ := List.getElem?_eq_some_iff.mp found
      have within : i < ((s.earlier n).map Service.subscriptions).length := by
        rwa [List.length_map]
      have still := List.set_getElem_self within
      rw [List.getElem_map, ← quiet.subscriptions, ← List.map_set] at still
      simp only [State.subscriptions, Function.update_self, List.map_append, still]
    · simp only [State.subscriptions, Function.update_of_ne same]

theorem registrations_processed {message : Message ν} {rest : List (Message ν)}
    (queued : s.shared.alerts = message :: rest) (alerts : t.shared.alerts = rest)
    (sent : t.sent = s.sent ++ [(.registration, message)]) :
    t.registrations n = s.registrations n := by
  rw [State.registrations, State.registrations, Shared.queued, Shared.queued, alerts, sent, queued,
    List.countP_cons, List.countP_append, List.countP_singleton]
  by_cases here : message.resourceId = n
  · simp only [here, and_self, decide_true, if_true]
    omega
  · simp [here]

theorem processAlert_steady (step : next cfg s .processAlert = some t) : Steady n s t := by
  simp only [next] at step
  split at step
  · rename_i queued
    split at step <;> cases step <;>
      exact ⟨registrations_processed queued rfl rfl, .rfl, rfl⟩
  · cases step

theorem step_effect {a : Action ν} (names : Named s) (step : next cfg s a = some t)
    (stays : a ≠ .restartProcess) : Effect n s t (entering n s a) := by
  cases a with
  | restartProcess => exact absurd rfl stays
  | restartSensor =>
      cases next_cases step
      exact ⟨rfl, .rfl, rfl⟩
  | visit m bus now =>
      simp only [next] at step
      split at step
      · rename_i l todo point
        split at step
        · split at step
          · rename_i u visited
            cases step
            have effect := visit_effect (n := n) names point visited
            generalize entering n s (.visit m bus now) = entry at effect ⊢
            cases entry with
            | none => exact ⟨effect.registrations, effect.monitoringDisabled, effect.subscriptions⟩
            | some entry => cases entry <;> exact effect
          · rename_i missing
            cases step
            rw [entering_of_stop point missing]
            exact ⟨rfl, .rfl, rfl⟩
        · cases step
      · cases step
  | advance =>
      cases next_cases step <;> exact ⟨rfl, .rfl, rfl⟩
  | poll =>
      cases next_cases step
      exact ⟨rfl, .rfl, rfl⟩
  | propertiesChanged m which reply now =>
      cases next_cases step with
      | signal point handled => exact handleSignal_steady names handled
  | unitFilesChanged m bus now =>
      simp only [next] at step
      split at step
      · obtain ⟨x, found, rfl⟩ := Option.map_eq_some_iff.mp step
        have name := names.services m x found
        have effect : ∀ r, handleUnitStateChange cfg bus now x s.shared = some r →
            Effect n s (s.setService m r) (entering n s (.unitFilesChanged m bus now)) := by
          intro r changed
          have entered := entered_handleUnitStateChange changed
          by_cases same : m = n
          · subst same
            rw [entering, if_pos rfl, found, Option.bind_some]
            exact entered.effect name rfl rfl rfl rfl (subscriptions_setService found)
          · rw [entering, if_neg same]
            exact entered.steady name (Ne.symm same)
        cases changed : handleUnitStateChange cfg bus now x s.shared with
        | some r => exact effect r changed
        | none =>
            have unread : bus.isEnabled = none := Option.map_eq_none_iff.mp changed
            rw [entering_of_unread unread]
            exact ⟨rfl, .rfl, rfl⟩
      · cases step
  | processAlert => exact processAlert_steady step

/-- What holds in all runs in which no attempt has an earlier one in its way. -/
structure Counted (n : ν) (s : Tally ν) : Prop where
  names : Named s.state
  failing : s.failing = true ↔ n ∈ s.state.shared.monitoringDisabled
  oneAlert : OneAlert n s

theorem start_counted (cfg : Config ν) (n : ν) : Counted n ⟨fresh cfg, false, 0⟩ where
  names := restarted_named cfg _
  failing := iff_of_false Bool.false_ne_true (Finset.notMem_empty n)
  oneAlert := ⟨rfl, Nat.zero_le 1⟩

theorem Counted.record {s : Tally ν} {entry : Option Entry} (h : Counted n s) (names : Named t)
    (effect : Effect n s.state t entry)
    (free : ∀ bus, entry = some (.enabled bus) → bus.connects = true →
      s.state.subscriptions n = 0 ∧
        (bus.activeState = none → n ∉ s.state.shared.monitoringDisabled)) :
    Counted n (s.record n t entry) := by
  have alerts := h.oneAlert.alerts
  have signals := h.oneAlert.subscriptions
  cases entry with
  | none =>
      obtain ⟨same, members, count⟩ := effect
      exact ⟨names, h.failing.trans members.symm, same.trans alerts, count.trans_le signals⟩
  | some entry =>
      cases entry with
      | disabled =>
          obtain ⟨-, members, count⟩ := effect
          exact ⟨names, iff_of_false Bool.false_ne_true members, rfl, count.trans signals⟩
      | enabled bus =>
          obtain ⟨grown, members, count⟩ := effect
          have single : t.subscriptions n ≤ 1 := by
            cases connects : bus.connects with
            | false =>
                rw [connects, if_neg Bool.false_ne_true] at count
                omega
            | true =>
                rw [connects, if_pos rfl, (free bus rfl connects).1] at count
                omega
          by_cases fails : bus.Fails
          · rw [Tally.record, if_pos fails]
            refine ⟨names, iff_of_true rfl (members.mpr fails), ?_, single⟩
            change t.registrations n = s.base + 1
            by_cases before : n ∈ s.state.shared.monitoringDisabled
            · have unconnected : bus.connects ≠ true := by
                intro connects
                obtain refused | unread := fails
                · cases connects.symm.trans refused
                · exact (free bus rfl connects).2 unread before
              rw [if_pos (h.failing.mpr before)] at alerts
              rw [grown, if_neg fun both => both.2.elim unconnected fun other => other before]
              exact alerts
            · rw [if_neg (mt h.failing.mp before)] at alerts
              rw [grown, if_pos ⟨fails, .inr before⟩, alerts]
          · rw [Tally.record, if_neg fails]
            exact ⟨names, iff_of_false Bool.false_ne_true (mt members.mp fails), rfl, single⟩

theorem record_of_ne {a : Action ν} {s : Tally ν} {t : Tally ν} (stays : a ≠ .restartProcess)
    (step : Tally.next cfg n s a = some t) : next cfg s.state a = some t.state ∧
      t = s.record n t.state (entering n s.state a) := by
  obtain ⟨next, taken, rfl⟩ := Option.map_eq_some_iff.mp step
  have same : ∀ entry, (s.record n next entry).state = next := by
    intro entry
    unfold Tally.record
    split
    · split <;> rfl
    · rfl
    · rfl
  cases a with
  | restartProcess => exact absurd rfl stays
  | _ =>
      dsimp only
      rw [same]
      exact ⟨taken, rfl⟩

theorem Counted.next {a : Action ν} {s t : Tally ν} (h : Counted n s)
    (free : Unencumbered n s a) (step : Tally.next cfg n s a = some t) : Counted n t := by
  by_cases restarts : a = .restartProcess
  · subst restarts
    obtain ⟨next, taken, rfl⟩ := Option.map_eq_some_iff.mp step
    have names := h.names.step taken
    cases taken
    exact ⟨names, iff_of_false Bool.false_ne_true (Finset.notMem_empty n), rfl, Nat.zero_le 1⟩
  · obtain ⟨taken, same⟩ := record_of_ne restarts step
    rw [same]
    exact h.record (h.names.step taken) (step_effect h.names taken restarts) free

theorem Counted.unencumbered {a : Action ν} {s t : Tally ν} (h : Counted n s)
    (step : Tally.next cfg n s a = some t) (one : OneAlert n t) : Unencumbered n s a := by
  intro bus enters connects
  have stays : a ≠ .restartProcess := by
    rintro rfl
    cases enters
  obtain ⟨taken, same⟩ := record_of_ne stays step
  have effect := step_effect (n := n) h.names taken stays
  rw [enters] at effect same
  obtain ⟨grown, -, count⟩ := effect
  rw [connects, if_pos rfl] at count
  have single := one.subscriptions
  refine ⟨by omega, fun unread before => ?_⟩
  -- the name is taken out of the set, and so a second alert is raised
  have fails : bus.Fails := .inr unread
  have alerts := one.alerts
  have base : t.base = s.base := by rw [same, Tally.record, if_pos fails]
  rw [grown, h.oneAlert.alerts, if_pos (h.failing.mpr before), if_pos ⟨fails, .inl connects⟩,
    base] at alerts
  have : (if t.failing then 1 else 0) ≤ 1 := by split <;> simp
  omega

/-- A service that cannot be monitored is alerted once, over one signal, exactly in the runs in
which no attempt that connects comes after one that connected too. -/
theorem one_alert_per_loss_iff {actions : List (Action ν)} {t : Tally ν}
    (run : (tallied cfg n).FreeRuns ⟨fresh cfg, false, 0⟩ actions t) :
    (tallied cfg n).Always (OneAlert n) ⟨fresh cfg, false, 0⟩ actions ↔
      (tallied cfg n).Runs (Unencumbered n) ⟨fresh cfg, false, 0⟩ actions t :=
  run.always_iff (I := Counted n) (fun _ h => h.oneAlert)
    (fun _ _ _ h free step => h.next free step)
    (fun _ _ _ h step one => h.unencumbered step one) (start_counted cfg n)

end Steps

namespace Example

/-- The signal cannot be connected. -/
def refusing : Bus := ⟨true, some true, false, some .active⟩

/-- The signal is connected, and then the properties cannot be read. -/
def unreadable : Bus := ⟨true, some true, true, none⟩

/-- At the start and in the first round. -/
def attempts (bus : Bus) : List (Action Unit) :=
  [.visit () bus 0, .advance, .poll, .advance, .visit () bus 30]

theorem refused_unencumbered : ∃ t : Tally Unit,
    (tallied config ()).Runs (Unencumbered ()) ⟨fresh config, false, 0⟩ (attempts refusing) t ∧
      t.state.registrations () = 1 := by
  refine ⟨_, .cons ?_ rfl (.cons ?_ rfl (.cons ?_ rfl (.cons ?_ rfl (.cons ?_ rfl (.nil _))))), ?_⟩
  · rintro bus enters connects
    cases enters
    cases connects
  · rintro bus enters
    cases enters
  · rintro bus enters
    cases enters
  · rintro bus enters
    cases enters
  · rintro bus enters connects
    cases enters
    cases connects
  · decide

/-- The connection is refused, again and again. -/
theorem one_alert_refused : ∃ t : Tally Unit, t.state.registrations () = 1 ∧
    (tallied config ()).Always (OneAlert ()) ⟨fresh config, false, 0⟩ (attempts refusing) := by
  obtain ⟨t, run, alerts⟩ := refused_unencumbered
  exact ⟨t, alerts, (one_alert_per_loss_iff (run.mono fun _ _ _ => trivial)).mpr run⟩

theorem unreadable_counts :
    ((tallied config ()).run ⟨fresh config, false, 0⟩ (attempts unreadable)).map (fun t =>
      (t.state.registrations (), t.base, t.state.subscriptions ())) = some (2, 0, 2) := by
  decide

/-- The signal connects and the properties cannot be read, at the start and in the next round: two
alerts, over two signals. -/
theorem alerted_twice : ¬ ∀ actions t,
    (tallied config ()).FreeRuns ⟨fresh config, false, 0⟩ actions t →
      (tallied config ()).Always (OneAlert ()) ⟨fresh config, false, 0⟩ actions := by
  intro all
  obtain ⟨t, replay, counts⟩ := Option.map_eq_some_iff.mp unreadable_counts
  have run := (Transition.System.run_eq_some_iff _).mp replay
  have one := all _ t run (attempts unreadable) [] t (List.append_nil _).symm run
  have alerts := one.alerts
  simp only [Prod.mk.injEq] at counts
  rw [counts.1, counts.2.1] at alerts
  split at alerts <;> cases alerts

end Example

end ServiceMonitor

end Sspl

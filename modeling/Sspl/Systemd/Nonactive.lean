import Sspl.Systemd.Disabled

/-!
# How long a service has not been active

The alert for a service that is neither active nor failed goes by the time at which its object
entered `InactiveState`. The time is written to the cache with that state, and nothing is written
when the service is active again: an object that is rebuilt from the cache then goes on from the
old time. The time is also too old when the clock has been set back.

A log beside the state has the times at which a handler for the service has read that it is
active.
-/

namespace Sspl

namespace ServiceMonitor

variable {ν : Type}

/-- No time in the log is later. -/
def Covers (log : List Int) (time : Int) : Prop := ∀ seen ∈ log, seen ≤ time

/-- What the handler reads that is called when `EnabledState` is entered. -/
def Bus.reply (bus : Bus) : Option UnitActiveState :=
  if bus.connects then bus.activeState else none

/-- The time stamp after the handler has read a state covers the log, where the object was in
the given state and had the given stamp. -/
structure Dates (log : List Int) (now : Int) (listed : Prop) (state : ServiceState) (stamp : Int)
    (reply : Option UnitActiveState) : Prop where
  /-- It is active, and the name stays in `non_active`. -/
  active : reply = some .active → listed → state ≠ .inactive → now ≤ stamp ∧ Covers log stamp
  /-- It enters `InactiveState`. -/
  down : ∀ u, reply = some u → u.Down → state = .active → Covers log now
  other : reply ≠ some .active → (∀ u, reply = some u → u.Down → state ≠ .active) → listed →
    Covers log stamp

/-- The sensor with the times at which the service was read active. -/
structure Logged (ν : Type) where
  state : State ν
  log : List Int

section

variable [DecidableEq ν]

/-- The time, if the entry has read that the service is active. -/
def Entry.seen (now : Int) : Option Entry → List Int
  | some (.enabled bus) => if bus.reply = some .active then [now] else []
  | _ => []

/-- The time at which a handler for the name reads that it is active, if one does. -/
def observed (n : ν) (s : State ν) : Action ν → List Int
  | .propertiesChanged m _ reply now => if m = n ∧ reply = some .active then [now] else []
  | .visit m bus now => Entry.seen now (entering n s (.visit m bus now))
  | .unitFilesChanged m bus now => Entry.seen now (entering n s (.unitFilesChanged m bus now))
  | _ => []

def Logged.next (cfg : Config ν) (n : ν) (s : Logged ν) (a : Action ν) : Option (Logged ν) :=
  (ServiceMonitor.next cfg s.state a).map fun t => ⟨t, observed n s.state a ++ s.log⟩

/-- The sensor with the log of one service, from before its first start. -/
def logged (cfg : Config ν) (n : ν) : Transition.System (Logged ν) (Action ν) where
  init s := s = ⟨fresh cfg, []⟩
  next := Logged.next cfg n

/-- Where the check raises an alert, the service was not observed active within the threshold
before. -/
def Lawful (cfg : Config ν) (n : ν) (s : Logged ν) : Prop :=
  ∀ bus now u, next cfg (s.state.enterLoop cfg .nonActive) (.visit n bus now) = some u →
    u.checkAlerts n ≠ s.state.checkAlerts n →
      ∀ seen ∈ s.log, ¬ (now - cfg.nonactiveThreshold ≤ seen ∧ seen ≤ now)

/-- The state that an object rebuilt from the cache starts with. -/
def loadedState (n : ν) (c : Shared ν) : ServiceState := (c.monitorState n).getD .active

def loadedStamp (now : Int) (n : ν) (c : Shared ν) : Int :=
  ((c.cache n).map Cached.nonactiveEnterTimestamp).getD now

/-- The name is in `non_active` then. -/
def LoadedListed (n : ν) (c : Shared ν) : Prop :=
  loadedState n c = .inactive ∨ loadedState n c = .active ∧ n ∈ c.nonActive

/-- The object of the service reads a state. -/
def ReadsOwn (log : List Int) (now : Int) (x : Service ν) (c : Shared ν)
    (reply : Option UnitActiveState) : Prop :=
  Dates log now (x.name ∈ c.nonActive) x.serviceState x.nonactiveEnterTimestamp reply

/-- An earlier object `y` of the service reads a state. -/
structure ReadsOther (log : List Int) (now : Int) (x y : Service ν) (c : Shared ν)
    (u : UnitActiveState) : Prop where
  active : u = .active → x.name ∈ c.nonActive → y.serviceState ≠ .inactive →
    now ≤ x.nonactiveEnterTimestamp
  down : u.Down → y.serviceState = .active → Covers log x.nonactiveEnterTimestamp

/-- The object of the service is rebuilt, and put in its place if `is_enabled` can be read. -/
structure Rebuilds (log : List Int) (now : Int) (n : ν) (s : State ν) (bus : Bus) : Prop where
  enabled : bus.isEnabled = some true → Dates log now (LoadedListed n s.shared)
    (loadedState n s.shared) (loadedStamp now n s.shared) bus.reply
  unread : bus.isEnabled = none → loadedState n s.shared = .inactive → ∀ x,
    s.services n = some x → Covers log x.nonactiveEnterTimestamp

/-- After the step, the time stamp of a service in `non_active` is not before any time at which it
was read active. -/
def Timely (n : ν) (s : Logged ν) : Action ν → Prop
  | .visit m bus now => m = n → ∀ l todo, s.state.point = .within l todo →
      (l = .starting ∨ l = .errored → bus.unit = true → Rebuilds s.log now n s.state bus) ∧
      (l = .resubscribing → ∀ x, s.state.services n = some x → x.unitState ≠ some .enabled →
        ReadsOwn s.log now x s.state.shared bus.reply)
  | .unitFilesChanged m bus now => m = n → bus.isEnabled = some true → ∀ x,
      s.state.services n = some x → x.unitState ≠ some .enabled →
        ReadsOwn s.log now x s.state.shared bus.reply
  | .propertiesChanged m which reply now => m = n → ∀ y, s.state.receiver n which = some y →
      ∀ u, reply = some u → (which = none → ReadsOwn s.log now y s.state.shared (some u)) ∧
        (which ≠ none → ∀ x, s.state.services n = some x →
          ReadsOther s.log now x y s.state.shared u)
  | _ => True

/-- The time stamp of a service in `non_active` covers the log. -/
def Dated (n : ν) (s : State ν) (log : List Int) : Prop :=
  ∀ x, s.services n = some x → n ∈ s.shared.nonActive → Covers log x.nonactiveEnterTimestamp

end

section Methods

variable [DecidableEq ν] {n : ν} {x : Service ν} {c : Shared ν} {cfg : Config ν} {bus : Bus}
  {now : Int} {log : List Int}

theorem covers_append {seen : List Int} {time : Int} :
    Covers (seen ++ log) time ↔ Covers seen time ∧ Covers log time := by
  simp only [Covers, List.mem_append, or_imp, forall_and]

/-- What the handler does to the time stamp, and to the name in `non_active`. -/
theorem react_nonActive (now : Int) (c : Shared ν) {u : UnitActiveState} (state : x.state = some u)
    (moved : x.state ≠ x.previousState) :
    ((react now x c).1.nonactiveEnterTimestamp =
      if u.Down ∧ x.serviceState = .active then now else x.nonactiveEnterTimestamp) ∧
    (x.name ∈ (react now x c).2.nonActive ↔ u.Down ∧ x.serviceState = .active ∨
      x.name ∈ c.nonActive ∧ (u = .active → x.serviceState ≠ .inactive)) := by
  obtain ⟨rfl, service, run⟩ | ⟨rfl, service, run⟩ | ⟨rfl, service, run⟩ | ⟨rfl, service, run⟩ |
      ⟨rfl, service, run⟩ | ⟨down, r, run, ⟨service, rfl⟩ | ⟨service, rfl⟩ | ⟨service, rfl⟩⟩ :=
    react_cases now c state moved <;> rw [run]
  · simp [service, UnitActiveState.Down]
  · simp [service, UnitActiveState.Down]
  · simp [service, UnitActiveState.Down]
  · simp [UnitActiveState.Down]
  · simp [UnitActiveState.Down]
  · simp [service, down.1]
  · simp [service, down.1]
  · simp [service, down]

/-- A reading that is not there changes nothing. -/
theorem dates_none {listed : Prop} {state : ServiceState} {stamp : Int} :
    Dates log now listed state stamp none ↔ (listed → Covers log stamp) := by
  constructor
  · exact fun h => h.other nofun nofun
  · exact fun h => ⟨nofun, nofun, fun _ _ => h⟩

/-- Where the stamp and the name in `non_active` are as the handler leaves them. -/
theorem dates_some {listed after : Prop} {state : ServiceState} {stamp stamped : Int}
    {u : UnitActiveState} (time : stamped = if u.Down ∧ state = .active then now else stamp)
    (stays : after ↔ u.Down ∧ state = .active ∨ listed ∧ (u = .active → state ≠ .inactive)) :
    (after → Covers ((if some u = some .active then [now] else []) ++ log) stamped) ↔
      Dates log now listed state stamp (some u) := by
  by_cases active : u = .active
  · subst active
    have up : ¬ (UnitActiveState.Down .active ∧ state = .active) := by simp [UnitActiveState.Down]
    rw [if_neg up] at time
    rw [stays, if_pos rfl, covers_append, time]
    constructor
    · intro h
      refine ⟨fun _ mem other => ?_, fun u read down => ?_, fun other => absurd rfl other⟩
      · obtain ⟨seen, covers⟩ := h (.inr ⟨mem, fun _ => other⟩)
        exact ⟨seen now (.head _), covers⟩
      · cases read
        exact absurd down.1 (not_not.mpr rfl)
    · rintro h (impossible | ⟨mem, other⟩)
      · exact absurd impossible up
      · obtain ⟨seen, covers⟩ := h.active rfl mem (other rfl)
        exact ⟨fun time only => by rwa [List.mem_singleton.mp only], covers⟩
  · rw [if_neg fun same => active (Option.some.inj same), List.nil_append]
    by_cases enters : u.Down ∧ state = .active
    · rw [if_pos enters] at time
      rw [time, stays]
      constructor
      · intro h
        refine ⟨fun same => absurd (Option.some.inj same) active, fun _ _ _ _ => h (.inl enters),
          fun _ never => absurd enters.2 (never u rfl enters.1)⟩
      · exact fun h _ => h.down u rfl enters.1 enters.2
    · rw [if_neg enters] at time
      rw [time, stays, or_iff_right enters, and_iff_left fun same => absurd same active]
      constructor
      · intro h
        refine ⟨fun same => absurd (Option.some.inj same) active, fun v read down same => ?_,
          fun _ _ => h⟩
        cases read
        exact absurd ⟨down, same⟩ enters
      · refine fun h => h.other (fun same => active (Option.some.inj same)) ?_
        intro v read down same
        cases read
        exact enters ⟨down, same⟩

theorem handler_nonActive {u : UnitActiveState} {r : Service ν × Shared ν} (moved : x.Moved)
    (h : propertiesChangedHandler now (some u) x c = some r) :
    (r.1.nonactiveEnterTimestamp =
      if u.Down ∧ x.serviceState = .active then now else x.nonactiveEnterTimestamp) ∧
    (x.name ∈ r.2.nonActive ↔ u.Down ∧ x.serviceState = .active ∨
      x.name ∈ c.nonActive ∧ (u = .active → x.serviceState ≠ .inactive)) := by
  cases h
  obtain ⟨state, changed⟩ := observe_state x u moved
  have stamp : (x.observe u).nonactiveEnterTimestamp = x.nonactiveEnterTimestamp := by
    unfold Service.observe
    split <;> rfl
  have observed := react_nonActive now c state changed
  rwa [observe_name, observe_serviceState, stamp] at observed

theorem handler_dates (log : List Int) {u : UnitActiveState} {r : Service ν × Shared ν}
    (moved : x.Moved) (h : propertiesChangedHandler now (some u) x c = some r) :
    (x.name ∈ r.2.nonActive →
      Covers ((if some u = some .active then [now] else []) ++ log) r.1.nonactiveEnterTimestamp) ↔
      ReadsOwn log now x c (some u) := by
  obtain ⟨time, stays⟩ := handler_nonActive moved h
  exact dates_some time stays

/-- What is done when the service becomes enabled. -/
theorem enabled_dates (cfg : Config ν) (bus : Bus) (log : List Int) (now : Int)
    (moved : x.Moved) (c : Shared ν) (change : x.unitState ≠ some .enabled) :
    (x.name ∈ (newUnitState cfg bus now .enabled x c).2.nonActive →
      Covers (Entry.seen now (some (.enabled bus)) ++ log)
        (newUnitState cfg bus now .enabled x c).1.nonactiveEnterTimestamp) ↔
      ReadsOwn log now x c bus.reply := by
  have entered : newUnitState cfg bus now .enabled x c =
      EnabledState.enter cfg bus now { x with unitState := some .enabled } c := if_pos change
  have unread : bus.reply = none → Entry.seen now (some (.enabled bus)) ++ log = log := by
    intro none
    rw [Entry.seen, none]
    rfl
  rw [entered, EnabledState.enter]
  cases connects : bus.connects with
  | false =>
      have none : bus.reply = none := by rw [Bus.reply, connects]; rfl
      rw [unread none, none, if_neg Bool.false_ne_true]
      exact dates_none.symm
  | true =>
      have reply : bus.reply = bus.activeState := by rw [Bus.reply, connects]; rfl
      rw [if_pos rfl]
      cases read : bus.activeState with
      | none =>
          rw [unread (reply.trans read), reply, read]
          exact dates_none.symm
      | some u =>
          rw [Entry.seen, reply, read]
          exact handler_dates (x := ({ x with unitState := some .enabled } : Service ν).subscribe)
            (c := c.discardMonitoringDisabled x.name) log moved rfl

end Methods

section Steps

variable [DecidableEq ν] {n m : ν} {s t : State ν} {x : Service ν} {c : Shared ν} {cfg : Config ν}
  {bus : Bus} {now : Int} {log : List Int}

/-- What a rebuilt object starts with. -/
theorem load_starts (now : Int) (n : ν) (c : Shared ν) :
    (load now n c).1.serviceState = loadedState n c ∧
      (load now n c).1.nonactiveEnterTimestamp = loadedStamp now n c ∧
      (n ∈ (load now n c).2.nonActive ↔ LoadedListed n c) := by
  have state : (load now n c).1.serviceState = loadedState n c := by
    unfold load loadedState Shared.monitorState
    split
    · rename_i data found
      rw [found]
      exact newServiceState_serviceState now data.serviceMonitorState _ c
    · rename_i missing
      rw [missing]
      rfl
  have stamp : (load now n c).1.nonactiveEnterTimestamp = loadedStamp now n c := by
    unfold load loadedStamp
    split
    · rename_i data found
      rw [found]
      rfl
    · rename_i missing
      rw [missing]
      rfl
  refine ⟨state, stamp, ?_⟩
  rw [LoadedListed, loadedState]
  obtain ⟨known, same⟩ | ⟨known, idle⟩ | ⟨known, mem, -⟩ := load_sets now n c
  · rw [same]
    obtain known | known := known <;> simp [known]
  · simp [known, idle.nonActive]
  · simp [known, mem]

theorem newUnitState_disabled_nonActive (cfg : Config ν) (bus : Bus) (now : Int) (c : Shared ν)
    (change : x.unitState ≠ some .disabled) :
    x.name ∉ (newUnitState cfg bus now .disabled x c).2.nonActive := by
  rw [newUnitState, if_pos change]
  exact fun mem => (Finset.mem_erase.mp mem).1 rfl

omit [DecidableEq ν] in
theorem dated_setService {r : Service ν × Shared ν} (shared : t.shared = r.2)
    (found : t.services n = some r.1) : Dated n t log ↔
      (n ∈ r.2.nonActive → Covers log r.1.nonactiveEnterTimestamp) := by
  rw [Dated, found, shared]
  simp only [Option.some.injEq, forall_eq']

theorem Undisturbed.dated (h : Undisturbed n s t) (dated : Dated n s log) : Dated n t log :=
  fun x found mem => dated x (h.service ▸ found) (h.shared.nonActive.mp mem)

theorem rebuilds_unread (dated : Dated n s log) (unread : bus.isEnabled = none) :
    Dated n { s with shared := (load now n s.shared).2 } log ↔ Rebuilds log now n s bus := by
  obtain ⟨-, -, listed⟩ := load_starts now n s.shared
  have covers : Dated n { s with shared := (load now n s.shared).2 } log ↔
      (loadedState n s.shared = .inactive → ∀ x, s.services n = some x →
        Covers log x.nonactiveEnterTimestamp) := by
    constructor
    · exact fun h state x found => h x found (listed.mpr (.inl state))
    · intro h x found mem
      obtain state | ⟨-, mem⟩ := listed.mp mem
      · exact h state x found
      · exact dated x found mem
  rw [covers]
  constructor
  · refine fun h => ⟨fun enabled => ?_, fun _ => h⟩
    cases unread.symm.trans enabled
  · exact fun h => h.unread unread

theorem initializeService_dated (dated : Dated n s log) (cfg : Config ν) (bus : Bus) (now : Int) :
    Dated n (s.initializeService cfg n bus now)
      (Entry.seen now (if bus.unit then Entry.read bus none else none) ++ log) ↔
        (bus.unit = true → Rebuilds log now n s bus) := by
  have name := load_name now n s.shared
  have unit := (load_new now n s.shared).1
  rw [State.initializeService]
  cases loaded : bus.unit with
  | false => exact iff_of_true dated fun h => by cases h
  | true =>
      rw [if_pos rfl, if_pos rfl, imp_iff_right rfl, Entry.read]
      dsimp only
      cases read : bus.isEnabled with
      | none =>
          simp only [handleUnitStateChange, read, Option.map_none, Option.bind_none]
          exact rebuilds_unread dated read
      | some isEnabled =>
          simp only [handleUnitStateChange, read, Option.map_some, Option.bind_some]
          cases isEnabled with
          | true =>
              have own := enabled_dates cfg bus log now
                (load_moved now n s.shared) (load now n s.shared).2 (unit.trans_ne (by decide))
              obtain ⟨state, stamp, listed⟩ := load_starts now n s.shared
              rw [ReadsOwn, name, state, stamp, propext listed] at own
              refine (dated_setService rfl (Function.update_self ..)).trans (own.trans ?_)
              constructor
              · refine fun h => ⟨fun _ => h, fun unread => ?_⟩
                cases read.symm.trans unread
              · exact fun h => h.enabled read
          | false =>
              have off := newUnitState_disabled_nonActive cfg bus now (load now n s.shared).2
                (unit.trans_ne (by decide))
              rw [name] at off
              rw [if_neg Bool.false_ne_true]
              refine iff_of_true ?_ ⟨fun enabled => ?_, fun unread => ?_⟩
              · refine (dated_setService rfl (Function.update_self ..)).mpr fun mem => ?_
                exact absurd mem off
              · cases read.symm.trans enabled
              · cases read.symm.trans unread

theorem checkService_dated (names : Named s) (dated : Dated n s log) (found : s.services n = some x)
    (overdue : Bool) {new : ServiceState} (settled : new ≠ .inactive) (alert : Alert) (now : Int) :
    Dated n (s.checkService cfg x overdue new alert now) log := by
  obtain rfl := names.services n x found
  unfold State.checkService
  split
  · have kept : x.name ∈ (newServiceState now new x s.shared).2.nonActive →
        Covers log (newServiceState now new x s.shared).1.nonactiveEnterTimestamp := by
      by_cases change : x.serviceState ≠ new
      · exact fun mem => absurd mem (newServiceState_leaves now change settled).1
      · rw [newServiceState, if_neg change]
        exact dated x found
    intro y here mem
    simp only [State.raiseAlert, State.setService, Function.update_self,
      Option.some.injEq] at here
    exact here ▸ kept mem
  · exact dated

/-- The object of the name becomes enabled. -/
theorem enabling_dated (names : Named s) (moving : Moving n s) (found : s.services n = some x)
    (change : x.unitState ≠ some .enabled) :
    Dated n (s.setService n (newUnitState cfg bus now .enabled x s.shared))
      (Entry.seen now (some (.enabled bus)) ++ log) ↔ ReadsOwn log now x s.shared bus.reply := by
  have own := enabled_dates cfg bus log now (moving.service x found) s.shared
    change
  rw [names.services n x found] at own
  exact (dated_setService rfl (Function.update_self ..)).trans own

theorem visit_dated (names : Named s) (moving : Moving n s) (dated : Dated n s log) {l : Loop}
    {todo : Finset ν} (point : s.point = .within l todo)
    (visited : s.visit cfg m bus now l = some t) :
    Dated n t (observed n s (.visit m bus now) ++ log) ↔ Timely n ⟨s, log⟩ (.visit m bus now) := by
  by_cases same : m = n
  · subst same
    rw [observed, entering, if_pos rfl, point]
    have elsewhere : Dated m t log → l ≠ .starting → l ≠ .errored → l ≠ .resubscribing →
        (Dated m t log ↔ Timely m ⟨s, log⟩ (.visit m bus now)) := by
      intro after first second third
      refine iff_of_true after fun _ l' todo' here => ?_
      cases point.symm.trans here
      exact ⟨fun init => (init.elim first second).elim, fun again => absurd again third⟩
    have initialized : (l = .starting ∨ l = .errored) →
        ((bus.unit = true → Rebuilds log now m s bus) ↔
          Timely m ⟨s, log⟩ (.visit m bus now)) := by
      intro init
      constructor
      · intro h _ l' todo' here
        cases point.symm.trans here
        refine ⟨fun _ => h, fun again => ?_⟩
        obtain rfl | rfl := init <;> cases again
      · exact fun h => (h rfl l todo point).1 init
    cases l with
    | starting =>
        cases visited
        exact (initializeService_dated dated cfg bus now).trans (initialized (.inl rfl))
    | errored =>
        cases visited
        exact (initializeService_dated dated cfg bus now).trans (initialized (.inr rfl))
    | resubscribing =>
        obtain ⟨x, found, rfl⟩ := Option.map_eq_some_iff.mp visited
        rw [found, Option.bind_some]
        have timely : Timely m ⟨s, log⟩ (.visit m bus now) ↔ (x.unitState ≠ some .enabled →
            ReadsOwn log now x s.shared bus.reply) := by
          constructor
          · exact fun h change => (h rfl _ todo point).2 rfl x found change
          · intro h _ l' todo' here
            cases point.symm.trans here
            refine ⟨fun init => (by obtain first | second := init <;> cases ‹_ = _›), ?_⟩
            intro _ y other change
            cases found.symm.trans other
            exact h change
        rw [timely]
        by_cases enabled : x.unitState = some .enabled
        · have still : newUnitState cfg bus now .enabled x s.shared = (x, s.shared) :=
            if_neg (not_not.mpr enabled)
          rw [if_pos enabled, still]
          refine iff_of_true ?_ fun change => absurd enabled change
          exact (dated_setService rfl (Function.update_self ..)).mpr (dated x found)
        · rw [if_neg enabled, imp_iff_right enabled]
          exact enabling_dated names moving found enabled
    | activeWaiting =>
        obtain ⟨x, found, rfl⟩ := Option.map_eq_some_iff.mp visited
        refine elsewhere (checkService_dated names dated found _ ?_ _ now) ?_ ?_ ?_ <;> decide
    | failedWaiting =>
        obtain ⟨x, found, rfl⟩ := Option.map_eq_some_iff.mp visited
        refine elsewhere (checkService_dated names dated found _ ?_ _ now) ?_ ?_ ?_ <;> decide
    | nonActive =>
        obtain ⟨x, found, rfl⟩ := Option.map_eq_some_iff.mp visited
        refine elsewhere (checkService_dated names dated found _ ?_ _ now) ?_ ?_ ?_ <;> decide
  · rw [observed, entering, if_neg same]
    refine iff_of_true ((visit_undisturbed names (Ne.symm same) visited).dated dated) ?_
    exact fun here => absurd here same

theorem unitFilesChanged_dated (names : Named s) (moving : Moving n s) (dated : Dated n s log)
    (found : s.services m = some x) {r : Service ν × Shared ν}
    (changed : handleUnitStateChange cfg bus now x s.shared = some r) :
    Dated n (s.setService m r) (observed n s (.unitFilesChanged m bus now) ++ log) ↔
      Timely n ⟨s, log⟩ (.unitFilesChanged m bus now) := by
  by_cases same : m = n
  · subst same
    rw [observed, entering, if_pos rfl, found, Option.bind_some]
    obtain ⟨isEnabled, read, rfl⟩ := Option.map_eq_some_iff.mp changed
    rw [Entry.read, read, Option.bind_some]
    cases isEnabled with
    | true =>
        have timely : Timely m ⟨s, log⟩ (.unitFilesChanged m bus now) ↔
            (x.unitState ≠ some .enabled → ReadsOwn log now x s.shared bus.reply) := by
          constructor
          · exact fun h change => h rfl read x found change
          · intro h _ _ y other change
            cases found.symm.trans other
            exact h change
        rw [if_pos rfl, if_pos rfl, timely]
        by_cases enabled : x.unitState = some .enabled
        · have still : newUnitState cfg bus now .enabled x s.shared = (x, s.shared) :=
            if_neg (not_not.mpr enabled)
          rw [if_pos enabled, still]
          refine iff_of_true ?_ fun change => absurd enabled change
          exact (dated_setService rfl (Function.update_self ..)).mpr (dated x found)
        · rw [if_neg enabled, imp_iff_right enabled]
          exact enabling_dated names moving found enabled
    | false =>
        rw [if_neg Bool.false_ne_true, if_neg Bool.false_ne_true]
        refine iff_of_true ?_ fun _ enabled => by cases read.symm.trans enabled
        by_cases disabled : x.unitState = some .disabled
        · have still : newUnitState cfg bus now .disabled x s.shared = (x, s.shared) :=
            if_neg (not_not.mpr disabled)
          rw [if_pos disabled, still]
          exact (dated_setService rfl (Function.update_self ..)).mpr (dated x found)
        · have off := newUnitState_disabled_nonActive cfg bus now s.shared disabled
          rw [names.services m x found] at off
          rw [if_neg disabled]
          exact (dated_setService rfl (Function.update_self ..)).mpr fun mem => absurd mem off
  · rw [observed, entering, if_neg same]
    refine iff_of_true ((setService_undisturbed names (Ne.symm same) found
      (Keeps.handleUnitStateChange changed).local_).dated dated) ?_
    exact fun here => absurd here same

/-- An earlier object reads a state, and the time stamp of the current one stays. -/
theorem readsOther_iff {y : Service ν} {u : UnitActiveState} {r : Service ν × Shared ν}
    (dated : x.name ∈ c.nonActive → Covers log x.nonactiveEnterTimestamp)
    (name : y.name = x.name) (moved : y.Moved)
    (run : propertiesChangedHandler now (some u) y c = some r) :
    (x.name ∈ r.2.nonActive →
      Covers ((if some u = some .active then [now] else []) ++ log) x.nonactiveEnterTimestamp) ↔
      ReadsOther log now x y c u := by
  have stays := (handler_nonActive moved run).2
  rw [name] at stays
  rw [stays]
  by_cases active : u = .active
  · subst active
    have up : ¬ (UnitActiveState.Down .active ∧ y.serviceState = .active) := by
      simp [UnitActiveState.Down]
    rw [if_pos rfl, covers_append, or_iff_right up]
    constructor
    · intro h
      refine ⟨fun _ mem other => ?_, fun down => absurd rfl down.1⟩
      exact (h ⟨mem, fun _ => other⟩).1 now (.head _)
    · rintro h ⟨mem, other⟩
      refine ⟨fun time only => ?_, dated mem⟩
      rw [List.mem_singleton.mp only]
      exact h.active rfl mem (other rfl)
  · rw [if_neg fun same => active (Option.some.inj same), List.nil_append,
      and_iff_left fun same => absurd same active]
    constructor
    · intro h
      exact ⟨fun same => absurd same active, fun down state => h (.inl ⟨down, state⟩)⟩
    · rintro h (⟨down, state⟩ | mem)
      · exact h.down down state
      · exact dated mem

theorem signal_dated (names : Named s) (moving : Moving n s) (dated : Dated n s log)
    {which : Option Nat} {reply : Option UnitActiveState}
    (handled : s.handleSignal m which reply now = some t) :
    Dated n t (observed n s (.propertiesChanged m which reply now) ++ log) ↔
      Timely n ⟨s, log⟩ (.propertiesChanged m which reply now) := by
  by_cases same : m = n
  · subst same
    rw [observed]
    simp only [true_and]
    obtain ⟨y, received, ⟨rfl, rfl⟩ | ⟨u, r, rfl, run, shared, services⟩⟩ :=
      handleSignal_receiver handled
    · rw [if_neg nofun]
      exact iff_of_true dated fun _ _ _ u read => by cases read
    · obtain ⟨rfl, services⟩ | ⟨other, services⟩ := services
      · have own := handler_dates log (moving.service y received) run
        rw [names.services m y received] at own
        have found : t.services m = some r.1 := by rw [services, Function.update_self]
        rw [dated_setService shared found, own]
        constructor
        · intro h _ y' here u' read
          cases received.symm.trans here
          cases read
          exact ⟨fun _ => h, fun other => absurd rfl other⟩
        · exact fun h => (h rfl y received u rfl).1 rfl
      · obtain ⟨i, rfl⟩ := Option.ne_none_iff_exists'.mp other
        have mem := List.mem_of_getElem? received
        have reads : ∀ x, s.services m = some x → ((m ∈ t.shared.nonActive →
            Covers ((if some u = some .active then [now] else []) ++ log)
              x.nonactiveEnterTimestamp) ↔ ReadsOther log now x y s.shared u) := by
          intro x found
          have name := names.services m x found
          have before : x.name ∈ s.shared.nonActive → Covers log x.nonactiveEnterTimestamp := by
            rw [name]
            exact dated x found
          have read := readsOther_iff (x := x) before ((names.earlier m y mem).trans name.symm)
            (moving.earlier y mem) run
          rwa [name, ← shared] at read
        constructor
        · intro h _ y' here u' read
          cases received.symm.trans here
          cases read
          refine ⟨fun none => (by cases none), fun _ x found => ?_⟩
          exact (reads x found).mp (h x (by rw [services]; exact found))
        · intro h x found
          rw [services] at found
          exact (reads x found).mpr ((h rfl y received u rfl).2 other x found)
  · rw [observed, if_neg fun both => same both.1]
    refine iff_of_true ((handleSignal_undisturbed names (Ne.symm same) handled).dated dated) ?_
    exact fun here => absurd here same

theorem step_dated {a : Action ν} (names : Named s) (moving : Moving n s) (dated : Dated n s log)
    (step : next cfg s a = some t) :
    Dated n t (observed n s a ++ log) ↔ Timely n ⟨s, log⟩ a := by
  cases a with
  | restartProcess =>
      cases next_cases step
      exact iff_of_true (fun _ found => by cases found) trivial
  | restartSensor =>
      cases next_cases step
      exact iff_of_true dated trivial
  | visit m bus now =>
      simp only [next] at step
      split at step
      · rename_i l todo point
        split at step
        · split at step
          · rename_i u visited
            cases step
            have moved := visit_dated names moving dated point visited
            exact moved
          · rename_i missing
            cases step
            rw [observed, entering_of_stop point missing]
            refine iff_of_true dated fun here l' todo' point' => ?_
            cases point.symm.trans point'
            subst here
            refine ⟨fun init => ?_, fun again x found => ?_⟩
            · obtain rfl | rfl := init <;> cases missing
            · subst again
              cases found.symm.trans (Option.map_eq_none_iff.mp missing)
        · cases step
      · cases step
  | advance => cases next_cases step <;> exact iff_of_true dated trivial
  | poll =>
      cases next_cases step
      exact iff_of_true dated trivial
  | propertiesChanged m which reply now =>
      cases next_cases step with
      | signal point handled => exact signal_dated names moving dated handled
  | unitFilesChanged m bus now =>
      simp only [next] at step
      split at step
      · obtain ⟨x, found, rfl⟩ := Option.map_eq_some_iff.mp step
        cases changed : handleUnitStateChange cfg bus now x s.shared with
        | some r => exact unitFilesChanged_dated names moving dated found changed
        | none =>
            have unread : bus.isEnabled = none := Option.map_eq_none_iff.mp changed
            rw [observed, entering_of_unread unread]
            exact iff_of_true dated fun _ enabled => by cases unread.symm.trans enabled
      · cases step
  | processAlert => cases next_cases step <;> exact iff_of_true dated trivial

/-- The loop over `non_active` raises an alert for an object whose threshold has passed. -/
theorem raised_nonActive {u : State ν}
    (step : next cfg (s.enterLoop cfg .nonActive) (.visit n bus now) = some u)
    (raised : u.checkAlerts n ≠ s.checkAlerts n) : ∃ x, s.services n = some x ∧
      n ∈ s.shared.nonActive ∧ cfg.nonactiveThreshold < now - x.nonactiveEnterTimestamp := by
  cases next_cases step with
  | stop visited => exact absurd rfl raised
  | @visit l todo m bus now u point listed visited =>
      cases point
      obtain ⟨x, found, rfl⟩ := Option.map_eq_some_iff.mp visited
      refine ⟨x, found, listed, ?_⟩
      by_contra early
      have notOver : x.isNonactiveForThresholdTime cfg now = false := decide_eq_false early
      refine raised ?_
      rw [State.checkService, notOver]
      rfl

theorem lawful_of_dated {s : Logged ν}
    (dated : 0 ≤ cfg.nonactiveThreshold → Dated n s.state s.log) : Lawful cfg n s := by
  rintro bus now u step raised seen mem ⟨after, before⟩
  obtain ⟨x, found, listed, passed⟩ := raised_nonActive step raised
  have covered := dated (by omega) x found listed seen mem
  omega

theorem dated_of_lawful {s : Logged ν} (names : Named s.state) (lawful : Lawful cfg n s)
    (threshold : 0 ≤ cfg.nonactiveThreshold) : Dated n s.state s.log := by
  intro x found listed seen mem
  by_contra later
  -- a check that is late enough for the alert, and not earlier than the observation
  let now := max seen (x.nonactiveEnterTimestamp + cfg.nonactiveThreshold + 1)
  have passed : x.isNonactiveForThresholdTime cfg now = true := by
    rw [Service.isNonactiveForThresholdTime, decide_eq_true_eq]
    omega
  have bus : Bus := ⟨true, none, true, none⟩
  have raised : ∃ u, next cfg (s.state.enterLoop cfg .nonActive) (.visit n bus now) = some u ∧
      u.checkAlerts n = s.state.checkAlerts n ++ [inactiveAlert.alertType] := by
    refine visit_overdue names found bus .failed inactiveAlert now rfl listed ?_
    rw [← passed]
    exact congrArg (Option.map _) found
  obtain ⟨u, step, grown⟩ := raised
  refine lawful bus now u step ?_ seen mem ⟨by omega, by omega⟩
  rw [grown]
  simp

/-- What holds in every state of a timely run. -/
structure Standing (cfg : Config ν) (n : ν) (s : Logged ν) : Prop where
  names : Named s.state
  moving : Moving n s.state
  dated : 0 ≤ cfg.nonactiveThreshold → Dated n s.state s.log

/-- The alert for a service that is not active goes by the law, in every state of a run, exactly in
the timely runs: the time from which the service is counted as not active is never before one at
which it was read active. -/
theorem inactive_alert_lawful_iff {actions : List (Action ν)} {t : Logged ν}
    (run : (logged cfg n).FreeRuns ⟨fresh cfg, []⟩ actions t) :
    (logged cfg n).Always (Lawful cfg n) ⟨fresh cfg, []⟩ actions ↔
      (logged cfg n).Runs (fun s a => 0 ≤ cfg.nonactiveThreshold → Timely n s a) ⟨fresh cfg, []⟩
        actions t := by
  have start : Standing cfg n ⟨fresh cfg, []⟩ :=
    ⟨restarted_named cfg _, restarted_moving cfg n _, fun _ _ found => by cases found⟩
  refine run.always_iff (I := Standing cfg n) (fun _ h => lawful_of_dated h.dated) ?_ ?_
    start
  · intro s a t h timely step
    obtain ⟨next, taken, rfl⟩ := Option.map_eq_some_iff.mp step
    refine ⟨h.names.step taken, h.moving.step h.names taken, fun threshold => ?_⟩
    exact (step_dated h.names h.moving (h.dated threshold) taken).mpr (timely threshold)
  · intro s a t h step lawful threshold
    obtain ⟨next, taken, rfl⟩ := Option.map_eq_some_iff.mp step
    exact (step_dated h.names h.moving (h.dated threshold) taken).mp
      (dated_of_lawful (h.names.step taken) lawful threshold)

end Steps

namespace Example

/-- The service is active at first, and stops. -/
def stopping : List (Action Unit) :=
  [.visit () (answers .active) 0, .advance, .propertiesChanged () none (some .inactive) 10]

theorem stopping_timely : ∃ t : Logged Unit,
    (logged config ()).Runs (fun s a => 0 ≤ config.nonactiveThreshold → Timely () s a)
      ⟨fresh config, []⟩ stopping t ∧ t.log = [0] := by
  refine ⟨_, .cons (fun _ => ?_) rfl (.cons (fun _ => trivial) rfl
    (.cons (fun _ => ?_) rfl (.nil _))), rfl⟩
  · rintro - l todo point
    cases point
    refine ⟨fun _ _ => ⟨fun _ => ?_, nofun⟩, nofun⟩
    exact ⟨fun _ _ _ => ⟨le_rfl, nofun⟩, fun _ _ _ _ => nofun, fun _ _ _ => nofun⟩
  · rintro - y received u read
    cases received
    cases read
    refine ⟨fun _ => ⟨nofun, fun _ _ _ _ => ?_, fun _ other => ?_⟩, fun other => absurd rfl other⟩
    · intro seen mem
      have only : seen ∈ [(0 : Int)] := mem
      rw [List.mem_singleton.mp only]
      decide
    · exact absurd rfl (other _ rfl (by decide))

/-- The service is stopped while the sensor watches it. -/
theorem inactive_alert_stopping : ∃ t : Logged Unit, t.log = [0] ∧
    (logged config ()).Always (Lawful config ()) ⟨fresh config, []⟩ stopping := by
  obtain ⟨t, run, log⟩ := stopping_timely
  exact ⟨t, log, (inactive_alert_lawful_iff (run.mono fun _ _ _ => trivial)).mpr run⟩

/-- The service is active for a while between two restarts. -/
def resuming : List (Action Unit) :=
  [.visit () (answers .inactive) 0, .advance, .propertiesChanged () none (some .active) 100,
    .restartProcess, .visit () (answers .inactive) 190, .advance]

theorem resuming_alerts :
    ((logged config ()).run ⟨fresh config, []⟩ resuming).map (fun s =>
      (s.log, s.state.checkAlerts (), (next config (s.state.enterLoop config .nonActive)
        (.visit () (answers .inactive) 190)).map fun u => u.checkAlerts ())) =
      some ([100], [], some [.fault]) := by
  decide

/-- The service was active in between. A new process takes the time stamp of the first time from
the cache, and alerts it as if it had been down since then. -/
theorem inactive_alert_early : ¬ ∀ actions t,
    (logged config ()).FreeRuns ⟨fresh config, []⟩ actions t →
      (logged config ()).Always (Lawful config ()) ⟨fresh config, []⟩ actions := by
  intro all
  obtain ⟨s, replay, found⟩ := Option.map_eq_some_iff.mp resuming_alerts
  simp only [Prod.mk.injEq] at found
  obtain ⟨log, before, check⟩ := found
  obtain ⟨u, step, after⟩ := Option.map_eq_some_iff.mp check
  have run := (Transition.System.run_eq_some_iff _).mp replay
  have lawful := all _ s run resuming [] s (List.append_nil _).symm run
  refine lawful _ _ u step (by rw [before, after]; decide) 100 (by rw [log]; decide) ?_
  decide

end Example

end ServiceMonitor

end Sspl

import Sspl.Systemd.Alternation

/-!
# The names in the sets and the keys of `services`

`initialize_service` enters an object into `services` under the configured name. The
object enters itself into the sets under the `Id` of its unit, which is another name
where the configured one is an alias, and it does so before it is in `services`. The
loops of `run` take names from the sets and look them up in `services`.

The methods of an object are those of the model in which both names are one. What looks
a name up is modelled here with both; a `KeyError` stops the thread, and nothing else
does.
-/

namespace Sspl

namespace ServiceMonitor

namespace Aliased

variable {ν : Type}

section Model

variable [DecidableEq ν]

/-- The object for the configured name `n`, whose unit calls itself `id`. -/
def load (now : Int) (n id : ν) (c : Shared ν) : Service ν × Shared ν :=
  match c.cache n with
  | some data => fromCache now id data c
  | none => (Service.created id now, c)

def initializeService (cfg : Config ν) (n id : ν) (bus : Bus) (now : Int) (s : State ν) :
    State ν :=
  if bus.unit then
    let r := load now n id s.shared
    match handleUnitStateChange cfg bus now r.1 r.2 with
    | some result => s.replaceService n result
    | none => { s with shared := r.2 }
  else s

/-- `raise_alert`, which looks up the name it finds in the message. -/
def raiseAlert (origin : Origin) (message : Message ν) (s : State ν) : State ν :=
  match s.services message.resourceId with
  | some x => s.raiseAlert origin message x
  | none => s.loseAlert origin message

def checkService (cfg : Config ν) (n : ν) (x : Service ν) (overdue : Bool) (new : ServiceState)
    (alert : Alert) (now : Int) (s : State ν) : State ν :=
  if overdue then
    let result := newServiceState now new x s.shared
    raiseAlert .check (getAlert cfg result.1 alert) (s.setService n result)
  else s

/-- `self.services[service]` and what is done with it. -/
def withService (n : ν) (s : State ν) (body : Service ν → State ν) : State ν :=
  match s.services n with
  | some x => body x
  | none => { s with point := .stopped }

/-- The body of a loop for one name. -/
def visit (cfg : Config ν) (n id : ν) (bus : Bus) (now : Int) (s : State ν) : Loop → State ν
  | .starting => initializeService cfg n id bus now s
  | .errored => initializeService cfg n id bus now s
  | .resubscribing => withService n s (fun x =>
      s.setService n (newUnitState cfg bus now .enabled x s.shared))
  | .activeWaiting => withService n s (fun x =>
      checkService cfg n x (x.inSameStateForThresholdTime cfg now) .active resolvedAlert now s)
  | .failedWaiting => withService n s (fun x =>
      checkService cfg n x (x.inSameStateForThresholdTime cfg now) .failed failedAlert now s)
  | .nonActive => withService n s (fun x =>
      checkService cfg n x (x.isNonactiveForThresholdTime cfg now) .failed inactiveAlert now s)

/-- An action comes with the `Id` that D-Bus gives for the unit it loads. -/
def next (cfg : Config ν) (s : State ν) : Action ν × ν → Option (State ν)
  | (.visit n bus now, id) =>
    match s.point with
    | .within l todo =>
      if n ∈ todo then
        some (visit cfg n id bus now { s with point := .within l (todo.erase n) } l)
      else none
    | _ => none
  | (.processAlert, _) =>
    match s.point, s.shared.alerts with
    | .waiting, message :: rest => some (raiseAlert .registration message (s.takeAlert rest))
    | _, _ => none
  | (a, _) => ServiceMonitor.next cfg s a

/-- The sensor as before, with the unit Id that D-Bus reports beside the name that is configured:
the object keeps the Id, and `services` is keyed by the configured name. -/
def system (cfg : Config ν) : Transition.System (State ν) (Action ν × ν) where
  init s := s = fresh cfg
  next := next cfg

end Model

/-- The names in the four sets satisfy this. -/
structure Within (names : ν → Prop) (c : Shared ν) : Prop where
  nonActive : ∀ n ∈ c.nonActive, names n
  failedWaiting : ∀ n ∈ c.failedWaitingServices, names n
  activeWaiting : ∀ n ∈ c.activeWaitingServices, names n
  monitoringDisabled : ∀ n ∈ c.monitoringDisabled, names n

/-- `n` is a key of `services`. -/
def Key (s : State ν) (n : ν) : Prop := (s.services n).isSome = true

instance (s : State ν) (n : ν) : Decidable (Key s n) :=
  inferInstanceAs (Decidable ((s.services n).isSome = true))

/-- The names in the four sets are keys of `services`, and no lookup has failed, which would have
ended the sensor. -/
structure Consistent (s : State ν) : Prop where
  sets : Within (Key s) s.shared
  running : s.point ≠ .stopped

/-- Only the name itself is added anywhere. -/
structure Edits (name : ν) (c d : Shared ν) : Prop where
  nonActive : ∀ n ∈ d.nonActive, n = name ∨ n ∈ c.nonActive
  failedWaiting : ∀ n ∈ d.failedWaitingServices, n = name ∨ n ∈ c.failedWaitingServices
  activeWaiting : ∀ n ∈ d.activeWaitingServices, n = name ∨ n ∈ c.activeWaitingServices
  monitoringDisabled : ∀ n ∈ d.monitoringDisabled, n = name ∨ n ∈ c.monitoringDisabled
  alerts : ∀ message ∈ d.alerts, message.resourceId = name ∨ message ∈ c.alerts

/-- Nothing is added. -/
structure Shrinks (c d : Shared ν) : Prop where
  nonActive : d.nonActive ⊆ c.nonActive
  failedWaiting : d.failedWaitingServices ⊆ c.failedWaitingServices
  activeWaiting : d.activeWaitingServices ⊆ c.activeWaitingServices
  monitoringDisabled : d.monitoringDisabled ⊆ c.monitoringDisabled
  alerts : d.alerts ⊆ c.alerts

/-- The name is in one of the sets. -/
def Waits (name : ν) (c : Shared ν) : Prop :=
  name ∈ c.nonActive ∨ name ∈ c.failedWaitingServices ∨ name ∈ c.activeWaitingServices ∨
    name ∈ c.monitoringDisabled

/-- The name comes into one of the sets unless the method is quiet. -/
structure Effect (quiet : Prop) (name : ν) (c d : Shared ν) : Prop where
  edits : Edits name c d
  shrinks : quiet → Shrinks c d
  waits : ¬ quiet → Waits name d

/-- The names in the sets and in the queue of alerts satisfy this. -/
structure Accounted (names : ν → Prop) (c : Shared ν) : Prop extends Within names c where
  alerts : ∀ message ∈ c.alerts, names message.resourceId

section Effects

variable {name : ν} {names : ν → Prop} {quiet : Prop} {c d e : Shared ν}

theorem Shrinks.refl (c : Shared ν) : Shrinks c c :=
  ⟨subset_rfl, subset_rfl, subset_rfl, subset_rfl, List.Subset.refl _⟩

theorem Shrinks.trans (first : Shrinks c d) (second : Shrinks d e) : Shrinks c e :=
  ⟨Finset.Subset.trans second.nonActive first.nonActive,
    Finset.Subset.trans second.failedWaiting first.failedWaiting,
    Finset.Subset.trans second.activeWaiting first.activeWaiting,
    Finset.Subset.trans second.monitoringDisabled first.monitoringDisabled,
    List.Subset.trans second.alerts first.alerts⟩

theorem Shrinks.edits (h : Shrinks c d) : Edits name c d :=
  ⟨fun _ mem => .inr (h.nonActive mem), fun _ mem => .inr (h.failedWaiting mem),
    fun _ mem => .inr (h.activeWaiting mem), fun _ mem => .inr (h.monitoringDisabled mem),
    fun _ mem => .inr (h.alerts mem)⟩

theorem Edits.trans (first : Edits name c d) (second : Edits name d e) : Edits name c e where
  nonActive n mem := (second.nonActive n mem).elim .inl (first.nonActive n)
  failedWaiting n mem := (second.failedWaiting n mem).elim .inl (first.failedWaiting n)
  activeWaiting n mem := (second.activeWaiting n mem).elim .inl (first.activeWaiting n)
  monitoringDisabled n mem :=
    (second.monitoringDisabled n mem).elim .inl (first.monitoringDisabled n)
  alerts message mem := (second.alerts message mem).elim .inl (first.alerts message)

theorem Effect.of_shrinks (h : Shrinks c d) : Effect True name c d :=
  ⟨h.edits, fun _ => h, fun loud => absurd trivial loud⟩

theorem Effect.of_waits (edits : Edits name c d) (waits : Waits name d) : Effect False name c d :=
  ⟨edits, False.elim, fun _ => waits⟩

theorem Effect.congr {other : Prop} (h : Effect quiet name c d) (same : other ↔ quiet) :
    Effect other name c d :=
  ⟨h.edits, fun q => h.shrinks (same.mp q), fun loud => h.waits (mt same.mpr loud)⟩

/-- Names may be discarded before. -/
theorem Effect.after (first : Shrinks c d) (second : Effect quiet name d e) :
    Effect quiet name c e :=
  ⟨first.edits.trans second.edits, fun q => first.trans (second.shrinks q), second.waits⟩

/-- A method keeps the account where it is quiet, and where its name is accounted for. -/
theorem Effect.accounted (h : Effect quiet name c d) (account : Accounted names c)
    (meets : names name ∨ quiet) : Accounted names d := by
  obtain known | q := meets
  · refine ⟨⟨?_, ?_, ?_, ?_⟩, ?_⟩
    · exact fun n mem => (h.edits.nonActive n mem).elim (fun same => same ▸ known)
        (account.nonActive n)
    · exact fun n mem => (h.edits.failedWaiting n mem).elim (fun same => same ▸ known)
        (account.failedWaiting n)
    · exact fun n mem => (h.edits.activeWaiting n mem).elim (fun same => same ▸ known)
        (account.activeWaiting n)
    · exact fun n mem => (h.edits.monitoringDisabled n mem).elim (fun same => same ▸ known)
        (account.monitoringDisabled n)
    · exact fun message mem => (h.edits.alerts message mem).elim (fun same => same ▸ known)
        (account.alerts message)
  · have less := h.shrinks q
    exact ⟨⟨fun n mem => account.nonActive n (less.nonActive mem),
      fun n mem => account.failedWaiting n (less.failedWaiting mem),
      fun n mem => account.activeWaiting n (less.activeWaiting mem),
      fun n mem => account.monitoringDisabled n (less.monitoringDisabled mem)⟩,
      fun message mem => account.alerts message (less.alerts mem)⟩

theorem Within.of_waits (h : Within names c) (waits : Waits name c) : names name := by
  obtain mem | mem | mem | mem := waits
  · exact h.nonActive name mem
  · exact h.failedWaiting name mem
  · exact h.activeWaiting name mem
  · exact h.monitoringDisabled name mem

/-- Where the names in the sets are accounted for after a method, it met the condition. -/
theorem Effect.needed (h : Effect quiet name c d) (after : Within names d) :
    names name ∨ quiet := by
  by_cases q : quiet
  · exact .inr q
  · exact .inl (after.of_waits (h.waits q))

theorem Accounted.mono {other : ν → Prop} (h : Accounted names c)
    (more : ∀ n, names n → other n) : Accounted other c where
  nonActive n mem := more n (h.nonActive n mem)
  failedWaiting n mem := more n (h.failedWaiting n mem)
  activeWaiting n mem := more n (h.activeWaiting n mem)
  monitoringDisabled n mem := more n (h.monitoringDisabled n mem)
  alerts message mem := more _ (h.alerts message mem)

end Effects

section Methods

variable [DecidableEq ν] {x : Service ν} {c : Shared ν} {cfg : Config ν} {bus : Bus} {now : Int}

theorem Shrinks.discardNonActive (c : Shared ν) (n : ν) : Shrinks c (c.discardNonActive n) :=
  ⟨Finset.erase_subset _ _, subset_rfl, subset_rfl, subset_rfl, List.Subset.refl _⟩

theorem Shrinks.discardActiveWaiting (c : Shared ν) (n : ν) :
    Shrinks c (c.discardActiveWaiting n) :=
  ⟨subset_rfl, subset_rfl, Finset.erase_subset _ _, subset_rfl, List.Subset.refl _⟩

theorem Shrinks.discardFailedWaiting (c : Shared ν) (n : ν) :
    Shrinks c (c.discardFailedWaiting n) :=
  ⟨subset_rfl, Finset.erase_subset _ _, subset_rfl, subset_rfl, List.Subset.refl _⟩

theorem Shrinks.discardMonitoringDisabled (c : Shared ν) (n : ν) :
    Shrinks c (c.discardMonitoringDisabled n) :=
  ⟨subset_rfl, subset_rfl, subset_rfl, Finset.erase_subset _ _, List.Subset.refl _⟩

theorem Shrinks.dumpToCache (c : Shared ν) (x : Service ν) : Shrinks c (c.dumpToCache x) :=
  ⟨subset_rfl, subset_rfl, subset_rfl, subset_rfl, List.Subset.refl _⟩

theorem Edits.addNonActive (c : Shared ν) (n : ν) : Edits n c (c.addNonActive n) :=
  ⟨fun _ mem => Finset.mem_insert.mp mem, fun _ mem => .inr mem, fun _ mem => .inr mem,
    fun _ mem => .inr mem, fun _ mem => .inr mem⟩

theorem Edits.addActiveWaiting (c : Shared ν) (n : ν) : Edits n c (c.addActiveWaiting n) :=
  ⟨fun _ mem => .inr mem, fun _ mem => .inr mem, fun _ mem => Finset.mem_insert.mp mem,
    fun _ mem => .inr mem, fun _ mem => .inr mem⟩

theorem Edits.addFailedWaiting (c : Shared ν) (n : ν) : Edits n c (c.addFailedWaiting n) :=
  ⟨fun _ mem => .inr mem, fun _ mem => Finset.mem_insert.mp mem, fun _ mem => .inr mem,
    fun _ mem => .inr mem, fun _ mem => .inr mem⟩

/-- A name that has been added to `non_active` is discarded again. -/
theorem Shrinks.of_addNonActive {d : Shared ν} {n : ν} (h : Shrinks (c.addNonActive n) d) :
    Shrinks c (d.discardNonActive n) where
  nonActive m mem := by
    obtain ⟨other, mem⟩ := Finset.mem_erase.mp mem
    exact Finset.mem_of_mem_insert_of_ne (h.nonActive mem) other
  failedWaiting := h.failedWaiting
  activeWaiting := h.activeWaiting
  monitoringDisabled := h.monitoringDisabled
  alerts := h.alerts

/-- All three sets of the service states are left. -/
theorem Shrinks.discard (c : Shared ν) (n : ν) :
    Shrinks c (((c.discardNonActive n).discardFailedWaiting n).discardActiveWaiting n) :=
  (Shrinks.discardNonActive c n).trans
    ((Shrinks.discardFailedWaiting _ n).trans (.discardActiveWaiting _ n))

/-- Leaving `InactiveState` or `FailedState`, a service is discarded everywhere. -/
theorem Shrinks.newServiceState (now : Int) {new : ServiceState} (settled : new ≠ .inactive)
    (x : Service ν) (c : Shared ν) : Shrinks c (newServiceState now new x c).2 := by
  unfold ServiceMonitor.newServiceState
  split
  · cases new with
    | active => exact .discard c x.name
    | failed => exact .discard c x.name
    | inactive => exact absurd rfl settled
  · exact .refl c

/-- Entering `InactiveState`, it waits in `non_active`. -/
theorem newServiceState_inactive_effect (now : Int) (x : Service ν) (c : Shared ν) :
    Effect (x.serviceState = .inactive) x.name c (newServiceState now .inactive x c).2 := by
  by_cases inactive : x.serviceState = .inactive
  · rw [newServiceState, if_neg (not_not.mpr inactive)]
    exact (Effect.of_shrinks (.refl c)).congr (by simp [inactive])
  · rw [newServiceState, if_pos inactive]
    refine (Effect.of_waits ?_ (.inl ?_)).congr (by simp [inactive])
    · exact (Edits.addNonActive c x.name).trans
        (Shrinks.edits (.trans (.discardFailedWaiting _ _) (.discardActiveWaiting _ _)))
    · simp [ServiceState.enter, Shared.discardActiveWaiting, Shared.discardFailedWaiting,
        Shared.addNonActive]

/-- In this service state the handler adds no name when it observes the unit state. -/
def Settled : ServiceState → UnitActiveState → Prop
  | .active, state => state = .active
  | .failed, state => state ≠ .active
  | .inactive, state => state ≠ .failed

theorem react_active_effect (now : Int) (c : Shared ν) (observed : x.state = some .active)
    (moved : x.state ≠ x.previousState) :
    Effect (Settled x.serviceState .active) x.name c (react now x c).2 := by
  rw [react, if_neg moved, observed]
  cases serviceState : x.serviceState with
  | active => exact (Effect.of_shrinks (.discardFailedWaiting c x.name)).congr (by simp [Settled])
  | failed =>
      refine (Effect.of_waits ?_ (.inr (.inr (.inl ?_)))).congr (by simp [Settled])
      · exact (Edits.addActiveWaiting c x.name).trans (Shrinks.discardFailedWaiting _ _).edits
      · simp [Shared.addActiveWaiting, Shared.discardFailedWaiting]
  | inactive =>
      have settled : ServiceState.active ≠ .inactive := by simp
      have left := Shrinks.newServiceState now settled x c
      exact (Effect.of_shrinks (left.trans (.discardFailedWaiting _ _))).congr (by simp [Settled])

theorem react_failed_effect (now : Int) (c : Shared ν) (observed : x.state = some .failed)
    (moved : x.state ≠ x.previousState) :
    Effect (Settled x.serviceState .failed) x.name c (react now x c).2 := by
  rw [react, if_neg moved, observed]
  by_cases alerted : x.serviceState = .failed
  · simp only [ne_eq, alerted, not_true_eq_false, if_false]
    exact (Effect.of_shrinks (.discardActiveWaiting c x.name)).congr (by simp [Settled])
  · simp only [ne_eq, alerted, not_false_eq_true, if_true]
    refine (Effect.of_waits ?_ (.inr (.inl ?_))).congr ?_
    · exact (Edits.addFailedWaiting c x.name).trans (Shrinks.discardActiveWaiting _ _).edits
    · simp [Shared.addFailedWaiting, Shared.discardActiveWaiting]
    · cases serviceState : x.serviceState <;> simp_all [Settled]

theorem react_down (now : Int) (c : Shared ν) {state : UnitActiveState}
    (observed : x.state = some state) (down : state.Down) (moved : x.state ≠ x.previousState) :
    react now x c =
      let r := if x.serviceState ≠ .failed then newServiceState now .inactive x c else (x, c)
      (r.1, ((r.2.discardActiveWaiting r.1.name).discardFailedWaiting r.1.name).dumpToCache
        r.1) := by
  rw [react, if_neg moved, observed]
  cases state <;> first | rfl | simp [UnitActiveState.Down] at down

theorem react_down_effect (now : Int) (c : Shared ν) {state : UnitActiveState}
    (observed : x.state = some state) (down : state.Down) (moved : x.state ≠ x.previousState) :
    Effect (Settled x.serviceState state) x.name c (react now x c).2 := by
  have last (d : Shared ν) (y : Service ν) (n : ν) : Shrinks d
      (((d.discardActiveWaiting n).discardFailedWaiting n).dumpToCache y) :=
    .trans (.discardActiveWaiting d n)
      (.trans (.discardFailedWaiting _ n) (.dumpToCache _ y))
  rw [react_down now c observed down moved]
  cases serviceState : x.serviceState with
  | failed => exact (Effect.of_shrinks (last c x x.name)).congr (by simp [Settled, down.1])
  | inactive =>
      simp only [newServiceState, serviceState, ne_eq, not_true_eq_false, if_false, ite_self]
      exact (Effect.of_shrinks (last c x x.name)).congr (by simp [Settled, down.2])
  | active =>
      have entered := newServiceState_inactive_effect now x c
      simp only [ne_eq, reduceCtorEq, not_false_eq_true, if_true]
      refine (Effect.of_waits (entered.edits.trans (last _ _ _).edits) (.inl ?_)).congr ?_
      · simp [newServiceState, serviceState, ServiceState.enter, Shared.addNonActive,
          Shared.discardActiveWaiting, Shared.discardFailedWaiting, Shared.dumpToCache]
      · simp [Settled, down.1]

/-- The handler adds no name: it sees no change, or one that calls for nothing. -/
def Quiet (x : Service ν) (state : UnitActiveState) : Prop :=
  (x.observe state).state = (x.observe state).previousState ∨ Settled x.serviceState state

omit [DecidableEq ν] in
theorem observe_state (x : Service ν) (state : UnitActiveState) :
    (x.observe state).state = some state ∧ (x.observe state).serviceState = x.serviceState ∧
      (x.observe state).name = x.name := by
  unfold Service.observe
  split
  · exact ⟨rfl, rfl, rfl⟩
  · exact ⟨not_not.mp ‹_›, rfl, rfl⟩

omit [DecidableEq ν] in
/-- The first state an object observes is a change. -/
theorem observe_moved {x : Service ν} (first : x.previousState = none) (state : UnitActiveState) :
    (x.observe state).state ≠ (x.observe state).previousState := by
  unfold Service.observe
  split
  · exact fun same => absurd same.symm ‹_›
  · rename_i here
    rw [first, not_not.mp here]
    exact nofun

theorem handler_effect (now : Int) (x : Service ν) (c : Shared ν) (state : UnitActiveState) :
    Effect (Quiet x state) x.name c (react now (x.observe state) c).2 := by
  obtain ⟨observed, same, name⟩ := observe_state x state
  rw [Quiet, ← same, ← name]
  by_cases still : (x.observe state).state = (x.observe state).previousState
  · rw [react, if_pos still]
    exact (Effect.of_shrinks (.refl c)).congr (by simp [still])
  refine Effect.congr ?_ (or_iff_right still)
  by_cases active : state = .active
  · subst active
    exact react_active_effect now c observed still
  by_cases failed : state = .failed
  · subst failed
    exact react_failed_effect now c observed still
  · exact react_down_effect now c observed ⟨active, failed⟩ still

theorem monitoringDisabled_effect (cfg : Config ν) (x : Service ν) (c : Shared ν) :
    Effect False x.name c (MonitoringDisabled.enter cfg x c).2 := by
  refine .of_waits ⟨?_, ?_, ?_, ?_, ?_⟩ (.inr (.inr (.inr (Finset.mem_insert_self _ _))))
  · exact fun _ mem => .inr mem
  · exact fun _ mem => .inr mem
  · exact fun _ mem => .inr mem
  · exact fun _ mem => Finset.mem_insert.mp mem
  · intro message mem
    simp only [MonitoringDisabled.enter] at mem
    split at mem
    · obtain old | new := List.mem_append.mp mem
      · exact .inr old
      · exact .inl (by rw [List.mem_singleton.mp new, getAlert])
    · exact .inr mem

/-- Subscribing for the object succeeds, and the handler adds no name. -/
def Subscribes (bus : Bus) (x : Service ν) : Prop :=
  bus.connects = true ∧ ∃ state, bus.activeState = some state ∧ Quiet x state

omit [DecidableEq ν] in
theorem quiet_subscribe (x : Service ν) (state : UnitActiveState) :
    Quiet x.subscribe state ↔ Quiet x state := by
  by_cases same : x.state = some state <;>
    simp [Quiet, Service.observe, Service.subscribe, same]

theorem enabled_effect (cfg : Config ν) (bus : Bus) (now : Int) (x : Service ν) (c : Shared ν) :
    Effect (Subscribes bus x) x.name c (EnabledState.enter cfg bus now x c).2 := by
  rw [EnabledState.enter]
  by_cases connects : bus.connects = true
  · rw [if_pos connects]
    refine .after (.discardMonitoringDisabled c x.name) ?_
    cases answered : bus.activeState with
    | none =>
        exact (monitoringDisabled_effect cfg _ _).congr (by simp [Subscribes, answered])
    | some state =>
        have effect := handler_effect now x.subscribe (c.discardMonitoringDisabled x.name) state
        exact effect.congr (by simp [Subscribes, connects, answered, quiet_subscribe])
  · rw [if_neg connects]
    exact (monitoringDisabled_effect cfg _ c).congr (by simp [Subscribes, connects])

/-- The object is enabled, or becomes it and adds no name. -/
def Enables (bus : Bus) (x : Service ν) : Prop :=
  x.unitState = some .enabled ∨ Subscribes bus x

omit [DecidableEq ν] in
theorem subscribes_unitState (bus : Bus) (x : Service ν) (unitState : Option UnitState) :
    Subscribes bus { x with unitState := unitState } ↔ Subscribes bus x := by
  refine and_congr_right fun _ => exists_congr fun state => and_congr_right fun _ => ?_
  by_cases same : x.state = some state <;> simp [Quiet, Service.observe, same]

theorem newUnitState_effect (cfg : Config ν) (bus : Bus) (now : Int) (x : Service ν)
    (c : Shared ν) : Effect (Enables bus x) x.name c (newUnitState cfg bus now .enabled x c).2 := by
  rw [newUnitState]
  by_cases already : x.unitState = some .enabled
  · rw [if_neg (not_not.mpr already)]
    exact (Effect.of_shrinks (.refl c)).congr (by simp [Enables, already])
  · rw [if_pos already]
    refine (enabled_effect cfg bus now { x with unitState := some .enabled } c).congr ?_
    rw [Enables, or_iff_right already]
    exact (subscribes_unitState bus x _).symm

theorem disabled_shrinks (x : Service ν) (c : Shared ν) :
    Shrinks c (newUnitState cfg bus now .disabled x c).2 := by
  unfold newUnitState
  split
  · exact .trans (.discardNonActive c x.name) (.discardMonitoringDisabled _ x.name)
  · exact .refl c

theorem handleUnitStateChange_effect {r : Service ν × Shared ν}
    (changed : handleUnitStateChange cfg bus now x c = some r) :
    Effect (bus.isEnabled = some true → Enables bus x) x.name c r.2 := by
  obtain ⟨isEnabled, answered, rfl⟩ := Option.map_eq_some_iff.mp changed
  rw [answered]
  cases isEnabled with
  | false => exact (Effect.of_shrinks (disabled_shrinks x c)).congr (by simp)
  | true => exact (newUnitState_effect cfg bus now x c).congr (by simp)

theorem load_name (now : Int) (n id : ν) (c : Shared ν) : (load now n id c).1.name = id := by
  unfold load
  split
  · exact (Local.newServiceState now _ _ c).name
  · rfl

/-- A service that the cache has in `InactiveState` enters itself at once. -/
theorem load_effect (now : Int) (n id : ν) (c : Shared ν) :
    Effect (c.monitorState n ≠ some .inactive) id c (load now n id c).2 := by
  rw [load, Shared.monitorState]
  cases c.cache n with
  | none => exact (Effect.of_shrinks (.refl c)).congr (by simp)
  | some data =>
      by_cases inactive : data.serviceMonitorState = .inactive
      · have entered := newServiceState_inactive_effect now (Service.created id now) c
        simp only [fromCache, inactive]
        exact entered.congr (by simp [inactive, Service.created])
      · have left := Shrinks.newServiceState now inactive (Service.created id now) c
        exact (Effect.of_shrinks left).congr (by simp [inactive])

/-- What is read of the unit, and what the cache says of its service, let an object enter
itself nowhere when it is made. -/
def Starts (bus : Bus) (recorded : Option ServiceState) : Prop :=
  bus.connects = true ∧ ∃ state, bus.activeState = some state ∧
    if recorded = some .failed then state ≠ .active else state = .active

theorem load_inactive (now : Int) {n : ν} (id : ν) (inactive : c.monitorState n = some .inactive) :
    (load now n id c).2 =
      ((c.addNonActive id).discardFailedWaiting id).discardActiveWaiting id := by
  obtain ⟨data, found, recorded⟩ := Option.map_eq_some_iff.mp inactive
  simp only [load, found, fromCache, recorded]
  rfl

/-- At most the name itself is added, to `non_active`. -/
theorem load_shrinks (now : Int) (n id : ν) (c : Shared ν) :
    Shrinks (c.addNonActive id) (load now n id c).2 := by
  have less : Shrinks (c.addNonActive id) c :=
    ⟨Finset.subset_insert _ _, subset_rfl, subset_rfl, subset_rfl, List.Subset.refl _⟩
  by_cases inactive : c.monitorState n = some .inactive
  · rw [load_inactive now id inactive]
    exact .trans (.discardFailedWaiting _ id) (.discardActiveWaiting _ id)
  · exact less.trans ((load_effect now n id c).shrinks inactive)

theorem load_service (now : Int) (n id : ν) (c : Shared ν) :
    (load now n id c).1.previousState = none ∧ (load now n id c).1.unitState = none ∧
      (load now n id c).1.serviceState = (c.monitorState n).getD .active := by
  rw [load, Shared.monitorState]
  cases c.cache n with
  | none => exact ⟨rfl, rfl, rfl⟩
  | some data =>
      refine ⟨?_, ?_, newServiceState_serviceState now _ _ c⟩ <;>
        · simp only [fromCache, newServiceState]
          cases data.serviceMonitorState <;> rfl

theorem quiet_load (now : Int) (n id : ν) (c : Shared ν) (state : UnitActiveState) :
    Quiet (load now n id c).1 state ↔ Settled ((c.monitorState n).getD .active) state := by
  obtain ⟨previous, -, serviceState⟩ := load_service now n id c
  rw [Quiet, serviceState]
  exact or_iff_right (observe_moved previous state)

theorem react_inactive (now : Int) (c : Shared ν) (observed : x.state = some .active)
    (inactive : x.serviceState = .inactive) (moved : x.state ≠ x.previousState) :
    (react now x c).2 = (((c.discardNonActive x.name).discardFailedWaiting x.name)
      |>.discardActiveWaiting x.name).discardFailedWaiting x.name := by
  rw [react, if_neg moved, observed, inactive]
  simp only [newServiceState, inactive, ne_eq, reduceCtorEq, not_false_eq_true, if_true]
  rfl

/-- What happens to an object that subscribes and reads the state of its unit. -/
theorem newUnitState_enabled (cfg : Config ν) (now : Int) (c : Shared ν)
    (unit : x.unitState ≠ some .enabled) (connects : bus.connects = true)
    {state : UnitActiveState} (answered : bus.activeState = some state) :
    newUnitState cfg bus now .enabled x c =
      react now ({ x with unitState := some .enabled }.subscribe.observe state)
        (c.discardMonitoringDisabled x.name) := by
  rw [newUnitState, if_pos unit, UnitState.enter, EnabledState.enter, if_pos connects, answered]
  rfl

/-- An object that is loaded in `InactiveState` leaves the set only for an active unit. -/
theorem loaded_inactive_effect (cfg : Config ν) (bus : Bus) (now : Int) {n : ν} (id : ν)
    (inactive : c.monitorState n = some .inactive) : Effect (Starts bus (c.monitorState n)) id c
      (newUnitState cfg bus now .enabled (load now n id c).1 (load now n id c).2).2 := by
  obtain ⟨previous, unit, serviceState⟩ := load_service now n id c
  have name := load_name now n id c
  have shrinks := load_shrinks now n id c
  have quiet := quiet_load now n id c
  have effect := newUnitState_effect cfg bus now (load now n id c).1 (load now n id c).2
  rw [name] at effect
  have edits := (load_effect now n id c).edits.trans effect.edits
  rw [inactive, Option.getD_some] at serviceState quiet
  by_cases subscribes : Subscribes bus (load now n id c).1
  · obtain ⟨connects, state, answered, calm⟩ := subscribes
    rw [newUnitState_enabled cfg now _ (by simp [unit]) connects answered] at edits ⊢
    obtain ⟨observed, same, name'⟩ :=
      observe_state { (load now n id c).1 with unitState := some .enabled }.subscribe state
    have moved := observe_moved
      (x := { (load now n id c).1 with unitState := some .enabled }.subscribe) previous state
    generalize Service.observe _ state = y at observed same name' moved edits ⊢
    replace same : y.serviceState = .inactive := same.trans serviceState
    replace name' : y.name = id := name'.trans name
    by_cases active : state = .active
    · subst active
      rw [react_inactive now _ observed same moved, name', name]
      have added := shrinks.trans (.discardMonitoringDisabled _ id)
      refine (Effect.of_shrinks (added.of_addNonActive.trans ?_)).congr ?_
      · exact .trans (.discardFailedWaiting _ id)
          (.trans (.discardActiveWaiting _ id) (.discardFailedWaiting _ id))
      · simp [Starts, connects, answered, inactive]
    · have down : state.Down := ⟨active, (quiet state).mp calm⟩
      refine (Effect.of_waits edits (.inl ?_)).congr (by simp [Starts, answered, inactive, active])
      rw [react_down now _ observed down moved, load_inactive now id inactive]
      simp [same, newServiceState, Shared.dumpToCache, Shared.discardFailedWaiting,
        Shared.discardActiveWaiting, Shared.discardMonitoringDisabled, Shared.addNonActive]
  · have loud : ¬ Enables bus (load now n id c).1 := by simp [Enables, unit, subscribes]
    refine (Effect.of_waits edits (effect.waits loud)).congr (iff_of_false ?_ not_false)
    rintro ⟨connects, state, answered, active⟩
    refine subscribes ⟨connects, state, answered, (quiet state).mpr ?_⟩
    simp [inactive] at active
    simp [Settled, active]

/-- `handle_unit_state_change` of the object that `initialize_service` has made. -/
theorem start_effect {n id : ν} {r : Service ν × Shared ν} (changed :
      handleUnitStateChange cfg bus now (load now n id c).1 (load now n id c).2 = some r) :
    Effect (bus.isEnabled = some true → Starts bus (c.monitorState n)) id c r.2 := by
  obtain ⟨-, unit, serviceState⟩ := load_service now n id c
  have name := load_name now n id c
  have shrinks := load_shrinks now n id c
  have effect := handleUnitStateChange_effect changed
  rw [name] at effect
  obtain ⟨isEnabled, answered, rfl⟩ := Option.map_eq_some_iff.mp changed
  rw [answered] at effect ⊢
  cases isEnabled with
  | false =>
      refine (Effect.of_shrinks ?_).congr (by simp)
      simp only [newUnitState, unit, UnitState.enter]
      simp only [ne_eq, reduceCtorEq, not_false_eq_true, if_true, name]
      exact shrinks.of_addNonActive.trans (.discardMonitoringDisabled _ id)
  | true =>
      by_cases inactive : c.monitorState n = some .inactive
      · exact (loaded_inactive_effect cfg bus now id inactive).congr (by simp)
      · refine .after ((load_effect now n id c).shrinks inactive) (effect.congr ?_)
        refine imp_congr_right fun _ => ?_
        rw [Enables, unit, or_iff_right nofun]
        refine and_congr_right fun _ => exists_congr fun state => and_congr_right fun _ => ?_
        rw [quiet_load]
        cases recorded : c.monitorState n with
        | none => simp [Settled]
        | some serviceState => cases serviceState <;> simp_all [Settled]

end Methods

/-- What `initialize_service` may find. An object for an alias enters itself under a name
that is no key unless another service has it, and an object that cannot be kept because
`is_enabled` fails has entered itself already if the cache has it in `InactiveState`. -/
def Initializes (s : State ν) (n id : ν) (bus : Bus) : Prop :=
  bus.unit = true →
    (bus.isEnabled = none → Key s id ∨ s.shared.monitorState n ≠ some .inactive) ∧
    (bus.isEnabled = some true → id = n ∨ Key s id ∨ Starts bus (s.shared.monitorState n))

/-- What a visit of a loop may find. -/
def Visits (cfg : Config ν) (s : State ν) (n id : ν) (bus : Bus) (now : Int) : Loop → Prop
  | .starting => Initializes s n id bus
  | .errored => Initializes s n id bus
  | .resubscribing => ∀ x, s.services n = some x → Key s x.name ∨ Enables bus x
  | .activeWaiting => ∀ x, s.services n = some x → x.inSameStateForThresholdTime cfg now →
      Key s x.name
  | .failedWaiting => ∀ x, s.services n = some x → x.inSameStateForThresholdTime cfg now →
      Key s x.name
  | .nonActive => ∀ x, s.services n = some x → x.isNonactiveForThresholdTime cfg now →
      Key s x.name

/-- The object whose handler a signal calls. -/
def handled (s : State ν) (n : ν) : Option Nat → Option (Service ν)
  | none => s.services n
  | some i => (s.earlier n)[i]?

/-- Where an object adds its name to a set or raises an alert, the name is a key of `services`.
Steps in which it does neither are free. -/
def Meets (cfg : Config ν) (s : State ν) : Action ν × ν → Prop
  | (.visit n bus now, id) => ∀ l todo, s.point = .within l todo → Visits cfg s n id bus now l
  | (.propertiesChanged n which reply _, _) => ∀ x, handled s n which = some x →
      ∀ state, reply = some state → Key s x.name ∨ Quiet x state
  | (.unitFilesChanged n bus _, _) => ∀ x, s.services n = some x → bus.isEnabled = some true →
      Key s x.name ∨ Enables bus x
  | _ => True

section Runs

variable {s t : State ν} {n id name : ν} {x : Service ν} {quiet : Prop}

/-- The loops have taken only names that are keys. -/
structure Invariant (s : State ν) : Prop where
  account : Accounted (Key s) s.shared
  running : s.point ≠ .stopped
  listed : ∀ l todo, s.point = .within l todo → l ≠ .starting → l ≠ .errored →
    ∀ n ∈ todo, Key s n

theorem Invariant.consistent (h : Invariant s) : Consistent s :=
  ⟨h.account.toWithin, h.running⟩

/-- The condition is enough for the invariant and needed for what is to hold. -/
structure Exact (meets : Prop) (t : State ν) : Prop where
  enough : meets → Invariant t
  needed : Consistent t → meets

theorem Exact.congr {other meets : Prop} (h : Exact meets t) (same : other ↔ meets) :
    Exact other t :=
  ⟨fun m => h.enough (same.mp m), fun after => same.mpr (h.needed after)⟩

theorem Exact.of_invariant (h : Invariant t) : Exact True t := ⟨fun _ => h, fun _ => trivial⟩

/-- A method of an object has been called. -/
structure Moves (quiet : Prop) (name : ν) (s t : State ν) : Prop where
  effect : Effect quiet name s.shared t.shared
  keys : ∀ n, Key t n ↔ Key s n
  point : t.point = s.point

theorem Moves.exact (moves : Moves quiet name s t) (h : Invariant s) :
    Exact (Key s name ∨ quiet) t where
  enough meets := by
    have account := moves.effect.accounted h.account meets
    refine ⟨account.mono (fun n => (moves.keys n).mpr), moves.point ▸ h.running, ?_⟩
    intro l todo point lookup retry n mem
    exact (moves.keys n).mpr (h.listed l todo (moves.point ▸ point) lookup retry n mem)
  needed after := by
    have known := moves.effect.needed after.sets
    rwa [moves.keys] at known

variable [DecidableEq ν] {cfg : Config ν} {bus : Bus} {now : Int}

theorem key_setService (found : s.services n = some x) (r : Service ν × Shared ν) (m : ν) :
    Key (s.setService n r) m ↔ Key s m := by
  by_cases same : m = n
  · subst same
    simp [Key, State.setService, found]
  · simp [Key, State.setService, same]

theorem moves_setService (found : s.services n = some x) {r : Service ν × Shared ν}
    (effect : Effect quiet name s.shared r.2) : Moves quiet name s (s.setService n r) :=
  ⟨effect, key_setService found r, rfl⟩

omit [DecidableEq ν] in
/-- A lookup of a name that is a key. -/
theorem withService_eq (found : s.services n = some x) (body : Service ν → State ν) :
    withService n s body = body x := by
  rw [withService, found]

theorem raiseAlert_exact (h : Invariant s) (origin : Origin) (message : Message ν) :
    Exact (Key s message.resourceId) (raiseAlert origin message s) := by
  rw [raiseAlert]
  cases found : s.services message.resourceId with
  | some x =>
      have moves : Moves True x.name s (s.raiseAlert origin message x) :=
        ⟨.of_shrinks (.dumpToCache _ x), fun _ => .rfl, rfl⟩
      exact (moves.exact h).congr (by simp [Key, found])
  | none =>
    exact ⟨fun known => by simp [Key, found] at known, fun after => absurd rfl after.running⟩

theorem checkService_exact (h : Invariant s) (found : s.services n = some x) (overdue : Bool)
    {new : ServiceState} (settled : new ≠ .inactive) (alert : Alert) (now : Int) :
    Exact (overdue → Key s x.name) (checkService cfg n x overdue new alert now s) := by
  rw [checkService]
  cases overdue with
  | false => exact (Exact.of_invariant h).congr (by simp)
  | true =>
      have left := Shrinks.newServiceState now settled x s.shared
      have effect : Effect True n s.shared (newServiceState now new x s.shared).2 :=
        .of_shrinks left
      have moves := moves_setService found effect
      have name := (Local.newServiceState now new x s.shared).name
      have raised := raiseAlert_exact ((moves.exact h).enough (.inr trivial)) .check
        (getAlert cfg (newServiceState now new x s.shared).1 alert)
      exact raised.congr (by simp [getAlert, name, key_setService found])

theorem key_replaceService (r : Service ν × Shared ν) (m : ν) :
    Key (s.replaceService n r) m ↔ m = n ∨ Key s m := by
  by_cases same : m = n
  · subst same
    simp [Key, State.replaceService, State.setService]
  · simp [Key, State.replaceService, State.setService, same]

theorem initializeService_exact (h : Invariant s) (n id : ν) (bus : Bus) (now : Int) :
    Exact (Initializes s n id bus) (initializeService cfg n id bus now s) := by
  rw [initializeService]
  by_cases unit : bus.unit = true
  · rw [if_pos unit]
    cases changed : handleUnitStateChange cfg bus now (load now n id s.shared).1
        (load now n id s.shared).2 with
    | none =>
        simp only [changed]
        have silent : bus.isEnabled = none := Option.map_eq_none_iff.mp changed
        have moves : Moves _ id s { s with shared := (load now n id s.shared).2 } :=
          ⟨load_effect now n id s.shared, fun _ => .rfl, rfl⟩
        exact (moves.exact h).congr (by simp [Initializes, unit, silent])
    | some r =>
        simp only [changed]
        obtain ⟨isEnabled, answered, -⟩ := Option.map_eq_some_iff.mp changed
        have effect := start_effect changed
        have keys := key_replaceService (s := s) (n := n) r
        have wider : Accounted (Key (s.replaceService n r)) s.shared :=
          h.account.mono (fun m known => (keys m).mpr (.inr known))
        have same : Initializes s n id bus ↔ Key (s.replaceService n r) id ∨
            (bus.isEnabled = some true → Starts bus (s.shared.monitorState n)) := by
          rw [keys]
          cases isEnabled <;> simp [Initializes, unit, answered, or_assoc]
        refine ⟨fun meets => ⟨?_, h.running, ?_⟩, fun after => same.mpr ?_⟩
        · exact effect.accounted wider (same.mp meets)
        · intro l todo point lookup retry m mem
          exact (keys m).mpr (.inr (h.listed l todo point lookup retry m mem))
        · exact effect.needed after.sets
  · rw [if_neg unit]
    exact (Exact.of_invariant h).congr (by simp [Initializes, unit])

/-- A name is visited that has been taken from the loop. -/
theorem visit_exact (h : Invariant s) {l : Loop}
    (listed : l ≠ .starting → l ≠ .errored → Key s n) :
    Exact (Visits cfg s n id bus now l) (visit cfg n id bus now s l) := by
  cases l with
  | starting => exact initializeService_exact h n id bus now
  | errored => exact initializeService_exact h n id bus now
  | resubscribing =>
      obtain ⟨x, found⟩ := Option.isSome_iff_exists.mp (listed nofun nofun)
      rw [visit, withService_eq found]
      have moves := moves_setService found (newUnitState_effect cfg bus now x s.shared)
      exact (moves.exact h).congr (by simp [Visits, found])
  | activeWaiting =>
      obtain ⟨x, found⟩ := Option.isSome_iff_exists.mp (listed nofun nofun)
      rw [visit, withService_eq found]
      refine (checkService_exact h found _ ?_ _ now).congr (by simp [Visits, found])
      exact nofun
  | failedWaiting =>
      obtain ⟨x, found⟩ := Option.isSome_iff_exists.mp (listed nofun nofun)
      rw [visit, withService_eq found]
      refine (checkService_exact h found _ ?_ _ now).congr (by simp [Visits, found])
      exact nofun
  | nonActive =>
      obtain ⟨x, found⟩ := Option.isSome_iff_exists.mp (listed nofun nofun)
      rw [visit, withService_eq found]
      refine (checkService_exact h found _ ?_ _ now).congr (by simp [Visits, found])
      exact nofun

/-- A signal is handled by a service, and without a reply nothing is changed. -/
theorem handleSignal_moves {which : Option Nat} {reply : Option UnitActiveState}
    (handles : s.handleSignal n which reply now = some t) :
    ∃ x, handled s n which = some x ∧ (reply = none ∧ t = s ∨
      ∃ state, reply = some state ∧ Moves (Quiet x state) x.name s t) := by
  cases which with
  | none =>
      obtain ⟨x, found, called⟩ := Option.bind_eq_some_iff.mp handles
      refine ⟨x, found, ?_⟩
      split at called
      · cases reply with
        | none =>
            cases called
            exact .inl ⟨rfl, rfl⟩
        | some state =>
            cases called
            exact .inr ⟨state, rfl, moves_setService found (handler_effect now x s.shared state)⟩
      · cases called
  | some i =>
      obtain ⟨x, found, called⟩ := Option.bind_eq_some_iff.mp handles
      refine ⟨x, found, ?_⟩
      split at called
      · cases reply with
        | none =>
            cases called
            exact .inl ⟨rfl, rfl⟩
        | some state =>
            cases called
            exact .inr ⟨state, rfl, handler_effect now x s.shared state, fun _ => .rfl, rfl⟩
      · cases called

theorem handleSignal_exact (h : Invariant s) {which : Option Nat}
    {reply : Option UnitActiveState} (handles : s.handleSignal n which reply now = some t) :
    Exact (∀ x, handled s n which = some x → ∀ state, reply = some state →
      Key s x.name ∨ Quiet x state) t := by
  obtain ⟨x, found, ⟨rfl, rfl⟩ | ⟨state, rfl, moves⟩⟩ := handleSignal_moves handles
  · exact (Exact.of_invariant h).congr (by simp)
  · exact (moves.exact h).congr (by simp [found])

omit [DecidableEq ν] in
/-- The loops over names that are looked up start with names of the sets. -/
theorem enterLoop_invariant (h : Accounted (Key s) s.shared) (l : Loop) :
    Invariant (s.enterLoop cfg l) where
  account := ⟨⟨h.nonActive, h.failedWaiting, h.activeWaiting, h.monitoringDisabled⟩, h.alerts⟩
  running := nofun
  listed l' todo point lookup retry := by
    cases point
    cases l with
    | starting => exact absurd rfl lookup
    | errored => exact absurd rfl retry
    | resubscribing => exact h.monitoringDisabled
    | activeWaiting => exact h.activeWaiting
    | failedWaiting => exact h.failedWaiting
    | nonActive => exact h.nonActive

omit [DecidableEq ν] in
theorem restarted_invariant (cfg : Config ν) (s : State ν) : Invariant (s.restarted cfg) := by
  refine enterLoop_invariant ⟨⟨?_, ?_, ?_, ?_⟩, ?_⟩ .starting <;> simp

/-- Within a loop the next name is looked up. -/
theorem visitStep_exact (h : Invariant s) {bus : Bus}
    (step : next cfg s (.visit n bus now, id) = some t) :
    Exact (Meets cfg s (.visit n bus now, id)) t := by
  simp only [next] at step
  split at step
  · rename_i l todo point
    split at step
    · rename_i mem
      cases step
      have taken : Invariant { s with point := .within l (todo.erase n) } := by
        refine ⟨h.account, by simp, ?_⟩
        intro l' todo' here lookup retry m mem
        cases here
        exact h.listed l todo point lookup retry m (Finset.mem_of_mem_erase mem)
      refine Exact.congr (visit_exact taken ?_) (by simp [Meets, point]; cases l <;> rfl)
      exact fun lookup retry => h.listed l todo point lookup retry n mem
    · cases step
  · cases step

/-- The names in the alerts that wait are keys. -/
theorem processAlert_exact (h : Invariant s) (step : next cfg s (.processAlert, id) = some t) :
    Exact (Meets cfg s (.processAlert, id)) t := by
  simp only [next] at step
  split at step
  · rename_i message rest point queued
    cases step
    have known := h.account.alerts message (by simp [queued])
    have moves : Moves True id s (s.takeAlert rest) :=
      ⟨.of_shrinks ⟨subset_rfl, subset_rfl, subset_rfl, subset_rfl,
        queued ▸ List.subset_cons_self message rest⟩, fun _ => .rfl, rfl⟩
    have taken := (moves.exact h).enough (.inr trivial)
    exact .of_invariant ((raiseAlert_exact taken .registration message).enough known)
  · cases step

theorem step_exact (h : Invariant s) {a : Action ν × ν} (step : next cfg s a = some t) :
    Exact (Meets cfg s a) t := by
  obtain ⟨action, id⟩ := a
  cases action with
  | visit n bus now => exact visitStep_exact h step
  | processAlert => exact processAlert_exact h step
  | restartProcess =>
      cases step
      exact .of_invariant (restarted_invariant cfg s)
  | restartSensor =>
      simp only [next, ServiceMonitor.next] at step
      split at step
      · cases step
      · cases step
        exact .of_invariant (enterLoop_invariant h.account .starting)
  | advance =>
      simp only [next, ServiceMonitor.next] at step
      split at step
      · split at step
        · split at step
          · cases step
            exact .of_invariant (enterLoop_invariant h.account _)
          · cases step
            exact .of_invariant ⟨h.account, by simp, by simp⟩
        · cases step
      · cases step
  | poll =>
      simp only [next, ServiceMonitor.next] at step
      split at step
      · cases step
        exact .of_invariant (enterLoop_invariant h.account .errored)
      · cases step
  | propertiesChanged n which reply now =>
      simp only [next, ServiceMonitor.next] at step
      split at step
      · exact handleSignal_exact h step
      · cases step
  | unitFilesChanged n bus now =>
      simp only [next, ServiceMonitor.next] at step
      split at step
      · obtain ⟨x, found, rfl⟩ := Option.map_eq_some_iff.mp step
        cases changed : handleUnitStateChange cfg bus now x s.shared with
        | none =>
            have silent : bus.isEnabled = none := Option.map_eq_none_iff.mp changed
            exact (Exact.of_invariant h).congr (by simp [Meets, silent])
        | some r =>
            have moves := moves_setService found (handleUnitStateChange_effect changed)
            refine (moves.exact h).congr ?_
            by_cases enabled : bus.isEnabled = some true <;> simp [Meets, found, enabled]
      · cases step

/-- A run keeps the names in the sets among the keys of `services`, and every lookup finds
its key, exactly where each step meets the condition. -/
theorem consistent_iff {actions : List (Action ν × ν)}
    (run : (system cfg).FreeRuns (fresh cfg) actions s) :
    (system cfg).Always Consistent (fresh cfg) actions ↔
      (system cfg).Runs (Meets cfg) (fresh cfg) actions s := by
  refine run.always_iff (I := Invariant) (fun _ => Invariant.consistent) ?_ ?_
    (restarted_invariant cfg _)
  · exact fun s a t h meets step => (step_exact h step).enough meets
  · exact fun s a t h step after => (step_exact h step).needed after

end Runs

namespace Example

def config : Config String := ⟨{"mysql.service"}, 180, 30⟩

def answers (state : UnitActiveState) : Bus := ⟨true, some true, true, some state⟩

/-- The unit of the alias is active when the sensor starts. -/
def quiet : List (Action String × String) :=
  [(.visit "mysql.service" (answers .active) 0, "mariadb.service"),
    (.advance, "mariadb.service"), (.poll, "mariadb.service")]

/-- A service that is configured under an alias is initialized, and a round of the loop begins. -/
theorem consistent_iff_quiet : (system config).Always Consistent (fresh config) quiet := by
  have run : ∃ s, (system config).run (fresh config) quiet = some s :=
    Option.isSome_iff_exists.mp (by decide +kernel)
  obtain ⟨s, replay⟩ := run
  have free := (Transition.System.run_eq_some_iff (system config)).mp replay
  refine (consistent_iff free).mpr (free.strengthen ?_)
  intro done a rest m split reached
  cases done with
  | nil =>
      cases reached
      cases split
      rintro l todo point
      cases point
      intro
      exact ⟨nofun, fun _ => .inr (.inr ⟨rfl, .active, rfl, rfl⟩)⟩
  | cons b done =>
      have mem : a ∈ quiet.tail := by simp [split]
      rcases List.mem_cons.mp mem with rfl | mem
      · trivial
      · cases List.mem_singleton.mp mem
        trivial

/-- It has failed when the sensor starts, and the threshold is checked. -/
def failing : List (Action String × String) :=
  [(.visit "mysql.service" (answers .failed) 0, "mariadb.service"),
    (.advance, "mariadb.service"), (.poll, "mariadb.service"), (.advance, "mariadb.service"),
    (.advance, "mariadb.service"), (.advance, "mariadb.service"),
    (.visit "mariadb.service" (answers .failed) 31, "mariadb.service")]

theorem failing_stops : ((system config).run (fresh config) failing).any (fun s =>
    "mariadb.service" ∈ s.shared.failedWaitingServices ∧ ¬ Key s "mariadb.service" ∧
      (s.point matches .stopped) = true) = true := by
  decide +kernel

/-- The names in the sets need not be keys, and a lookup of one that is not fails. -/
theorem alias_not_key :
    ¬ ∀ actions s, (system config).FreeRuns (fresh config) actions s → Consistent s := by
  intro always
  obtain ⟨s, replay, found⟩ := (Option.any_eq_true _ _).mp failing_stops
  have after := always failing s ((Transition.System.run_eq_some_iff (system config)).mp replay)
  obtain ⟨mem, missing, -⟩ := of_decide_eq_true found
  exact missing (after.sets.failedWaiting _ mem)

end Example

end Aliased

end ServiceMonitor

end Sspl

import Sspl.Systemd.Alternation

/-!
# A service that is down is being waited for

While a service is enabled, what its object has last observed decides which of the sets
it is in, unless the alert for it is out already. The handler sees to that each time it
runs, with one exception: a service that is in `InactiveState` does not enter it again.
`DisabledState` takes the name out of `non_active` and leaves the object in
`InactiveState`, so a service that is disabled and enabled again while it is down is in
no set any more.
-/

namespace Sspl

namespace ServiceMonitor

variable {ν : Type} {n : ν} {x : Service ν} {c : Shared ν}

/-- What the object knows, whether it is enabled or not. -/
structure Tracked (x : Service ν) (c : Shared ν) : Prop where
  kept : Kept x c
  nonActive : x.name ∈ c.nonActive → x.serviceState = .inactive
  recorded : x.serviceState = .inactive → c.monitorState x.name = some .inactive
  moved : x.state ≠ none → x.state ≠ x.previousState

/-- The sets have the name where the last observed state wants it, and nowhere else. -/
structure Watched (x : Service ν) (c : Shared ν) : Prop where
  down : ∀ u, x.state = some u → u.Down → x.serviceState ≠ .failed → x.name ∈ c.nonActive
  failed : x.state = some .failed → x.serviceState ≠ .failed → x.name ∈ c.failedWaitingServices
  active : x.state = some .active → x.serviceState = .failed → x.name ∈ c.activeWaitingServices
  nonActive : x.name ∈ c.nonActive → x.state ≠ some .active
  failedWaiting : x.name ∈ c.failedWaitingServices → x.state = some .failed
  activeWaiting : x.name ∈ c.activeWaitingServices → x.state = some .active

theorem Watched.of_active (state : x.state = some .active)
    (waits : x.serviceState = .failed → x.name ∈ c.activeWaitingServices)
    (nonActive : x.name ∉ c.nonActive) (failedWaiting : x.name ∉ c.failedWaitingServices) :
    Watched x c where
  down u here isDown := by
    cases state.symm.trans here
    exact absurd rfl isDown.1
  failed here := by simp [state] at here
  active _ := waits
  nonActive mem := absurd mem nonActive
  failedWaiting mem := absurd mem failedWaiting
  activeWaiting _ := state

theorem Watched.of_failed (state : x.state = some .failed)
    (waits : x.serviceState ≠ .failed → x.name ∈ c.failedWaitingServices)
    (activeWaiting : x.name ∉ c.activeWaitingServices) : Watched x c where
  down u here isDown := by
    cases state.symm.trans here
    exact absurd rfl isDown.2
  failed _ := waits
  active here := by simp [state] at here
  nonActive _ := by simp [state]
  failedWaiting _ := state
  activeWaiting mem := absurd mem activeWaiting

theorem Watched.of_down {u : UnitActiveState} (state : x.state = some u) (isDown : u.Down)
    (waits : x.serviceState ≠ .failed → x.name ∈ c.nonActive)
    (failedWaiting : x.name ∉ c.failedWaitingServices)
    (activeWaiting : x.name ∉ c.activeWaitingServices) : Watched x c where
  down _ _ _ := waits
  failed here := by
    cases state.symm.trans here
    exact absurd rfl isDown.2
  active here := by
    cases state.symm.trans here
    exact absurd rfl isDown.1
  nonActive _ here := by
    cases state.symm.trans here
    exact absurd rfl isDown.1
  failedWaiting mem := absurd mem failedWaiting
  activeWaiting mem := absurd mem activeWaiting

/-- The object knows what it should, and it is watched while it is enabled. -/
structure Fine (x : Service ν) (c : Shared ν) : Prop where
  tracked : Tracked x c
  watched : x.unitState = some .enabled → Watched x c

/-- Where the handler reads that the unit is down, a service in `InactiveState` is still in
`non_active`. -/
def Remembered (x : Service ν) (c : Shared ν) (reply : Option UnitActiveState) : Prop :=
  ∀ u, reply = some u → u.Down → x.serviceState = .inactive → x.name ∈ c.nonActive

/-- The alert for the service is out, and it waits for nothing. -/
theorem Watched.of_alerted (alerted : x.serviceState = .failed) (state : x.state ≠ some .active)
    (nonActive : x.name ∉ c.nonActive) (failedWaiting : x.name ∉ c.failedWaitingServices)
    (activeWaiting : x.name ∉ c.activeWaitingServices) : Watched x c where
  down _ _ _ other := absurd alerted other
  failed _ other := absurd alerted other
  active here := absurd here state
  nonActive mem := absurd mem nonActive
  failedWaiting mem := absurd mem failedWaiting
  activeWaiting mem := absurd mem activeWaiting

section Methods

variable [DecidableEq ν] {now : Int} {cfg : Config ν} {bus : Bus}

theorem newServiceState_state (now : Int) (new : ServiceState) (x : Service ν) (c : Shared ν) :
    (newServiceState now new x c).1.state = x.state ∧
      (newServiceState now new x c).1.previousState = x.previousState ∧
      (newServiceState now new x c).1.unitState = x.unitState := by
  unfold newServiceState
  split
  · cases new <;> exact ⟨rfl, rfl, rfl⟩
  · exact ⟨rfl, rfl, rfl⟩

omit [DecidableEq ν] in
theorem observe_name (x : Service ν) (u : UnitActiveState) : (x.observe u).name = x.name := by
  unfold Service.observe
  split <;> rfl

omit [DecidableEq ν] in
theorem observe_serviceState (x : Service ν) (u : UnitActiveState) :
    (x.observe u).serviceState = x.serviceState := by
  unfold Service.observe
  split <;> rfl

omit [DecidableEq ν] in
theorem observe_unitState (x : Service ν) (u : UnitActiveState) :
    (x.observe u).unitState = x.unitState := by
  unfold Service.observe
  split <;> rfl

omit [DecidableEq ν] in
theorem observe_state (x : Service ν) (u : UnitActiveState)
    (moved : x.state ≠ none → x.state ≠ x.previousState) :
    (x.observe u).state = some u ∧ (x.observe u).state ≠ (x.observe u).previousState := by
  unfold Service.observe
  split
  · rename_i change
    exact ⟨rfl, fun same => change same.symm⟩
  · rename_i same
    have same := not_not.mp same
    exact ⟨same, moved (by simp [same])⟩

/-- What the handler makes of an observed state. -/
theorem react_cases (now : Int) (c : Shared ν) {u : UnitActiveState} (state : x.state = some u)
    (moved : x.state ≠ x.previousState) :
    (u = .active ∧ x.serviceState = .failed ∧ react now x c =
        ({ x with waitingTimestamp := now },
          (c.addActiveWaiting x.name).discardFailedWaiting x.name)) ∨
      (u = .active ∧ x.serviceState = .inactive ∧ react now x c =
        ({ x with serviceState := .active },
          (((c.discardNonActive x.name).discardFailedWaiting x.name).discardActiveWaiting
            x.name).discardFailedWaiting x.name)) ∨
      (u = .active ∧ x.serviceState = .active ∧ react now x c =
        (x, c.discardFailedWaiting x.name)) ∨
      (u = .failed ∧ x.serviceState ≠ .failed ∧ react now x c =
        ({ x with waitingTimestamp := now },
          (c.addFailedWaiting x.name).discardActiveWaiting x.name)) ∨
      (u = .failed ∧ x.serviceState = .failed ∧ react now x c =
        (x, c.discardActiveWaiting x.name)) ∨
      (u.Down ∧ ∃ r : Service ν × Shared ν, react now x c = (r.1,
          ((r.2.discardActiveWaiting r.1.name).discardFailedWaiting r.1.name).dumpToCache r.1) ∧
        (x.serviceState = .failed ∧ r = (x, c) ∨
          x.serviceState = .inactive ∧ r = (x, c) ∨
          x.serviceState = .active ∧ r = ({ x with
              serviceState := .inactive, nonactiveEnterTimestamp := now },
            ((c.addNonActive x.name).discardFailedWaiting x.name).discardActiveWaiting
              x.name))) := by
  have down : u.Down → react now x c =
      (let r := if x.serviceState ≠ .failed then newServiceState now .inactive x c else (x, c)
      (r.1, ((r.2.discardActiveWaiting r.1.name).discardFailedWaiting r.1.name).dumpToCache
        r.1)) := by
    rintro ⟨notActive, notFailed⟩
    unfold react
    rw [if_neg moved]
    split
    · rename_i isActive
      exact absurd (Option.some.inj (state.symm.trans isActive)) notActive
    · rename_i isFailed
      exact absurd (Option.some.inj (state.symm.trans isFailed)) notFailed
    · rfl
  by_cases isDown : u.Down
  · refine .inr (.inr (.inr (.inr (.inr ⟨isDown, _, down isDown, ?_⟩))))
    cases service : x.serviceState with
    | active => simp [newServiceState, ServiceState.enter, service]
    | failed => simp
    | inactive => simp [newServiceState, service]
  · have known : u = .active ∨ u = .failed := by
      by_cases isActive : u = .active
      · exact .inl isActive
      · exact .inr (not_not.mp (fun notFailed => isDown ⟨isActive, notFailed⟩))
    rw [state] at moved
    obtain rfl | rfl := known <;> cases service : x.serviceState <;>
      simp [react, moved, state, service, newServiceState, ServiceState.enter,
        UnitActiveState.Down]

theorem react_tracked (now : Int) (h : Tracked x c) {u : UnitActiveState} (state : x.state = some u)
    (moved : x.state ≠ x.previousState) :
    Tracked (react now x c).1 (react now x c).2 ∧
      (react now x c).1.unitState = x.unitState := by
  have keeps := Keeps.react now x c
  have kept := (keeps.kept h.kept).1
  obtain ⟨-, service, run⟩ | ⟨-, service, run⟩ | ⟨-, service, run⟩ | ⟨-, service, run⟩ |
      ⟨-, service, run⟩ | ⟨-, r, run, ⟨service, rfl⟩ | ⟨service, rfl⟩ | ⟨service, rfl⟩⟩ :=
    react_cases now c state moved <;> rw [run] at kept ⊢
  · exact ⟨⟨kept, h.nonActive, h.recorded, fun _ => moved⟩, rfl⟩
  · exact ⟨⟨kept, by simp, nofun, fun _ => moved⟩, rfl⟩
  · exact ⟨⟨kept, h.nonActive, h.recorded, fun _ => moved⟩, rfl⟩
  · exact ⟨⟨kept, h.nonActive, h.recorded, fun _ => moved⟩, rfl⟩
  · exact ⟨⟨kept, h.nonActive, h.recorded, fun _ => moved⟩, rfl⟩
  · exact ⟨⟨kept, h.nonActive, by simp [service], fun _ => moved⟩, rfl⟩
  · exact ⟨⟨kept, h.nonActive, by simp [service], fun _ => moved⟩, rfl⟩
  · refine ⟨⟨kept, fun _ => rfl, fun _ => ?_, fun _ => moved⟩, rfl⟩
    exact monitorState_dumpToCache _ _

/-- After the handler has run, the sets have the name where they should, unless a service in
`InactiveState` was missing from `non_active` and is down still. -/
theorem react_watched (h : Tracked x c) {u : UnitActiveState} (state : x.state = some u)
    (moved : x.state ≠ x.previousState)
    (remembered : u.Down → x.serviceState = .inactive → x.name ∈ c.nonActive) :
    Watched (react now x c).1 (react now x c).2 := by
  have notNonActive : x.serviceState ≠ .inactive → x.name ∉ c.nonActive :=
    fun other mem => other (h.nonActive mem)
  obtain ⟨rfl, service, run⟩ | ⟨rfl, service, run⟩ | ⟨rfl, service, run⟩ |
      ⟨rfl, service, run⟩ | ⟨rfl, service, run⟩ |
      ⟨down, r, run, ⟨service, rfl⟩ | ⟨service, rfl⟩ | ⟨service, rfl⟩⟩ :=
    react_cases now c state moved <;> rw [run]
  · -- it was failed and is alerted when it stays active
    exact .of_active state (by simp) (by simpa using notNonActive (by simp [service])) (by simp)
  · exact .of_active state nofun (by simp) (by simp)
  · exact .of_active state (by simp [service])
      (by simpa using notNonActive (by simp [service])) (by simp)
  · exact .of_failed state (by simp) (by simp)
  · exact .of_failed state (fun other => absurd service other) (by simp)
  · -- the alert is out already
    exact .of_down state down (fun other => absurd service other) (by simp) (by simp)
  · exact .of_down state down (fun _ => remembered down service) (by simp) (by simp)
  · exact .of_down state down (by simp) (by simp) (by simp)

omit [DecidableEq ν] in
/-- A method that leaves alone what is tracked. -/
theorem Tracked.of_keeps {r : Service ν × Shared ν} (h : Tracked x c) (keeps : Keeps x c r)
    (service : r.1.serviceState = x.serviceState) (state : r.1.state = x.state)
    (previous : r.1.previousState = x.previousState) (cache : r.2.cache = c.cache)
    (nonActive : x.name ∈ r.2.nonActive → x.name ∈ c.nonActive) : Tracked r.1 r.2 where
  kept := (keeps.kept h.kept).1
  nonActive := by
    rw [keeps.local_.name, service]
    exact fun mem => h.nonActive (nonActive mem)
  recorded := by
    rw [keeps.local_.name, service, Shared.monitorState, cache]
    exact h.recorded
  moved := by
    rw [state, previous]
    exact h.moved

omit [DecidableEq ν] in
theorem Tracked.observe (h : Tracked x c) (u : UnitActiveState) :
    (x.observe u).state = some u ∧ (x.observe u).state ≠ (x.observe u).previousState ∧
      Tracked (x.observe u) c := by
  obtain ⟨state, moved⟩ := observe_state x u h.moved
  have kept := ((Keeps.observe x c u).kept h.kept).1
  refine ⟨state, moved, kept, ?_, ?_, fun _ => moved⟩ <;>
    rw [observe_name, observe_serviceState]
  · exact h.nonActive
  · exact h.recorded

theorem handler_tracked {reply : Option UnitActiveState} {r : Service ν × Shared ν}
    (h : Tracked x c) (handled : propertiesChangedHandler now reply x c = some r) :
    Tracked r.1 r.2 ∧ r.1.unitState = x.unitState := by
  obtain ⟨u, -, rfl⟩ := Option.map_eq_some_iff.mp handled
  obtain ⟨state, moved, observed⟩ := h.observe u
  obtain ⟨tracked, unit⟩ := react_tracked now observed state moved
  exact ⟨tracked, unit.trans (observe_unitState x u)⟩

theorem handler_watched {reply : Option UnitActiveState} {r : Service ν × Shared ν}
    (h : Tracked x c) (remembered : Remembered x c reply)
    (handled : propertiesChangedHandler now reply x c = some r) : Watched r.1 r.2 := by
  obtain ⟨u, read, rfl⟩ := Option.map_eq_some_iff.mp handled
  obtain ⟨state, moved, observed⟩ := h.observe u
  refine react_watched observed state moved ?_
  rw [observe_name, observe_serviceState]
  exact remembered u read

theorem monitoringDisabled_tracked (cfg : Config ν) (h : Tracked x c) :
    Tracked (MonitoringDisabled.enter cfg { x with unitState := some .monitoringDisabled } c).1
      (MonitoringDisabled.enter cfg { x with unitState := some .monitoringDisabled } c).2 :=
  h.of_keeps (Keeps.trans (r := ({ x with unitState := some .monitoringDisabled }, c))
    (.of_fields c rfl rfl) (.monitoringDisabled cfg _ c)) rfl rfl rfl rfl id

theorem newUnitState_fine (h : Fine x c) (new : UnitState)
    (remembered : new = .enabled → x.unitState ≠ some .enabled → bus.connects = true →
      Remembered x c bus.activeState) :
    Fine (newUnitState cfg bus now new x c).1 (newUnitState cfg bus now new x c).2 := by
  unfold newUnitState
  split
  · rename_i change
    have tracked : ∀ state, Tracked { x with unitState := state } c := fun state =>
      h.tracked.of_keeps (r := ({ x with unitState := state }, c)) (.of_fields c rfl rfl)
        rfl rfl rfl rfl id
    cases new with
    | disabled =>
        refine ⟨(tracked _).of_keeps (.disabled _ c) rfl rfl rfl rfl ?_, nofun⟩
        exact fun mem => (Finset.mem_erase.mp mem).2
    | monitoringDisabled =>
        exact ⟨monitoringDisabled_tracked cfg h.tracked, nofun⟩
    | enabled =>
        have fails : ∀ (y : Service ν) (d : Shared ν), Tracked y d →
            Fine (MonitoringDisabled.enter cfg { y with unitState := some .monitoringDisabled } d).1
              (MonitoringDisabled.enter cfg { y with unitState := some .monitoringDisabled } d).2 :=
          fun y d tracked => ⟨monitoringDisabled_tracked cfg tracked, nofun⟩
        unfold UnitState.enter EnabledState.enter
        split
        · rename_i connects
          have connected := (tracked (some .enabled)).of_keeps
            (r := (Service.subscribe { x with unitState := some .enabled },
              c.discardMonitoringDisabled x.name))
            (Keeps.trans (r := (Service.subscribe { x with unitState := some .enabled }, c))
              (.of_fields c rfl rfl) (.discardMonitoringDisabled _ c)) rfl rfl rfl rfl id
          dsimp only
          split
          · rename_i handled
            exact ⟨(handler_tracked connected handled).1, fun _ =>
              handler_watched connected (remembered rfl change connects) handled⟩
          · exact fails _ _ connected
        · exact fails _ _ (tracked _)
  · exact h

theorem handleUnitStateChange_fine {r : Service ν × Shared ν} (h : Fine x c)
    (remembered : bus.isEnabled = some true → x.unitState ≠ some .enabled →
      bus.connects = true → Remembered x c bus.activeState)
    (changed : handleUnitStateChange cfg bus now x c = some r) : Fine r.1 r.2 := by
  obtain ⟨isEnabled, read, rfl⟩ := Option.map_eq_some_iff.mp changed
  refine newUnitState_fine h _ fun enables => ?_
  cases isEnabled with
  | true => exact remembered read
  | false => cases enables

/-- A name without an object is at most in `non_active`, and then by its cache. -/
structure Absent (n : ν) (c : Shared ν) : Prop where
  failedWaiting : n ∉ c.failedWaitingServices
  activeWaiting : n ∉ c.activeWaitingServices
  nonActive : n ∈ c.nonActive → c.monitorState n = some .inactive

theorem newServiceState_waiting {new : ServiceState} {m : ν} :
    (m ∈ (newServiceState now new x c).2.failedWaitingServices →
        m ∈ c.failedWaitingServices) ∧
      (m ∈ (newServiceState now new x c).2.activeWaitingServices →
        m ∈ c.activeWaitingServices) := by
  unfold newServiceState
  split
  · cases new <;> simp [ServiceState.enter]
  · exact ⟨id, id⟩

theorem load_waiting :
    (n ∈ (load now n c).2.failedWaitingServices → n ∈ c.failedWaitingServices) ∧
      (n ∈ (load now n c).2.activeWaitingServices → n ∈ c.activeWaitingServices) := by
  unfold load
  split
  · exact newServiceState_waiting
  · exact ⟨id, id⟩

/-- The object that `from_cache` makes, for each cached monitor state. -/
theorem fromCache_eq (now : Int) (n : ν) (data : Cached) (c : Shared ν) :
    (fromCache now n data c).1 = { Service.created n now with
        serviceState := data.serviceMonitorState
        state := data.serviceState
        nonactiveEnterTimestamp := data.nonactiveEnterTimestamp
        waitingTimestamp := data.waitingTimestamp } ∧
      (fromCache now n data c).2 = match data.serviceMonitorState with
        | .active => c
        | .failed =>
          ((c.discardNonActive n).discardFailedWaiting n).discardActiveWaiting n
        | .inactive =>
          ((c.addNonActive n).discardFailedWaiting n).discardActiveWaiting n := by
  cases state : data.serviceMonitorState <;>
    simp [fromCache, newServiceState, state, Service.created, ServiceState.enter]

/-- The object rebuilt from the cache is tracked, and in `InactiveState` it is in
`non_active`. -/
theorem load_tracked (now : Int) (h : Absent n c) :
    Tracked (load now n c).1 (load now n c).2 ∧
      ((load now n c).1.serviceState = .inactive → n ∈ (load now n c).2.nonActive) ∧
      (load now n c).1.unitState = none := by
  have kept := load_kept now (c := c) (n := n)
    ⟨fun mem => by simp [h.nonActive mem], fun mem => absurd mem h.failedWaiting,
      fun mem => absurd mem h.activeWaiting⟩
  cases found : c.cache n with
  | none =>
      have loaded : load now n c = (Service.created n now, c) := by simp [load, found]
      have outside : n ∉ c.nonActive := by
        intro mem
        simpa [Shared.monitorState, found] using h.nonActive mem
      have active : (Service.created n now).serviceState ≠ .inactive := by simp [Service.created]
      rw [loaded] at kept ⊢
      exact ⟨⟨kept, fun mem => absurd mem outside, fun inactive => absurd inactive active,
        fun some => absurd rfl some⟩, fun inactive => absurd inactive active, rfl⟩
  | some data =>
      have loaded : load now n c = fromCache now n data c := by simp [load, found]
      have recorded : c.monitorState n = some data.serviceMonitorState := by
        simp [Shared.monitorState, found]
      have recorded' : (load now n c).2.monitorState n = some data.serviceMonitorState := by
        rw [Shared.monitorState, load_cache, ← recorded, Shared.monitorState]
      obtain ⟨object, sets⟩ := fromCache_eq now n data c
      rw [loaded] at kept recorded' ⊢
      rw [object] at kept ⊢
      refine ⟨⟨kept, ?_, fun inactive => recorded'.trans (congrArg some inactive), id⟩,
        ?_, rfl⟩
      · intro mem
        rw [sets] at mem
        cases state : data.serviceMonitorState with
        | active =>
            -- nothing is entered, and `non_active` had the name by its cache only
            have inactive := h.nonActive (by simpa [state, Service.created] using mem)
            simp [recorded, state] at inactive
        | failed => simp [state, Service.created] at mem
        | inactive => rfl
      · intro inactive
        rw [sets, show data.serviceMonitorState = .inactive from inactive]
        simp

end Methods

section Runs

variable [DecidableEq ν] {s t : State ν} {cfg : Config ν}

/-- The second invariant of one service. -/
structure Watching (n : ν) (s : State ν) : Prop where
  first : s.earlier n = []
  fine : ∀ x, s.services n = some x → Fine x s.shared
  absent : s.services n = none → Absent n s.shared

theorem Undisturbed.watching (h : Undisturbed n s t) (names : Named s) (sound : Sound n t)
    (watching : Watching n s) : Watching n t where
  first := h.earlier.trans watching.first
  fine x found := by
    have kept := sound.kept x found
    rw [h.service] at found
    obtain ⟨tracked, watched⟩ := watching.fine x found
    have name := names.services n x found
    subst name
    refine ⟨⟨kept, ?_, ?_, tracked.moved⟩, fun enabled => ?_⟩
    · exact fun mem => tracked.nonActive (h.shared.nonActive.mp mem)
    · rw [h.shared.monitorState]
      exact tracked.recorded
    · have old := watched enabled
      exact ⟨fun u here down other => h.shared.nonActive.mpr (old.down u here down other),
        fun here other => h.shared.failedWaiting.mpr (old.failed here other),
        fun here failed => h.shared.activeWaiting.mpr (old.active here failed),
        fun mem => old.nonActive (h.shared.nonActive.mp mem),
        fun mem => old.failedWaiting (h.shared.failedWaiting.mp mem),
        fun mem => old.activeWaiting (h.shared.activeWaiting.mp mem)⟩
  absent none := by
    have old := watching.absent (h.service ▸ none)
    refine ⟨mt h.shared.failedWaiting.mp old.failedWaiting,
      mt h.shared.activeWaiting.mp old.activeWaiting, fun mem => ?_⟩
    rw [h.shared.monitorState]
    exact old.nonActive (h.shared.nonActive.mp mem)

theorem setService_watching (watching : Watching n s) {r : Service ν × Shared ν}
    (fine : Fine r.1 r.2) : Watching n (s.setService n r) where
  first := watching.first
  fine x found := by
    simp only [State.setService, Function.update_self, Option.some.injEq] at found
    exact found ▸ fine
  absent none := by simp [State.setService] at none

theorem initializeService_watching (watching : Watching n s) (none : s.services n = none)
    (bus : Bus) (now : Int) : Watching n (s.initializeService cfg n bus now) := by
  have absent := watching.absent none
  obtain ⟨tracked, entered, unset⟩ := load_tracked now absent
  have name := load_name now n s.shared
  obtain run | run | ⟨r, changed, run⟩ := initializeService_cases cfg n bus now s <;> rw [run]
  · exact watching
  · refine ⟨watching.first, by simp [none], fun _ => ⟨?_, ?_, ?_⟩⟩
    · exact mt load_waiting.1 absent.failedWaiting
    · exact mt load_waiting.2 absent.activeWaiting
    · have recorded := tracked.recorded
      have nonActive := tracked.nonActive
      rw [name] at recorded nonActive
      exact fun mem => recorded (nonActive mem)
  · have fine : Fine r.1 r.2 := by
      refine handleUnitStateChange_fine ⟨tracked, fun enabled => ?_⟩ (fun _ _ _ => ?_) changed
      · simp [unset] at enabled
      · intro _ _ _ inactive
        rw [name]
        exact entered inactive
    refine ⟨?_, fun x found => ?_, fun missing => ?_⟩
    · simp [State.replaceService, watching.first, none]
    · simp only [State.replaceService, State.setService, Function.update_self,
        Option.some.injEq] at found
      exact found ▸ fine
    · simp [State.replaceService, State.setService] at missing

/-- The loops of the check leave the name in no set and the state consistent with that. -/
theorem checkService_watching {x : Service ν} (watching : Watching n s)
    (found : s.services n = some x) (name : x.name = n) (overdue : Bool) {new : ServiceState}
    {alert : Alert} (now : Int) (expected : Expected x.serviceState new alert.alertType)
    (observed : x.unitState = some .enabled →
      (new = .active ∧ x.state = some .active ∨ new = .failed ∧ x.state ≠ some .active))
    (sound : Sound n (s.checkService cfg x overdue new alert now)) :
    Watching n (s.checkService cfg x overdue new alert now) := by
  unfold State.checkService at sound ⊢
  split at sound
  · rename_i isOver
    rw [if_pos isOver]
    subst name
    obtain ⟨r, run⟩ : ∃ r, r = newServiceState now new x s.shared := ⟨_, rfl⟩
    have change : x.serviceState ≠ new := by
      obtain ⟨before, after, -⟩ | ⟨before, after, -⟩ := expected
      · simp [before, after]
      · simpa [after] using before
    have settled : new ≠ .inactive := by
      obtain ⟨-, after, -⟩ | ⟨-, after, -⟩ := expected <;> simp [after]
    obtain ⟨nonActive, failedWaiting, activeWaiting⟩ :=
      newServiceState_leaves now (c := s.shared) change settled
    obtain ⟨state, previous, unit⟩ := newServiceState_state now new x s.shared
    have name : r.1.name = x.name := run ▸ (Local.newServiceState now new x s.shared).name
    have entered : r.1.serviceState = new := run ▸ newServiceState_serviceState now new x s.shared
    rw [← run] at sound nonActive failedWaiting activeWaiting state previous unit ⊢
    rw [← name] at nonActive failedWaiting activeWaiting
    refine ⟨watching.first, fun y here => ?_, fun missing => ?_⟩
    · have kept := sound.kept y here
      simp only [State.raiseAlert, State.setService, Function.update_self,
        Option.some.injEq] at here
      subst here
      refine ⟨⟨kept, fun mem => absurd mem nonActive, ?_, ?_⟩, fun enabled => ?_⟩
      · rw [entered]
        exact fun inactive => absurd inactive settled
      · rw [state, previous]
        exact (watching.fine x found).tracked.moved
      · obtain ⟨rfl, active⟩ | ⟨rfl, notActive⟩ := observed (unit ▸ enabled)
        · exact .of_active (state.trans active) (by simp [entered]) nonActive failedWaiting
        · exact .of_alerted entered (state ▸ notActive) nonActive failedWaiting activeWaiting
    · simp [State.raiseAlert, State.setService] at missing
  · rename_i notOver
    rw [if_neg notOver]
    exact watching

/-- Writing the cache of a service changes what is recorded of it to what it is. -/
theorem raiseAlert_watching {x : Service ν} (watching : Watching n s)
    (found : s.services n = some x) (message : Message ν)
    (sound : Sound n (s.raiseAlert .registration message x)) :
    Watching n (s.raiseAlert .registration message x) where
  first := watching.first
  fine y here := by
    have kept := sound.kept y here
    cases found.symm.trans here
    obtain ⟨tracked, watched⟩ := watching.fine x found
    refine ⟨⟨kept, tracked.nonActive, fun inactive => ?_, tracked.moved⟩, fun enabled => ?_⟩
    · rw [State.raiseAlert, monitorState_dumpToCache, inactive]
    · have old := watched enabled
      exact ⟨old.down, old.failed, old.active, old.nonActive, old.failedWaiting,
        old.activeWaiting⟩
  absent none := by
    have missing : s.services n = Option.none := none
    simp [found] at missing

/-- What the steps of a run have to leave out. A handler that reads that an enabled unit, or
one that is being enabled, is down finds a service in `InactiveState` in `non_active`; and
the sensor is not started again in the process in which it has an object for the service. -/
def Attended (n : ν) (s : State ν) : Action ν → Prop
  | .restartSensor => s.services n = none
  | .propertiesChanged m none reply _ => m = n → ∀ x, s.services n = some x →
      x.unitState = some .enabled → Remembered x s.shared reply
  | .unitFilesChanged m bus _ => m = n → ∀ x, s.services n = some x →
      bus.isEnabled = some true → x.unitState ≠ some .enabled → bus.connects = true →
      Remembered x s.shared bus.activeState
  | .visit m bus _ => m = n → ∀ todo, s.point = .within .resubscribing todo →
      ∀ x, s.services n = some x → x.unitState ≠ some .enabled → bus.connects = true →
      Remembered x s.shared bus.activeState
  | _ => True

omit [DecidableEq ν] in
theorem Attended.silenced {a : Action ν} (h : Attended n s a) : Silenced n s a := by
  cases a with
  | restartSensor =>
      intro x found
      simp [show s.services n = none from h] at found
  | _ => trivial

theorem visit_watching (invariant : Invariant n s) (watching : Watching n s) {bus : Bus}
    {now : Int} {l : Loop} {todo : Finset ν} (point : s.point = .within l todo)
    (attended : Attended n s (.visit n bus now)) (none : l = .starting → s.services n = none)
    (listed : Listed n s l) (sound : Sound n t) (step : s.visit cfg n bus now l = some t) :
    Watching n t := by
  have names := invariant.names
  cases l with
  | starting =>
      cases step
      exact initializeService_watching watching (none rfl) bus now
  | errored =>
      cases step
      exact initializeService_watching watching listed bus now
  | resubscribing =>
      obtain ⟨x, found, rfl⟩ := Option.map_eq_some_iff.mp step
      exact setService_watching watching
        (newUnitState_fine (watching.fine x found) _ (fun _ => attended rfl todo point x found))
  | activeWaiting =>
      obtain ⟨x, found, rfl⟩ := Option.map_eq_some_iff.mp step
      have name := names.services n x found
      have mem : x.name ∈ s.shared.activeWaitingServices := name ▸ listed
      refine checkService_watching watching found name _ now (.inl ⟨?_, rfl, rfl⟩)
        (fun enabled => .inl ⟨rfl, ?_⟩) sound
      · exact (invariant.sound.kept x found).activeWaiting mem
      · exact ((watching.fine x found).watched enabled).activeWaiting mem
  | failedWaiting =>
      obtain ⟨x, found, rfl⟩ := Option.map_eq_some_iff.mp step
      have name := names.services n x found
      have mem : x.name ∈ s.shared.failedWaitingServices := name ▸ listed
      refine checkService_watching watching found name _ now (.inr ⟨?_, rfl, rfl⟩)
        (fun enabled => .inr ⟨rfl, ?_⟩) sound
      · exact (invariant.sound.kept x found).failedWaiting mem
      · simp [((watching.fine x found).watched enabled).failedWaiting mem]
  | nonActive =>
      obtain ⟨x, found, rfl⟩ := Option.map_eq_some_iff.mp step
      have name := names.services n x found
      have mem : x.name ∈ s.shared.nonActive := name ▸ listed
      refine checkService_watching watching found name _ now (.inr ⟨?_, rfl, rfl⟩)
        (fun enabled => .inr ⟨rfl, ?_⟩) sound
      · exact (invariant.sound.kept x found).nonActive mem
      · exact ((watching.fine x found).watched enabled).nonActive mem

/-- The sensor has no object yet for what it is going to initialize. -/
def Starting (n : ν) (s : State ν) : Prop :=
  ∀ todo, s.point = .within .starting todo → n ∈ todo → s.services n = none

/-- Everything that is invariant for one service over the attended runs. -/
structure Guarded (n : ν) (s : State ν) : Prop where
  invariant : Invariant n s
  watching : Watching n s
  starting : Starting n s

theorem restarted_guarded (invariant : Invariant n (s.restarted cfg)) :
    Guarded n (s.restarted cfg) where
  invariant := invariant
  watching := ⟨rfl, fun x found => by simp [State.restarted, State.enterLoop] at found,
    fun _ => ⟨Finset.notMem_empty n, Finset.notMem_empty n, fun mem =>
      absurd mem (Finset.notMem_empty n)⟩⟩
  starting := fun _ _ _ => rfl

omit [DecidableEq ν] in
theorem starting_of_point (point : ∀ todo, s.point ≠ .within .starting todo) : Starting n s :=
  fun todo here => absurd here (point todo)

/-- One visit of a loop. -/
theorem Guarded.visit {l : Loop} {todo : Finset ν} {m : ν} {bus : Bus} {now : Int} {u : State ν}
    (h : Guarded n s) (attended : Attended n s (.visit m bus now))
    (point : s.point = .within l todo) (listed : m ∈ todo)
    (visited : s.visit cfg m bus now l = some u)
    (after : Invariant n { u with point := .within l (todo.erase m) }) :
    Guarded n { u with point := .within l (todo.erase m) } := by
  obtain ⟨invariant, watching, starting⟩ := h
  have names := invariant.names
  have names' := visit_named names visited
  have moved : Undisturbed n u { u with point := .within l (todo.erase m) } :=
    ⟨.refl n _, rfl, rfl, rfl⟩
  refine ⟨after, moved.watching names' after.sound ?_, ?_⟩
  · have sound : Sound n u := ⟨after.sound.silent, after.sound.kept, after.sound.loadable,
      after.sound.alternating, after.sound.next⟩
    by_cases same : n = m
    · subst same
      exact visit_watching invariant watching point attended
        (fun isStarting => starting todo (isStarting ▸ point) listed)
        (invariant.pending l todo point listed) sound visited
    · exact (visit_undisturbed names same visited).watching names sound watching
  · rintro todo' here mem
    cases here
    obtain ⟨other, mem⟩ := Finset.mem_erase.mp mem
    exact (visit_undisturbed names other visited).service.trans (starting todo point mem)

/-- A signal of the service itself, or of another one. -/
theorem Guarded.signal {m : ν} {which : Option Nat} {reply : Option UnitActiveState} {now : Int}
    (h : Guarded n s) (attended : Attended n s (.propertiesChanged m which reply now))
    (point : s.point = .waiting) (handled : s.handleSignal m which reply now = some t)
    (after : Invariant n t) : Guarded n t := by
  obtain ⟨invariant, watching, starting⟩ := h
  have names := invariant.names
  have waits : t.point = .waiting := handleSignal_waits point handled
  refine ⟨after, ?_, starting_of_point (by simp [waits])⟩
  by_cases same : n = m
  · subst same
    cases which with
    | some i => simp [State.handleSignal, watching.first] at handled
    | none =>
        obtain rfl | ⟨x, r, found, changed, -, rfl⟩ | ⟨i, x, r, found, -, -, -⟩ :=
          handleSignal_cases handled
        · exact watching
        · obtain ⟨tracked, unit⟩ := handler_tracked (watching.fine x found).tracked changed
          exact setService_watching watching ⟨tracked, fun enabled =>
            handler_watched (watching.fine x found).tracked
              (attended rfl x found (unit ▸ enabled)) changed⟩
        · simp [watching.first] at found
  · exact (handleSignal_undisturbed names same handled).watching names after.sound watching

theorem Guarded.step {a : Action ν} (h : Guarded n s) (attended : Attended n s a)
    (step : next cfg s a = some t) : Guarded n t := by
  have after : Invariant n t := h.invariant.step attended.silenced step
  obtain ⟨invariant, watching, starting⟩ := h
  have names := invariant.names
  cases next_cases step with
  | restartProcess => exact restarted_guarded after
  | restartSensor =>
      exact ⟨after, (enterLoop_undisturbed ..).watching names after.sound watching,
        fun _ _ _ => attended⟩
  | stop visited =>
      have still : Undisturbed n s { s with point := .stopped } := ⟨.refl n _, rfl, rfl, rfl⟩
      exact ⟨after, still.watching names after.sound watching, starting_of_point (by simp)⟩
  | visit point listed visited =>
      exact .visit ⟨invariant, watching, starting⟩ attended point listed visited after
  | @follow l following next =>
      refine ⟨after, (enterLoop_undisturbed ..).watching names after.sound watching,
        starting_of_point ?_⟩
      cases l <;> cases next <;> simp [State.enterLoop]
  | wait =>
      have still : Undisturbed n s { s with point := .waiting } := ⟨.refl n _, rfl, rfl, rfl⟩
      exact ⟨after, still.watching names after.sound watching, starting_of_point (by simp)⟩
  | poll =>
      exact ⟨after, (enterLoop_undisturbed ..).watching names after.sound watching,
        starting_of_point (by simp [State.enterLoop])⟩
  | signal point handled =>
      exact .signal ⟨invariant, watching, starting⟩ attended point handled after
  | unchanged => exact ⟨invariant, watching, starting⟩
  | @changed m bus now x r point found changed =>
      refine ⟨after, ?_, starting_of_point (by simp [State.setService, point])⟩
      by_cases same : n = m
      · subst same
        exact setService_watching watching (handleUnitStateChange_fine (watching.fine x found)
          (attended rfl x found) changed)
      · exact (setService_undisturbed names same found
          (Keeps.handleUnitStateChange changed).local_).watching names after.sound watching
  | @raise message rest x point found =>
      have moved := takeAlert_undisturbed (n := n) s rest
      have names' : Named (s.takeAlert rest) := ⟨names.services, names.earlier⟩
      have watching' := moved.watching names (moved.sound names invariant.sound) watching
      have name := names.services _ x found
      refine ⟨after, ?_, starting_of_point (by simp [State.raiseAlert, State.takeAlert, point])⟩
      by_cases same : n = message.resourceId
      · exact raiseAlert_watching watching' (same ▸ found) message after.sound
      · exact (raiseAlert_undisturbed _ message (name.symm ▸ same)).watching names' after.sound
          watching'
  | @lose message rest =>
      have moved := takeAlert_undisturbed (n := n) s rest
      have names' : Named (s.takeAlert rest) := ⟨names.services, names.earlier⟩
      have watching' := moved.watching names (moved.sound names invariant.sound) watching
      exact ⟨after, (loseAlert_undisturbed _ message).watching names' after.sound watching',
        starting_of_point (by simp [State.loseAlert])⟩

theorem fresh_guarded (cfg : Config ν) (n : ν) : Guarded n (fresh cfg) :=
  restarted_guarded (fresh_invariant cfg n)

/-- What the sets owe a service whose object is enabled and connected: the name is in the set in
which a service that is down, failed, or back from a failure waits for its alert. -/
def Remembers (n : ν) (s : State ν) : Prop :=
  ∀ x, s.services n = some x → x.unitState = some .enabled → x.Live →
    (∀ u, x.state = some u → u.Down → x.serviceState ≠ .failed → n ∈ s.shared.nonActive) ∧
      (x.state = some .failed → x.serviceState ≠ .failed →
        n ∈ s.shared.failedWaitingServices) ∧
      (x.state = some .active → x.serviceState = .failed →
        n ∈ s.shared.activeWaitingServices)

/-- Over every attended run no service that is down is forgotten: its object is in a set that leads
to an alert, or it was alerted. A step is unattended where the handler reads that a unit is down
while its object is in `InactiveState` and out of `non_active`, or where the sensor is started
again beside an object of its own. -/
theorem down_service_remembered {actions : List (Action ν)}
    (run : (system cfg).Runs (Attended n) (fresh cfg) actions s) : Remembers n s := by
  have guarded : Guarded n s :=
    run.invariant (fun _ _ _ kept attended step => kept.step attended step) (fresh_guarded cfg n)
  intro x found enabled _
  have watched := (guarded.watching.fine x found).watched enabled
  rw [← guarded.invariant.names.services n x found]
  exact ⟨watched.down, watched.failed, watched.active⟩

end Runs

namespace Example

/-- A service that stops is attended. -/
theorem stopping_attended : ∃ s : State Unit,
    (system config).Runs (Attended ()) (fresh config)
      [.visit () (answers .active) 0, .advance, .propertiesChanged () none (some .inactive) 10] s ∧
    s.shared.nonActive = {()} := by
  refine ⟨_, .cons ?_ rfl (.cons trivial rfl (.cons ?_ rfl (.nil _))), rfl⟩
  · rintro _ todo point
    cases point
  · rintro _ x found - u - - inactive
    cases found
    cases inactive

/-- A service that is stopped waits in `non_active`. -/
theorem down_service_remembered_stopping : ∃ s : State Unit,
    s.shared.nonActive = {()} ∧ Remembers () s := by
  obtain ⟨s, run, nonActive⟩ := stopping_attended
  exact ⟨s, nonActive, down_service_remembered run⟩

/-- The service is disabled and enabled again while it is down. -/
def disabling : List (Action Unit) :=
  [.visit () (answers .inactive) 0, .advance,
    .unitFilesChanged () { answers .inactive with isEnabled := some false } 10,
    .unitFilesChanged () (answers .inactive) 20]

theorem disabling_forgets :
    ((system config).run (fresh config) disabling).map (fun s =>
      (s.services (), s.shared.nonActive)) =
    some (some ⟨(), some .inactive, none, 0, 0, .inactive, some .enabled, true, 0⟩, ∅) := by
  decide

/-- Not every run remembers a service that is down. -/
theorem down_service_forgotten :
    ¬ ∀ actions s, (system config).FreeRuns (fresh config) actions s → Remembers () s := by
  intro always
  obtain ⟨s, replay, found⟩ := Option.map_eq_some_iff.mp disabling_forgets
  obtain ⟨found, nonActive⟩ := Prod.ext_iff.mp found
  have remembers := always disabling s ((Transition.System.run_eq_some_iff _).mp replay)
  have mem := (remembers _ found rfl (by decide)).1 .inactive rfl (by decide) (by simp)
  rw [show s.shared.nonActive = ∅ from nonActive] at mem
  exact absurd mem (Finset.notMem_empty ())

end Example

end ServiceMonitor

end Sspl

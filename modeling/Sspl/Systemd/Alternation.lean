import Sspl.Foundation.Alternation
import Sspl.Systemd.Monitor

/-!
# The alerts of one service alternate

A service waits in `failed_waiting_services` or `non_active` only while it is not in
`FailedState`, and in `active_waiting_services` only while it is. `FailedState` is
entered with a fault alert and left with a resolved alert, and both are followed by a
dump to the cache, so the cache tells which of the two is due after a restart.

All this is about the object that `services` holds. When the sensor is started again
in the same process, the objects it had before keep their connection to D-Bus and
edit the same sets by a state of their own.
-/

namespace Sspl

namespace ServiceMonitor

variable {ν : Type} {n : ν}

/-- The monitor state in the cache. -/
def Shared.monitorState (c : Shared ν) (n : ν) : Option ServiceState :=
  (c.cache n).map Cached.serviceMonitorState

/-- The alert that has to follow, going by the monitor state in the cache. -/
def nextAlert (recorded : Option ServiceState) : AlertType :=
  if recorded = some .failed then .faultResolved else .fault

theorem nextAlert_congr {first second : Option ServiceState}
    (same : first = some .failed ↔ second = some .failed) : nextAlert first = nextAlert second := by
  simp only [nextAlert, same]

/-- The class attributes and the cache say the same of the name. -/
structure SameAt (n : ν) (c d : Shared ν) : Prop where
  nonActive : n ∈ d.nonActive ↔ n ∈ c.nonActive
  activeWaiting : n ∈ d.activeWaitingServices ↔ n ∈ c.activeWaitingServices
  failedWaiting : n ∈ d.failedWaitingServices ↔ n ∈ c.failedWaitingServices
  cache : d.cache n = c.cache n

theorem SameAt.refl (n : ν) (c : Shared ν) : SameAt n c c := ⟨.rfl, .rfl, .rfl, rfl⟩

theorem SameAt.trans {c d e : Shared ν} (first : SameAt n c d) (second : SameAt n d e) :
    SameAt n c e :=
  ⟨second.nonActive.trans first.nonActive, second.activeWaiting.trans first.activeWaiting,
    second.failedWaiting.trans first.failedWaiting, second.cache.trans first.cache⟩

theorem SameAt.monitorState {c d : Shared ν} (h : SameAt n c d) :
    d.monitorState n = c.monitorState n := by
  rw [Shared.monitorState, Shared.monitorState, h.cache]

/-- A method of an object touches nothing that belongs to another name. -/
structure Local (x : Service ν) (c : Shared ν) (r : Service ν × Shared ν) : Prop where
  name : r.1.name = x.name
  other : ∀ n, n ≠ x.name → SameAt n c r.2

/-- Membership and cache agree with the state of the object. -/
structure Kept (x : Service ν) (c : Shared ν) : Prop where
  nonActive : x.name ∈ c.nonActive → x.serviceState ≠ .failed
  failedWaiting : x.name ∈ c.failedWaitingServices → x.serviceState ≠ .failed
  activeWaiting : x.name ∈ c.activeWaitingServices → x.serviceState = .failed
  failed : x.serviceState = .failed ↔ c.monitorState x.name = some .failed

/-- A method keeps the agreement and neither enters nor leaves `FailedState`. -/
structure Keeps (x : Service ν) (c : Shared ν) (r : Service ν × Shared ν) : Prop where
  local_ : Local x c r
  kept : Kept x c → Kept r.1 r.2 ∧ (r.1.serviceState = .failed ↔ x.serviceState = .failed)

theorem Local.refl (x : Service ν) (c : Shared ν) : Local x c (x, c) :=
  ⟨rfl, fun _ _ => .refl _ _⟩

theorem Local.trans {x : Service ν} {c : Shared ν} {r t : Service ν × Shared ν}
    (first : Local x c r) (second : Local r.1 r.2 t) : Local x c t :=
  ⟨second.name.trans first.name, fun n other =>
    (first.other n other).trans (second.other n (first.name ▸ other))⟩

theorem Keeps.refl (x : Service ν) (c : Shared ν) : Keeps x c (x, c) :=
  ⟨.refl x c, fun kept => ⟨kept, .rfl⟩⟩

theorem Keeps.trans {x : Service ν} {c : Shared ν} {r t : Service ν × Shared ν}
    (first : Keeps x c r) (second : Keeps r.1 r.2 t) : Keeps x c t where
  local_ := first.local_.trans second.local_
  kept kept := by
    obtain ⟨middle, same⟩ := first.kept kept
    obtain ⟨final, same'⟩ := second.kept middle
    exact ⟨final, same'.trans same⟩

/-- Fields of the object that the sets do not depend on may change. -/
theorem Keeps.of_fields {x y : Service ν} (c : Shared ν) (name : y.name = x.name)
    (state : y.serviceState = x.serviceState) : Keeps x c (y, c) where
  local_ := ⟨name, fun _ _ => .refl _ _⟩
  kept h := by
    refine ⟨⟨?_, ?_, ?_, ?_⟩, by rw [state]⟩ <;> rw [name, state]
    · exact h.nonActive
    · exact h.failedWaiting
    · exact h.activeWaiting
    · exact h.failed

/-- Two objects in `FailedState` or out of it together agree with the same sets. -/
theorem Kept.transfer {x y : Service ν} {c : Shared ν} (h : Kept y c) (name : x.name = y.name)
    (same : x.serviceState = .failed ↔ y.serviceState = .failed) : Kept x c := by
  refine ⟨?_, ?_, ?_, ?_⟩ <;> rw [name]
  · exact fun mem => mt same.mp (h.nonActive mem)
  · exact fun mem => mt same.mp (h.failedWaiting mem)
  · exact fun mem => same.mpr (h.activeWaiting mem)
  · exact same.trans h.failed

theorem Keeps.observe (x : Service ν) (c : Shared ν) (state : UnitActiveState) :
    Keeps x c (x.observe state, c) := by
  unfold Service.observe
  split
  · exact .of_fields c rfl rfl
  · exact .refl x c

/-- What the sets and the cache have to say of a name for its object to be rebuilt. -/
structure Loadable (n : ν) (c : Shared ν) : Prop where
  nonActive : n ∈ c.nonActive → c.monitorState n ≠ some .failed
  failedWaiting : n ∈ c.failedWaitingServices → c.monitorState n ≠ some .failed
  activeWaiting : n ∈ c.activeWaitingServices → c.monitorState n = some .failed

theorem Kept.loadable {x : Service ν} {c : Shared ν} (h : Kept x c) : Loadable x.name c where
  nonActive mem recorded := h.nonActive mem (h.failed.mpr recorded)
  failedWaiting mem recorded := h.failedWaiting mem (h.failed.mpr recorded)
  activeWaiting mem := h.failed.mp (h.activeWaiting mem)

section Methods

variable [DecidableEq ν] {x : Service ν} {c : Shared ν} {now : Int}

@[simp] theorem monitorState_dumpToCache (c : Shared ν) (x : Service ν) :
    (c.dumpToCache x).monitorState x.name = some x.serviceState := by
  simp [Shared.monitorState, Shared.dumpToCache, Service.cached]

theorem SameAt.dumpToCache (c : Shared ν) (other : n ≠ x.name) :
    SameAt n c (c.dumpToCache x) :=
  ⟨.rfl, .rfl, .rfl, by simp [Shared.dumpToCache, other]⟩

theorem Keeps.discardNonActive (x : Service ν) (c : Shared ν) :
    Keeps x c (x, c.discardNonActive x.name) where
  local_ := ⟨rfl, fun n other => ⟨by simp [Shared.discardNonActive, other], .rfl, .rfl, rfl⟩⟩
  kept h := ⟨⟨by simp [Shared.discardNonActive], h.failedWaiting, h.activeWaiting, h.failed⟩, .rfl⟩

theorem Keeps.discardActiveWaiting (x : Service ν) (c : Shared ν) :
    Keeps x c (x, c.discardActiveWaiting x.name) where
  local_ := ⟨rfl, fun n other => ⟨.rfl, by simp [Shared.discardActiveWaiting, other], .rfl, rfl⟩⟩
  kept h := ⟨⟨h.nonActive, h.failedWaiting, by simp [Shared.discardActiveWaiting], h.failed⟩, .rfl⟩

theorem Keeps.discardFailedWaiting (x : Service ν) (c : Shared ν) :
    Keeps x c (x, c.discardFailedWaiting x.name) where
  local_ := ⟨rfl, fun n other => ⟨.rfl, .rfl, by simp [Shared.discardFailedWaiting, other], rfl⟩⟩
  kept h := ⟨⟨h.nonActive, by simp [Shared.discardFailedWaiting], h.activeWaiting, h.failed⟩, .rfl⟩

theorem Keeps.addNonActive (c : Shared ν) (h : x.serviceState ≠ .failed) :
    Keeps x c (x, c.addNonActive x.name) where
  local_ := ⟨rfl, fun n other => ⟨by simp [Shared.addNonActive, other], .rfl, .rfl, rfl⟩⟩
  kept kept := ⟨⟨fun _ => h, kept.failedWaiting, kept.activeWaiting, kept.failed⟩, .rfl⟩

theorem Keeps.addActiveWaiting (c : Shared ν) (h : x.serviceState = .failed) :
    Keeps x c (x, c.addActiveWaiting x.name) where
  local_ := ⟨rfl, fun n other => ⟨.rfl, by simp [Shared.addActiveWaiting, other], .rfl, rfl⟩⟩
  kept kept := ⟨⟨kept.nonActive, kept.failedWaiting, fun _ => h, kept.failed⟩, .rfl⟩

theorem Keeps.addFailedWaiting (c : Shared ν) (h : x.serviceState ≠ .failed) :
    Keeps x c (x, c.addFailedWaiting x.name) where
  local_ := ⟨rfl, fun n other => ⟨.rfl, .rfl, by simp [Shared.addFailedWaiting, other], rfl⟩⟩
  kept kept := ⟨⟨kept.nonActive, fun _ => h, kept.activeWaiting, kept.failed⟩, .rfl⟩

theorem Keeps.discardMonitoringDisabled (x : Service ν) (c : Shared ν) :
    Keeps x c (x, c.discardMonitoringDisabled x.name) where
  local_ := ⟨rfl, fun _ _ => ⟨.rfl, .rfl, .rfl, rfl⟩⟩
  kept h := ⟨⟨h.nonActive, h.failedWaiting, h.activeWaiting, h.failed⟩, .rfl⟩

/-- Writing the cache is harmless: it says what is in the cache already. -/
theorem Keeps.dumpToCache (x : Service ν) (c : Shared ν) : Keeps x c (x, c.dumpToCache x) where
  local_ := ⟨rfl, fun _ other => .dumpToCache c other⟩
  kept h := ⟨⟨h.nonActive, h.failedWaiting, h.activeWaiting, by simp⟩, .rfl⟩

theorem newServiceState_serviceState (now : Int) (new : ServiceState) (x : Service ν)
    (c : Shared ν) : (newServiceState now new x c).1.serviceState = new := by
  unfold newServiceState
  split
  · cases new <;> rfl
  · exact not_not.mp ‹_›

theorem newServiceState_cache (now : Int) (new : ServiceState) (x : Service ν) (c : Shared ν) :
    (newServiceState now new x c).2.cache = c.cache := by
  unfold newServiceState
  split
  · cases new <;> rfl
  · rfl

theorem Local.newServiceState (now : Int) (new : ServiceState) (x : Service ν) (c : Shared ν) :
    Local x c (newServiceState now new x c) := by
  unfold ServiceMonitor.newServiceState
  split
  · have assigned : Local x c ({ x with serviceState := new }, c) := ⟨rfl, fun _ _ => .refl _ _⟩
    have discards : ∀ (y : Service ν) (d : Shared ν),
        Local y d (y, (d.discardFailedWaiting y.name).discardActiveWaiting y.name) := fun y d =>
      (Keeps.discardFailedWaiting y d).local_.trans (Keeps.discardActiveWaiting y _).local_
    have leaves : ∀ (y : Service ν) (d : Shared ν),
        Local y d (y, ((d.discardNonActive y.name).discardFailedWaiting y.name).discardActiveWaiting
          y.name) := fun y d => (Keeps.discardNonActive y d).local_.trans (discards y _)
    refine assigned.trans ?_
    cases new with
    | active => exact leaves _ _
    | failed => exact leaves _ _
    | inactive =>
        refine ⟨rfl, fun n other => ?_⟩
        refine SameAt.trans ?_ ((discards _ _).other n other)
        exact ⟨by simp [Shared.addNonActive, other], .rfl, .rfl, rfl⟩
  · exact .refl x c

/-- Between `ActiveState` and `InactiveState` the agreement is kept. -/
theorem Keeps.newServiceState (now : Int) {new : ServiceState} (c : Shared ν)
    (before : x.serviceState ≠ .failed) (after : new ≠ .failed) :
    Keeps x c (newServiceState now new x c) := by
  unfold ServiceMonitor.newServiceState
  split
  · have assigned : Keeps x c ({ x with serviceState := new }, c) := by
      refine ⟨⟨rfl, fun _ _ => .refl _ _⟩,
        fun kept => ⟨⟨fun _ => after, fun _ => after, ?_, ?_⟩, ?_⟩⟩
      · exact fun mem => absurd (kept.activeWaiting mem) before
      · exact iff_of_false after (fun recorded => before (kept.failed.mpr recorded))
      · exact iff_of_false after before
    have discards : ∀ (y : Service ν) (d : Shared ν),
        Keeps y d (y, (d.discardFailedWaiting y.name).discardActiveWaiting y.name) := fun y d =>
      (Keeps.discardFailedWaiting y d).trans (.discardActiveWaiting y _)
    refine assigned.trans ?_
    cases new with
    | active => exact (Keeps.discardNonActive _ _).trans (discards _ _)
    | failed => exact absurd rfl after
    | inactive =>
        have stamped : Keeps { x with serviceState := .inactive } c
            ({ x with serviceState := .inactive, nonactiveEnterTimestamp := now }, c) :=
          .of_fields c rfl rfl
        exact (stamped.trans (.addNonActive c after)).trans (discards _ _)
  · exact .refl x c

theorem Keeps.react (now : Int) (x : Service ν) (c : Shared ν) :
    Keeps x c (react now x c) := by
  have stamped : Keeps x c ({ x with waitingTimestamp := now }, c) := .of_fields c rfl rfl
  have drop : ∀ r : Service ν × Shared ν, Keeps x c r → Keeps x c (r.1,
      ((r.2.discardActiveWaiting r.1.name).discardFailedWaiting r.1.name).dumpToCache r.1) :=
    fun r h => ((h.trans (.discardActiveWaiting _ _)).trans (.discardFailedWaiting _ _)).trans
      (.dumpToCache _ _)
  unfold ServiceMonitor.react
  split
  · exact .refl x c
  · split
    · -- active: a failed service starts to wait, an inactive one is active again
      refine Keeps.trans ?_ (.discardFailedWaiting _ _)
      split
      · exact stamped.trans (.addActiveWaiting (x := { x with waitingTimestamp := now }) c ‹_›)
      · exact .newServiceState now c (by simp [*]) nofun
      · exact .refl x c
    · -- failed: a service that is not in `FailedState` starts to wait
      refine Keeps.trans ?_ (.discardActiveWaiting _ _)
      split
      · exact stamped.trans (.addFailedWaiting (x := { x with waitingTimestamp := now }) c ‹_›)
      · exact .refl x c
    · refine drop _ ?_
      split
      · exact .newServiceState now c ‹_› nofun
      · exact .refl x c

theorem Keeps.handler {r : Service ν × Shared ν} {reply : Option UnitActiveState}
    (h : propertiesChangedHandler now reply x c = some r) : Keeps x c r := by
  obtain ⟨state, -, rfl⟩ := Option.map_eq_some_iff.mp h
  exact (Keeps.observe x c state).trans (.react now _ c)

theorem Keeps.monitoringDisabled (cfg : Config ν) (x : Service ν) (c : Shared ν) :
    Keeps x c (MonitoringDisabled.enter cfg x c) where
  local_ := ⟨rfl, fun _ _ => ⟨.rfl, .rfl, .rfl, rfl⟩⟩
  kept h := ⟨⟨h.nonActive, h.failedWaiting, h.activeWaiting, h.failed⟩, .rfl⟩

theorem Keeps.disabled (x : Service ν) (c : Shared ν) : Keeps x c (DisabledState.enter x c) :=
  ((Keeps.discardNonActive x c).trans (.discardMonitoringDisabled x _)).trans
    (.of_fields _ rfl rfl)

theorem Keeps.enabled (cfg : Config ν) (bus : Bus) (now : Int) (x : Service ν) (c : Shared ν) :
    Keeps x c (EnabledState.enter cfg bus now x c) := by
  have fails : ∀ (y : Service ν) (d : Shared ν), Keeps y d
      (MonitoringDisabled.enter cfg { y with unitState := some .monitoringDisabled } d) :=
    fun y d => Keeps.trans (r := ({ y with unitState := some .monitoringDisabled }, d))
      (.of_fields d rfl rfl) (.monitoringDisabled cfg _ d)
  unfold EnabledState.enter
  split
  · have connected : Keeps x c (x.subscribe, c.discardMonitoringDisabled x.subscribe.name) :=
      Keeps.trans (r := (x.subscribe, c)) (.of_fields c rfl rfl) (.discardMonitoringDisabled _ c)
    refine connected.trans ?_
    dsimp only
    split
    · exact .handler ‹_›
    · exact fails _ _
  · exact fails x c

theorem Keeps.newUnitState (cfg : Config ν) (bus : Bus) (now : Int) (new : UnitState)
    (x : Service ν) (c : Shared ν) : Keeps x c (newUnitState cfg bus now new x c) := by
  unfold ServiceMonitor.newUnitState
  split
  · refine Keeps.trans (r := ({ x with unitState := some new }, c)) (.of_fields c rfl rfl) ?_
    cases new with
    | disabled => exact .disabled _ c
    | enabled => exact .enabled cfg bus now _ c
    | monitoringDisabled => exact .monitoringDisabled cfg _ c
  · exact .refl x c

theorem Keeps.handleUnitStateChange {cfg : Config ν} {bus : Bus} {r : Service ν × Shared ν}
    (h : handleUnitStateChange cfg bus now x c = some r) : Keeps x c r := by
  obtain ⟨isEnabled, -, rfl⟩ := Option.map_eq_some_iff.mp h
  exact .newUnitState cfg bus now _ x c

/-- `ActiveState` and `FailedState` are entered by leaving all sets. -/
theorem newServiceState_leaves (now : Int) {new : ServiceState} (change : x.serviceState ≠ new)
    (settled : new ≠ .inactive) :
    x.name ∉ (newServiceState now new x c).2.nonActive ∧
      x.name ∉ (newServiceState now new x c).2.failedWaitingServices ∧
      x.name ∉ (newServiceState now new x c).2.activeWaitingServices := by
  unfold newServiceState
  rw [if_pos change]
  cases new with
  | inactive => exact absurd rfl settled
  | active =>
      simp [ServiceState.enter, Shared.discardNonActive, Shared.discardFailedWaiting,
        Shared.discardActiveWaiting]
  | failed =>
      simp [ServiceState.enter, Shared.discardNonActive, Shared.discardFailedWaiting,
        Shared.discardActiveWaiting]

theorem load_name (now : Int) (n : ν) (c : Shared ν) : (load now n c).1.name = n := by
  unfold load
  split
  · exact (Local.newServiceState now _ (Service.created n now) c).name
  · rfl

theorem load_cache (now : Int) (n : ν) (c : Shared ν) : (load now n c).2.cache = c.cache := by
  unfold load
  split
  · exact newServiceState_cache now _ _ c
  · rfl

theorem load_other (now : Int) (c : Shared ν) {m : ν} (other : n ≠ m) :
    SameAt n c (load now m c).2 := by
  unfold load
  split
  · exact (Local.newServiceState now _ (Service.created m now) c).other n other
  · exact .refl n c

/-- The object rebuilt from the cache agrees with the sets again. -/
theorem load_kept (now : Int) (h : Loadable n c) : Kept (load now n c).1 (load now n c).2 := by
  have fresh : c.monitorState n ≠ some .failed → Kept (Service.created n now) c := by
    intro notFailed
    refine ⟨fun _ => nofun, fun _ => nofun, fun mem => ?_, ?_⟩
    · exact absurd (h.activeWaiting mem) notFailed
    · exact iff_of_false nofun notFailed
  unfold load
  split
  · rename_i data found
    have recorded : c.monitorState n = some data.serviceMonitorState := by
      simp [Shared.monitorState, found]
    have filled : ∀ r, r = newServiceState now data.serviceMonitorState (Service.created n now) c →
        Keeps r.1 r.2 (fromCache now n data c) := by
      rintro r rfl
      exact .of_fields _ rfl rfl
    refine ((filled _ rfl).kept ?_).1
    by_cases isFailed : data.serviceMonitorState = .failed
    · obtain ⟨nonActive, failedWaiting, activeWaiting⟩ := newServiceState_leaves now
        (show (Service.created n now).serviceState ≠ .failed from nofun) (c := c) nofun
      have name := (Local.newServiceState now .failed (Service.created n now) c).name
      rw [isFailed] at recorded ⊢
      refine ⟨?_, ?_, ?_, ?_⟩ <;> rw [name]
      · exact fun mem => absurd mem nonActive
      · exact fun mem => absurd mem failedWaiting
      · exact fun mem => absurd mem activeWaiting
      · rw [newServiceState_serviceState, Shared.monitorState, newServiceState_cache]
        exact iff_of_true rfl recorded
    · have notFailed : c.monitorState n ≠ some .failed := by simpa [recorded] using isFailed
      exact ((Keeps.newServiceState now c (by simp [Service.created]) isFailed).kept
        (fresh notFailed)).1
  · rename_i missing
    exact fresh (by simp [Shared.monitorState, missing])

end Methods

/-- The objects are filed under their own names. -/
structure Named (s : State ν) : Prop where
  services : ∀ n x, s.services n = some x → x.name = n
  earlier : ∀ n, ∀ x ∈ s.earlier n, x.name = n

section Runs

variable [DecidableEq ν] {s t : State ν} {x : Service ν} {cfg : Config ν}

/-- What holds of one service in every state. -/
structure Sound (n : ν) (s : State ν) : Prop where
  silent : ∀ x ∈ s.earlier n, ¬ x.Live
  kept : ∀ x, s.services n = some x → Kept x s.shared
  loadable : Loadable n s.shared
  alternating : Alternating .fault .faultResolved (s.checkAlerts n)
  next : due .fault .faultResolved (s.checkAlerts n) = nextAlert (s.shared.monitorState n)

/-- What holds of a service that a loop has still to visit. -/
def Listed (n : ν) (s : State ν) : Loop → Prop
  | .starting => ∀ x, s.services n = some x → ¬ x.Live
  | .errored => s.services n = none
  | .resubscribing => True
  | .activeWaiting => n ∈ s.shared.activeWaitingServices
  | .failedWaiting => n ∈ s.shared.failedWaitingServices
  | .nonActive => n ∈ s.shared.nonActive

def Pending (n : ν) (s : State ν) : Prop :=
  ∀ l todo, s.point = .within l todo → n ∈ todo → Listed n s l

/-- Nothing that belongs to the name has changed. -/
structure Undisturbed (n : ν) (s t : State ν) : Prop where
  shared : SameAt n s.shared t.shared
  service : t.services n = s.services n
  earlier : t.earlier n = s.earlier n
  alerts : t.checkAlerts n = s.checkAlerts n

theorem Undisturbed.sound (h : Undisturbed n s t) (names : Named s) (sound : Sound n s) :
    Sound n t where
  silent := h.earlier ▸ sound.silent
  kept x found := by
    rw [h.service] at found
    have kept := sound.kept x found
    have name := names.services n x found
    refine ⟨?_, ?_, ?_, ?_⟩ <;> rw [name]
    · exact fun mem => kept.nonActive (name ▸ h.shared.nonActive.mp mem)
    · exact fun mem => kept.failedWaiting (name ▸ h.shared.failedWaiting.mp mem)
    · exact fun mem => kept.activeWaiting (name ▸ h.shared.activeWaiting.mp mem)
    · rw [h.shared.monitorState, ← name]
      exact kept.failed
  loadable := by
    have old := sound.loadable
    refine ⟨?_, ?_, ?_⟩ <;> rw [h.shared.monitorState]
    · exact fun mem => old.nonActive (h.shared.nonActive.mp mem)
    · exact fun mem => old.failedWaiting (h.shared.failedWaiting.mp mem)
    · exact fun mem => old.activeWaiting (h.shared.activeWaiting.mp mem)
  alternating := h.alerts ▸ sound.alternating
  next := by
    rw [h.alerts, h.shared.monitorState]
    exact sound.next

theorem Undisturbed.listed (h : Undisturbed n s t) {l : Loop} (listed : Listed n s l) :
    Listed n t l := by
  cases l with
  | starting => exact fun x found => listed x (h.service ▸ found)
  | errored => exact h.service.trans listed
  | resubscribing => trivial
  | activeWaiting => exact h.shared.activeWaiting.mpr listed
  | failedWaiting => exact h.shared.failedWaiting.mpr listed
  | nonActive => exact h.shared.nonActive.mpr listed

theorem Undisturbed.refl (n : ν) (s : State ν) : Undisturbed n s s :=
  ⟨.refl n _, rfl, rfl, rfl⟩

theorem setService_named (names : Named s) {r : Service ν × Shared ν}
    (found : s.services n = some x)
    (keeps : Local x s.shared r) : Named (s.setService n r) where
  services m y here := by
    by_cases same : m = n
    · subst same
      simp only [State.setService, Function.update_self, Option.some.injEq] at here
      rw [← here, keeps.name]
      exact names.services m x found
    · simp only [State.setService, Function.update_of_ne same] at here
      exact names.services m y here
  earlier := names.earlier

theorem setService_undisturbed (names : Named s) {m : ν} {r : Service ν × Shared ν}
    (other : n ≠ m) (found : s.services m = some x) (keeps : Local x s.shared r) :
    Undisturbed n s (s.setService m r) where
  shared := keeps.other n (names.services m x found ▸ other)
  service := by simp [State.setService, other]
  earlier := rfl
  alerts := rfl

theorem setService_sound (names : Named s) (sound : Sound n s) {r : Service ν × Shared ν}
    (found : s.services n = some x) (keeps : Keeps x s.shared r) :
    Sound n (s.setService n r) := by
  obtain ⟨kept, same⟩ := keeps.kept (sound.kept x found)
  have name : r.1.name = n := keeps.local_.name.trans (names.services n x found)
  have recorded : r.2.monitorState n = some .failed ↔ s.shared.monitorState n = some .failed := by
    have before := (sound.kept x found).failed
    have after := kept.failed
    rw [name] at after
    rw [names.services n x found] at before
    rw [← after, same, before]
  refine ⟨sound.silent, ?_, ?_, sound.alternating, ?_⟩
  · intro y here
    simp only [State.setService, Function.update_self, Option.some.injEq] at here
    exact here ▸ kept
  · exact name ▸ kept.loadable
  · exact sound.next.trans (nextAlert_congr recorded.symm)

theorem initializeService_cases (cfg : Config ν) (n : ν) (bus : Bus) (now : Int) (s : State ν) :
    s.initializeService cfg n bus now = s ∨
      s.initializeService cfg n bus now = { s with shared := (load now n s.shared).2 } ∨
      ∃ r, handleUnitStateChange cfg bus now (load now n s.shared).1 (load now n s.shared).2 =
          some r ∧
        s.initializeService cfg n bus now = s.replaceService n r := by
  unfold State.initializeService
  split
  · dsimp only
    split
    · exact .inr (.inr ⟨_, ‹_›, rfl⟩)
    · exact .inr (.inl rfl)
  · exact .inl rfl

theorem replaceService_named (names : Named s) {r : Service ν × Shared ν} (name : r.1.name = n) :
    Named (s.replaceService n r) where
  services m y here := by
    by_cases same : m = n
    · subst same
      simp only [State.replaceService, State.setService, Function.update_self,
        Option.some.injEq] at here
      exact here ▸ name
    · simp only [State.replaceService, State.setService, Function.update_of_ne same] at here
      exact names.services m y here
  earlier m y mem := by
    by_cases same : m = n
    · subst same
      simp only [State.replaceService, Function.update_self, List.mem_append,
        Option.mem_toList] at mem
      obtain old | current := mem
      · exact names.earlier m y old
      · exact names.services m y current
    · simp only [State.replaceService, Function.update_of_ne same] at mem
      exact names.earlier m y mem

theorem initializeService_named (names : Named s) (bus : Bus) (now : Int) :
    Named (s.initializeService cfg n bus now) := by
  obtain run | run | ⟨r, changed, run⟩ := initializeService_cases cfg n bus now s <;> rw [run]
  · exact names
  · exact ⟨names.services, names.earlier⟩
  · exact replaceService_named names
      ((Keeps.handleUnitStateChange changed).local_.name.trans (load_name now n _))

theorem initializeService_undisturbed {m : ν} (other : n ≠ m) (bus : Bus) (now : Int) :
    Undisturbed n s (s.initializeService cfg m bus now) := by
  have loaded := load_other now s.shared other
  obtain run | run | ⟨r, changed, run⟩ := initializeService_cases cfg m bus now s <;> rw [run]
  · exact .refl n s
  · exact ⟨loaded, rfl, rfl, rfl⟩
  · have other' : n ≠ (load now m s.shared).1.name := by rwa [load_name]
    have keeps := Keeps.handleUnitStateChange changed
    exact ⟨loaded.trans (keeps.local_.other n other'),
      by simp [State.replaceService, State.setService, other],
      by simp [State.replaceService, other], rfl⟩

theorem initializeService_sound (names : Named s) (sound : Sound n s)
    (silent : ∀ x, s.services n = some x → ¬ x.Live) (bus : Bus) (now : Int) :
    Sound n (s.initializeService cfg n bus now) := by
  have loaded := load_kept now sound.loadable
  have name := load_name now n s.shared
  have recorded : (load now n s.shared).2.monitorState n = s.shared.monitorState n := by
    rw [Shared.monitorState, load_cache, Shared.monitorState]
  obtain run | run | ⟨r, changed, run⟩ := initializeService_cases cfg n bus now s <;> rw [run]
  · exact sound
  · refine ⟨sound.silent, fun x found => ?_, ?_, sound.alternating, ?_⟩
    · -- the object could not be put in place of the old one, which agrees with it
      have old := sound.kept x found
      have same := names.services n x found
      refine loaded.transfer (same.trans name.symm) ?_
      rw [old.failed, loaded.failed, name, recorded, same]
    · have rebuilt := loaded.loadable
      rwa [name] at rebuilt
    · rw [recorded]
      exact sound.next
  · have keeps := Keeps.handleUnitStateChange changed
    obtain ⟨kept, same⟩ := keeps.kept loaded
    have name' := keeps.local_.name.trans name
    have unchanged :
        r.2.monitorState n = some .failed ↔ s.shared.monitorState n = some .failed := by
      have before := loaded.failed
      have after := kept.failed
      rw [name, recorded] at before
      rw [name'] at after
      rw [← after, same, before]
    refine ⟨?_, ?_, name' ▸ kept.loadable, sound.alternating, ?_⟩
    · intro x mem
      simp only [State.replaceService, Function.update_self, List.mem_append,
        Option.mem_toList] at mem
      obtain old | current := mem
      · exact sound.silent x old
      · exact silent x current
    · intro y here
      simp only [State.replaceService, State.setService, Function.update_self,
        Option.some.injEq] at here
      exact here ▸ kept
    · exact sound.next.trans (nextAlert_congr unchanged.symm)

theorem checkAlerts_append (s : State ν) (origin : Origin) (message : Message ν) (c : Shared ν) :
    State.checkAlerts { s with sent := s.sent ++ [(origin, message)], shared := c } n =
      s.checkAlerts n ++ if origin = .check ∧ message.resourceId = n
        then [message.alert.alertType] else [] := by
  by_cases here : origin = .check ∧ message.resourceId = n <;>
    simp [State.checkAlerts, here]

theorem checkService_named (names : Named s) (found : s.services n = some x) (overdue : Bool)
    (new : ServiceState) (alert : Alert) (now : Int) :
    Named (s.checkService cfg x overdue new alert now) := by
  unfold State.checkService
  split
  · have moved := setService_named names found (.newServiceState now new x s.shared)
    rw [← names.services n x found] at moved
    exact ⟨moved.services, moved.earlier⟩
  · exact names

theorem checkService_undisturbed (names : Named s) {m : ν} (other : n ≠ m)
    (found : s.services m = some x) (overdue : Bool) (new : ServiceState) (alert : Alert)
    (now : Int) : Undisturbed n s (s.checkService cfg x overdue new alert now) := by
  have name := names.services m x found
  have other' : n ≠ x.name := name ▸ other
  unfold State.checkService
  split
  · have moved := Local.newServiceState now new x s.shared
    have other'' : n ≠ (newServiceState now new x s.shared).1.name := moved.name ▸ other'
    refine ⟨(moved.other n other').trans (.dumpToCache _ other''), ?_, rfl, ?_⟩
    · simp [State.raiseAlert, State.setService, other']
    · simp only [State.raiseAlert, checkAlerts_append]
      rw [if_neg (fun h => other'' h.2.symm), List.append_nil]
      rfl
  · exact .refl n s

/-- The state that `FailedState` is left for or entered from, and the alert raised. -/
def Expected (before new : ServiceState) (alertType : AlertType) : Prop :=
  before = .failed ∧ new = .active ∧ alertType = .faultResolved ∨
    before ≠ .failed ∧ new = .failed ∧ alertType = .fault

theorem checkService_sound (names : Named s) (sound : Sound n s) (found : s.services n = some x)
    (overdue : Bool) {new : ServiceState} {alert : Alert} (now : Int)
    (expected : Expected x.serviceState new alert.alertType) :
    Sound n (s.checkService cfg x overdue new alert now) := by
  unfold State.checkService
  split
  · have name := names.services n x found
    subst name
    obtain ⟨r, run⟩ : ∃ r, r = newServiceState now new x s.shared := ⟨_, rfl⟩
    have change : x.serviceState ≠ new := by
      obtain ⟨before, after, -⟩ | ⟨before, after, -⟩ := expected
      · simp [before, after]
      · simpa [after] using before
    have settled : new ≠ .inactive := by
      obtain ⟨-, after, -⟩ | ⟨-, after, -⟩ := expected <;> simp [after]
    obtain ⟨nonActive, failedWaiting, activeWaiting⟩ :=
      newServiceState_leaves now (c := s.shared) change settled
    have name : r.1.name = x.name := run ▸ (Local.newServiceState now new x s.shared).name
    have entered : r.1.serviceState = new := run ▸ newServiceState_serviceState now new x s.shared
    have recorded : (r.2.dumpToCache r.1).monitorState x.name = some new := by
      rw [← name, monitorState_dumpToCache, entered]
    rw [← run] at nonActive failedWaiting activeWaiting ⊢
    have old := sound.next
    have alerts : State.checkAlerts
        ((s.setService x.name r).raiseAlert .check (getAlert cfg r.1 alert) r.1) x.name =
        s.checkAlerts x.name ++ [alert.alertType] := by
      simp only [State.raiseAlert, checkAlerts_append, getAlert, name, and_self, if_true]
      rfl
    have next : Alternating .fault .faultResolved (s.checkAlerts x.name ++ [alert.alertType]) ∧
        due .fault .faultResolved (s.checkAlerts x.name ++ [alert.alertType]) =
          nextAlert (some new) := by
      obtain ⟨before, after, type⟩ | ⟨before, after, type⟩ := expected
      · rw [nextAlert, if_pos ((sound.kept x found).failed.mp before)] at old
        simpa [after, type, nextAlert] using sound.alternating.append_second (by simp) old
      · rw [nextAlert, if_neg (mt (sound.kept x found).failed.mpr before)] at old
        simpa [after, type, nextAlert] using sound.alternating.append_first (by simp) old
    refine ⟨sound.silent, ?_, ⟨?_, ?_, ?_⟩, alerts ▸ next.1, ?_⟩
    · intro y here
      simp only [State.raiseAlert, State.setService, Function.update_self,
        Option.some.injEq] at here
      subst here
      refine ⟨?_, ?_, ?_, ?_⟩ <;> rw [name]
      · exact fun mem => absurd mem nonActive
      · exact fun mem => absurd mem failedWaiting
      · exact fun mem => absurd mem activeWaiting
      · simp only [State.raiseAlert, State.setService]
        rw [entered, recorded, Option.some.injEq]
    · exact fun mem => absurd mem nonActive
    · exact fun mem => absurd mem failedWaiting
    · exact fun mem => absurd mem activeWaiting
    · rw [alerts, next.2]
      simp only [State.raiseAlert, State.setService]
      rw [recorded]
  · exact sound

/-- The loops look only at names that they took from the sets. -/
theorem visit_sound (names : Named s) (sound : Sound n s) {bus : Bus} {now : Int} {l : Loop}
    (listed : Listed n s l) (step : s.visit cfg n bus now l = some t) : Sound n t := by
  cases l with
  | starting =>
      cases step
      exact initializeService_sound names sound listed bus now
  | errored =>
      cases step
      exact initializeService_sound names sound (by simp [show s.services n = none from listed])
        bus now
  | resubscribing =>
      obtain ⟨x, found, rfl⟩ := Option.map_eq_some_iff.mp step
      exact setService_sound names sound found (.newUnitState cfg bus now _ x _)
  | activeWaiting =>
      obtain ⟨x, found, rfl⟩ := Option.map_eq_some_iff.mp step
      refine checkService_sound names sound found _ now (.inl ⟨?_, rfl, rfl⟩)
      exact (sound.kept x found).activeWaiting (names.services n x found ▸ listed)
  | failedWaiting =>
      obtain ⟨x, found, rfl⟩ := Option.map_eq_some_iff.mp step
      refine checkService_sound names sound found _ now (.inr ⟨?_, rfl, rfl⟩)
      exact (sound.kept x found).failedWaiting (names.services n x found ▸ listed)
  | nonActive =>
      obtain ⟨x, found, rfl⟩ := Option.map_eq_some_iff.mp step
      refine checkService_sound names sound found _ now (.inr ⟨?_, rfl, rfl⟩)
      exact (sound.kept x found).nonActive (names.services n x found ▸ listed)

theorem visit_undisturbed (names : Named s) {m : ν} (other : n ≠ m) {bus : Bus} {now : Int}
    {l : Loop} (step : s.visit cfg m bus now l = some t) : Undisturbed n s t := by
  cases l with
  | starting =>
      cases step
      exact initializeService_undisturbed other bus now
  | errored =>
      cases step
      exact initializeService_undisturbed other bus now
  | resubscribing =>
      obtain ⟨x, found, rfl⟩ := Option.map_eq_some_iff.mp step
      exact setService_undisturbed names other found (Keeps.newUnitState cfg bus now _ x _).local_
  | activeWaiting =>
      obtain ⟨x, found, rfl⟩ := Option.map_eq_some_iff.mp step
      exact checkService_undisturbed names other found ..
  | failedWaiting =>
      obtain ⟨x, found, rfl⟩ := Option.map_eq_some_iff.mp step
      exact checkService_undisturbed names other found ..
  | nonActive =>
      obtain ⟨x, found, rfl⟩ := Option.map_eq_some_iff.mp step
      exact checkService_undisturbed names other found ..

theorem visit_named (names : Named s) {bus : Bus} {now : Int} {l : Loop}
    (step : s.visit cfg n bus now l = some t) : Named t := by
  cases l with
  | starting =>
      cases step
      exact initializeService_named names bus now
  | errored =>
      cases step
      exact initializeService_named names bus now
  | resubscribing =>
      obtain ⟨x, found, rfl⟩ := Option.map_eq_some_iff.mp step
      exact setService_named names found (Keeps.newUnitState cfg bus now _ x _).local_
  | activeWaiting =>
      obtain ⟨x, found, rfl⟩ := Option.map_eq_some_iff.mp step
      exact checkService_named names found ..
  | failedWaiting =>
      obtain ⟨x, found, rfl⟩ := Option.map_eq_some_iff.mp step
      exact checkService_named names found ..
  | nonActive =>
      obtain ⟨x, found, rfl⟩ := Option.map_eq_some_iff.mp step
      exact checkService_named names found ..

/-- What a signal does: nothing, or a method of the current object or of an earlier one
that is connected. -/
theorem handleSignal_cases {m : ν} {which : Option Nat} {reply : Option UnitActiveState}
    {now : Int} (step : s.handleSignal m which reply now = some t) :
    t = s ∨
      (∃ x r, s.services m = some x ∧ propertiesChangedHandler now reply x s.shared = some r ∧
        x.Live ∧ t = s.setService m r) ∨
      ∃ i x r, (s.earlier m)[i]? = some x ∧ x.Live ∧
        propertiesChangedHandler now reply x s.shared = some r ∧
        t = { s with
          earlier := Function.update s.earlier m ((s.earlier m).set i r.1), shared := r.2 } := by
  cases which with
  | none =>
      obtain ⟨x, found, step⟩ := Option.bind_eq_some_iff.mp step
      split at step
      · rename_i live
        cases handled : propertiesChangedHandler now reply x s.shared with
        | none =>
            simp only [handled, Option.some.injEq] at step
            exact .inl step.symm
        | some r =>
            simp only [handled, Option.some.injEq] at step
            exact .inr (.inl ⟨x, r, found, handled, live, step.symm⟩)
      · cases step
  | some i =>
      obtain ⟨x, found, step⟩ := Option.bind_eq_some_iff.mp step
      split at step
      · rename_i live
        cases handled : propertiesChangedHandler now reply x s.shared with
        | none =>
            simp only [handled, Option.some.injEq] at step
            exact .inl step.symm
        | some r =>
            simp only [handled, Option.some.injEq] at step
            exact .inr (.inr ⟨i, x, r, found, live, handled, step.symm⟩)
      · cases step

theorem handleSignal_named (names : Named s) {m : ν} {which : Option Nat}
    {reply : Option UnitActiveState} {now : Int}
    (step : s.handleSignal m which reply now = some t) : Named t := by
  obtain rfl | ⟨x, r, found, handled, -, rfl⟩ | ⟨i, x, r, found, -, handled, rfl⟩ :=
    handleSignal_cases step
  · exact names
  · exact setService_named names found (Keeps.handler handled).local_
  · refine ⟨names.services, fun k y mem => ?_⟩
    by_cases same : k = m
    · subst same
      simp only [Function.update_self] at mem
      obtain old | rfl := List.mem_or_eq_of_mem_set mem
      · exact names.earlier k y old
      · exact (Keeps.handler handled).local_.name.trans
          (names.earlier k x (List.mem_of_getElem? found))
    · simp only [Function.update_of_ne same] at mem
      exact names.earlier k y mem

/-- A signal leaves the sensor between two rounds. -/
theorem handleSignal_waits {m : ν} {which : Option Nat} {reply : Option UnitActiveState} {now : Int}
    (point : s.point = .waiting) (step : s.handleSignal m which reply now = some t) :
    t.point = .waiting := by
  obtain rfl | ⟨x, r, -, -, -, rfl⟩ | ⟨i, x, r, -, -, -, rfl⟩ := handleSignal_cases step <;>
    exact point

theorem handleSignal_undisturbed (names : Named s) {m : ν} (other : n ≠ m)
    {which : Option Nat} {reply : Option UnitActiveState} {now : Int}
    (step : s.handleSignal m which reply now = some t) : Undisturbed n s t := by
  obtain rfl | ⟨x, r, found, handled, -, rfl⟩ | ⟨i, x, r, found, -, handled, rfl⟩ :=
    handleSignal_cases step
  · exact .refl n t
  · exact setService_undisturbed names other found (Keeps.handler handled).local_
  · have name := names.earlier m x (List.mem_of_getElem? found)
    exact ⟨(Keeps.handler handled).local_.other n (name ▸ other), rfl, by simp [other], rfl⟩

theorem handleSignal_sound (names : Named s) (sound : Sound n s) {which : Option Nat}
    {reply : Option UnitActiveState} {now : Int}
    (step : s.handleSignal n which reply now = some t) : Sound n t := by
  obtain rfl | ⟨x, r, found, handled, -, rfl⟩ | ⟨i, x, r, found, live, -, -⟩ :=
    handleSignal_cases step
  · exact sound
  · exact setService_sound names sound found (.handler handled)
  · exact absurd live (sound.silent x (List.mem_of_getElem? found))

theorem raiseAlert_named (names : Named s) (origin : Origin) (message : Message ν)
    (x : Service ν) : Named (s.raiseAlert origin message x) :=
  ⟨names.services, names.earlier⟩

/-- An alert from the queue writes the cache of its service and counts for no check. -/
theorem raiseAlert_undisturbed (s : State ν) (message : Message ν) (other : n ≠ x.name) :
    Undisturbed n s (s.raiseAlert .registration message x) where
  shared := .dumpToCache _ other
  service := rfl
  earlier := rfl
  alerts := by
    rw [State.raiseAlert, checkAlerts_append, if_neg (by simp), List.append_nil]

theorem takeAlert_undisturbed (s : State ν) (rest : List (Message ν)) :
    Undisturbed n s (s.takeAlert rest) :=
  ⟨⟨.rfl, .rfl, .rfl, rfl⟩, rfl, rfl, rfl⟩

theorem loseAlert_undisturbed (s : State ν) (message : Message ν) :
    Undisturbed n s (s.loseAlert .registration message) :=
  ⟨.refl n _, rfl, rfl, (checkAlerts_append s _ _ s.shared).trans (by simp)⟩

theorem raiseAlert_sound (names : Named s) (sound : Sound n s) (found : s.services n = some x)
    (message : Message ν) : Sound n (s.raiseAlert .registration message x) := by
  have name := names.services n x found
  have kept := ((Keeps.dumpToCache x s.shared).kept (sound.kept x found)).1
  have alerts : (s.raiseAlert .registration message x).checkAlerts n = s.checkAlerts n := by
    rw [State.raiseAlert, checkAlerts_append, if_neg (by simp), List.append_nil]
  refine ⟨sound.silent, ?_, ?_, alerts ▸ sound.alternating, ?_⟩
  · intro y here
    cases found.symm.trans here
    exact kept
  · have loadable := kept.loadable
    rwa [name] at loadable
  · rw [alerts, sound.next]
    have before := (sound.kept x found).failed
    have after := kept.failed
    rw [name] at before after
    exact nextAlert_congr (before.symm.trans after)

theorem enterLoop_undisturbed (cfg : Config ν) (l : Loop) (s : State ν) :
    Undisturbed n s (s.enterLoop cfg l) :=
  ⟨.refl n _, rfl, rfl, rfl⟩

omit [DecidableEq ν] in
theorem enterLoop_named (names : Named s) (l : Loop) : Named (s.enterLoop cfg l) :=
  ⟨names.services, names.earlier⟩

omit [DecidableEq ν] in
theorem enterLoop_pending (l : Loop)
    (silent : l = .starting → ∀ x, s.services n = some x → ¬ x.Live) :
    Pending n (s.enterLoop cfg l) := by
  rintro l' todo here mem
  obtain ⟨rfl, rfl⟩ : l = l' ∧ _ = todo := by
    simpa only [State.enterLoop, Point.within.injEq] using here
  cases l with
  | starting => exact silent rfl
  | errored => simpa [Listed, State.enterLoop] using (Finset.mem_filter.mp mem).2
  | resubscribing => trivial
  | activeWaiting => exact mem
  | failedWaiting => exact mem
  | nonActive => exact mem

omit [DecidableEq ν] in
theorem pending_of_point (point : ∀ l todo, s.point ≠ .within l todo) : Pending n s :=
  fun l todo here => absurd here (point l todo)

/-- What is invariant for one service. -/
structure Invariant (n : ν) (s : State ν) : Prop where
  names : Named s
  sound : Sound n s
  pending : Pending n s

/-- A name without an object, in no set: the cache alone has to agree with the alerts. -/
theorem Sound.of_absent (earlier : s.earlier n = []) (services : s.services n = none)
    (nonActive : n ∉ s.shared.nonActive) (failedWaiting : n ∉ s.shared.failedWaitingServices)
    (activeWaiting : n ∉ s.shared.activeWaitingServices)
    (alternating : Alternating .fault .faultResolved (s.checkAlerts n))
    (next : due .fault .faultResolved (s.checkAlerts n) = nextAlert (s.shared.monitorState n)) :
    Sound n s where
  silent x mem := by simp [earlier] at mem
  kept x found := by simp [services] at found
  loadable := ⟨fun mem => absurd mem nonActive, fun mem => absurd mem failedWaiting,
    fun mem => absurd mem activeWaiting⟩
  alternating := alternating
  next := next

omit [DecidableEq ν] in
theorem restarted_named (cfg : Config ν) (s : State ν) : Named (s.restarted cfg) where
  services m x found := by simp [State.restarted, State.enterLoop] at found
  earlier m x mem := by simp [State.restarted, State.enterLoop] at mem

theorem restarted_sound
    (alternating : Alternating .fault .faultResolved (s.checkAlerts n))
    (next : due .fault .faultResolved (s.checkAlerts n) = nextAlert (s.shared.monitorState n)) :
    Sound n (s.restarted cfg) :=
  .of_absent rfl rfl (Finset.notMem_empty n) (Finset.notMem_empty n) (Finset.notMem_empty n)
    alternating next

theorem restarted_invariant
    (alternating : Alternating .fault .faultResolved (s.checkAlerts n))
    (next : due .fault .faultResolved (s.checkAlerts n) = nextAlert (s.shared.monitorState n)) :
    Invariant n (s.restarted cfg) where
  names := restarted_named cfg s
  sound := restarted_sound alternating next
  pending := enterLoop_pending .starting (fun _ x found => by simp at found)

theorem fresh_invariant (cfg : Config ν) (n : ν) : Invariant n (fresh cfg) :=
  restarted_invariant trivial rfl

/-- What a step does, with what it is done under. -/
inductive Step (cfg : Config ν) (s : State ν) : Action ν → State ν → Prop
  | restartProcess : Step cfg s .restartProcess (s.restarted cfg)
  | restartSensor : Step cfg s .restartSensor (s.enterLoop cfg .starting)
  | stop {l : Loop} {m : ν} {bus : Bus} {now : Int}
      (visited : s.visit cfg m bus now l = none) :
      Step cfg s (.visit m bus now) { s with point := .stopped }
  | visit {l : Loop} {todo : Finset ν} {m : ν} {bus : Bus} {now : Int} {u : State ν}
      (point : s.point = .within l todo) (listed : m ∈ todo)
      (visited : s.visit cfg m bus now l = some u) :
      Step cfg s (.visit m bus now) { u with point := .within l (todo.erase m) }
  | follow {l following : Loop} (next : l.next = some following) :
      Step cfg s .advance (s.enterLoop cfg following)
  | wait : Step cfg s .advance { s with point := .waiting }
  | poll : Step cfg s .poll (s.enterLoop cfg .errored)
  | signal {m : ν} {which : Option Nat} {reply : Option UnitActiveState} {now : Int} {t : State ν}
      (point : s.point = .waiting) (handled : s.handleSignal m which reply now = some t) :
      Step cfg s (.propertiesChanged m which reply now) t
  | unchanged {m : ν} {bus : Bus} {now : Int} : Step cfg s (.unitFilesChanged m bus now) s
  | changed {m : ν} {bus : Bus} {now : Int} {x : Service ν} {r : Service ν × Shared ν}
      (point : s.point = .waiting) (found : s.services m = some x)
      (changed : handleUnitStateChange cfg bus now x s.shared = some r) :
      Step cfg s (.unitFilesChanged m bus now) (s.setService m r)
  | raise {message : Message ν} {rest : List (Message ν)} {x : Service ν}
      (point : s.point = .waiting) (found : s.services message.resourceId = some x) :
      Step cfg s .processAlert ((s.takeAlert rest).raiseAlert .registration message x)
  | lose {message : Message ν} {rest : List (Message ν)} :
      Step cfg s .processAlert ((s.takeAlert rest).loseAlert .registration message)

theorem next_cases {a : Action ν} (step : next cfg s a = some t) : Step cfg s a t := by
  cases a with
  | restartProcess =>
      cases step
      exact .restartProcess
  | restartSensor =>
      simp only [next] at step
      split at step
      · cases step
      · cases step
        exact .restartSensor
  | visit m bus now =>
      simp only [next] at step
      split at step
      · rename_i point
        split at step
        · rename_i listed
          split at step
          · rename_i visited
            cases step
            exact .visit point listed visited
          · rename_i visited
            cases step
            exact .stop visited
        · cases step
      · cases step
  | advance =>
      simp only [next] at step
      split at step
      · split at step
        · split at step
          · rename_i following
            cases step
            exact .follow following
          · cases step
            exact .wait
        · cases step
      · cases step
  | poll =>
      simp only [next] at step
      split at step
      · cases step
        exact .poll
      · cases step
  | propertiesChanged m which reply now =>
      simp only [next] at step
      split at step
      · exact .signal ‹_› step
      · cases step
  | unitFilesChanged m bus now =>
      simp only [next] at step
      split at step
      · rename_i point
        obtain ⟨x, found, rfl⟩ := Option.map_eq_some_iff.mp step
        cases changed : handleUnitStateChange cfg bus now x s.shared with
        | none => exact .unchanged
        | some r => exact .changed point found changed
      · cases step
  | processAlert =>
      simp only [next] at step
      split at step
      · rename_i point queued
        split at step
        · rename_i found
          cases step
          exact .raise point found
        · cases step
          exact .lose
      · cases step

theorem Named.step {a : Action ν} (names : Named s) (step : next cfg s a = some t) : Named t := by
  cases next_cases step with
  | restartProcess => exact restarted_named cfg s
  | restartSensor => exact enterLoop_named names _
  | stop => exact ⟨names.services, names.earlier⟩
  | visit point listed visited =>
      have names' := visit_named names visited
      exact ⟨names'.services, names'.earlier⟩
  | follow => exact enterLoop_named names _
  | wait => exact ⟨names.services, names.earlier⟩
  | poll => exact enterLoop_named names _
  | signal point handled => exact handleSignal_named names handled
  | unchanged => exact names
  | changed point found changed =>
      exact setService_named names found (Keeps.handleUnitStateChange changed).local_
  | raise => exact ⟨names.services, names.earlier⟩
  | lose => exact ⟨names.services, names.earlier⟩

/-- The sensor is started again in its process only when no signal calls the handler of
the object that the service has there. -/
def Silenced (n : ν) (s : State ν) (a : Action ν) : Prop :=
  match a with
  | .restartSensor => ∀ x, s.services n = some x → ¬ x.Live
  | _ => True

theorem Invariant.step {a : Action ν} (h : Invariant n s) (silenced : Silenced n s a)
    (step : next cfg s a = some t) : Invariant n t := by
  obtain ⟨names, sound, pending⟩ := h
  cases next_cases step with
  | restartProcess => exact restarted_invariant sound.alternating sound.next
  | restartSensor =>
      exact ⟨enterLoop_named names _, (enterLoop_undisturbed ..).sound names sound,
        enterLoop_pending _ (fun _ => silenced)⟩
  | stop visited =>
      have still : Undisturbed n s { s with point := .stopped } := ⟨.refl n _, rfl, rfl, rfl⟩
      exact ⟨⟨names.services, names.earlier⟩, still.sound names sound, pending_of_point nofun⟩
  | @visit l todo m bus now u point listed visited =>
      have names' := visit_named names visited
      have moved : Undisturbed n u { u with point := .within l (todo.erase m) } :=
        ⟨.refl n _, rfl, rfl, rfl⟩
      refine ⟨⟨names'.services, names'.earlier⟩, ?_, ?_⟩
      · by_cases same : n = m
        · subst same
          exact moved.sound names' (visit_sound names sound (pending l todo point listed) visited)
        · exact moved.sound names' ((visit_undisturbed names same visited).sound names sound)
      · rintro l' todo' here mem
        cases here
        obtain ⟨other, mem⟩ := Finset.mem_erase.mp mem
        exact moved.listed ((visit_undisturbed names other visited).listed
          (pending l todo point mem))
  | @follow l following next =>
      refine ⟨enterLoop_named names _, (enterLoop_undisturbed ..).sound names sound,
        enterLoop_pending _ ?_⟩
      rintro rfl
      cases l <;> cases next
  | wait =>
      have still : Undisturbed n s { s with point := .waiting } := ⟨.refl n _, rfl, rfl, rfl⟩
      exact ⟨⟨names.services, names.earlier⟩, still.sound names sound, pending_of_point nofun⟩
  | poll =>
      exact ⟨enterLoop_named names _, (enterLoop_undisturbed ..).sound names sound,
        enterLoop_pending _ nofun⟩
  | @signal m which reply now t point handled =>
      have waits : t.point = .waiting := handleSignal_waits point handled
      refine ⟨handleSignal_named names handled, ?_, pending_of_point (by simp [waits])⟩
      by_cases same : n = m
      · subst same
        exact handleSignal_sound names sound handled
      · exact (handleSignal_undisturbed names same handled).sound names sound
  | unchanged => exact ⟨names, sound, pending⟩
  | @changed m bus now x r point found changed =>
      have keeps := Keeps.handleUnitStateChange changed
      refine ⟨setService_named names found keeps.local_, ?_, pending_of_point ?_⟩
      · by_cases same : n = m
        · subst same
          exact setService_sound names sound found keeps
        · exact (setService_undisturbed names same found keeps.local_).sound names sound
      · simp [State.setService, point]
  | @raise message rest x point found =>
      have names' : Named (s.takeAlert rest) := ⟨names.services, names.earlier⟩
      have sound' := (takeAlert_undisturbed (n := n) s rest).sound names sound
      have name := names.services _ x found
      refine ⟨raiseAlert_named names' .., ?_, pending_of_point ?_⟩
      · by_cases same : n = message.resourceId
        · exact raiseAlert_sound names' sound' (same ▸ found) message
        · exact (raiseAlert_undisturbed _ message (name.symm ▸ same)).sound names' sound'
      · simp [State.raiseAlert, State.takeAlert, point]
  | @lose message rest =>
      have names' : Named (s.takeAlert rest) := ⟨names.services, names.earlier⟩
      have sound' := (takeAlert_undisturbed (n := n) s rest).sound names sound
      have lost := loseAlert_undisturbed (n := n) (s.takeAlert rest) message
      exact ⟨⟨names'.services, names'.earlier⟩, lost.sound names' sound',
        pending_of_point (by simp [State.loseAlert])⟩

/-- Over every run that starts a sensor again in its process only when the old object of
the service is disconnected, the alerts of a service alternate, and its membership in the
sets agrees with the state of its object. -/
theorem check_alerts_alternate {actions : List (Action ν)}
    (run : (system cfg).Runs (Silenced n) (fresh cfg) actions s) :
    Alternating .fault .faultResolved (s.checkAlerts n) ∧
      ∀ x, s.services n = some x →
        (n ∈ s.shared.failedWaitingServices ∨ n ∈ s.shared.nonActive →
            x.serviceState ≠ .failed) ∧
          (n ∈ s.shared.activeWaitingServices → x.serviceState = .failed) := by
  have invariant : Invariant n s :=
    run.invariant (fun _ _ _ kept silenced step => kept.step silenced step) (fresh_invariant cfg n)
  refine ⟨invariant.sound.alternating, fun x found => ?_⟩
  have kept := invariant.sound.kept x found
  rw [← invariant.names.services n x found]
  exact ⟨fun mem => mem.elim kept.failedWaiting kept.nonActive, kept.activeWaiting⟩

/-- The condition is met where the sensor is only started again with its process. -/
theorem silenced_of_processes {actions : List (Action ν)}
    (run : (system cfg).FreeRuns s actions t) (processes : Action.restartSensor ∉ actions) :
    (system cfg).Runs (Silenced n) s actions t := by
  refine run.strengthen fun done a rest m split _ => ?_
  cases a with
  | restartSensor => exact absurd (by simp [split]) processes
  | _ => trivial

end Runs

namespace Example

/-- One service, with the thresholds of the configuration file. -/
def config : Config Unit := ⟨{()}, 180, 30⟩

def answers (state : UnitActiveState) : Bus := ⟨true, some true, true, some state⟩

/-- From the end of one loop of `run` to its beginning. -/
def skip (loops : Nat) : List (Action Unit) := List.replicate loops .advance

/-- The service fails, SSPL is restarted, and the service becomes active again. -/
def recovery : List (Action Unit) :=
  [Action.visit () (answers .active) 0, .advance,
    .propertiesChanged () none (some .failed) 10, .poll] ++ skip 3 ++
  Action.visit () (answers .failed) 41 :: .restartProcess ::
  Action.visit () (answers .failed) 50 :: .advance ::
  .propertiesChanged () none (some .active) 60 :: .poll :: skip 2 ++
  [Action.visit () (answers .active) 91]

theorem recovery_alerts :
    ((system config).run (fresh config) recovery).map (fun s => s.checkAlerts ()) =
      some [.fault, .faultResolved] := by
  decide

/-- The service fails, is alerted, and comes back. -/
theorem check_alerts_alternate_recovery :
    ∃ s : State Unit, s.checkAlerts () = [.fault, .faultResolved] ∧
      Alternating .fault .faultResolved (s.checkAlerts ()) := by
  obtain ⟨s, replay, alerts⟩ := Option.map_eq_some_iff.mp recovery_alerts
  have free := (Transition.System.run_eq_some_iff _).mp replay
  exact ⟨s, alerts, (check_alerts_alternate (n := ())
    (silenced_of_processes free (by simp [recovery, skip]))).1⟩

/-- A signal reaches the earlier object and the current one. -/
def signal (state : UnitActiveState) (now : Int) : List (Action Unit) :=
  [.propertiesChanged () (some 0) (some state) now, .propertiesChanged () none (some state) now]

def actions : List (Action Unit) :=
  [Action.visit () (answers .active) 0, .advance, .restartSensor, .visit () (answers .active) 1,
    .advance] ++ signal .failed 10 ++
  Action.poll :: skip 3 ++ .visit () (answers .failed) 41 :: skip 2 ++ signal .activating 200 ++
  Action.poll :: skip 4 ++ [Action.visit () (answers .activating) 215]

theorem two_faults :
    ((system config).run (fresh config) actions).map (fun s => s.checkAlerts ()) =
      some [.fault, .fault] := by
  decide

/-- The alerts of a service do not alternate in every run: the sensor is started again in its
process, the service fails and is alerted, and while it is being started again the earlier
object, which has never been in `FailedState`, enters `InactiveState` and puts the name into
`non_active`. -/
theorem check_alerts_repeat :
    ¬ ∀ actions s, (system config).FreeRuns (fresh config) actions s →
      Alternating .fault .faultResolved (s.checkAlerts ()) := by
  intro always
  obtain ⟨s, replay, alerts⟩ := Option.map_eq_some_iff.mp two_faults
  have alternating := always actions s ((Transition.System.run_eq_some_iff _).mp replay)
  rw [alerts] at alternating
  exact absurd alternating (by decide)

end Example

end ServiceMonitor

end Sspl

import Mathlib.Algebra.Order.Ring.Int
import Sspl.Disk.Messages

/-!
# Partial resets of the expander

The handler takes a number of drives that come up empty within a few seconds for a partial
reset of the expander. It keeps one count and the time of the first event that it counts, and
counts anew only after a report and after two minutes. An event that comes some time before
the others is therefore counted with them, and the time since then is too long.

Time is any ordered ring. The handler of disk messages counts in the same way.
-/

namespace Sspl

namespace Disk

namespace ExpanderReset

inductive Reset
  | partly
  | fully
  deriving DecidableEq

/-- What is reported, and how many events were counted for it. -/
structure Report where
  reset : Reset
  events : Int
  deriving DecidableEq

structure Counter (τ : Type) where
  drivemanagerEventsCounter : Int
  firstDrivemanagerEventTm : τ
  maxDrivemanagerEvents : Int
  maxDrivemanagerEventInterval : Int

section Check

variable {τ : Type} [Ring τ] [LinearOrder τ]

/-- The events that still count when another one comes. -/
def Counter.counted (c : Counter τ) (now : τ) : Int :=
  if ((120 : Int) : τ) < now - c.firstDrivemanagerEventTm then 0 else c.drivemanagerEventsCounter

/-- The time of the first event that counts then. -/
def Counter.first (c : Counter τ) (now : τ) : τ :=
  if c.counted now = 0 then now else c.firstDrivemanagerEventTm

/-- `_check_drivemanager_events_interval`, with what it reports. -/
def Counter.check (conf : Config) (now : τ) (c : Counter τ) : Counter τ × Option Report :=
  let events := c.counted now + 1
  if c.maxDrivemanagerEvents ≤ events ∧
      now - c.first now < (c.maxDrivemanagerEventInterval : τ) then
    if c.maxDrivemanagerEvents ≠ 84 then (⟨0, c.first now, 84, 120⟩, some ⟨.partly, events⟩)
    else
      (⟨0, c.first now, conf.maxDrivemanagerEvents, conf.maxDrivemanagerEventInterval⟩,
        some ⟨.fully, events⟩)
  else
    ({ c with drivemanagerEventsCounter := events, firstDrivemanagerEventTm := c.first now }, none)

/-- An event, with what was reported at it. -/
structure Event (τ : Type) where
  time : τ
  report : Option Report
  deriving DecidableEq

/-- The events are recorded, the last one first. -/
structure State (τ : Type) where
  counter : Counter τ
  events : List (Event τ)

def start (conf : Config) : State τ where
  counter := ⟨0, 0, conf.maxDrivemanagerEvents, conf.maxDrivemanagerEventInterval⟩
  events := []

def State.add (conf : Config) (s : State τ) (now : τ) : State τ where
  counter := (s.counter.check conf now).1
  events := ⟨now, (s.counter.check conf now).2⟩ :: s.events

/-- The events come at times that do not decrease. -/
def system (conf : Config) : Transition.System (State τ) τ where
  init s := s = start conf
  next s now := if ∀ event ∈ s.events, event.time ≤ now then some (s.add conf now) else none

/-- Of the events before, the one in this place was counted in a reset that was reported at it
or later. -/
def CountedInReset (earlier : List (Event τ)) (place : Nat) : Prop :=
  ∃ later ≤ place, ∃ event report, earlier[later]? = some event ∧ event.report = some report ∧
    (place : Int) < later + report.events

/-- How many events the limit wants before the one that reaches it. -/
def before (conf : Config) : Nat := (conf.maxDrivemanagerEvents - 1).toNat

/-- With an event at this time as many events as the limit says have come in less than the
interval, and none of them was counted in a reported reset. -/
structure Completes (conf : Config) (now : τ) (earlier : List (Event τ)) : Prop where
  enough : before conf ≤ earlier.length
  near : ∀ time ∈ now :: (earlier.take (before conf)).map Event.time,
    now - time < (conf.maxDrivemanagerEventInterval : τ)
  uncounted : ∀ place < before conf, ¬ CountedInReset earlier place

/-- At each event that completes the number within the time, a partial reset has been reported. -/
def ResetLaw (conf : Config) (events : List (Event τ)) : Prop :=
  ∀ event earlier, (event :: earlier) <:+ events → Completes conf event.time earlier →
    event.report.map Report.reset = some .partly

/-- The handler looks for partial resets, and the events that it still counts are those that
complete the number with the one that comes. -/
def Aligned (conf : Config) (s : State τ) (now : τ) : Prop :=
  Completes conf now s.events →
    s.counter.maxDrivemanagerEvents ≠ 84 ∧ s.counter.counted now = before conf

end Check

section Steps

variable {τ : Type} [Ring τ] [LinearOrder τ] {conf : Config} {now : τ} {c : Counter τ}
  {s t : State τ} {event : Event τ} {earlier : List (Event τ)}

/-- As many events as the limit in force says have come since the first that counts, and that
was less than the interval ago. -/
def Counter.Reached (c : Counter τ) (now : τ) : Prop :=
  c.maxDrivemanagerEvents ≤ c.counted now + 1 ∧
    now - c.first now < (c.maxDrivemanagerEventInterval : τ)

theorem check_partly (looking : c.maxDrivemanagerEvents ≠ 84) (reached : c.Reached now) :
    c.check conf now = (⟨0, c.first now, 84, 120⟩, some ⟨.partly, c.counted now + 1⟩) := by
  rw [Counter.check]
  rw [if_pos (show _ ∧ _ from reached), if_pos looking]

theorem check_fully (waiting : c.maxDrivemanagerEvents = 84) (reached : c.Reached now) :
    c.check conf now =
      (⟨0, c.first now, conf.maxDrivemanagerEvents, conf.maxDrivemanagerEventInterval⟩,
        some ⟨.fully, c.counted now + 1⟩) := by
  rw [Counter.check]
  rw [if_pos (show _ ∧ _ from reached), if_neg (not_not.mpr waiting)]

theorem check_silent (short : ¬ c.Reached now) :
    c.check conf now = ({ c with
      drivemanagerEventsCounter := c.counted now + 1
      firstDrivemanagerEventTm := c.first now }, none) := by
  rw [Counter.check]
  rw [if_neg (show ¬ (_ ∧ _) from short)]

/-- What is reported says which limit was in force. -/
theorem partly_iff : (c.check conf now).2.map Report.reset = some .partly ↔
    c.maxDrivemanagerEvents ≠ 84 ∧ c.Reached now := by
  by_cases reached : c.Reached now
  · by_cases waiting : c.maxDrivemanagerEvents = 84
    · rw [check_fully waiting reached]
      simp [waiting]
    · rw [check_partly waiting reached]
      simp [waiting, reached]
  · rw [check_silent reached]
    simp [reached]

theorem ResetLaw.cons : ResetLaw conf (event :: earlier) ↔
    (Completes conf event.time earlier → event.report.map Report.reset = some .partly) ∧
      ResetLaw conf earlier := by
  constructor
  · intro law
    refine ⟨law event earlier (List.suffix_refl _), fun later before suffix => ?_⟩
    exact law later before (suffix.trans (List.suffix_cons _ _))
  · rintro ⟨now, law⟩ later before suffix
    obtain same | inside := List.suffix_cons_iff.mp suffix
    · cases same
      exact now
    · exact law later before inside

/-- The count goes back to the first event that counts. A count that has reached the limit was
not reported only if that event was too long ago. -/
structure Counts (conf : Config) (c : Counter τ) (events : List (Event τ)) : Prop where
  nonneg : 0 ≤ c.drivemanagerEventsCounter
  first : ∀ place : Nat, c.drivemanagerEventsCounter = place + 1 →
    (events[place]?).map Event.time = some c.firstDrivemanagerEventTm
  mode : c.maxDrivemanagerEvents ≠ 84 →
    c.maxDrivemanagerEvents = conf.maxDrivemanagerEvents ∧
      c.maxDrivemanagerEventInterval = conf.maxDrivemanagerEventInterval
  late : c.maxDrivemanagerEvents ≠ 84 → 0 < c.drivemanagerEventsCounter →
    conf.maxDrivemanagerEvents ≤ c.drivemanagerEventsCounter →
    ∃ event ∈ events, (conf.maxDrivemanagerEventInterval : τ) ≤
      event.time - c.firstDrivemanagerEventTm

/-- Nothing is counted. -/
theorem Counts.restart (none : c.drivemanagerEventsCounter = 0)
    (mode : c.maxDrivemanagerEvents ≠ 84 →
      c.maxDrivemanagerEvents = conf.maxDrivemanagerEvents ∧
        c.maxDrivemanagerEventInterval = conf.maxDrivemanagerEventInterval) :
    Counts conf c earlier where
  nonneg := none.ge
  first place count := by omega
  mode := mode
  late _ some_ := by omega

theorem Counts.counted_nonneg (h : Counts conf c earlier) (now : τ) : 0 ≤ c.counted now := by
  rw [Counter.counted]
  split
  · exact le_rfl
  · exact h.nonneg

/-- Where something counts, the count is the one of the handler. -/
theorem counted_pos (some_ : 0 < c.counted now) :
    c.counted now = c.drivemanagerEventsCounter ∧ c.first now = c.firstDrivemanagerEventTm := by
  refine ⟨?_, if_neg some_.ne'⟩
  rw [Counter.counted] at some_ ⊢
  split at some_
  · exact absurd some_ (lt_irrefl _)
  · exact if_neg ‹_›

/-- The count goes back to the first event that counts, also with the one that comes. -/
theorem Counts.first_cons (h : Counts conf c earlier) (report : Option Report) {place : Nat}
    (counted : c.counted now = place) :
    (((⟨now, report⟩ :: earlier : List (Event τ)))[place]?).map Event.time =
      some (c.first now) := by
  cases place with
  | zero =>
      have first : c.first now = now := if_pos counted
      rw [first]
      rfl
  | succ place =>
      obtain ⟨same, first⟩ := counted_pos (by omega : 0 < c.counted now)
      rw [first, List.getElem?_cons_succ]
      exact h.first place (by omega)

/-- The handler counts on in the same way, whatever it reports. -/
theorem Counts.check (h : Counts conf c earlier) (now : τ) :
    Counts conf (c.check conf now).1 (⟨now, (c.check conf now).2⟩ :: earlier) := by
  by_cases reached : c.Reached now
  · by_cases waiting : c.maxDrivemanagerEvents = 84
    · rw [check_fully waiting reached]
      exact .restart rfl fun _ => ⟨rfl, rfl⟩
    · rw [check_partly waiting reached]
      exact .restart rfl fun looking => absurd rfl looking
  · rw [check_silent reached]
    constructor
    · exact add_nonneg (h.counted_nonneg now) zero_le_one
    · intro place count
      exact h.first_cons none (add_right_cancel count)
    · exact h.mode
    · intro looking _ enough
      obtain ⟨limit, interval⟩ := h.mode looking
      refine ⟨_, List.mem_cons_self, not_lt.mp fun near => reached ⟨?_, ?_⟩⟩
      · rw [limit]
        exact enough
      · rw [interval]
        exact near

/-- Where the count is of the events that complete the number, the reset is reported. -/
theorem Counts.reached (h : Counts conf c earlier) (completes : Completes conf now earlier)
    (looking : c.maxDrivemanagerEvents ≠ 84) (aligned : c.counted now = before conf) :
    c.Reached now := by
  obtain ⟨limit, interval⟩ := h.mode looking
  obtain ⟨first, here, time⟩ := Option.map_eq_some_iff.mp (h.first_cons none aligned)
  constructor
  · rw [limit, aligned, before]
    omega
  · rw [interval, ← time]
    apply completes.near
    have within : first ∈ (⟨now, none⟩ :: earlier).take (before conf + 1) :=
      List.mem_of_getElem? (by rw [List.getElem?_take_of_lt (Nat.lt_succ_self _), here])
    rw [List.take_succ_cons] at within
    obtain rfl | mem := List.mem_cons.mp within
    · exact List.mem_cons_self
    · exact List.mem_cons_of_mem _ (List.mem_map_of_mem mem)

/-- A reset is reported as soon as the count reaches the limit, or not until it starts anew. -/
theorem Counts.aligned [IsStrictOrderedRing τ] (h : Counts conf c earlier)
    (later : ∀ event ∈ earlier, event.time ≤ now) (looking : c.maxDrivemanagerEvents ≠ 84)
    (reached : c.Reached now) : c.counted now = before conf := by
  obtain ⟨limit, interval⟩ := h.mode looking
  obtain ⟨enough, near⟩ := reached
  have counted := h.counted_nonneg now
  rw [limit] at enough
  rw [before]
  by_contra other
  obtain ⟨same, first⟩ := counted_pos (by omega : 0 < c.counted now)
  obtain ⟨event, mem, late⟩ := h.late looking (by omega) (by omega)
  rw [interval, first] at near
  have order : event.time - c.firstDrivemanagerEventTm ≤ now - c.firstDrivemanagerEventTm :=
    sub_le_sub_right (later event mem) _
  exact absurd (late.trans order) (not_le.mpr near)

theorem next_eq_some : (system conf).next s now = some t ↔
    (∀ event ∈ s.events, event.time ≤ now) ∧ s.add conf now = t := by
  rw [system, Option.ite_none_right_eq_some, Option.some.injEq]

theorem law_add : ResetLaw conf (s.add conf now).events ↔
    (Completes conf now s.events →
      s.counter.maxDrivemanagerEvents ≠ 84 ∧ s.counter.Reached now) ∧ ResetLaw conf s.events := by
  rw [State.add, ResetLaw.cons, partly_iff]

structure Invariant (conf : Config) (s : State τ) : Prop where
  counts : Counts conf s.counter s.events
  law : ResetLaw conf s.events

theorem Invariant.start (conf : Config) : Invariant conf (start conf : State τ) where
  counts := .restart rfl fun _ => ⟨rfl, rfl⟩
  law event earlier suffix := by simp [ExpanderReset.start] at suffix

end Steps

section Runs

variable {τ : Type} [Ring τ] [LinearOrder τ] [IsStrictOrderedRing τ] {conf : Config} {now : τ}
  {s t : State τ}

/-- The law is kept exactly by the events that find the count in line with them. -/
theorem Invariant.step_iff (h : Invariant conf s) (step : (system conf).next s now = some t) :
    (Aligned conf s now → Invariant conf t) ∧ (ResetLaw conf t.events → Aligned conf s now) := by
  obtain ⟨later, rfl⟩ := next_eq_some.mp step
  constructor
  · intro aligned
    refine ⟨h.counts.check now, law_add.mpr ⟨fun completes => ?_, h.law⟩⟩
    obtain ⟨looking, count⟩ := aligned completes
    exact ⟨looking, h.counts.reached completes looking count⟩
  · intro law completes
    obtain ⟨looking, reached⟩ := (law_add.mp law).1 completes
    exact ⟨looking, h.counts.aligned later looking reached⟩

end Runs

section Handler

variable {conf : Config} {now : Int} {s : Disk.State}

def counterOf (s : Disk.State) : Counter Int where
  drivemanagerEventsCounter := s.drivemanagerEventsCounter
  firstDrivemanagerEventTm := s.firstDrivemanagerEventTm
  maxDrivemanagerEvents := s.maxDrivemanagerEvents
  maxDrivemanagerEventInterval := s.maxDrivemanagerEventInterval

/-- The handler counts in this way. -/
theorem countDrivemanagerEvent_eq : countDrivemanagerEvent conf now s =
    ({ s with
      drivemanagerEventsCounter := ((counterOf s).check conf now).1.drivemanagerEventsCounter
      firstDrivemanagerEventTm := ((counterOf s).check conf now).1.firstDrivemanagerEventTm
      maxDrivemanagerEvents := ((counterOf s).check conf now).1.maxDrivemanagerEvents
      maxDrivemanagerEventInterval :=
        ((counterOf s).check conf now).1.maxDrivemanagerEventInterval },
      decide (((counterOf s).check conf now).2.map Report.reset = some .partly)) := by
  have counted : (counterOf s).counted now =
      if 120 < now - s.firstDrivemanagerEventTm then 0 else s.drivemanagerEventsCounter := by
    rw [Counter.counted, Int.cast_id]
    rfl
  have first : (counterOf s).first now =
      if (counterOf s).counted now = 0 then now else s.firstDrivemanagerEventTm := rfl
  have reached_iff : (counterOf s).Reached now ↔
      s.maxDrivemanagerEvents ≤ (counterOf s).counted now + 1 ∧
        now - (counterOf s).first now < s.maxDrivemanagerEventInterval := by
    rw [Counter.Reached, Int.cast_id]
    rfl
  rw [countDrivemanagerEvent, ← counted, ← first]
  dsimp only
  by_cases reached : (counterOf s).Reached now
  · rw [if_pos (reached_iff.mp reached)]
    by_cases waiting : s.maxDrivemanagerEvents = 84
    · rw [check_fully waiting reached, if_neg (not_not.mpr waiting)]
      rfl
    · rw [check_partly waiting reached, if_pos waiting]
      rfl
  · rw [check_silent reached, if_neg (mt reached_iff.mpr reached)]
    rfl

/-- What follows a partial reset raises, so that no message tells of it. -/
theorem checkDrivemanagerEventsInterval_raises :
    ((checkDrivemanagerEventsInterval conf now).run s).1 = .error .typeError ↔
      ((counterOf s).check conf now).2.map Report.reset = some .partly := by
  rw [checkDrivemanagerEventsInterval_run, countDrivemanagerEvent_eq]
  simp

end Handler

end ExpanderReset

end Disk

end Sspl

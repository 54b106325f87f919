import Mathlib.Data.List.Basic
import Mathlib.Data.List.Count
import Sspl.Foundation.System

/-!
# The schedule of the IEM sensor

`check_and_run` enters itself until the sensor may run, and then `run`. Each call of `run` opens
the log, reads what it has missed and ends with an entry for itself in the queue of the scheduler.
Before that it calls `_read_iem`, which reads on and enters itself as well, and does so again
whenever it is called from the queue. No entry is ever taken back, so each `run` leaves one more
chain of `_read_iem` behind.

The scheduler belongs to one thread, and an event is executed as a whole. `refresh_file` and
`shutdown` are called from other threads.
-/

namespace Sspl

namespace Iem

namespace Schedule

/-- The methods that are entered in the queue. -/
inductive Method
  | checkAndRun
  | run
  | readIem
  | cleanupAndStop
  deriving DecidableEq

structure Event where
  time : Nat
  action : Method
  deriving DecidableEq

/-- The clock, the queue of the scheduler and the open log files. What the files hold makes no
difference to the schedule. -/
structure State where
  now : Nat
  queue : List Event
  /-- The number of the file in `_iem_logs`. -/
  iemLogs : Option Nat
  /-- The numbers of the log files that are open. -/
  openFiles : List Nat
  files : Nat
  /-- How many `run` events were executed. -/
  runs : Nat

/-- An event takes some time until the first entry that it makes, and some time until the second. -/
inductive Action
  | tick (time : Nat)
  | execute (mayRun : Bool) (first second : Nat)
  | refreshFile (logExists : Bool)
  | shutdown
  deriving DecidableEq

def second : Nat := 1000000

/-- The queue is ordered by time. -/
def insert (event : Event) : List Event → List Event
  | [] => [event]
  | other :: rest =>
    if event.time < other.time then event :: other :: rest else other :: insert event rest

namespace State

variable (s : State)

def elapse (time : Nat) : State := { s with now := s.now + time }

/-- `scheduler.enter`. -/
def enter (delay : Nat) (action : Method) : State :=
  { s with queue := insert ⟨s.now + delay, action⟩ s.queue }

/-- `self._iem_logs = open(...)`. The file that was there before has lost its last reference,
which closes it. -/
def openLog : State :=
  { s with
    iemLogs := some s.files
    openFiles := s.files :: s.openFiles.filter fun file => some file ≠ s.iemLogs
    files := s.files + 1 }

def checkAndRun (mayRun : Bool) : State :=
  if mayRun then s.enter second .run else s.enter (10 * second) .checkAndRun

def readIem (reading : Nat) : State := (s.elapse reading).enter (10 * second) .readIem

def run (reading rest : Nat) : State :=
  ((s.openLog.readIem reading).elapse rest).enter (10 * second) .run

def refreshFile (logExists : Bool) : State :=
  if logExists = true ∧ s.iemLogs.isSome then s.openLog else s

/-- What is executed for an event that was taken from the queue. -/
def perform (action : Method) (mayRun : Bool) (first second : Nat) : State :=
  match action with
  | .checkAndRun => s.checkAndRun mayRun
  | .run => { s.run first second with runs := s.runs + 1 }
  | .readIem => s.readIem first
  | .cleanupAndStop => { s with queue := [] }

/-- How many events for the method are in the queue. -/
def pending (action : Method) : Nat := s.queue.countP fun event => event.action = action

/-- The schedule is bounded: there is one entry for each of the two methods at most, and one open
log file. -/
def Bounded : Prop :=
  s.pending .run ≤ 1 ∧ s.pending .readIem ≤ 1 ∧ s.openFiles.length ≤ 1

instance : Decidable s.Bounded := inferInstanceAs (Decidable (_ ∧ _ ∧ _))

end State

def next (s : State) : Action → Option State
  | .tick time => some (s.elapse time)
  | .execute mayRun first second =>
    match s.queue with
    | [] => none
    | event :: rest =>
      if s.now < event.time then none
      else some ({ s with queue := rest }.perform event.action mayRun first second)
  | .refreshFile logExists => some (s.refreshFile logExists)
  | .shutdown => some (s.enter (10 * second) .cleanupAndStop)

/-- `initialize`, at some time. -/
def started (now : Nat) : State := ⟨now, [⟨now + second, .checkAndRun⟩], none, [], 0, 0⟩

/-- The sensor from its `initialize` on, with any delays of its events. -/
def system : Transition.System State Action := ⟨fun s => ∃ now, s = started now, next⟩

section Queue

variable {s t : State} {action other : Method}

theorem countP_insert (p : Event → Bool) (event : Event) (queue : List Event) :
    (insert event queue).countP p = queue.countP p + if p event then 1 else 0 := by
  induction queue with
  | nil => simp [insert]
  | cons first rest ih =>
      rw [insert]
      split
      · rw [List.countP_cons]
      · rw [List.countP_cons, List.countP_cons, ih]
        omega

@[simp] theorem pending_enter (s : State) (delay : Nat) (action other : Method) :
    (s.enter delay action).pending other =
      s.pending other + if action = other then 1 else 0 := by
  simp [State.pending, State.enter, countP_insert]

@[simp] theorem pending_elapse (s : State) (time : Nat) (other : Method) :
    (s.elapse time).pending other = s.pending other := rfl

@[simp] theorem pending_openLog (s : State) (other : Method) :
    s.openLog.pending other = s.pending other := rfl

@[simp] theorem pending_readIem (s : State) (reading : Nat) (other : Method) :
    (s.readIem reading).pending other =
      s.pending other + if Method.readIem = other then 1 else 0 :=
  pending_enter _ _ _ _

@[simp] theorem pending_run (s : State) (reading rest : Nat) (other : Method) :
    (s.run reading rest).pending other =
      s.pending other + (if Method.readIem = other then 1 else 0) +
        if Method.run = other then 1 else 0 := by
  rw [State.run, pending_enter, pending_elapse, pending_readIem, pending_openLog]

@[simp] theorem pending_runs (s : State) (runs : Nat) (other : Method) :
    State.pending { s with runs := runs } other = s.pending other := rfl

/-- An event that is taken from the queue is not pending any more. -/
theorem pending_of_queue {event : Event} {rest : List Event} (queue : s.queue = event :: rest)
    (other : Method) :
    s.pending other =
      State.pending { s with queue := rest } other + if event.action = other then 1 else 0 := by
  rw [State.pending, queue, List.countP_cons]
  simp [State.pending]

end Queue

/-- The file in `_iem_logs` is the only log file that is open. -/
def State.Held (s : State) : Prop := s.openFiles = s.iemLogs.toList

theorem State.Held.openLog {s : State} (held : s.Held) : s.openLog.Held := by
  have dropped : s.openFiles.filter (fun file => some file ≠ s.iemLogs) = [] := by
    rw [held]
    cases s.iemLogs <;> simp
  rw [Held, State.openLog, dropped]
  rfl

/-- What is known of the queue in every state: there is one entry that leads to the next `run`
at most, and as long as there is one for `run` no entry for `_read_iem` was ever lost. -/
structure State.Known (s : State) : Prop where
  one : s.pending .checkAndRun + s.pending .run ≤ 1
  unstarted : 0 < s.pending .checkAndRun → s.pending .readIem = 0 ∧ s.runs = 0
  chains : 0 < s.pending .run → s.pending .readIem = s.runs
  most : s.pending .readIem ≤ s.runs
  held : s.Held

namespace State.Known

variable {s t : State}

theorem initial (now : Nat) : (started now).Known := by
  constructor
  · exact Nat.le_refl 1
  · exact fun _ => ⟨rfl, rfl⟩
  · exact fun _ => rfl
  · exact Nat.le_refl 0
  · rfl

/-- Only the queue, the files and the number of `run` events matter. -/
theorem of_same (known : s.Known) (queue : t.queue = s.queue) (runs : t.runs = s.runs)
    (held : t.Held) : t.Known := by
  have pending : ∀ action, t.pending action = s.pending action := by
    intro action
    rw [pending, pending, queue]
  constructor
  · simpa only [pending] using known.one
  · simpa only [pending, runs] using known.unstarted
  · simpa only [pending, runs] using known.chains
  · simpa only [pending, runs] using known.most
  · exact held

theorem bounded (known : s.Known) (runs : s.runs ≤ 1) : s.Bounded := by
  have one := known.one
  have most := known.most
  refine ⟨by omega, by omega, ?_⟩
  rw [known.held]
  cases s.iemLogs <;> simp

theorem shutdown (known : s.Known) (delay : Nat) : (s.enter delay .cleanupAndStop).Known := by
  have pending : ∀ other, other ≠ .cleanupAndStop →
      (s.enter delay .cleanupAndStop).pending other = s.pending other := by
    intro other differ
    rw [pending_enter, if_neg (Ne.symm differ), Nat.add_zero]
  constructor
  · rw [pending _ (by decide), pending _ (by decide)]
    exact known.one
  · rw [pending _ (by decide), pending _ (by decide)]
    exact known.unstarted
  · rw [pending _ (by decide), pending _ (by decide)]
    exact known.chains
  · rw [pending _ (by decide)]
    exact known.most
  · exact known.held

/-- The counts that an event leaves decide what is known after it. -/
theorem of_counts (held : s.Held) {check run read runs : Nat}
    (checks : s.pending .checkAndRun = check) (run_ : s.pending .run = run)
    (reads : s.pending .readIem = read) (count : s.runs = runs) (one : check + run ≤ 1)
    (unstarted : 0 < check → read = 0 ∧ runs = 0) (chains : 0 < run → read = runs)
    (most : read ≤ runs) : s.Known := by
  subst checks run_ reads count
  exact ⟨one, unstarted, chains, most, held⟩

/-- What is known after an event that was taken from the queue. -/
theorem perform (known : s.Known) {event : Event} {rest : List Event}
    (queue : s.queue = event :: rest) (mayRun : Bool) (first second : Nat) :
    (State.perform { s with queue := rest } event.action mayRun first second).Known := by
  obtain ⟨one, unstarted, chains, most, held⟩ := known
  simp only [pending_of_queue queue] at one unstarted chains most
  have kept : State.Held { s with queue := rest } := held
  have runs : s.runs = State.runs { s with queue := rest } := rfl
  rw [runs] at unstarted chains most
  generalize ({ s with queue := rest } : State) = u at *
  cases method : event.action with
  | checkAndRun =>
      simp only [method, reduceCtorEq, if_true, if_false] at one unstarted chains most
      cases mayRun with
      | true =>
          have count : (u.enter Schedule.second .run).runs = u.runs := rfl
          refine of_counts kept (pending_enter ..) (pending_enter ..) (pending_enter ..) count
            ?_ ?_ ?_ ?_
          all_goals simp only [reduceCtorEq, if_true, if_false]
          all_goals omega
      | false =>
          have count : (u.enter (10 * Schedule.second) .checkAndRun).runs = u.runs := rfl
          refine of_counts kept (pending_enter ..) (pending_enter ..) (pending_enter ..) count
            ?_ ?_ ?_ ?_
          all_goals simp only [reduceCtorEq, if_true, if_false]
          all_goals omega
  | run =>
      simp only [method, reduceCtorEq, if_true, if_false] at one unstarted chains most
      have count : State.runs { u.run first second with runs := u.runs + 1 } = u.runs + 1 := rfl
      refine of_counts kept.openLog (pending_run ..) (pending_run ..) (pending_run ..) count
        ?_ ?_ ?_ ?_
      all_goals simp only [reduceCtorEq, if_true, if_false]
      all_goals omega
  | readIem =>
      simp only [method, reduceCtorEq, if_true, if_false] at one unstarted chains most
      have count : (u.readIem first).runs = u.runs := rfl
      refine of_counts kept (pending_readIem ..) (pending_readIem ..) (pending_readIem ..) count
        ?_ ?_ ?_ ?_
      all_goals simp only [reduceCtorEq, if_true, if_false]
      all_goals omega
  | cleanupAndStop =>
      have empty : ∀ other, State.pending { u with queue := [] } other = 0 := fun _ => rfl
      have count : State.runs { u with queue := [] } = u.runs := rfl
      refine of_counts kept (empty _) (empty _) (empty _) count ?_ ?_ ?_ ?_
      all_goals omega

theorem next (known : s.Known) {action : Action} (step : Schedule.next s action = some t) :
    t.Known := by
  cases action with
  | tick time =>
      cases step
      exact known.of_same rfl rfl known.held
  | execute mayRun first second =>
      rw [Schedule.next] at step
      split at step
      · cases step
      · rename_i event rest queue
        split at step
        · cases step
        · cases step
          exact known.perform queue mayRun first second
  | refreshFile logExists =>
      cases step
      rw [State.refreshFile]
      split
      · exact known.of_same rfl rfl known.held.openLog
      · exact known
  | shutdown =>
      cases step
      exact known.shutdown _

end State.Known

/-- What a step does to the number of `run` events: it only counts one that is executed. -/
theorem runs_of_next {s t : State} {action : Action} (step : next s action = some t) :
    t.runs = s.runs ∨ t.runs = s.runs + 1 ∧ 0 < s.pending .run ∧
      t.pending .readIem = s.pending .readIem + 1 := by
  cases action with
  | tick time =>
      cases step
      exact .inl rfl
  | execute mayRun first second =>
      rw [next] at step
      split at step
      · cases step
      · rename_i event rest queue
        split at step
        · cases step
        · cases step
          cases method : event.action with
          | checkAndRun => cases mayRun <;> exact .inl rfl
          | run =>
              refine .inr ⟨rfl, ?_, ?_⟩
              · simp [pending_of_queue queue, method]
              · rw [pending_of_queue queue, method]
                exact pending_run ..
          | readIem => exact .inl rfl
          | cleanupAndStop => exact .inl rfl
  | refreshFile logExists =>
      cases step
      rw [State.refreshFile]
      split <;> exact .inl rfl
  | shutdown =>
      cases step
      exact .inl rfl

theorem runs_mono {s t : State} {actions : List Action} (run : system.FreeRuns s actions t) :
    s.runs ≤ t.runs :=
  run.invariant (I := fun u => s.runs ≤ u.runs)
    (fun u a v le _ step => by
      obtain same | ⟨more, -⟩ := runs_of_next step
      · omega
      · omega)
    (Nat.le_refl _)

/-- The schedule is bounded throughout a run if and only if `run` was executed once at most: every
further one starts a second chain of entries, which is never joined with the first. -/
theorem schedule_bounded_iff {s t : State} {actions : List Action} (start : system.init s)
    (run : system.FreeRuns s actions t) : system.Always State.Bounded s actions ↔ t.runs ≤ 1 := by
  obtain ⟨now, rfl⟩ := start
  have known : ∀ done u, system.FreeRuns (started now) done u → u.Known := by
    intro done u reached
    exact reached.invariant (fun u a v before _ step => before.next step) (.initial now)
  constructor
  · intro bounded
    have guarded : system.Runs (fun u a => ∀ v, next u a = some v → v.runs ≤ 1) (started now)
        actions t := by
      refine (run.always_iff (I := fun u => u.Known ∧ u.runs ≤ 1)
        (fun u before => before.1.bounded before.2) ?_ ?_ ⟨.initial now, Nat.zero_le 1⟩).mp bounded
      · exact fun u a v before once step => ⟨before.1.next step, once v step⟩
      · rintro u a v ⟨before, once⟩ step bounded w step'
        cases step.symm.trans step'
        obtain same | ⟨more, pending, chain⟩ := runs_of_next step
        · omega
        · have all := before.chains pending
          have two := bounded.2.1
          omega
    exact guarded.invariant (I := fun u => u.runs ≤ 1) (fun u a v _ once step => once v step)
      (Nat.zero_le 1)
  · intro once done rest u split reached
    subst split
    have later := runs_mono (run.prefix_suffix reached).2
    exact (known done u reached).bounded (by omega)

namespace Example

/-- The sensor may run at once; its events are executed when they are due, and take no time. -/
def actions : List Action :=
  [.tick second, .execute true 0 0, .tick second, .execute true 0 0,
    .tick (10 * second), .execute true 0 0, .execute true 0 0]

/-- The second `run` leaves two entries for `_read_iem` in the queue. -/
theorem two_chains :
    ¬ ∀ s actions t, system.init s → system.run s actions = some t → t.Bounded := by
  intro bounded
  have run : ∃ t, system.run (started 0) actions = some t ∧ ¬ t.Bounded := by
    refine ⟨_, rfl, ?_⟩
    decide
  obtain ⟨t, ran, unbounded⟩ := run
  exact unbounded (bounded (started 0) actions t ⟨0, rfl⟩ ran)

/-- The first polls after one `run`. -/
theorem bounded_of_one_run : ∃ t, system.Always State.Bounded (started 0) (actions.take 5) ∧
    system.run (started 0) (actions.take 5) = some t := by
  have run : ∃ t, system.run (started 0) (actions.take 5) = some t ∧ t.runs ≤ 1 :=
    ⟨_, rfl, by decide⟩
  obtain ⟨t, ran, once⟩ := run
  exact ⟨t, (schedule_bounded_iff ⟨0, rfl⟩
    (system.run_eq_some_iff.mp ran)).mpr once, ran⟩

end Example

end Schedule

end Iem

end Sspl

import Mathlib.Data.List.Basic
import Sspl.Controller.ExecuteThread

/-!
# The scheduler of a module

A module has one scheduler for its whole life. `initialize` enters the event that makes the
first call of `run`, each call enters the next one, and `shutdown` enters, ten seconds ahead, a
clean-up that cancels whatever it finds in the queue. The thread that has called `start` works
on the queue until it is empty; when the module is started again, by the loop of
`execute_thread` or on request, the new thread works on the same queue. A request to restart
the module is a `shutdown` followed by such a start.

An event has the number of the start that it belongs to, and a clean-up that of the last start
before its `shutdown`, so that a clean-up that meets the events of a later start can be told.
Times are in microseconds, and any time may pass between two steps.
-/

namespace Sspl

namespace Controller

namespace Scheduler

inductive Kind
  | run
  | cleanup
  deriving DecidableEq

structure Event where
  time : Nat
  kind : Kind
  start : Nat
  deriving DecidableEq

/-- What a thread in `execute_thread` is going to do next. -/
inductive Stage
  /-- The condition of the loop. -/
  | again
  /-- `initialize`, and what follows it in `start_thread`. -/
  | initializing
  | starting
  /-- The loop of the scheduler, with the time until which it sleeps. -/
  | looping
  | sleeping (wake : Nat)
  /-- An event that belongs to this start is being executed. -/
  | executing (start : Nat)
  /-- `_cleanup_and_stop` begins, and has these events still to cancel. -/
  | cleanup (start : Nat)
  | cancelling (start : Nat) (events : List Event)
  /-- The handler of an exception, up to the first `shutdown`. -/
  | raised
  /-- The loop that waits for the module to halt. -/
  | stopping (retry : Nat)
  | ended
  deriving DecidableEq

structure Thread where
  stage : Stage
  /-- How many attempts are left. -/
  left : Nat
  deriving DecidableEq

/-- The clock and the scheduler of a module, which all threads made for it share, with these
threads and the events that clean-ups have cancelled. -/
structure State where
  now : Nat
  queue : List Event
  /-- `_running`. -/
  running : Bool
  /-- The number of the last start. -/
  starts : Nat
  threads : List Thread
  /-- `_start_module` has seen that the module is not running. -/
  requested : Bool
  /-- The run events that were cancelled: the number of the clean-up, and of the event. -/
  cancelled : List (Nat × Nat)
  deriving DecidableEq

/-- Time goes on, the controller shuts the module down or starts it, or one of its threads takes a
step. -/
inductive Action
  | tick (time : Nat)
  /-- `shutdown` is called on a request, or with all modules. -/
  | shutdown
  /-- `_start_module`, up to its check, and from there on. -/
  | request
  | spawn
  /-- The next step of a thread, when it is not in `run`. -/
  | advance (i : Nat)
  /-- `run` enters another event. -/
  | enter (i : Nat) (delay : Nat)
  /-- `run` returns. -/
  | finish (i : Nat)
  /-- `run` or `initialize` raises. -/
  | raise (i : Nat)
  deriving DecidableEq

def second : Nat := 1000000

/-- The queue is ordered by time; of two events at one time the one entered first is first. -/
def insert (event : Event) : List Event → List Event
  | [] => [event]
  | other :: rest =>
    if event.time < other.time then event :: other :: rest else other :: insert event rest

namespace State

variable (s : State)

/-- `scheduler.enter`. -/
def enter (delay : Nat) (kind : Kind) (start : Nat) : State :=
  { s with queue := insert ⟨s.now + delay, kind, start⟩ s.queue }

/-- `ScheduledModuleThread.shutdown`. -/
def shutdown : State :=
  { s with running := false }.enter (10 * second) .cleanup s.starts

def setThread (i : Nat) (thread : Thread) : State :=
  { s with threads := s.threads.set i thread }

/-- `cancel` of an event, which raises if the event is not in the queue any more. -/
def cancel (start : Nat) (event : Event) : State :=
  if event ∈ s.queue then
    { s with
      queue := s.queue.erase event
      cancelled :=
        if event.kind = .run then s.cancelled ++ [(start, event.start)] else s.cancelled }
  else s

end State

/-- One turn of the loop of the scheduler. -/
def schedulerRun (i left : Nat) (s : State) : State :=
  match s.queue with
  | [] => s.setThread i ⟨.again, left⟩
  | event :: rest =>
    if s.now < event.time then s.setThread i ⟨.sleeping event.time, left⟩
    else
      { s with queue := rest }.setThread i
        ⟨match event.kind with
          | .run => .executing event.start
          | .cleanup => .cleanup event.start, left⟩

/-- The next step of thread `i` outside of `run`. -/
def advance (i : Nat) (thread : Thread) (s : State) : Option State :=
  match thread.stage with
  | .again =>
    match thread.left with
    | 0 => some (s.setThread i ⟨.ended, 0⟩)
    | left + 1 => some (s.setThread i ⟨.initializing, left⟩)
  | .initializing =>
    some (({ s with starts := s.starts + 1 }.enter second .run (s.starts + 1)).setThread i
      ⟨.starting, thread.left⟩)
  | .starting => some ({ s with running := true }.setThread i ⟨.looping, thread.left⟩)
  | .looping => some (schedulerRun i thread.left s)
  | .sleeping wake => if wake ≤ s.now then some (s.setThread i ⟨.looping, thread.left⟩) else none
  | .executing _ => none
  | .cleanup start => some (s.setThread i ⟨.cancelling start s.queue, thread.left⟩)
  | .cancelling _ [] => some (s.setThread i ⟨.looping, thread.left⟩)
  | .cancelling start (event :: rest) =>
    some ((s.cancel start event).setThread i ⟨.cancelling start rest, thread.left⟩)
  | .raised => some (s.shutdown.setThread i ⟨.stopping 5, thread.left⟩)
  | .stopping retry =>
    if s.running = true ∧ retry ≠ 0 then
      some (s.shutdown.setThread i ⟨.stopping (retry - 1), thread.left⟩)
    else some (s.setThread i ⟨.again, thread.left⟩)
  | .ended => none

section

variable (m : Module)

/-- A thread that begins with `execute_thread`. -/
def newThread : Thread := ⟨.again, (m.recoveryCount + 1).toNat⟩

def next (s : State) : Action → Option State
  | .tick time => some { s with now := s.now + time }
  | .shutdown => some s.shutdown
  | .request => if s.running = true then some s else some { s with requested := true }
  | .spawn =>
    if s.requested = true then
      some { s with requested := false, threads := s.threads ++ [newThread m] }
    else none
  | .advance i => (s.threads[i]?).bind fun thread => advance i thread s
  | .enter i delay =>
    match s.threads[i]? with
    | some ⟨.executing start, _⟩ => some (s.enter delay .run start)
    | _ => none
  | .finish i =>
    match s.threads[i]? with
    | some ⟨.executing _, left⟩ => some (s.setThread i ⟨.looping, left⟩)
    | _ => none
  | .raise i =>
    match s.threads[i]? with
    | some ⟨.executing _, left⟩ | some ⟨.starting, left⟩ => some (s.setThread i ⟨.raised, left⟩)
    | _ => none

/-- SSPL has come up, and the thread of the module begins. -/
def start : State := ⟨0, [], false, 0, [newThread m], false, []⟩

/-- One module with all its starts: the threads of earlier starts may still be there when a new one
begins. -/
def system : Transition.System State Action where
  init s := s = start m
  next := next m

end

def Stage.isExecuting : Stage → Bool
  | .executing _ => true
  | _ => false

/-- The thread is in `_cleanup_and_stop`. -/
def Stage.isCleaning : Stage → Bool
  | .cleanup _ | .cancelling _ _ => true
  | _ => false

namespace State

variable (s : State)

/-- A run event is pending or executing. -/
def Scheduled : Prop :=
  (∃ event ∈ s.queue, event.kind = .run) ∨ ∃ thread ∈ s.threads, thread.stage.isExecuting = true

/-- A run event is pending, or executing in another thread. -/
def ScheduledElsewhere (i : Nat) : Prop :=
  (∃ event ∈ s.queue, event.kind = .run) ∨
    ∃ thread ∈ s.threads.eraseIdx i, thread.stage.isExecuting = true

/-- No clean-up is pending or executing. -/
def Settled : Prop :=
  (∀ event ∈ s.queue, event.kind = .run) ∧ ∀ thread ∈ s.threads, thread.stage.isCleaning = false

instance : Decidable s.Scheduled := inferInstanceAs (Decidable (_ ∨ _))

instance (i : Nat) : Decidable (s.ScheduledElsewhere i) := inferInstanceAs (Decidable (_ ∨ _))

instance : Decidable s.Settled := inferInstanceAs (Decidable (_ ∧ _))

end State

/-- A clean-up never cancels the events of a start after its `shutdown`, and a module that is
running has an event that is pending or executing. -/
structure LifeCycle (s : State) : Prop where
  own : ∀ pair ∈ s.cancelled, pair.2 ≤ pair.1
  scheduled : s.running = true → s.Scheduled

/-- The module is started, up to the point where it is running, when no clean-up is there, and
what a running module executes does not raise or return without a next event. -/
def Orderly (s : State) : Action → Prop
  | .advance i => ∀ thread ∈ s.threads[i]?,
    (thread.stage = .initializing → s.Settled) ∧
      (thread.stage = .starting → s.Settled ∧ s.Scheduled)
  | .finish i => s.running = true → s.ScheduledElsewhere i
  | .raise i => ∀ thread ∈ s.threads[i]?, thread.stage.isExecuting = true → s.running = true →
    s.ScheduledElsewhere i
  | _ => True

instance (s : State) : (a : Action) → Decidable (Orderly s a)
  | .advance i => inferInstanceAs (Decidable (∀ thread ∈ s.threads[i]?, _ ∧ _))
  | .finish i => inferInstanceAs (Decidable (_ → s.ScheduledElsewhere i))
  | .raise i => inferInstanceAs (Decidable (∀ thread ∈ s.threads[i]?, _ → _ → _))
  | .tick _ | .shutdown | .request | .spawn | .enter _ _ => .isTrue trivial

theorem mem_insert {event other : Event} {queue : List Event} :
    other ∈ insert event queue ↔ other = event ∨ other ∈ queue := by
  induction queue with
  | nil => simp [insert]
  | cons first rest ih =>
      rw [insert]
      split
      · simp
      · rw [List.mem_cons, ih, List.mem_cons]
        exact or_left_comm

section

variable {s t : State} {i : Nat} {old new : Thread}

theorem mem_set_of_mem_eraseIdx {thread : Thread} (h : thread ∈ s.threads.eraseIdx i) :
    thread ∈ s.threads.set i new := by
  obtain ⟨j, other, found⟩ := List.mem_eraseIdx_iff_getElem?.mp h
  apply List.mem_of_getElem? (i := j)
  rw [List.getElem?_set_ne (Ne.symm other)]
  exact found

namespace State

theorem ScheduledElsewhere.setThread (h : s.ScheduledElsewhere i) (new : Thread) :
    (s.setThread i new).Scheduled := by
  obtain pending | ⟨thread, mem, executing⟩ := h
  · exact .inl pending
  · exact .inr ⟨thread, mem_set_of_mem_eraseIdx mem, executing⟩

theorem Scheduled.elsewhere (h : s.Scheduled) (was : s.threads[i]? = some old)
    (idle : old.stage.isExecuting = false) : s.ScheduledElsewhere i := by
  obtain pending | ⟨thread, mem, executing⟩ := h
  · exact .inl pending
  · obtain ⟨j, found⟩ := List.mem_iff_getElem?.mp mem
    refine .inr ⟨thread, List.mem_eraseIdx_iff_getElem?.mpr ⟨j, ?_, found⟩, executing⟩
    rintro rfl
    cases was.symm.trans found
    rw [executing] at idle
    cases idle

/-- A thread that executes nothing goes on to its next stage. -/
theorem Scheduled.setThread (h : s.Scheduled) (was : s.threads[i]? = some old)
    (idle : old.stage.isExecuting = false) (new : Thread) : (s.setThread i new).Scheduled :=
  (h.elsewhere was idle).setThread new

theorem Scheduled.enter (h : s.Scheduled) (delay : Nat) (kind : Kind) (start : Nat) :
    (s.enter delay kind start).Scheduled := by
  obtain ⟨event, mem, run⟩ | executing := h
  · exact .inl ⟨event, mem_insert.mpr (.inr mem), run⟩
  · exact .inr executing

end State

/-- An event has the number of a start, and a clean-up is there only of the last start, while
the module is not running. -/
def EventFine (s : State) (event : Event) : Prop :=
  event.start ≤ s.starts ∧ (event.kind = .cleanup → event.start = s.starts ∧ s.running = false)

def StageFine (s : State) : Stage → Prop
  | .executing start => start ≤ s.starts
  | .cleanup start => start = s.starts ∧ s.running = false
  | .cancelling start events =>
    (start = s.starts ∧ s.running = false) ∧ ∀ event ∈ events, event.start ≤ s.starts
  | _ => True

structure Invariant (s : State) : Prop extends LifeCycle s where
  events : ∀ event ∈ s.queue, EventFine s event
  stages : ∀ thread ∈ s.threads, StageFine s thread.stage

namespace Invariant

theorem start (m : Module) : Invariant (start m) where
  own _ mem := nomatch mem
  scheduled running := nomatch running
  events _ mem := nomatch mem
  stages thread mem := by
    cases List.mem_singleton.mp mem
    trivial

theorem enter (h : Invariant s) {delay : Nat} {kind : Kind} {start : Nat}
    (fine : EventFine s ⟨s.now + delay, kind, start⟩) : Invariant (s.enter delay kind start) where
  own := h.own
  scheduled running := (h.scheduled running).enter delay kind start
  events event mem := by
    obtain rfl | mem := mem_insert.mp mem
    · exact fine
    · exact h.events event mem
  stages := h.stages

theorem setThread (h : Invariant s) (fine : StageFine s new.stage)
    (scheduled : s.running = true → (s.setThread i new).Scheduled) :
    Invariant (s.setThread i new) where
  own := h.own
  scheduled := scheduled
  events := h.events
  stages thread mem := by
    obtain mem | rfl := List.mem_or_eq_of_mem_set mem
    · exact h.stages thread mem
    · exact fine

/-- A thread that executes nothing goes on to its next stage. -/
theorem goOn (h : Invariant s) (was : s.threads[i]? = some old)
    (idle : old.stage.isExecuting = false) (fine : StageFine s new.stage) :
    Invariant (s.setThread i new) :=
  h.setThread fine fun running => (h.scheduled running).setThread was idle new

theorem halt (h : Invariant s) : Invariant { s with running := false } where
  own := h.own
  scheduled running := nomatch running
  events event mem :=
    ⟨(h.events event mem).1, fun cleanup => ⟨((h.events event mem).2 cleanup).1, rfl⟩⟩
  stages thread mem := by
    have fine := h.stages thread mem
    obtain ⟨stage, left⟩ := thread
    cases stage with
    | executing | again | initializing | starting | looping | sleeping | raised | stopping
    | ended =>
        exact fine
    | cleanup => exact ⟨fine.1, rfl⟩
    | cancelling => exact ⟨⟨fine.1.1, rfl⟩, fine.2⟩

theorem shutdown (h : Invariant s) : Invariant s.shutdown :=
  h.halt.enter ⟨le_refl _, fun _ => ⟨rfl, rfl⟩⟩

/-- Nothing is left of an earlier `shutdown` when the module is started. -/
theorem begin (h : Invariant s) (settled : s.Settled) :
    Invariant { s with starts := s.starts + 1 } where
  own := h.own
  scheduled := h.scheduled
  events event mem := by
    refine ⟨Nat.le_succ_of_le (h.events event mem).1, fun cleanup => ?_⟩
    rw [settled.1 event mem] at cleanup
    cases cleanup
  stages thread mem := by
    have fine := h.stages thread mem
    have quiet := settled.2 thread mem
    obtain ⟨stage, left⟩ := thread
    cases stage with
    | again | initializing | starting | looping | sleeping | raised | stopping | ended => trivial
    | executing => exact Nat.le_succ_of_le fine
    | cleanup | cancelling => cases quiet

theorem run (h : Invariant s) (settled : s.Settled) (scheduled : s.Scheduled) :
    Invariant { s with running := true } where
  own := h.own
  scheduled _ := scheduled
  events event mem := by
    refine ⟨(h.events event mem).1, fun cleanup => ?_⟩
    rw [settled.1 event mem] at cleanup
    cases cleanup
  stages thread mem := by
    have fine := h.stages thread mem
    have quiet := settled.2 thread mem
    obtain ⟨stage, left⟩ := thread
    cases stage with
    | again | initializing | starting | looping | sleeping | raised | stopping | ended
    | executing =>
        exact fine
    | cleanup | cancelling => cases quiet

/-- A clean-up cancels an event while the module is not running. -/
theorem cancel (h : Invariant s) {event : Event} (halted : s.running = false)
    (earlier : event.start ≤ s.starts) : Invariant (s.cancel s.starts event) := by
  unfold State.cancel
  split
  · refine { own := ?_, scheduled := ?_, events := ?_, stages := h.stages }
    · intro pair mem
      dsimp only at mem
      split at mem
      · obtain mem | mem := List.mem_append.mp mem
        · exact h.own pair mem
        · cases List.mem_singleton.mp mem
          exact earlier
      · exact h.own pair mem
    · intro running
      cases halted.symm.trans running
    · exact fun other mem => h.events other (List.mem_of_mem_erase mem)
  · exact h

theorem cancel_threads {start : Nat} {event : Event} :
    (s.cancel start event).threads = s.threads := by
  unfold State.cancel
  split <;> rfl

theorem cancel_fine {start : Nat} {event : Event} {stage : Stage} (fine : StageFine s stage) :
    StageFine (s.cancel start event) stage := by
  unfold State.cancel
  split
  · exact fine
  · exact fine

/-- The loop of the scheduler takes the first event when its time has come. -/
theorem schedulerRun (h : Invariant s) (was : s.threads[i]? = some old)
    (idle : old.stage.isExecuting = false) :
    Invariant (schedulerRun i old.left s) := by
  unfold Scheduler.schedulerRun
  split
  · exact h.goOn was idle trivial
  · rename_i event rest queue
    split
    · exact h.goOn was idle trivial
    · have fine := h.events event (by rw [queue]; exact List.mem_cons_self)
      have popped (running : s.running = false) : Invariant { s with queue := rest } :=
        { own := h.own
          scheduled := fun running' => nomatch running.symm.trans running'
          events := fun other mem =>
            h.events other (by rw [queue]; exact List.mem_cons_of_mem _ mem)
          stages := h.stages }
      cases kind : event.kind with
      | cleanup =>
          have halted := fine.2 kind
          exact (popped halted.2).goOn was idle halted
      | run =>
          exact
            { own := h.own
              scheduled := fun _ =>
                .inr ⟨_, List.mem_set (List.getElem?_eq_some_iff.mp was).1 _, rfl⟩
              events := fun other mem =>
                h.events other (by rw [queue]; exact List.mem_cons_of_mem _ mem)
              stages := fun thread mem => by
                obtain mem | rfl := List.mem_or_eq_of_mem_set mem
                · exact h.stages thread mem
                · exact fine.1 }

theorem advance (h : Invariant s) (was : s.threads[i]? = some old)
    (orderly : Orderly s (.advance i)) (step : advance i old s = some t) : Invariant t := by
  have fine := h.stages old (List.mem_of_getElem? was)
  obtain ⟨settled, ready⟩ := orderly old was
  obtain ⟨stage, left⟩ := old
  cases stage with
  | again =>
      cases left with
      | zero | succ =>
          cases step
          exact h.goOn was rfl trivial
  | initializing =>
      cases step
      have begun := @Invariant.enter _ (h.begin (settled rfl)) second .run _
        ⟨le_refl _, fun cleanup => nomatch cleanup⟩
      exact begun.goOn was rfl trivial
  | starting =>
      cases step
      exact (h.run (ready rfl).1 (ready rfl).2).goOn was rfl trivial
  | looping =>
      cases step
      exact h.schedulerRun was rfl
  | sleeping wake =>
      simp only [Scheduler.advance] at step
      split at step
      · cases step
        exact h.goOn was rfl trivial
      · cases step
  | executing => cases step
  | cleanup start =>
      cases step
      exact h.goOn was rfl ⟨fine, fun event mem => (h.events event mem).1⟩
  | cancelling start events =>
      cases events with
      | nil =>
          cases step
          exact h.goOn was rfl trivial
      | cons event rest =>
          cases step
          obtain ⟨⟨rfl, halted⟩, earlier⟩ := fine
          apply (h.cancel halted (earlier event List.mem_cons_self)).goOn
          · rw [cancel_threads]
            exact was
          · rfl
          · exact cancel_fine
              ⟨⟨rfl, halted⟩, fun other mem => earlier other (List.mem_cons_of_mem _ mem)⟩
  | raised =>
      cases step
      exact h.shutdown.goOn was rfl trivial
  | stopping retry =>
      simp only [Scheduler.advance] at step
      split at step
      · cases step
        exact h.shutdown.goOn was rfl trivial
      · cases step
        exact h.goOn was rfl trivial
  | ended => cases step

theorem step {m : Module} {a : Action} (h : Invariant s) (orderly : Orderly s a)
    (step : next m s a = some t) : Invariant t := by
  unfold next at step
  split at step
  · cases step
    exact { h with }
  · cases step
    exact h.shutdown
  · split at step
    · cases step
      exact h
    · cases step
      exact { h with }
  · split at step
    · cases step
      refine { h with scheduled := ?_, stages := ?_ }
      · intro running
        obtain pending | ⟨thread, mem, executing⟩ := h.scheduled running
        · exact .inl pending
        · exact .inr ⟨thread, List.mem_append_left _ mem, executing⟩
      · intro thread mem
        obtain mem | mem := List.mem_append.mp mem
        · exact h.stages thread mem
        · cases List.mem_singleton.mp mem
          trivial
    · cases step
  · obtain ⟨thread, was, step⟩ := Option.bind_eq_some_iff.mp step
    exact h.advance was orderly step
  · split at step
    · rename_i start left was
      cases step
      have fine : start ≤ s.starts := h.stages _ (List.mem_of_getElem? was)
      exact h.enter ⟨fine, fun cleanup => nomatch cleanup⟩
    · cases step
  · split at step
    · rename_i start left was
      cases step
      exact h.setThread trivial fun running => (orderly running).setThread _
    · cases step
  · split at step
    · rename_i start left was
      cases step
      exact h.setThread trivial fun running => (orderly _ was rfl running).setThread _
    · rename_i left was
      cases step
      exact h.goOn was rfl trivial
    · cases step

end Invariant

end

/-- In every orderly run no clean-up cancels the events of a later start, and a module that is
running has an event pending or executing. The threads of the controller and of the module may take
their steps in any order. -/
theorem life_cycle_kept (m : Module) {actions : List Action} {t : State}
    (h : (system m).Runs Orderly (start m) actions t) : LifeCycle t :=
  (h.invariant (fun _ _ _ inv orderly step => inv.step orderly step)
    (Invariant.start m)).toLifeCycle

namespace Example

open Controller.Example (iemSensor)

/-- The sensor is started, runs once, and enters its next event thirty seconds ahead. -/
def firstRun : List Action :=
  [.advance 0, .advance 0, .advance 0, .advance 0, .tick second, .advance 0, .advance 0,
    .enter 0 (30 * second), .finish 0, .advance 0]

/-- The sensor is shut down, its thread comes to the end of the queue, and the loop of
`execute_thread` starts it again. -/
def stopped : List Action :=
  firstRun ++ [.shutdown, .tick (40 * second), .advance 0, .advance 0, .advance 0, .advance 0,
    .advance 0, .advance 0, .advance 0, .advance 0, .advance 0, .tick second, .advance 0,
    .enter 0 (30 * second), .finish 0]

/-- A restart is requested, and the clean-up of the old start comes nine seconds after the first
run of the new one. -/
def restarted : List Action :=
  firstRun ++ [.shutdown, .request, .spawn, .advance 1, .advance 1, .advance 1, .advance 1,
    .tick second, .advance 1, .advance 1, .enter 1 (30 * second), .finish 1, .advance 1,
    .tick (9 * second), .advance 1, .advance 1, .advance 1, .advance 1, .advance 1, .advance 1]

def startedAgain : State :=
  { now := 42 * second
    queue := [⟨72 * second, .run, 2⟩]
    running := true
    starts := 2
    threads := [⟨.looping, 0⟩]
    requested := false
    cancelled := [(1, 1)] }

/-- The module is reported as running, and nothing will make it run. -/
def stuck : State :=
  { now := 11 * second
    queue := []
    running := true
    starts := 2
    threads := [⟨.sleeping (31 * second), 1⟩, ⟨.looping, 1⟩]
    requested := false
    cancelled := [(1, 1), (1, 2)] }

theorem stopped_runs :
    (system iemSensor).Runs Orderly (start iemSensor) stopped startedAgain :=
  (system iemSensor).replay_eq_some_iff.mp (by decide +kernel)

theorem restarted_runs : (system iemSensor).FreeRuns (start iemSensor) restarted stuck :=
  (system iemSensor).run_eq_some_iff.mp (by decide +kernel)

/-- The module is stopped and started again. -/
theorem life_cycle_kept_stopped :
    (system iemSensor).Runs Orderly (start iemSensor) stopped startedAgain ∧
      LifeCycle startedAgain :=
  ⟨stopped_runs, life_cycle_kept iemSensor stopped_runs⟩

/-- The clean-up of the old start cancels the event of the new one. -/
theorem life_cycle_not_kept :
    ¬ ∀ actions t, (system iemSensor).FreeRuns (start iemSensor) actions t → LifeCycle t := by
  intro always
  have kept := always restarted stuck restarted_runs
  exact absurd (kept.own (1, 2) (by decide)) (by decide)

end Example

end Scheduler

end Controller

end Sspl

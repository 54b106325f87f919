import Mathlib.Data.List.Count
import Sspl.Foundation.System
import Sspl.Foundation.Alternation
import Sspl.Python.Value

/-!
# The thread of a module

`execute_thread` calls `start_thread` of the module in a loop. A call that raises is followed
by a recovery, or, when it was the last one, by the fault alert of the module; either way the
module is shut down before the loop goes on. Once SSPL is up, a second thread looks for a
module that runs again and sends `fault_resolved`.

What the alerts depend on is the state last sent, which is kept in a file of the module and,
in the dictionary `module_persistent_data`, in memory. An alert and the two writes before it
are one step here; the creation of the file is not.
-/

namespace Sspl

namespace Controller

inductive AlertType
  | fault
  | faultResolved
  deriving DecidableEq

/-- What is kept of a module: `{}` or `{"prev_state": …}`. -/
structure Kept where
  prevState : Option AlertType
  deriving DecidableEq

/-- The settings for all sensors, and those for this module. -/
structure RecoveryConf where
  sensorRecoveryCount : Option Int
  sensorRecoveryInterval : Option Int
  moduleRecoveryCount : Option Int
  moduleRecoveryInterval : Option Int

/-- `_get_recovery_config`. -/
def getRecoveryConfig (conf : RecoveryConf) : Int × Int :=
  (conf.moduleRecoveryCount.getD (conf.sensorRecoveryCount.getD 0),
    conf.moduleRecoveryInterval.getD (conf.sensorRecoveryInterval.getD 0))

/-- A module with what `_execute_thread` reads of it, and what its alerts say. -/
structure Module where
  name : String
  isSensorThread : Bool
  impact : String
  conf : RecoveryConf
  /-- The section of the module in the configuration. -/
  confSection : Json

namespace Module

variable (m : Module)

def recoveryCount : Int := if m.isSensorThread then (getRecoveryConfig m.conf).1 else 0

def recoveryInterval : Int := if m.isSensorThread then (getRecoveryConfig m.conf).2 else 0

end Module

/-- The dictionary `info` from which the alert is made. -/
structure Info where
  moduleName : String
  alertType : AlertType
  description : String
  impact : String
  recommendation : String
  severity : String
  specificInfo : Json
  deriving DecidableEq

inductive Event
  | startThread
  | shutdown
  | sleep (seconds : Int)
  | sent (info : Info)
  deriving DecidableEq

/-- What the two threads of a module share: its file, its entry in the dictionary and what was done
so far. -/
structure Shared where
  /-- The contents of `per_data_path`, if the file is there. -/
  file : Option Kept
  /-- The entry of the module in `module_persistent_data`. -/
  memory : Option Kept
  events : List Event
  deriving DecidableEq

/-- The types of the alerts among the events. -/
def alertsOf (events : List Event) : List AlertType :=
  events.filterMap fun event =>
    match event with
    | .sent info => some info.alertType
    | _ => none

namespace Shared

def emit (s : Shared) (event : Event) : Shared := { s with events := s.events ++ [event] }

/-- Keep the state and send the alert. -/
def alert (s : Shared) (info : Info) : Shared :=
  { file := some ⟨some info.alertType⟩
    memory := some ⟨some info.alertType⟩
    events := s.events ++ [.sent info] }

/-- The types of the alerts that were sent. -/
def alerts (s : Shared) : List AlertType := alertsOf s.events

/-- `prev_state` in the file of the module. -/
def prevState (s : Shared) : Option AlertType := s.file.bind Kept.prevState

end Shared

/-- What a call of `start_thread` ends with. -/
inductive Outcome
  | returned
  | raised (err : String)
  deriving DecidableEq

section

variable (m : Module)

def unrecoverable (err : String) : Info :=
  { moduleName := m.name
    alertType := .fault
    description := m.name ++ " is stopped and unrecoverable. " ++ m.name ++ ", " ++ err
    impact := m.impact
    recommendation := "Restart SSPL service"
    severity := "critical"
    specificInfo := m.confSection }

def recovered : Info :=
  { moduleName := m.name
    alertType := .faultResolved
    description := m.name ++ " is recovered"
    impact := ""
    recommendation := ""
    severity := "info"
    specificInfo := m.confSection }

/-- The part of `execute_thread` for an attempt that was the last one. -/
def giveUp (err : String) (s : Shared) : Except PyErr Shared :=
  let s := if s.file.isSome then { s with memory := s.file } else s
  match s.memory with
  | none => .error .keyError
  | some kept =>
    if m.isSensorThread = true ∧ kept.prevState ≠ some .fault then
      .ok (s.alert (unrecoverable m err))
    else .ok s

/-- The loop after the first `shutdown`, where `is_running` answers yes `busy` times. -/
def shutdownLoop : (retry busy : Nat) → List Event
  | 0, _ => []
  | _, 0 => []
  | 1, _ + 1 => [.shutdown]
  | retry + 2, busy + 1 => .shutdown :: .sleep 2 :: shutdownLoop (retry + 1) busy

/-- The body of the loop of `execute_thread`, with the attempt counted already. -/
def attemptStart (attempt : Int) (outcome : Outcome) (busy : Nat) (s : Shared) :
    Except PyErr Shared :=
  let s := s.emit .startThread
  match outcome with
  | .returned => .ok s
  | .raised err => do
    let s ← if m.recoveryCount < attempt then giveUp m err s
      else .ok (s.emit (.sleep m.recoveryInterval))
    return { s with events := s.events ++ .shutdown :: shutdownLoop 5 busy }

/-- The loop of `execute_thread`, for the outcomes of the calls and the answers of
`is_running` after each of them. -/
def attempts (outcome : Nat → Outcome) (busy : Nat → Nat) :
    (fuel attempt : Nat) → Shared → Except PyErr Shared
  | 0, _, s => .ok s
  | fuel + 1, attempt, s =>
    if (attempt : Int) ≤ m.recoveryCount then do
      let s ← attemptStart m (attempt + 1 : Nat) (outcome attempt) (busy attempt) s
      attempts outcome busy fuel (attempt + 1) s
    else .ok s

/-- The file of the module is made if it is not there. -/
def initCache (s : Shared) : Shared :=
  if s.file.isSome then s else { s with file := some ⟨none⟩, memory := some ⟨none⟩ }

/-- `execute_thread`. The attempts are counted from zero to the recovery count, which is all
the fuel that is needed. -/
def executeThread (outcome : Nat → Outcome) (busy : Nat → Nat) (s : Shared) :
    Except PyErr Shared :=
  attempts m outcome busy (m.recoveryCount + 1).toNat 0 (initCache s)

end

/-- Only waiting and shutting down. -/
def Quiet (events : List Event) : Prop :=
  ∀ event ∈ events, event = .shutdown ∨ ∃ seconds, event = .sleep seconds

theorem quiet_shutdownLoop (retry busy : Nat) : Quiet (shutdownLoop retry busy) := by
  induction retry generalizing busy with
  | zero => simp [shutdownLoop, Quiet]
  | succ retry ih =>
      cases busy with
      | zero => simp [shutdownLoop, Quiet]
      | succ busy =>
          cases retry with
          | zero => simp [shutdownLoop, Quiet]
          | succ retry =>
              intro event mem
              simp only [shutdownLoop, List.mem_cons] at mem
              obtain rfl | rfl | mem := mem
              · exact .inl rfl
              · exact .inr ⟨2, rfl⟩
              · exact ih busy event mem

namespace Quiet

variable {events : List Event}

theorem alertsOf_eq (quiet : Quiet events) : alertsOf events = [] := by
  unfold alertsOf
  rw [List.filterMap_eq_nil_iff]
  intro event mem
  obtain rfl | ⟨seconds, rfl⟩ := quiet event mem <;> rfl

theorem count_start (quiet : Quiet events) : events.count .startThread = 0 := by
  rw [List.count_eq_zero]
  intro mem
  obtain h | ⟨_, h⟩ := quiet _ mem <;> cases h

theorem sent_notMem (quiet : Quiet events) (info : Info) : .sent info ∉ events := by
  intro mem
  obtain h | ⟨_, h⟩ := quiet _ mem <;> cases h

theorem stop (busy : Nat) : Quiet (.shutdown :: shutdownLoop 5 busy) := by
  intro event mem
  obtain rfl | mem := List.mem_cons.mp mem
  · exact .inl rfl
  · exact quiet_shutdownLoop 5 busy event mem

theorem sleep_stop (seconds : Int) (busy : Nat) :
    Quiet (.sleep seconds :: .shutdown :: shutdownLoop 5 busy) := by
  intro event mem
  obtain rfl | mem := List.mem_cons.mp mem
  · exact .inr ⟨seconds, rfl⟩
  · exact stop busy event mem

end Quiet

@[simp] theorem alertsOf_append (first second : List Event) :
    alertsOf (first ++ second) = alertsOf first ++ alertsOf second :=
  List.filterMap_append

@[simp] theorem alertsOf_start (events : List Event) :
    alertsOf (.startThread :: events) = alertsOf events := rfl

@[simp] theorem alertsOf_sent (info : Info) (events : List Event) :
    alertsOf (.sent info :: events) = info.alertType :: alertsOf events := rfl

section Attempt

variable {m : Module} {attempt : Int} {outcome : Outcome} {busy : Nat} {s t : Shared}

/-- The ways an attempt goes when the file of the module is there. -/
inductive Attempted (m : Module) (attempt : Int) (outcome : Outcome) (s : Shared) : Shared → Prop
  | returned (returned : outcome = .returned) :
      Attempted m attempt outcome s { s with events := s.events ++ [.startThread] }
  | retried (err : String) (tail : List Event) (raised : outcome = .raised err)
      (more : attempt ≤ m.recoveryCount) (quiet : Quiet tail) :
      Attempted m attempt outcome s { s with events := s.events ++ .startThread :: tail }
  | known (err : String) (tail : List Event) (raised : outcome = .raised err)
      (last : m.recoveryCount < attempt)
      (known : m.isSensorThread = true → s.prevState = some .fault) (quiet : Quiet tail) :
      Attempted m attempt outcome s
        { s with memory := s.file, events := s.events ++ .startThread :: tail }
  | gaveUp (err : String) (tail : List Event) (raised : outcome = .raised err)
      (last : m.recoveryCount < attempt) (new : s.prevState ≠ some .fault) (quiet : Quiet tail) :
      Attempted m attempt outcome s
        { file := some ⟨some .fault⟩
          memory := some ⟨some .fault⟩
          events := s.events ++ .startThread :: .sent (unrecoverable m err) :: tail }

/-- While the file is there, an attempt comes to its end. -/
theorem attemptStart_ok (there : s.file.isSome = true) :
    ∃ t, attemptStart m attempt outcome busy s = .ok t ∧ Attempted m attempt outcome s t := by
  cases outcome with
  | returned => exact ⟨_, rfl, .returned rfl⟩
  | raised err =>
      by_cases last : m.recoveryCount < attempt
      · obtain ⟨kept, file⟩ := Option.isSome_iff_exists.mp there
        by_cases new : m.isSensorThread = true ∧ kept.prevState ≠ some .fault
        · refine ⟨_, ?_, .gaveUp err _ rfl last ?_ (.stop busy)⟩
          · simp [attemptStart, last, giveUp, Shared.emit, Shared.alert, file, new, unrecoverable]
          · rw [Shared.prevState, file]
            exact new.2
        · refine ⟨_, ?_, .known err _ rfl last ?_ (.stop busy)⟩
          · simp [attemptStart, last, giveUp, Shared.emit, file, new]
          · intro sensor
            rw [Shared.prevState, file]
            exact not_not.mp fun other => new ⟨sensor, other⟩
      · refine ⟨_, ?_,
          .retried err _ rfl (Int.not_lt.mp last) (.sleep_stop m.recoveryInterval busy)⟩
        simp [attemptStart, last, Shared.emit]

/-- An attempt leaves the alerts and the file as they are, or it sends the fault alert, and only
the last one touches the dictionary. -/
theorem Attempted.alerts_eq (h : Attempted m attempt outcome s t) :
    t.alerts = s.alerts ∧ t.file = s.file ∧
        (t.memory = s.memory ∨ outcome ≠ .returned ∧ m.recoveryCount < attempt) ∨
      t.alerts = s.alerts ++ [.fault] ∧ t.file = some ⟨some .fault⟩ ∧
        s.prevState ≠ some .fault ∧ outcome ≠ .returned ∧ m.recoveryCount < attempt := by
  cases h with
  | returned => exact .inl ⟨by simp [Shared.alerts, alertsOf], rfl, .inl rfl⟩
  | retried err tail raised more quiet =>
      exact .inl ⟨by simp [Shared.alerts, quiet.alertsOf_eq], rfl, .inl rfl⟩
  | known err tail raised last known quiet =>
      refine .inl ⟨by simp [Shared.alerts, quiet.alertsOf_eq], rfl, .inr ⟨?_, last⟩⟩
      rw [raised]
      simp
  | gaveUp err tail raised last new quiet =>
      refine .inr ⟨by simp [Shared.alerts, quiet.alertsOf_eq, unrecoverable], rfl, new, ?_, last⟩
      rw [raised]
      simp

theorem Attempted.file_isSome (h : Attempted m attempt outcome s t)
    (there : s.file.isSome = true) : t.file.isSome = true := by
  cases h with
  | returned | retried | known => exact there
  | gaveUp => rfl

/-- An attempt makes one call, and sends an alert only after it, when it raised and was the
last one. -/
theorem Attempted.events_eq (h : Attempted m attempt outcome s t) :
    ∃ tail, t.events = s.events ++ .startThread :: tail ∧ tail.count .startThread = 0 ∧
      ∀ info, .sent info ∈ tail → m.recoveryCount < attempt ∧ outcome ≠ .returned := by
  cases h with
  | returned => exact ⟨[], rfl, rfl, fun _ mem => nomatch mem⟩
  | retried err tail raised more quiet =>
      exact ⟨tail, rfl, quiet.count_start, fun info mem => absurd mem (quiet.sent_notMem info)⟩
  | known err tail raised last known quiet =>
      exact ⟨tail, rfl, quiet.count_start, fun info mem => absurd mem (quiet.sent_notMem info)⟩
  | gaveUp err tail raised last new quiet =>
      refine ⟨_ :: tail, rfl, ?_, fun _ _ => ⟨last, ?_⟩⟩
      · rw [List.count_cons_of_ne (by simp), quiet.count_start]
      · rw [raised]
        simp

end Attempt

section Recovery

variable {m : Module} {outcome : Nat → Outcome} {busy : Nat → Nat} {s t : Shared}

/-- How often `start_thread` was called. -/
def calls (events : List Event) : Nat := events.count .startThread

theorem append_cons_eq_append {α : Type} {before after first second : List α} {x : α}
    (h : before ++ x :: after = first ++ second) :
    (∃ mid, first = before ++ x :: mid ∧ after = mid ++ second) ∨
      ∃ mid, before = first ++ mid ∧ second = mid ++ x :: after := by
  obtain ⟨mid, rfl, rest⟩ | ⟨mid, rfl, rest⟩ := List.append_eq_append_iff.mp h
  · cases mid with
    | nil => exact .inr ⟨[], by simp, rest.symm⟩
    | cons y mid =>
        obtain ⟨rfl, rfl⟩ := List.cons.inj rest
        exact .inl ⟨mid, rfl, rfl⟩
  · exact .inr ⟨mid, rfl, rest⟩

/-- The rest of the loop makes the calls that are left, and an alert comes after all of them,
when the last one has raised. -/
theorem attempts_ok {fuel attempt : Nat} (left : attempt + fuel = (m.recoveryCount + 1).toNat)
    (there : s.file.isSome = true) :
    ∃ t tail, attempts m outcome busy fuel attempt s = .ok t ∧ t.events = s.events ++ tail ∧
      calls tail = fuel ∧ ∀ before info after, tail = before ++ .sent info :: after →
        ∃ last, attempt + fuel = last + 1 ∧ calls before = fuel ∧ outcome last ≠ .returned := by
  induction fuel generalizing attempt s with
  | zero => exact ⟨s, [], rfl, by simp, rfl, by simp⟩
  | succ fuel ih =>
      have more : (attempt : Int) ≤ m.recoveryCount := by omega
      obtain ⟨mid, first, attempted⟩ := @attemptStart_ok m (attempt + 1 : Nat) (outcome attempt)
        (busy attempt) _ there
      obtain ⟨front, events, single, alert⟩ := attempted.events_eq
      obtain ⟨t, back, rest, events', count, last⟩ :=
        @ih _ (attempt + 1) (by omega) (attempted.file_isSome there)
      have one : calls (.startThread :: front) = 1 := by
        rw [calls, List.count_cons_self, single]
      refine ⟨t, .startThread :: front ++ back, ?_, ?_, ?_, ?_⟩
      · rw [attempts, if_pos more, first]
        exact rest
      · rw [events', events, List.append_assoc]
      · rw [calls, List.count_append, ← calls, ← calls, one, count, Nat.add_comm]
      · intro before info after split
        obtain ⟨later, whole, -⟩ | ⟨later, rfl, inBack⟩ := append_cons_eq_append split.symm
        · cases before with
          | nil => cases whole
          | cons _ before =>
              rw [List.cons_append] at whole
              obtain ⟨rfl, inFront⟩ := List.cons.inj whole
              obtain ⟨final, raised⟩ := alert info (by simp [inFront])
              refine ⟨attempt, by omega, ?_, raised⟩
              rw [inFront, List.count_append] at single
              rw [calls, List.count_cons_self]
              omega
        · obtain ⟨final, sum, all, raised⟩ := last later info after inBack
          refine ⟨final, by omega, ?_, raised⟩
          rw [calls, List.count_append, ← calls, ← calls, one, all, Nat.add_comm]

/-- `start_thread` is called again exactly after a call that raised, as long as attempts are
left, and the fault alert comes after the last of them, when it raised. -/
structure RecoveryLaw (m : Module) (outcome : Nat → Outcome) (events : List Event) : Prop where
  again : ∀ i, i + 1 < calls events ↔
    i < calls events ∧ outcome i ≠ .returned ∧ (i : Int) < m.recoveryCount
  alert : ∀ before info after, events = before ++ .sent info :: after →
    ∃ last, calls before = last + 1 ∧ (last : Int) = m.recoveryCount ∧ outcome last ≠ .returned

/-- A module that nothing was done with since SSPL came up. -/
def Shared.fresh (file memory : Option Kept) : Shared := ⟨file, memory, []⟩

theorem initCache_file (s : Shared) : (initCache s).file.isSome = true := by
  unfold initCache
  split
  · assumption
  · rfl

@[simp] theorem initCache_events (s : Shared) : (initCache s).events = s.events := by
  unfold initCache
  split <;> rfl

/-- All calls that the recovery count allows are made, whatever they end with. -/
theorem executeThread_ok (m : Module) (outcome : Nat → Outcome) (busy : Nat → Nat)
    (file memory : Option Kept) :
    ∃ t, executeThread m outcome busy (.fresh file memory) = .ok t ∧
      calls t.events = (m.recoveryCount + 1).toNat ∧
      ∀ before info after, t.events = before ++ .sent info :: after →
        ∃ last, calls before = last + 1 ∧ (last : Int) = m.recoveryCount ∧
          outcome last ≠ .returned := by
  obtain ⟨t, tail, result, events, count, alert⟩ :=
    @attempts_ok m outcome busy _ _ _ (Nat.zero_add _)
      (initCache_file (.fresh file memory))
  rw [initCache_events, Shared.fresh, List.nil_append] at events
  refine ⟨t, result, events ▸ count, ?_⟩
  intro before info after split
  obtain ⟨last, sum, all, raised⟩ := alert before info after (events ▸ split)
  exact ⟨last, by omega, by omega, raised⟩

/-- Whatever the calls of `start_thread` come to, `_execute_thread` ends, and it keeps to the
law exactly if no call before the last one returns: a call that returns is taken for one that
failed. -/
theorem recovery_law_iff (m : Module) (outcome : Nat → Outcome) (busy : Nat → Nat)
    (file memory : Option Kept) :
    (∃ t, executeThread m outcome busy (.fresh file memory) = .ok t ∧
        RecoveryLaw m outcome t.events) ↔
      ∀ i : Nat, (i : Int) < m.recoveryCount → outcome i ≠ .returned := by
  obtain ⟨t, result, count, alert⟩ := executeThread_ok m outcome busy file memory
  constructor
  · rintro ⟨t', result', law⟩ i more
    cases result.symm.trans result'
    exact ((law.again i).mp (by omega)).2.1
  · intro raised
    refine ⟨t, result, ?_, alert⟩
    intro i
    constructor
    · intro next
      exact ⟨by omega, raised i (by omega), by omega⟩
    · intro ⟨_, _, more⟩
      omega

/-- More fuel than attempts are left changes nothing. -/
theorem attempts_fuel {fuel attempt : Nat} (enough : m.recoveryCount < attempt + fuel)
    (extra : Nat) :
    attempts m outcome busy (fuel + extra) attempt s = attempts m outcome busy fuel attempt s := by
  induction fuel generalizing attempt s with
  | zero =>
      rw [Nat.zero_add]
      have finished : ¬(attempt : Int) ≤ m.recoveryCount := by omega
      cases extra with
      | zero => rfl
      | succ extra => simp only [attempts, if_neg finished]
  | succ fuel ih =>
      have next (s : Shared) := @ih s (attempt + 1) (by omega)
      simp only [Nat.succ_add, attempts, next]

end Recovery

namespace Example

/-- A sensor that is started once more when it fails. -/
def iemSensor : Module :=
  { name := "IEMSensor"
    isSensorThread := true
    impact := "CORTX Software Events(IEMs) can not be processed and highlighted."
    conf := ⟨some 1, some 10, none, none⟩
    confSection := .null }

/-- A sensor that was shut down on purpose is started again. -/
theorem started_after_shutdown :
    ¬ ∃ t, executeThread iemSensor (fun _ => .returned) (fun _ => 0) (.fresh none none) = .ok t ∧
      RecoveryLaw iemSensor (fun _ => .returned) t.events := by
  rintro ⟨t, result, law⟩
  obtain ⟨t', result', count, -⟩ :=
    executeThread_ok iemSensor (fun _ => .returned) (fun _ => 0) none none
  cases result.symm.trans result'
  have again := (law.again 0).mp (by rw [count]; decide)
  exact again.2.1 rfl

end Example

/-- Where `execute_thread` is. -/
inductive Executing
  | idle
  /-- The file was not there, and `{}` goes into the dictionary and then into the file. -/
  | missing
  | creating
  | attempts (made : Nat)
  deriving DecidableEq

/-- Where `_check_module_recovered` is. -/
inductive Checking
  | idle
  | missing
  | creating
  /-- The file is there. -/
  | found
  /-- Its contents are in the dictionary. -/
  | loaded
  deriving DecidableEq

/-- The file and the dictionary, with the points at which `_execute_thread` and
`_check_module_recovered` stand. -/
structure State where
  shared : Shared
  executing : Executing
  checking : Checking
  deriving DecidableEq

/-- The steps of the two methods, which run in threads of their own, and a restart of SSPL. -/
inductive Action
  /-- `execute_thread` is called. -/
  | execute
  | create
  | attempt (outcome : Outcome) (busy : Nat)
  | leave
  /-- `_check_module_recovered` has waited, and `is_running` answers. -/
  | check (isRunning : Bool)
  | advanceCheck
  /-- SSPL is restarted. -/
  | restart
  deriving DecidableEq

section

variable (m : Module)

/-- The next step of `_check_module_recovered`. -/
def checkModuleRecovered (s : State) : Option State :=
  match s.checking with
  | .idle => none
  | .missing => some { s with shared.memory := some ⟨none⟩, checking := .creating }
  | .creating =>
    match s.shared.memory with
    | none => some { s with checking := .idle }
    | some kept => some { s with shared.file := some kept, checking := .found }
  | .found => some { s with shared.memory := s.shared.file, checking := .loaded }
  | .loaded =>
    match s.shared.memory with
    | none => some { s with checking := .idle }
    | some kept =>
      if kept.prevState ≠ none ∧ kept.prevState ≠ some .faultResolved then
        some { s with shared := s.shared.alert (recovered m), checking := .idle }
      else some { s with checking := .idle }

/-- An attempt that is going to look at `prev_state`. -/
def isLast (made : Nat) (outcome : Outcome) : Prop :=
  outcome ≠ .returned ∧ m.recoveryCount < (made + 1 : Nat)

instance (made : Nat) (outcome : Outcome) : Decidable (isLast m made outcome) :=
  inferInstanceAs (Decidable (_ ∧ _))

/-- `_execute_thread` takes its steps between those of `_check_module_recovered`. Only the file
outlives a restart. -/
def next (s : State) : Action → Option State
  | .execute =>
    if s.executing = .idle then
      some { s with executing := if s.shared.file.isSome then .attempts 0 else .missing }
    else none
  | .create =>
    match s.executing with
    | .missing => some { s with shared.memory := some ⟨none⟩, executing := .creating }
    | .creating =>
      match s.shared.memory with
      | none => some { s with executing := .idle }
      | some kept => some { s with shared.file := some kept, executing := .attempts 0 }
    | _ => none
  | .attempt outcome busy =>
    match s.executing with
    | .attempts made =>
      -- the alert step does not overlap with the recovery check
      if m.recoveryCount < made ∨ isLast m made outcome ∧ s.checking ≠ .idle then none
      else
        match attemptStart m (made + 1 : Nat) outcome busy s.shared with
        | .ok shared => some { s with shared, executing := .attempts (made + 1) }
        | .error _ => some { s with executing := .idle }
    | _ => none
  | .leave =>
    match s.executing with
    | .attempts made => if m.recoveryCount < made then some { s with executing := .idle } else none
    | _ => none
  | .check isRunning =>
    if s.checking = .idle then
      some { s with checking :=
        if isRunning = false then .idle
        else if s.shared.file.isSome then .found else .missing }
    else none
  | .advanceCheck => checkModuleRecovered m s
  | .restart =>
    some { shared := { s.shared with memory := none }, executing := .idle, checking := .idle }

/-- A node on which the module was never started. -/
def start : State := ⟨.fresh none none, .idle, .idle⟩

/-- The threads of one module over all processes of the daemon, on a node on which it has never
been started. -/
def system : Transition.System State Action where
  init s := s = start
  next := next m

/-- The alerts of the module alternate, and the file has the last one, from which the next process
goes on. -/
structure AlertsAlternate (s : State) : Prop where
  alternate : Alternating .fault .faultResolved s.shared.alerts
  kept : s.shared.prevState = s.shared.alerts.getLast?

end

/-- What the alerts alternate by: where a file or an entry is going to be made, no alert was
sent, and the recovery check has the contents of the file in the dictionary. -/
structure Invariant (s : State) : Prop extends AlertsAlternate s where
  present : ∀ made, s.executing = .attempts made → s.shared.file.isSome = true
  executingNew : s.executing = .missing ∨ s.executing = .creating → s.shared.alerts = []
  executingCreating : s.executing = .creating → s.shared.memory = some ⟨none⟩
  checkingNew : s.checking = .missing ∨ s.checking = .creating → s.shared.alerts = []
  checkingCreating : s.checking = .creating → s.shared.memory = some ⟨none⟩
  found : s.checking = .found ∨ s.checking = .loaded → s.shared.file.isSome = true
  loaded : s.checking = .loaded → s.shared.memory = s.shared.file

theorem Invariant.start : Invariant start where
  alternate := trivial
  kept := rfl
  present _ h := nomatch h
  executingNew h := by obtain h | h := h <;> cases h
  executingCreating h := nomatch h
  checkingNew h := by obtain h | h := h <;> cases h
  checkingCreating h := nomatch h
  found h := by obtain h | h := h <;> cases h
  loaded h := nomatch h

namespace Invariant

variable {m : Module} {s t : State}

/-- As long as nothing was sent, the file of the module has nothing in it. -/
theorem file_of_unsent (h : Invariant s) (unsent : s.shared.alerts = [])
    (there : s.shared.file.isSome = true) : s.shared.file = some ⟨none⟩ := by
  obtain ⟨⟨prevState⟩, file⟩ := Option.isSome_iff_exists.mp there
  have kept := h.kept
  rw [unsent, Shared.prevState, file] at kept
  cases kept
  exact file

theorem unsent_of_missing (h : Invariant s) (missing : s.shared.file = none) :
    s.shared.alerts = [] := by
  have kept := h.kept
  rw [Shared.prevState, missing] at kept
  exact List.getLast?_eq_none_iff.mp kept.symm

theorem execute (h : Invariant s) (step : next m s .execute = some t) : Invariant t := by
  simp only [next] at step
  split at step
  · cases step
    cases there : s.shared.file with
    | none =>
        exact { h with
          present := fun _ stage => nomatch stage
          executingNew := fun _ => h.unsent_of_missing there
          executingCreating := fun stage => nomatch stage }
    | some kept =>
        exact { h with
          present := fun _ _ => by rw [there]; rfl
          executingNew := fun stage => by obtain stage | stage := stage <;> cases stage
          executingCreating := fun stage => nomatch stage }
  · cases step

theorem create (h : Invariant s) (step : next m s .create = some t) : Invariant t := by
  simp only [next] at step
  split at step
  · rename_i stage
    have unsent := h.executingNew (.inl stage)
    cases step
    exact { h with
      present := fun _ stage => nomatch stage
      executingNew := fun _ => unsent
      executingCreating := fun _ => rfl
      checkingCreating := fun _ => rfl
      loaded := fun loaded => (h.file_of_unsent unsent (h.found (.inr loaded))).symm }
  · rename_i stage
    have unsent := h.executingNew (.inr stage)
    have entry := h.executingCreating stage
    rw [entry] at step
    cases step
    exact
      { alternate := h.alternate
        kept := by
          show none = s.shared.alerts.getLast?
          rw [unsent]
          rfl
        present := fun _ _ => rfl
        executingNew := fun stage => by obtain stage | stage := stage <;> cases stage
        executingCreating := fun stage => nomatch stage
        checkingNew := h.checkingNew
        checkingCreating := fun _ => rfl
        found := fun _ => rfl
        loaded := fun _ => rfl }
  · cases step

theorem attempt {outcome : Outcome} {busy : Nat} (h : Invariant s)
    (step : next m s (.attempt outcome busy) = some t) : Invariant t := by
  simp only [next] at step
  split at step
  · rename_i made stage
    split at step
    · cases step
    · rename_i allowed
      have alone : isLast m made outcome → s.checking = .idle := by
        intro last
        exact not_not.mp fun busy => allowed (.inr ⟨last, busy⟩)
      obtain ⟨shared, result, attempted⟩ := @attemptStart_ok m (made + 1 : Nat) outcome busy _
        (h.present made stage)
      rw [result] at step
      cases step
      have there := attempted.file_isSome (h.present made stage)
      obtain ⟨alerts, file, memory⟩ | ⟨alerts, file, new, last⟩ := attempted.alerts_eq
      · exact
          { alternate := by
              rw [alerts]
              exact h.alternate
            kept := by
              rw [alerts, Shared.prevState, file]
              exact h.kept
            present := fun _ _ => there
            executingNew := fun stage => by obtain stage | stage := stage <;> cases stage
            executingCreating := fun stage => nomatch stage
            checkingNew := fun checking => alerts.trans (h.checkingNew checking)
            checkingCreating := fun checking => by
              obtain memory | last := memory
              · exact memory.trans (h.checkingCreating checking)
              · cases checking.symm.trans (alone last)
            found := fun _ => there
            loaded := fun checking => by
              obtain memory | last := memory
              · exact memory.trans ((h.loaded checking).trans file.symm)
              · cases checking.symm.trans (alone last) }
      · have due := h.alternate.due_first (h.kept ▸ new)
        exact
          { alternate := by
              rw [alerts]
              exact (h.alternate.append_first (by decide) due).1
            kept := by
              rw [alerts, Shared.prevState, file, List.getLast?_concat]
              rfl
            present := fun _ _ => there
            executingNew := fun stage => by obtain stage | stage := stage <;> cases stage
            executingCreating := fun stage => nomatch stage
            checkingNew := fun checking => by
              obtain checking | checking := checking <;> cases checking.symm.trans (alone last)
            checkingCreating := fun checking => nomatch checking.symm.trans (alone last)
            found := fun _ => there
            loaded := fun checking => nomatch checking.symm.trans (alone last) }
  · cases step

theorem leave (h : Invariant s) (step : next m s .leave = some t) : Invariant t := by
  simp only [next] at step
  split at step
  · split at step
    · cases step
      exact { h with
        present := fun _ stage => nomatch stage
        executingNew := fun stage => by obtain stage | stage := stage <;> cases stage
        executingCreating := fun stage => nomatch stage }
    · cases step
  · cases step

/-- A recovery check that is not in the middle of anything. -/
theorem unchecked (h : Invariant s) : Invariant { s with checking := .idle } :=
  { h with
    checkingNew := fun checking => by obtain checking | checking := checking <;> cases checking
    checkingCreating := fun checking => nomatch checking
    found := fun checking => by obtain checking | checking := checking <;> cases checking
    loaded := fun checking => nomatch checking }

theorem check {isRunning : Bool} (h : Invariant s)
    (step : next m s (.check isRunning) = some t) : Invariant t := by
  simp only [next] at step
  split at step
  · cases step
    cases isRunning with
    | false => exact h.unchecked
    | true =>
        cases there : s.shared.file with
        | none =>
            exact { h with
              checkingNew := fun _ => h.unsent_of_missing there
              checkingCreating := fun checking => nomatch checking
              found := fun checking => by obtain checking | checking := checking <;> cases checking
              loaded := fun checking => nomatch checking }
        | some kept =>
            exact { h with
              checkingNew := fun checking => by
                obtain checking | checking := checking <;> cases checking
              checkingCreating := fun checking => nomatch checking
              found := fun _ => by rw [there]; rfl
              loaded := fun checking => nomatch checking }
  · cases step

/-- `{}` is put in the file that was not there. -/
theorem checkCreates (h : Invariant s) (checking : s.checking = .creating) :
    Invariant ⟨⟨some ⟨none⟩, some ⟨none⟩, s.shared.events⟩, s.executing, .found⟩ :=
  have unsent := h.checkingNew (.inr checking)
  { alternate := h.alternate
    kept := by
      show none = s.shared.alerts.getLast?
      rw [unsent]
      rfl
    present := fun _ _ => rfl
    executingNew := fun _ => unsent
    executingCreating := fun _ => rfl
    checkingNew := fun _ => unsent
    checkingCreating := fun checking => nomatch checking
    found := fun _ => rfl
    loaded := fun checking => nomatch checking }

/-- A fault that was sent is resolved. -/
theorem resolve (h : Invariant s) (fault : s.shared.prevState = some .fault) :
    Invariant { s with shared := s.shared.alert (recovered m), checking := .idle } :=
  have last : s.shared.alerts.getLast? = some .fault := h.kept.symm.trans fault
  have sent : s.shared.alerts ≠ [] := fun unsent => by
    rw [unsent] at last
    cases last
  have alerts : (s.shared.alert (recovered m)).alerts = s.shared.alerts ++ [.faultResolved] := by
    rw [Shared.alerts, Shared.alert, alertsOf_append]
    rfl
  { alternate := by
      rw [alerts]
      have due := h.alternate.due_second (by decide) last
      exact (h.alternate.append_second (by decide) due).1
    kept := by
      rw [alerts, List.getLast?_concat]
      rfl
    present := fun _ _ => rfl
    executingNew := fun stage => absurd (h.executingNew stage) sent
    executingCreating := fun stage => absurd (h.executingNew (.inr stage)) sent
    checkingNew := fun checking => by obtain checking | checking := checking <;> cases checking
    checkingCreating := fun checking => nomatch checking
    found := fun _ => rfl
    loaded := fun checking => nomatch checking }

theorem advanceCheck (h : Invariant s) (step : next m s .advanceCheck = some t) :
    Invariant t := by
  simp only [next, checkModuleRecovered] at step
  split at step
  · cases step
  · rename_i checking
    have unsent := h.checkingNew (.inl checking)
    cases step
    exact { h with
      executingCreating := fun _ => rfl
      checkingNew := fun _ => unsent
      checkingCreating := fun _ => rfl
      found := fun checking => by obtain checking | checking := checking <;> cases checking
      loaded := fun checking => nomatch checking }
  · rename_i checking
    rw [h.checkingCreating checking] at step
    cases step
    exact h.checkCreates checking
  · rename_i checking
    have there := h.found (.inl checking)
    cases step
    exact { h with
      executingCreating := fun stage => h.file_of_unsent (h.executingNew (.inr stage)) there
      checkingNew := fun checking => by obtain checking | checking := checking <;> cases checking
      checkingCreating := fun checking => nomatch checking
      found := fun _ => there
      loaded := fun _ => rfl }
  · rename_i checking
    split at step
    · cases step
      exact h.unchecked
    · rename_i kept memory
      have file := (h.loaded checking).symm.trans memory
      split at step
      · rename_i fault
        cases step
        apply h.resolve
        rw [Shared.prevState, file]
        obtain ⟨_ | _ | _⟩ := kept
        · exact absurd rfl fault.1
        · rfl
        · exact absurd rfl fault.2
      · cases step
        exact h.unchecked

theorem restart (h : Invariant s) (step : next m s .restart = some t) : Invariant t := by
  cases step
  exact { h with
    present := fun _ stage => nomatch stage
    executingNew := fun stage => by obtain stage | stage := stage <;> cases stage
    executingCreating := fun stage => nomatch stage
    checkingNew := fun checking => by obtain checking | checking := checking <;> cases checking
    checkingCreating := fun checking => nomatch checking
    found := fun checking => by obtain checking | checking := checking <;> cases checking
    loaded := fun checking => nomatch checking }

theorem step {a : Action} (h : Invariant s) (step : next m s a = some t) : Invariant t := by
  cases a with
  | execute => exact h.execute step
  | create => exact h.create step
  | attempt outcome busy => exact h.attempt step
  | leave => exact h.leave step
  | check isRunning => exact h.check step
  | advanceCheck => exact h.advanceCheck step
  | restart => exact h.restart step

end Invariant

section Refinement

variable {m : Module} {outcome : Nat → Outcome} {busy : Nat → Nat} {s t : Shared}

theorem attempts_runs {fuel attempt : Nat} (left : attempt + fuel = (m.recoveryCount + 1).toNat)
    (result : attempts m outcome busy fuel attempt s = .ok t) :
    ∃ actions, (system m).FreeRuns ⟨s, .attempts attempt, .idle⟩ actions
      ⟨t, .attempts (attempt + fuel), .idle⟩ := by
  induction fuel generalizing attempt s with
  | zero =>
      cases result
      exact ⟨[], .nil _⟩
  | succ fuel ih =>
      have more : (attempt : Int) ≤ m.recoveryCount := by omega
      rw [attempts, if_pos more] at result
      obtain ⟨mid, first, rest⟩ := bind_eq_ok.mp result
      obtain ⟨actions, run⟩ := ih (by omega) rest
      refine ⟨.attempt (outcome attempt) (busy attempt) :: actions,
        .cons (t := ⟨mid, .attempts (attempt + 1), .idle⟩) trivial ?_ ?_⟩
      · have allowed : ¬(m.recoveryCount < attempt ∨
            isLast m attempt (outcome attempt) ∧ Checking.idle ≠ .idle) := by
          rintro (less | ⟨-, busy⟩)
          · omega
          · exact busy rfl
        simp only [system, next, if_neg allowed, first]
      · rw [Nat.add_right_comm] at run
        exact run

/-- `execute_thread`, when nothing comes between, is a run of the system. -/
theorem executeThread_runs (result : executeThread m outcome busy s = .ok t) :
    ∃ actions, (system m).FreeRuns ⟨s, .idle, .idle⟩ actions ⟨t, .idle, .idle⟩ := by
  obtain ⟨actions, run⟩ := attempts_runs (Nat.zero_add _) result
  rw [Nat.zero_add] at run
  have created : ∃ first, (system m).FreeRuns ⟨s, .idle, .idle⟩ first
      ⟨initCache s, .attempts 0, .idle⟩ := by
    cases there : s.file with
    | some kept =>
        refine ⟨[.execute], .single trivial ?_⟩
        simp [system, next, initCache, there]
    | none =>
        refine ⟨[.execute, .create, .create], (system m).run_eq_some_iff.mp ?_⟩
        simp [Transition.System.run, system, next, initCache, there]
  obtain ⟨first, begun⟩ := created
  refine ⟨first ++ (actions ++ [.leave]), begun.append (run.append (.single trivial ?_))⟩
  have finished : m.recoveryCount < ((m.recoveryCount + 1).toNat : Int) := by omega
  simp only [system, next, if_pos finished]

end Refinement

/-- In every run of the thread of a module, restarts of the daemon included, fault and resolved
alerts alternate, and the file keeps the last one. -/
theorem module_alerts_alternate (m : Module) {actions : List Action} {t : State}
    (h : (system m).FreeRuns start actions t) : AlertsAlternate t :=
  (h.invariant (fun _ _ _ inv _ step => inv.step step) Invariant.start).toAlertsAlternate

namespace Example

/-- The module fails for good, is found running after a restart, and fails again. -/
def history : List Action :=
  [.execute, .create, .create, .attempt (.raised "no log") 0, .attempt (.raised "no log") 2,
    .restart, .execute, .check true, .attempt (.raised "no log") 0, .advanceCheck, .advanceCheck,
    .restart, .execute, .attempt .returned 0, .attempt (.raised "no log") 5, .leave]

def after : State :=
  { shared := {
      file := some ⟨some .fault⟩
      memory := some ⟨some .fault⟩
      events :=
        [.startThread, .sleep 10, .shutdown,
          .startThread, .sent (unrecoverable iemSensor "no log"), .shutdown, .shutdown, .sleep 2,
          .shutdown, .sleep 2,
          .startThread, .sleep 10, .shutdown, .sent (recovered iemSensor),
          .startThread, .startThread, .sent (unrecoverable iemSensor "no log"), .shutdown,
          .shutdown, .sleep 2, .shutdown, .sleep 2, .shutdown, .sleep 2, .shutdown, .sleep 2,
          .shutdown] }
    executing := .idle
    checking := .idle }

theorem history_runs : (system iemSensor).FreeRuns start history after :=
  (system iemSensor).run_eq_some_iff.mp (by decide +kernel)

/-- Fault, resolved, fault. -/
theorem alerts_alternate_over_restarts :
    (system iemSensor).FreeRuns start history after ∧ AlertsAlternate after ∧
      after.shared.alerts = [.fault, .faultResolved, .fault] :=
  ⟨history_runs, module_alerts_alternate iemSensor history_runs, by decide +kernel⟩

end Example

end Controller

end Sspl

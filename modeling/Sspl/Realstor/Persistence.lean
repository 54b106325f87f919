import Mathlib.Data.Finset.Insert
import Sspl.Foundation.System
import Sspl.Realstor.Fru

/-!
# Waiting for the acknowledgement of a FRU alert

After a turn of its loop has changed the map, a FRU sensor waits for an event. When the
event is set it writes the map to the store, and when the wait times out it takes the
map back from the store. The event comes with each message on its way to the egress
processor, which sets it once the message is published or stored.

All messages of a sensor carry the same event. It is cleared before a message is sent,
but a message that was sent before may still be on its way then.

The messages of a sensor are numbered in the order they are sent. The egress processor
may take any time for a message, and any time between the end of its sending
(`delivered`) and the call of `set` (`acknowledged`).
-/

namespace Sspl

namespace Realstor

namespace Persistence

variable {ν R E L : Type}

structure Message (ν : Type) where
  durableId : ν
  alertType : FruAlert
  deriving DecidableEq

/-- Where the sensor stands in its loop over a poll. -/
inductive Stage (ν R E L : Type)
  | idle
  | scanning (locals : L) (rest : List R)
  /-- The turn for this FRU has these alerts still to send. -/
  | sending (fru : R) (locals : L) (turn : Inspection ν E L) (todo : List FruAlert)
      (rest : List R)
  /-- The event is cleared, and the message of this alert is going to be put. -/
  | cleared (fru : R) (locals : L) (turn : Inspection ν E L) (alert : FruAlert)
      (todo : List FruAlert) (rest : List R)
  | waiting (fru : R) (locals : L) (turn : Inspection ν E L) (rest : List R)

/-- The map of faulty FRUs in memory and in the store, the shared event and the point of the loop,
with the messages and what became of them. -/
structure State (ν R E L : Type) where
  memory : Memory ν E
  persisted : Memory ν E
  event : Bool
  stage : Stage ν R E L
  /-- The messages sent so far. -/
  messages : List (Message ν)
  /-- The numbers of the messages that are published or stored. -/
  delivered : Finset Nat
  /-- The numbers of the messages whose event was set. -/
  acknowledged : Finset Nat

/-- The steps of the loop over the FRUs of a poll, and those of the egress processor, which
publishes messages and sets their events at any time. -/
inductive Action (R : Type)
  | poll (frus : List R)
  | inspect
  | clear
  | put
  | wake
  | timeOut
  | deliver (number : Nat)
  | acknowledge (number : Nat)
  deriving DecidableEq

variable [DecidableEq ν] (S : FruSensor ν R E L)

/-- The sensor puts a message for each alert of a turn and waits for the last. One event is shared
by all messages: whichever of them is acknowledged sets it. -/
def next (s : State ν R E L) : Action R → Option (State ν R E L)
  | .poll frus =>
    match s.stage with
    | .idle => some { s with stage := .scanning S.start frus }
    | _ => none
  | .inspect =>
    match s.stage with
    | .scanning _ [] => some { s with stage := .idle }
    | .scanning locals (fru :: rest) =>
      match S.inspect fru locals s.memory with
      | .ok turn =>
        if turn.stateChanged then
          some { s with
            memory := turn.memory, stage := .sending fru locals turn turn.sends rest }
        else some { s with stage := .scanning turn.locals rest }
      | .error _ => some { s with stage := if S.resumes then .scanning locals rest else .idle }
    | _ => none
  | .clear =>
    match s.stage with
    | .sending fru locals turn (alert :: todo) rest =>
      some { s with event := false, stage := .cleared fru locals turn alert todo rest }
    | _ => none
  | .put =>
    match s.stage with
    | .cleared fru locals turn alert todo rest =>
      some { s with
        messages := s.messages ++ [⟨S.durableId fru, alert⟩]
        stage :=
          if todo = [] then .waiting fru locals turn rest
          else .sending fru locals turn todo rest }
    | _ => none
  | .wake =>
    match s.stage with
    | .waiting _ _ turn rest =>
      if s.event then
        some { s with persisted := s.memory, stage := .scanning turn.locals rest }
      else none
    | _ => none
  | .timeOut =>
    match s.stage with
    | .waiting _ _ turn rest =>
      if s.event then none
      else some { s with memory := s.persisted, stage := .scanning turn.locals rest }
    | _ => none
  | .deliver number =>
    if number < s.messages.length then
      some { s with delivered := insert number s.delivered }
    else none
  | .acknowledge number =>
    if number ∈ s.delivered ∧ number ∉ s.acknowledged then
      some { s with acknowledged := insert number s.acknowledged, event := true }
    else none

/-- `initialize` has loaded the map from the store. -/
def start (stored : Memory ν E) : State ν R E L :=
  ⟨stored, stored, false, .idle, [], ∅, ∅⟩

/-- One of the FRU sensors and the egress processor, from any map in the store. -/
def system : Transition.System (State ν R E L) (Action R) where
  init s := ∃ stored, s = start stored
  next := next S

/-- The store changes only while the sensor waits for the message of the last alert of a
change, when that message is published or stored, and only by that change. -/
def Acknowledged (s t : State ν R E L) : Prop :=
  t.persisted ≠ s.persisted → ∃ fru locals turn rest alert,
    s.stage = .waiting fru locals turn rest ∧
      S.inspect fru locals s.persisted = .ok turn ∧ turn.sends.getLast? = some alert ∧
      s.messages.getLast? = some ⟨S.durableId fru, alert⟩ ∧
      s.messages.length - 1 ∈ s.delivered ∧ t.persisted = turn.memory ∧
      ∀ g, g ≠ S.durableId fru → t.persisted.lookup g = s.persisted.lookup g

/-- After a time-out the map is the stored one again, against which the same reading is a
change in the next poll. -/
def Redetected (s : State ν R E L) (a : Action R) (t : State ν R E L) : Prop :=
  a = .timeOut → t.memory = t.persisted ∧ ∃ fru locals turn rest again,
    s.stage = .waiting fru locals turn rest ∧
      S.inspect fru S.start t.memory = .ok again ∧ again.stateChanged = true

/-- From the moment the event is cleared for a message until this message is published or
stored, or the wait for it is over, no other message is acknowledged. -/
def Timely (s : State ν R E L) : Action R → Prop
  | .acknowledge number =>
    match s.stage with
    | .cleared .. => False
    | .waiting .. => number + 1 = s.messages.length ∨ s.messages.length - 1 ∈ s.delivered
    | _ => True
  | _ => True

/-- In every run of the sensor whose steps meet the condition, the store changes only by
acknowledged changes, and a change that was not acknowledged in time is one again. -/
def Persists : Prop :=
  ∀ stored actions s a t, (system S).Runs Timely (start stored) actions s → Timely s a →
    next S s a = some t → Acknowledged S s t ∧ Redetected S s a t

/-- A reading that is a change is one at the beginning of a poll too. -/
def Repeats : Prop :=
  ∀ fru locals memory turn, S.inspect fru locals memory = .ok turn → turn.stateChanged = true →
    ∃ again, S.inspect fru S.start memory = .ok again ∧ again.stateChanged = true

section Runs

variable {S} {s t : State ν R E L} {a : Action R}

/-- The ways a step can be taken. -/
inductive Step (S : FruSensor ν R E L) (s : State ν R E L) : Action R → State ν R E L → Prop
  | poll (frus : List R) (stage : s.stage = .idle) :
      Step S s (.poll frus) { s with stage := .scanning S.start frus }
  | finish (locals : L) (stage : s.stage = .scanning locals []) :
      Step S s .inspect { s with stage := .idle }
  | raised (fru : R) (locals : L) (rest : List R) (err : PyErr)
      (stage : s.stage = .scanning locals (fru :: rest))
      (inspected : S.inspect fru locals s.memory = .error err) :
      Step S s .inspect
        { s with stage := if S.resumes then .scanning locals rest else .idle }
  | quiet (fru : R) (locals : L) (rest : List R) (turn : Inspection ν E L)
      (stage : s.stage = .scanning locals (fru :: rest))
      (inspected : S.inspect fru locals s.memory = .ok turn)
      (same : turn.stateChanged = false) :
      Step S s .inspect { s with stage := .scanning turn.locals rest }
  | changed (fru : R) (locals : L) (rest : List R) (turn : Inspection ν E L)
      (stage : s.stage = .scanning locals (fru :: rest))
      (inspected : S.inspect fru locals s.memory = .ok turn)
      (changed : turn.stateChanged = true) :
      Step S s .inspect
        { s with memory := turn.memory, stage := .sending fru locals turn turn.sends rest }
  | clear (fru : R) (locals : L) (turn : Inspection ν E L) (alert : FruAlert)
      (todo : List FruAlert) (rest : List R)
      (stage : s.stage = .sending fru locals turn (alert :: todo) rest) :
      Step S s .clear
        { s with event := false, stage := .cleared fru locals turn alert todo rest }
  | put (fru : R) (locals : L) (turn : Inspection ν E L) (alert : FruAlert)
      (todo : List FruAlert) (rest : List R)
      (stage : s.stage = .cleared fru locals turn alert todo rest) :
      Step S s .put
        { s with
          messages := s.messages ++ [⟨S.durableId fru, alert⟩]
          stage :=
            if todo = [] then .waiting fru locals turn rest
            else .sending fru locals turn todo rest }
  | wake (fru : R) (locals : L) (turn : Inspection ν E L) (rest : List R)
      (stage : s.stage = .waiting fru locals turn rest) (set : s.event = true) :
      Step S s .wake { s with persisted := s.memory, stage := .scanning turn.locals rest }
  | timeOut (fru : R) (locals : L) (turn : Inspection ν E L) (rest : List R)
      (stage : s.stage = .waiting fru locals turn rest) :
      Step S s .timeOut { s with memory := s.persisted, stage := .scanning turn.locals rest }
  | deliver (number : Nat) :
      Step S s (.deliver number) { s with delivered := insert number s.delivered }
  | acknowledge (number : Nat) (delivered : number ∈ s.delivered) :
      Step S s (.acknowledge number)
        { s with acknowledged := insert number s.acknowledged, event := true }

theorem next_cases (step : next S s a = some t) : Step S s a t := by
  unfold next at step
  split at step
  · split at step
    · cases step
      exact .poll _ ‹_›
    · cases step
  · split at step
    · cases step
      exact .finish _ ‹_›
    · split at step
      · split at step
        · cases step
          exact .changed _ _ _ _ ‹_› ‹_› ‹_›
        · cases step
          exact .quiet _ _ _ _ ‹_› ‹_› (Bool.eq_false_iff.mpr ‹_›)
      · cases step
        exact .raised _ _ _ _ ‹_› ‹_›
    · cases step
  · split at step
    · cases step
      exact .clear _ _ _ _ _ _ ‹_›
    · cases step
  · split at step
    · cases step
      exact .put _ _ _ _ _ _ ‹_›
    · cases step
  · split at step
    · split at step
      · cases step
        exact .wake _ _ _ _ ‹_› ‹_›
      · cases step
    · cases step
  · split at step
    · split at step
      · cases step
      · cases step
        exact .timeOut _ _ _ _ ‹_›
    · cases step
  · split at step
    · cases step
      exact .deliver _
    · cases step
  · split at step
    · cases step
      exact .acknowledge _ (And.left ‹_›)
    · cases step

/-- What is known of the map at each stage. -/
def Consistent (S : FruSensor ν R E L) (s : State ν R E L) : Prop :=
  match s.stage with
  | .idle => s.memory = s.persisted
  | .scanning _ _ => s.memory = s.persisted
  | .sending fru locals turn todo _ =>
    S.inspect fru locals s.persisted = .ok turn ∧ turn.stateChanged = true ∧
      s.memory = turn.memory ∧ ∃ sent, turn.sends = sent ++ todo
  | .cleared fru locals turn alert todo _ =>
    S.inspect fru locals s.persisted = .ok turn ∧ turn.stateChanged = true ∧
      s.memory = turn.memory ∧ ∃ sent, turn.sends = sent ++ alert :: todo
  | .waiting fru locals turn _ =>
    S.inspect fru locals s.persisted = .ok turn ∧ turn.stateChanged = true ∧
      s.memory = turn.memory ∧ ∃ alert, turn.sends.getLast? = some alert ∧
        s.messages.getLast? = some ⟨S.durableId fru, alert⟩

/-- What the event says of the last message. -/
def Honest (s : State ν R E L) : Prop :=
  match s.stage with
  | .cleared .. => s.event = false
  | .waiting .. => s.event = true → s.messages.length - 1 ∈ s.delivered
  | _ => True

theorem start_consistent (stored : Memory ν E) : Consistent S (start stored) := rfl

theorem Consistent.step (h : Consistent S s) (step : next S s a = some t) : Consistent S t := by
  unfold Consistent at h
  cases next_cases step with
  | poll frus stage => simpa [Consistent, stage] using h
  | finish locals stage => simpa [Consistent, stage] using h
  | raised fru locals rest err stage inspected =>
      simp only [stage] at h
      cases resumes : S.resumes <;> simpa [Consistent] using h
  | quiet fru locals rest turn stage inspected same => simpa [Consistent, stage] using h
  | changed fru locals rest turn stage inspected changed =>
      simp only [stage] at h
      exact ⟨h ▸ inspected, changed, rfl, [], rfl⟩
  | clear fru locals turn alert todo rest stage =>
      simp only [stage] at h
      exact h
  | put fru locals turn alert todo rest stage =>
      simp only [stage] at h
      obtain ⟨inspected, changed, memory, sent, sends⟩ := h
      by_cases last : todo = []
      · subst last
        exact ⟨inspected, changed, memory, alert, by simp [sends], by simp⟩
      · simp only [Consistent, if_neg last]
        exact ⟨inspected, changed, memory, sent ++ [alert], by simp [sends]⟩
  | wake fru locals turn rest stage set => rfl
  | timeOut fru locals turn rest stage => rfl
  | deliver number => exact h
  | acknowledge number delivered => exact h

theorem Honest.step (h : Honest s) (timely : Timely s a) (step : next S s a = some t) :
    Honest t := by
  unfold Honest at h
  cases next_cases step with
  | poll frus stage => trivial
  | finish locals stage => trivial
  | raised fru locals rest err stage inspected =>
      cases resumes : S.resumes <;> simp [Honest]
  | quiet fru locals rest turn stage inspected same => trivial
  | changed fru locals rest turn stage inspected changed => trivial
  | clear fru locals turn alert todo rest stage => rfl
  | put fru locals turn alert todo rest stage =>
      simp only [stage] at h
      by_cases last : todo = []
      · simp [Honest, last, h]
      · simp [Honest, last]
  | wake fru locals turn rest stage set => trivial
  | timeOut fru locals turn rest stage => trivial
  | deliver number =>
      cases stage : s.stage with
      | cleared => simpa [Honest, stage] using h
      | waiting =>
          simp only [stage] at h
          simp only [Honest]
          exact fun set => Finset.mem_insert_of_mem (h set)
      | _ => simp [Honest]
  | acknowledge number delivered =>
      cases stage : s.stage with
      | cleared => simp [Timely, stage] at timely
      | waiting =>
          simp only [Timely, stage] at timely
          simp only [Honest]
          intro _
          obtain own | last := timely
          · rwa [← own, Nat.add_sub_cancel]
          · exact last
      | _ => simp [Honest]

theorem acknowledged_of_honest (consistent : Consistent S s) (honest : Honest s)
    (step : next S s a = some t) : Acknowledged S s t := by
  intro changed
  cases next_cases step with
  | wake fru locals turn rest stage set =>
      simp only [Consistent, stage] at consistent
      simp only [Honest, stage] at honest
      obtain ⟨inspected, -, memory, alert, last, sent⟩ := consistent
      refine ⟨fru, locals, turn, rest, alert, stage, inspected, last, sent, honest set, memory, ?_⟩
      intro g other
      rw [memory]
      exact S.frame inspected g other
  | _ => exact absurd rfl changed

theorem redetected_of_repeats (repeats : Repeats S) (consistent : Consistent S s)
    (step : next S s a = some t) : Redetected S s a t := by
  rintro rfl
  cases next_cases step with
  | timeOut fru locals turn rest stage =>
      simp only [Consistent, stage] at consistent
      obtain ⟨inspected, changed, -⟩ := consistent
      obtain ⟨again, first⟩ := repeats _ _ _ _ inspected changed
      exact ⟨rfl, fru, locals, turn, rest, again, stage, first⟩

theorem persists_of_repeats (repeats : Repeats S) : Persists S := by
  intro stored actions s a t run timely step
  have known : Consistent S s ∧ Honest s := by
    apply run.invariant (I := fun s => Consistent S s ∧ Honest s) _
      ⟨start_consistent stored, trivial⟩
    rintro u b v ⟨consistent, honest⟩ timely step
    exact ⟨consistent.step step, honest.step timely step⟩
  exact ⟨acknowledged_of_honest known.1 known.2 step, redetected_of_repeats repeats known.1 step⟩

end Runs

/-- A change of each sensor is one at the beginning of a poll. -/
theorem psu_repeats : Repeats (psuSensor : FruSensor ν _ _ _) :=
  fun _ _ _ turn inspected changed => ⟨turn, inspected, changed⟩

theorem fan_repeats : Repeats (fanSensor : FruSensor ν _ _ _) :=
  fun _ _ _ turn inspected changed => ⟨turn, inspected, changed⟩

theorem prevAlertType_ok {id : ν} {previous found : Option FruAlert} {memory : Memory ν FruEntry}
    (run : Controller.prevAlertType id previous memory = .ok found) (other : Option FruAlert) :
    ∃ again, Controller.prevAlertType id other memory = .ok again := by
  unfold Controller.prevAlertType at run ⊢
  split
  · exact ⟨_, rfl⟩
  · rename_i entries
    rw [if_neg entries] at run
    split at run
    · exact ⟨_, rfl⟩
    · cases run

theorem controller_repeats : Repeats (controllerSensor : FruSensor ν _ _ _) := by
  intro controller previous memory turn inspected changed
  simp only [controllerSensor, Controller.inspect] at inspected ⊢
  split at inspected
  · split at inspected
    · rename_i new
      simp only [if_pos new]
      exact ⟨_, rfl, rfl⟩
    · cases inspected
      cases changed
  · split at inspected
    · rename_i new
      obtain ⟨found, looked, -⟩ := bind_eq_ok.mp inspected
      obtain ⟨again, first⟩ := prevAlertType_ok looked none
      simp only [if_pos new]
      exact ⟨_, bind_eq_ok.mpr ⟨again, first, rfl⟩, rfl⟩
    · cases inspected
      cases changed
  · cases inspected
    refine ⟨_, rfl, ?_⟩
    unfold inspectHealthy at changed ⊢
    split at changed
    · simp
    · cases changed
  · cases inspected
    cases changed

theorem sideplane_repeats : Repeats (sideplaneSensor : FruSensor ν _ _ _) := by
  intro expander local_ memory turn inspected changed
  obtain ⟨found, looked, rest⟩ := bind_eq_ok.mp inspected
  cases rest
  have again : ∃ first, Sideplane.recommendation none expander.unhealthyComponents = .ok first ∧
      (first = found ∨ first = none) := by
    cases components : expander.unhealthyComponents with
    | nil => exact ⟨none, rfl, .inr rfl⟩
    | cons component _ =>
        rw [components] at looked
        cases component with
        | some text => exact ⟨found, looked, .inl rfl⟩
        | none => cases looked
  obtain ⟨first, relooked, same⟩ := again
  refine ⟨_, bind_eq_ok.mpr ⟨first, relooked, rfl⟩, ?_⟩
  obtain rfl | rfl := same
  · exact changed
  · unfold Sideplane.compare at changed ⊢
    split at changed
    · simp
    · simp
    · cases changed

/-- A change of a faulty FRU is written to the store only after its message was published or
stored, provided that no message is acknowledged during the wait for a later one. -/
theorem faulty_map_acknowledged :
    Persists (psuSensor : FruSensor ν _ _ _) ∧ Persists (controllerSensor : FruSensor ν _ _ _) ∧
      Persists (fanSensor : FruSensor ν _ _ _) ∧ Persists (sideplaneSensor : FruSensor ν _ _ _) :=
  ⟨persists_of_repeats psu_repeats, persists_of_repeats controller_repeats,
    persists_of_repeats fan_repeats, persists_of_repeats sideplane_repeats⟩

namespace Example

instance (s : State Nat (PsuReading Nat) FruEntry Unit) : ∀ a, Decidable (Timely s a)
  | .acknowledge number => by
    delta Timely
    dsimp only
    generalize s.stage = stage
    cases stage <;> infer_instance
  | .poll _ | .inspect | .clear | .put | .wake | .timeOut | .deliver _ => .isTrue trivial

/-- Two power supplies are faulty in one poll, and the message of the first is sent. -/
def sent : List (Action (PsuReading Nat)) :=
  [.poll [⟨1, .fault, false⟩, ⟨2, .fault, false⟩], .inspect, .clear, .put]

/-- The wait for it times out. Its event is set during the wait for the second message, which is
published by then. -/
def timedOut : List (Action (PsuReading Nat)) :=
  sent ++ [.timeOut, .inspect, .clear, .put, .deliver 0, .deliver 1, .acknowledge 0]

theorem timedOut_replay : ((system psuSensor).replay Timely (start (∅ : Memory Nat FruEntry))
    timedOut).bind (fun s => (next psuSensor s .wake).map fun t =>
      (t.persisted.lookup 1, t.persisted.lookup 2)) = some (none, some ⟨.fault, .fault⟩) := by
  decide

/-- The second change is written to the store, and the first is a change again. -/
theorem faulty_map_acknowledged_timedOut :
    ∃ r s t : State Nat (PsuReading Nat) FruEntry Unit,
      (system psuSensor).run (start ∅) sent = some r ∧
        (∀ u, next psuSensor r .timeOut = some u → Redetected psuSensor r .timeOut u) ∧
      (system psuSensor).Runs Timely (start ∅) timedOut s ∧ next psuSensor s .wake = some t ∧
        t.persisted.lookup 1 = none ∧ t.persisted.lookup 2 = some ⟨.fault, .fault⟩ ∧
          Acknowledged psuSensor s t := by
  obtain ⟨s, replay, woken⟩ := Option.bind_eq_some_iff.mp timedOut_replay
  obtain ⟨t, step, recorded⟩ := Option.map_eq_some_iff.mp woken
  obtain ⟨first, second⟩ := Prod.mk.inj recorded
  have timely := (Transition.System.replay_eq_some_iff _).mp replay
  have waits : (system psuSensor).Runs Timely (start (∅ : Memory Nat FruEntry)) sent _ :=
    (Transition.System.replay_eq_some_iff _).mp (by rfl)
  exact ⟨_, s, t, rfl, fun u step =>
    (faulty_map_acknowledged.1 ∅ sent _ .timeOut u waits trivial step).2, timely, step, first,
    second, (faulty_map_acknowledged.1 ∅ timedOut s .wake t timely trivial step).1⟩

/-- Two power supplies are faulty in one poll. The wait for the first message times out, and
its event is set during the wait for the second. -/
def late : List (Action (PsuReading Nat)) :=
  [.poll [⟨1, .fault, false⟩, ⟨2, .fault, false⟩], .inspect, .clear, .put, .timeOut, .inspect,
    .clear, .put, .deliver 0, .acknowledge 0]

theorem late_wakes :
    ((system psuSensor).run (start (∅ : Memory Nat FruEntry)) late).bind
      (fun s => (next psuSensor s .wake).map fun t =>
        (s.persisted.lookup 2, t.persisted.lookup 2, s.messages.length, s.delivered)) =
      some (none, some ⟨.fault, .fault⟩, 2, {0}) := by
  decide

/-- A change is written to the store whose message is still on its way. -/
theorem faulty_map_unacknowledged :
    ¬ ∀ actions (s t : State Nat (PsuReading Nat) FruEntry Unit) a,
      (system psuSensor).FreeRuns (start ∅) actions s → next psuSensor s a = some t →
        Acknowledged psuSensor s t := by
  intro always
  obtain ⟨s, replay, woken⟩ := Option.bind_eq_some_iff.mp late_wakes
  obtain ⟨t, step, facts⟩ := Option.map_eq_some_iff.mp woken
  simp only [Prod.mk.injEq] at facts
  obtain ⟨before, after, sent, delivered⟩ := facts
  have changed : t.persisted ≠ s.persisted := by
    intro same
    rw [same, before] at after
    cases after
  obtain ⟨_, _, _, _, _, _, _, _, _, mem, -⟩ :=
    always late s t .wake ((Transition.System.run_eq_some_iff _).mp replay) step changed
  rw [sent, delivered] at mem
  simp at mem

end Example

end Persistence

end Realstor

end Sspl

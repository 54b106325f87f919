import Sspl.Foundation.System
import Sspl.Realstor.Fru

/-!
# Polls of a FRU sensor whose messages are all acknowledged

When every message is acknowledged in time, a poll is the loop over its FRUs and nothing
else: each turn takes the map the turn before has left. `Log` keeps the FRUs polled so far
with the alerts raised for each, so that what is recorded and what is raised can be compared
with the history of the readings.

A `Duty` says what has to be recorded after a history and what may be raised for the next
reading. `Discharged` is the rule for it: an invariant of the map, and a condition on the
turns that is enough for the duty and needed for the alerts.
-/

namespace Sspl

namespace Realstor

namespace Polls

variable {ν R E L : Type}

/-- The map, and the FRUs polled so far with the alerts raised for each. -/
structure Log (ν R E : Type) where
  memory : Memory ν E
  turns : List (R × List FruAlert)

namespace Log

def empty : Log ν R E := ⟨∅, []⟩

def history (s : Log ν R E) : List R := s.turns.map Prod.fst

/-- The FRU was polled, with this map afterwards and these alerts. -/
def add (s : Log ν R E) (memory : Memory ν E) (fru : R) (alerts : List FruAlert) : Log ν R E :=
  ⟨memory, s.turns ++ [(fru, alerts)]⟩

@[simp] theorem history_add (s : Log ν R E) (memory : Memory ν E) (fru : R)
    (alerts : List FruAlert) : (s.add memory fru alerts).history = s.history ++ [fru] := by
  simp [history, add]

@[simp] theorem memory_add (s : Log ν R E) (memory : Memory ν E) (fru : R)
    (alerts : List FruAlert) : (s.add memory fru alerts).memory = memory := rfl

end Log

/-- What a sensor has to record after a history, and to raise for the reading after it. -/
structure Duty (ν R E : Type) where
  recorded : List R → Memory ν E → Prop
  raises : List R → R → List FruAlert → Prop

namespace Duty

variable (D : Duty ν R E)

/-- The alerts of every turn are those the history before it asks for. -/
def Raised (s : Log ν R E) : Prop :=
  ∀ before fru alerts after, s.turns = before ++ (fru, alerts) :: after →
    D.raises (before.map Prod.fst) fru alerts

def Kept (s : Log ν R E) : Prop := D.recorded s.history s.memory ∧ D.Raised s

variable {D} {s : Log ν R E}

theorem Raised.add (raised : D.Raised s) {fru : R} {alerts : List FruAlert}
    (now : D.raises s.history fru alerts) (memory : Memory ν E) :
    D.Raised (s.add memory fru alerts) := by
  intro before fru' alerts' after split
  obtain rfl | ⟨front, last, rfl⟩ := after.eq_nil_or_concat'
  · obtain ⟨same, turn⟩ := List.append_inj' split rfl
    cases turn
    rw [← same]
    exact now
  · rw [← List.cons_append, ← List.append_assoc] at split
    exact raised before fru' alerts' front (List.append_inj' split rfl).1

end Duty

variable [DecidableEq ν] (S : FruSensor ν R E L)

/-- The loop over the FRUs of a poll. -/
def scan : L → Log ν R E → List R → Log ν R E
  | _, s, [] => s
  | locals, s, fru :: rest =>
    match S.inspect fru locals s.memory with
    | .ok turn => scan turn.locals (s.add turn.memory fru turn.sends) rest
    | .error _ =>
      if S.resumes then scan locals (s.add s.memory fru []) rest
      else ⟨s.memory, s.turns ++ (fru :: rest).map fun unread => (unread, [])⟩

/-- The sensor from an empty map on; a step is a poll. -/
def system : Transition.System (Log ν R E) (List R) where
  init s := s = .empty
  next s frus := some (scan S S.start s frus)

/-- After every poll the turns so far are those of the FRUs that were polled, in their order, and
the duty is kept. -/
def Duty.Fulfilled (D : Duty ν R E) (polls : List (List R)) : Prop :=
  ∀ done rest, polls = done ++ rest → ∃ s, (system S).FreeRuns .empty done s ∧
    s.history = done.flatten ∧ D.Kept s

/-- The condition on a turn: the FRUs polled before, the FRU, the local variables and the
map. -/
abbrev Condition (ν R E L : Type) := List R → R → L → Memory ν E → Prop

/-- Every turn of the loop meets the condition. -/
def Meets (clean : Condition ν R E L) : L → Log ν R E → List R → Prop
  | _, _, [] => True
  | locals, s, fru :: rest =>
    clean s.history fru locals s.memory ∧
      ∀ turn, S.inspect fru locals s.memory = .ok turn →
        Meets clean turn.locals (s.add turn.memory fru turn.sends) rest

/-- Every turn of a poll meets the condition, in the state that the turns before it have left. -/
def Clean (clean : Condition ν R E L) (s : Log ν R E) (frus : List R) : Prop :=
  Meets S clean S.start s frus

/-- What a turn raises. -/
def raisedBy (fru : R) (locals : L) (memory : Memory ν E) : List FruAlert :=
  match S.inspect fru locals memory with
  | .ok turn => turn.sends
  | .error _ => []

/-- The duty is kept by the turns that meet the condition, and the alerts of a turn are those
of the duty only if it does. -/
structure Discharged (D : Duty ν R E) (clean : Condition ν R E L)
    (I : List R → Memory ν E → Prop) : Prop where
  initial : I [] ∅
  recorded : ∀ {history memory}, I history memory → D.recorded history memory
  turn : ∀ {history fru locals memory}, I history memory → clean history fru locals memory →
    ∃ turn, S.inspect fru locals memory = .ok turn ∧ I (history ++ [fru]) turn.memory ∧
      D.raises history fru turn.sends
  needed : ∀ {history fru locals memory}, I history memory →
    D.raises history fru (raisedBy S fru locals memory) → clean history fru locals memory

variable {S} {D : Duty ν R E} {clean : Condition ν R E L} {I : List R → Memory ν E → Prop}
  {s t : Log ν R E} {locals : L} {frus : List R}

/-- What was polled stays in the log, and the next turn is the one of the first FRU. -/
theorem scan_turns (fru : R) (rest : List R) (locals : L) (s : Log ν R E) :
    ∃ after, (scan S locals s (fru :: rest)).turns =
      s.turns ++ (fru, raisedBy S fru locals s.memory) :: after := by
  induction rest generalizing fru locals s with
  | nil =>
      rw [scan, raisedBy]
      split
      · exact ⟨[], rfl⟩
      · split <;> exact ⟨[], rfl⟩
  | cons next rest ih =>
      rw [scan, raisedBy]
      split
      · rename_i turn _
        obtain ⟨after, later⟩ := ih next turn.locals (s.add turn.memory fru turn.sends)
        exact ⟨_, by rw [later, Log.add, List.append_assoc]; rfl⟩
      · split
        · obtain ⟨after, later⟩ := ih next locals (s.add s.memory fru [])
          exact ⟨_, by rw [later, Log.add, List.append_assoc]; rfl⟩
        · exact ⟨_, rfl⟩

/-- A poll is put into the log as a whole, also what is left of it after an exception. -/
theorem scan_history (locals : L) (s : Log ν R E) (frus : List R) :
    (scan S locals s frus).history = s.history ++ frus := by
  induction frus generalizing locals s with
  | nil => exact (List.append_nil _).symm
  | cons fru rest ih =>
      rw [scan]
      split
      · rw [ih, Log.history_add, List.append_assoc, List.singleton_append]
      · split
        · rw [ih, Log.history_add, List.append_assoc, List.singleton_append]
        · simp only [Log.history, List.map_append, List.map_map]
          congr 1
          exact List.map_id (fru :: rest)

/-- Every sequence of polls has its run, whose log is the log before and the polls. -/
theorem exists_run (s : Log ν R E) (polls : List (List R)) :
    ∃ t, (system S).FreeRuns s polls t ∧ t.history = s.history ++ polls.flatten := by
  induction polls generalizing s with
  | nil => exact ⟨s, .nil s, (List.append_nil _).symm⟩
  | cons frus rest ih =>
      obtain ⟨t, tail, history⟩ := ih (scan S S.start s frus)
      refine ⟨t, .cons trivial rfl tail, ?_⟩
      rw [history, scan_history, List.append_assoc, List.flatten_cons]

theorem fulfilled_iff_always (polls : List (List R)) :
    D.Fulfilled S polls ↔ (system S).Always D.Kept .empty polls := by
  constructor
  · intro fulfilled done rest t split run
    obtain ⟨s, run', -, kept⟩ := fulfilled done rest split
    cases run.deterministic run'
    exact kept
  · intro always done rest split
    obtain ⟨s, run, history⟩ := exists_run (S := S) .empty done
    exact ⟨s, run, history, always done rest s split run⟩

/-- What is known of the log after any number of polls. -/
structure Known (D : Duty ν R E) (I : List R → Memory ν E → Prop) (s : Log ν R E) : Prop where
  invariant : I s.history s.memory
  raised : D.Raised s

namespace Discharged

variable (rule : Discharged S D clean I)

include rule

theorem known_empty : Known D I (.empty : Log ν R E) := by
  refine ⟨rule.initial, ?_⟩
  intro before fru alerts after split
  cases before <;> cases split

theorem kept (known : Known D I s) : D.Kept s := ⟨rule.recorded known.invariant, known.raised⟩

theorem scan_known (known : Known D I s) (meets : Meets S clean locals s frus) :
    Known D I (scan S locals s frus) := by
  induction frus generalizing locals s with
  | nil => exact known
  | cons fru rest ih =>
      obtain ⟨now, later⟩ := meets
      obtain ⟨turn, ran, next, alerts⟩ := rule.turn known.invariant now
      rw [scan, ran]
      refine ih ⟨?_, known.raised.add alerts _⟩ (later turn ran)
      rwa [Log.history_add]

theorem meets_of_raised (invariant : I s.history s.memory)
    (raised : D.Raised (scan S locals s frus)) : Meets S clean locals s frus := by
  induction frus generalizing locals s with
  | nil => trivial
  | cons fru rest ih =>
      obtain ⟨after, turns⟩ := scan_turns (S := S) fru rest locals s
      have now : clean s.history fru locals s.memory :=
        rule.needed invariant (raised _ _ _ _ turns)
      refine ⟨now, fun turn ran => ?_⟩
      obtain ⟨turn', ran', next, -⟩ := rule.turn invariant now
      cases ran.symm.trans ran'
      rw [scan, ran] at raised
      refine ih ?_ raised
      rwa [Log.history_add]

/-- The duty is fulfilled exactly when all turns meet the condition. -/
theorem fulfilled_iff (polls : List (List R)) :
    D.Fulfilled S polls ↔ ∃ s, (system S).Runs (Clean S clean) .empty polls s := by
  have exact_ : ∀ t, (system S).FreeRuns .empty polls t →
      ((system S).Always D.Kept .empty polls ↔
        (system S).Runs (Clean S clean) .empty polls t) := by
    intro t free
    refine free.always_iff (I := Known D I) (fun s => rule.kept) ?_ ?_ rule.known_empty
    · rintro s frus t known meets step
      cases step
      exact rule.scan_known known meets
    · rintro s frus t known step kept
      cases step
      exact rule.meets_of_raised known.invariant kept.2
  rw [fulfilled_iff_always]
  obtain ⟨t, free, -⟩ := exists_run (S := S) .empty polls
  constructor
  · exact fun kept => ⟨t, (exact_ t free).mp kept⟩
  · rintro ⟨t', meets⟩
    exact (exact_ t' (meets.mono fun _ _ _ => trivial)).mpr meets

/-- A duty that needs no condition is kept by every poll. -/
theorem scan_free (free : ∀ history fru locals memory, clean history fru locals memory)
    (known : Known D I s) (locals : L) (frus : List R) : Known D I (scan S locals s frus) := by
  have meets : ∀ (frus : List R) locals (s : Log ν R E), Meets S clean locals s frus := by
    intro frus
    induction frus with
    | nil => exact fun _ _ => trivial
    | cons fru rest ih => exact fun locals s => ⟨free _ _ _ _, fun turn _ => ih _ _⟩
  exact rule.scan_known known (meets frus locals s)

end Discharged

end Polls

end Realstor

end Sspl

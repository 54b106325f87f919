import Sspl.Foundation.Iteration
import Sspl.Raid.Integrity

/-!
# What a round of the integrity sensor covers

A round is played against the outcomes of all commands that it may run: for the array at each
place of the list, what each of the three methods gets at each attempt. A method that fails is
called again without end, so one array whose mismatch count stays above zero keeps all later
ones from being checked.

`_check_raid_state` returns `None` when all of its reads have failed, and that is not
`failed`: the mismatch count of such an array is judged as if it were idle.
-/

namespace Sspl

namespace Raid

namespace Integrity

open Iem (Text)
open Iteration (Reaches)

/-- What the commands of a round end with: by the place of the array, the method that runs the
command, and the number of the attempt. -/
abbrev Outcomes := Nat → Method → Nat → Result

/-- A command that was run. -/
structure Performed where
  place : Nat
  device : Text
  method : Method
  attempt : Nat
  deriving DecidableEq

/-- A round in progress, with the place of the array, the attempts that its method has made and
the commands run so far. -/
structure Progress where
  sensor : Sensor
  place : Nat
  attempts : Nat
  performed : List Performed

/-- The next command. -/
def Progress.step (outcomes : Outcomes) (p : Progress) : Progress :=
  match p.sensor.turn with
  | none => p
  | some turn =>
    let r := outcomes p.place turn.stage.method p.attempts
    let performed := p.performed ++ [⟨p.place, turn.device, turn.stage.method, p.attempts⟩]
    match turn.stage.next r with
    | none => ⟨p.sensor.take turn r, p.place + 1, 0, performed⟩
    | some stage =>
      let attempts := if stage.method = turn.stage.method then p.attempts + 1 else 0
      ⟨p.sensor.take turn r, p.place, attempts, performed⟩

/-- A round that begins. -/
def Progress.begin (s : Sensor) (content : List Text) : Progress :=
  ⟨s.beginRound content, 0, 0, []⟩

def Accepted (r : Result) : Prop := r.error = []

def Idle (r : Result) : Prop := r.error = [] ∧ r.response = stateCommandResponse

def Zero (r : Result) : Prop := r.response = mismatchCountResponse

/-- The check is requested for every array at some time. -/
def Covers (outcomes : Outcomes) (s : Sensor) (content : List Text) : Prop :=
  ∀ place device, (getDevices content)[place]? = some device →
    ∃ n, ∃ done ∈ ((Progress.step outcomes)^[n] (.begin s content)).performed,
      done.place = place ∧ done.device = device ∧ done.method = .updateRaidDeviceFile

/-- The array at this place was found idle after its check had been accepted. -/
def Settled (outcomes : Outcomes) (place : Nat) (performed : List Performed) : Prop :=
  ∃ request read, [request, read].Sublist performed ∧
    (request.place = place ∧ request.method = .updateRaidDeviceFile ∧
      Accepted (outcomes place .updateRaidDeviceFile request.attempt)) ∧
    (read.place = place ∧ read.method = .checkRaidState ∧
      Idle (outcomes place .checkRaidState read.attempt))

/-- A mismatch count is read only of an array that has settled. -/
def Waits (outcomes : Outcomes) (performed : List Performed) : Prop :=
  ∀ before done after, performed = before ++ done :: after →
    done.method = .checkMismatchCount → Settled outcomes done.place before

/-- The round covers every array of the list, and judges none of them before its check is over. -/
structure RoundLaw (outcomes : Outcomes) (s : Sensor) (content : List Text) : Prop where
  covers : Covers outcomes s content
  waits : ∀ n, Waits outcomes ((Progress.step outcomes)^[n] (.begin s content)).performed

/-- The turn of the array at this place comes to an end: at some attempt each of the three commands
gives the result that lets the sensor go on. -/
structure Completes (outcomes : Outcomes) (place : Nat) : Prop where
  accepted : ∃ k, Accepted (outcomes place .updateRaidDeviceFile k)
  idle : ∃ k, Idle (outcomes place .checkRaidState k)
  zero : ∃ k, Zero (outcomes place .checkMismatchCount k)

/-- One of the first reads of the state succeeds, once the check was accepted. -/
def Readable (outcomes : Outcomes) (place : Nat) : Prop :=
  (∃ k, Accepted (outcomes place .updateRaidDeviceFile k)) →
    ∃ k ≤ maxRetries, (outcomes place .checkRaidState k).error = []

section Stages

variable {stage : Stage} {r : Result}

/-- `_update_raid_device_file`, called for the first time or again. -/
structure Requesting (stage : Stage) : Prop where
  method : stage.method = .updateRaidDeviceFile
  status : stage.status = some .failed

theorem Requesting.next_accepted (h : Requesting stage) (accepted : Accepted r) :
    stage.next r = some (.begin .checkRaidState false) := by
  obtain ⟨method, raidCheck, status, retry⟩ := stage
  obtain ⟨rfl, rfl⟩ := h
  rw [Accepted] at accepted
  cases retry <;> simp [Stage.next, Stage.iterate, Stage.returned, accepted, Method.following]

theorem Requesting.next_refused (h : Requesting stage) (refused : ¬ Accepted r) :
    ∃ stage', stage.next r = some stage' ∧ Requesting stage' := by
  obtain ⟨method, raidCheck, status, retry⟩ := stage
  obtain ⟨rfl, rfl⟩ := h
  rw [Accepted] at refused
  by_cases last : maxRetries < raidCheck + 1
  · refine ⟨.begin .updateRaidDeviceFile true, ?_, rfl, rfl⟩
    cases retry <;> simp [Stage.next, Stage.iterate, Stage.returned, refused, last]
  · refine ⟨⟨.updateRaidDeviceFile, raidCheck + 1, some .failed, retry⟩, ?_, rfl, rfl⟩
    simp [Stage.next, Stage.iterate, refused, last]

/-- `_check_raid_state`, called again. -/
structure WaitingAgain (stage : Stage) : Prop where
  method : stage.method = .checkRaidState
  status : stage.status ≠ some .success
  retry : stage.retry = true

theorem next_idle (method : stage.method = .checkRaidState) (idle : Idle r) :
    stage.next r = some (.begin .checkMismatchCount false) := by
  obtain ⟨_, raidCheck, status, retry⟩ := stage
  dsimp only at method
  subst method
  obtain ⟨error, response⟩ := idle
  cases retry <;>
    simp [Stage.next, Stage.iterate, Stage.returned, error, response, Method.following]

theorem WaitingAgain.next (h : WaitingAgain stage) (busy : ¬ Idle r) :
    ∃ stage', stage.next r = some stage' ∧ WaitingAgain stage' := by
  obtain ⟨method, raidCheck, status, retry⟩ := stage
  obtain ⟨method_, notDone, retry_⟩ := h
  dsimp only at method_ notDone retry_
  subst method_ retry_
  have again (status' : Option Status) (kept : status' ≠ some .success) :
      (if maxRetries < raidCheck + 1 then
          (⟨.checkRaidState, raidCheck + 1, status', true⟩ : Stage).returned
        else some ⟨.checkRaidState, raidCheck + 1, status', true⟩) = some
        (if maxRetries < raidCheck + 1 then .begin .checkRaidState true
        else ⟨.checkRaidState, raidCheck + 1, status', true⟩) := by
    split
    · simp [Stage.returned, kept]
    · rfl
  have waits (status' : Option Status) (kept : status' ≠ some .success) :
      WaitingAgain (if maxRetries < raidCheck + 1 then .begin .checkRaidState true
        else ⟨.checkRaidState, raidCheck + 1, status', true⟩) := by
    split
    · exact ⟨rfl, by simp [Stage.begin, Method.initialStatus], rfl⟩
    · exact ⟨rfl, kept, rfl⟩
  by_cases failed : r.error = []
  · have other : r.response ≠ stateCommandResponse := fun same => busy ⟨failed, same⟩
    refine ⟨_, ?_, waits (some .failed) (by simp)⟩
    rw [← again _ (by simp)]
    simp [Stage.next, Stage.iterate, failed, other]
  · refine ⟨_, ?_, waits status notDone⟩
    rw [← again _ notDone]
    simp [Stage.next, Stage.iterate, failed]

/-- `_check_raid_state`, called for the first time, after so many reads. -/
def waiting (reads : Nat) (status : Option Status) : Stage :=
  ⟨.checkRaidState, reads, status, false⟩

theorem waiting_iterate {reads : Nat} {status : Option Status} (busy : ¬ Idle r) :
    (waiting reads status).iterate r =
      (waiting (reads + 1) (if r.error = [] then some .failed else status),
        decide (maxRetries < reads + 1)) := by
  rw [waiting, Stage.iterate]
  dsimp only
  by_cases failed : r.error = []
  · have other : r.response ≠ stateCommandResponse := fun same => busy ⟨failed, same⟩
    rw [if_neg (not_not.mpr failed), if_neg other, if_pos failed, waiting]
  · rw [if_pos failed, if_neg failed, waiting]

theorem waiting_next {reads : Nat} (status : Option Status) (early : reads < maxRetries)
    (busy : ¬ Idle r) : (waiting reads status).next r =
      some (waiting (reads + 1) (if r.error = [] then some .failed else status)) := by
  have more : ¬ maxRetries < reads + 1 := by omega
  rw [Stage.next, waiting_iterate busy]
  simp [more]

/-- What follows the last of the first reads. -/
theorem waiting_last (status : Option Status) (busy : ¬ Idle r) :
    (waiting maxRetries status).next r =
      if (if r.error = [] then some .failed else status) = some .failed then
        some (.begin .checkRaidState true)
      else some (.begin .checkMismatchCount false) := by
  have last : maxRetries < maxRetries + 1 := Nat.lt_succ_self _
  rw [Stage.next, waiting_iterate busy]
  by_cases failed : r.error = []
  · simp [failed, last, Stage.returned, waiting]
  · simp [failed, last, Stage.returned, waiting, Method.following]

theorem next_zero (method : stage.method = .checkMismatchCount) (zero : Zero r) :
    stage.next r = none := by
  obtain ⟨_, raidCheck, status, retry⟩ := stage
  dsimp only at method
  subst method
  rw [Zero] at zero
  cases retry <;> simp [Stage.next, Stage.iterate, Stage.returned, zero, Method.following]

theorem next_mismatch (method : stage.method = .checkMismatchCount) (mismatch : ¬ Zero r) :
    ∃ stage', stage.next r = some stage' ∧ stage'.method = .checkMismatchCount := by
  obtain ⟨_, raidCheck, status, retry⟩ := stage
  dsimp only at method
  subst method
  rw [Zero] at mismatch
  refine ⟨.begin .checkMismatchCount true, ?_, rfl⟩
  cases retry <;> simp [Stage.next, Stage.iterate, Stage.returned, mismatch]

end Stages

section Steps

variable {outcomes : Outcomes} {devices : List Text} {place attempts : Nat} {stage stage' : Stage}
  {p q : Progress}

/-- The turn of the array at this place, in this stage and after so many attempts. -/
structure At (devices : List Text) (place attempts : Nat) (stage : Stage) (p : Progress) :
    Prop where
  samePlace : p.place = place
  sameAttempts : p.attempts = attempts
  turn : ∃ device, devices[place]? = some device ∧
    p.sensor.turn = some ⟨device, stage, devices.drop (place + 1)⟩
  past : ∀ done ∈ p.performed, done.place ≤ place

/-- The turn of the array at this place is about to begin, if there is one. -/
structure Opens (devices : List Text) (place : Nat) (p : Progress) : Prop where
  samePlace : p.place = place
  noAttempts : p.attempts = 0
  turn : p.sensor.turn = Turn.begin (devices.drop place)
  past : ∀ done ∈ p.performed, done.place < place

theorem Opens.at (h : Opens devices place p) (here : place < devices.length) :
    At devices place 0 (.begin .updateRaidDeviceFile false) p := by
  refine ⟨h.samePlace, h.noAttempts, ⟨devices[place], List.getElem?_eq_getElem here, ?_⟩,
    fun done mem => (h.past done mem).le⟩
  rw [h.turn, List.drop_eq_getElem_cons here]
  rfl

variable (outcomes) in
/-- The command is noted. -/
theorem At.performed (h : At devices place attempts stage p) : ∃ device,
    devices[place]? = some device ∧
    (p.step outcomes).performed = p.performed ++ [⟨place, device, stage.method, attempts⟩] := by
  obtain ⟨rfl, rfl, ⟨device, here, turn⟩, past⟩ := h
  refine ⟨device, here, ?_⟩
  rw [Progress.step, turn]
  dsimp only
  split
  · rfl
  · rfl

variable (outcomes) in
theorem At.past_step (h : At devices place attempts stage p) :
    ∀ done ∈ (p.step outcomes).performed, done.place ≤ place := by
  obtain ⟨device, -, news⟩ := h.performed outcomes
  intro done mem
  rw [news] at mem
  obtain mem | mem := List.mem_append.mp mem
  · exact h.past done mem
  · rw [List.mem_singleton.mp mem]

/-- The next command within a turn. -/
theorem At.step (h : At devices place attempts stage p)
    (next : stage.next (outcomes place stage.method attempts) = some stage') :
    At devices place (if stage'.method = stage.method then attempts + 1 else 0) stage'
      (p.step outcomes) := by
  have past := h.past_step outcomes
  obtain ⟨rfl, rfl, ⟨device, here, turn⟩, -⟩ := h
  refine ⟨?_, ?_, ⟨device, here, ?_⟩, past⟩
  · simp [Progress.step, turn, next]
  · simp [Progress.step, turn, next]
  · simp [Progress.step, turn, next, Sensor.take, Turn.next]

/-- The last command of a turn. -/
theorem At.step_over (h : At devices place attempts stage p)
    (next : stage.next (outcomes place stage.method attempts) = none) :
    Opens devices (place + 1) (p.step outcomes) := by
  have past := h.past_step outcomes
  obtain ⟨rfl, rfl, ⟨device, here, turn⟩, -⟩ := h
  refine ⟨?_, ?_, ?_, fun done mem => Nat.lt_succ_of_le (past done mem)⟩
  · simp [Progress.step, turn, next]
  · simp [Progress.step, turn, next]
  · simp [Progress.step, turn, next, Sensor.take, Turn.next]

end Steps

section Loops

variable {outcomes : Outcomes} {devices : List Text} {place : Nat} {p t : Progress}

def InRequest (devices : List Text) (place attempts : Nat) (p : Progress) : Prop :=
  ∃ stage, Requesting stage ∧ At devices place attempts stage p

theorem InRequest.again (k : Nat) (t : Progress) (h : InRequest devices place k t)
    (refused : ¬ Accepted (outcomes place .updateRaidDeviceFile k)) :
    InRequest devices place (k + 1) (t.step outcomes) := by
  obtain ⟨stage, requesting, here⟩ := h
  obtain ⟨stage', next, requesting'⟩ := requesting.next_refused refused
  rw [← requesting.method] at next
  have there := here.step next
  rw [requesting.method, requesting'.method, if_pos rfl] at there
  exact ⟨stage', requesting', there⟩

theorem InRequest.success (k : Nat) (t : Progress) (h : InRequest devices place k t)
    (accepted : Accepted (outcomes place .updateRaidDeviceFile k)) :
    At devices place 0 (.begin .checkRaidState false) (t.step outcomes) := by
  obtain ⟨stage, requesting, here⟩ := h
  have next := requesting.next_accepted accepted
  rw [← requesting.method] at next
  have there := here.step next
  rwa [requesting.method, if_neg (by decide)] at there

theorem Opens.inRequest (h : Opens devices place p) (here : place < devices.length) :
    InRequest devices place 0 p :=
  ⟨_, ⟨rfl, rfl⟩, h.at here⟩

/-- `_check_raid_state` after so many reads none of which has found the array idle, if it has not
returned `None`. -/
def Awaits (outcomes : Outcomes) (place attempts : Nat) (stage : Stage) : Prop :=
  WaitingAgain stage ∨ attempts ≤ maxRetries ∧ (stage = waiting attempts (some .failed) ∨
    stage = waiting attempts none ∧
      ∀ k < attempts, (outcomes place .checkRaidState k).error ≠ [])

def InState (outcomes : Outcomes) (devices : List Text) (place attempts : Nat) (p : Progress) :
    Prop :=
  ∃ stage, Awaits outcomes place attempts stage ∧ At devices place attempts stage p

theorem Awaits.method {attempts : Nat} {stage : Stage} (h : Awaits outcomes place attempts stage) :
    stage.method = .checkRaidState := by
  obtain again | ⟨-, rfl | ⟨rfl, -⟩⟩ := h
  · exact again.method
  · rfl
  · rfl

theorem Awaits.next {attempts : Nat} {stage : Stage} (h : Awaits outcomes place attempts stage)
    (readable : ∃ k ≤ maxRetries, (outcomes place .checkRaidState k).error = [])
    (busy : ¬ Idle (outcomes place .checkRaidState attempts)) :
    ∃ stage', stage.next (outcomes place .checkRaidState attempts) = some stage' ∧
      Awaits outcomes place (attempts + 1) stage' := by
  obtain again | ⟨early, first⟩ := h
  · obtain ⟨stage', next, again'⟩ := again.next busy
    exact ⟨stage', next, .inl again'⟩
  · have called : WaitingAgain (.begin .checkRaidState true) :=
      ⟨rfl, by simp [Stage.begin, Method.initialStatus], rfl⟩
    by_cases last : attempts = maxRetries
    · subst last
      obtain rfl | ⟨rfl, failing⟩ := first
      · refine ⟨_, ?_, .inl called⟩
        rw [waiting_last _ busy]
        simp
      · obtain ⟨k, within, read⟩ := readable
        have now : k = maxRetries := by
          by_contra other
          exact failing k (lt_of_le_of_ne within other) read
        subst now
        refine ⟨_, ?_, .inl called⟩
        rw [waiting_last _ busy]
        simp [read]
    · have more : attempts < maxRetries := lt_of_le_of_ne early last
      obtain rfl | ⟨rfl, failing⟩ := first
      · refine ⟨_, waiting_next _ more busy, .inr ⟨more, .inl ?_⟩⟩
        simp
      · refine ⟨_, waiting_next _ more busy, .inr ⟨more, ?_⟩⟩
        by_cases read : (outcomes place .checkRaidState attempts).error = []
        · exact .inl (by rw [if_pos read])
        · refine .inr ⟨by rw [if_neg read], fun k before => ?_⟩
          obtain earlier | rfl := Nat.lt_succ_iff_lt_or_eq.mp before
          · exact failing k earlier
          · exact read

theorem InState.again (readable : ∃ k ≤ maxRetries, (outcomes place .checkRaidState k).error = [])
    (k : Nat) (t : Progress) (h : InState outcomes devices place k t)
    (busy : ¬ Idle (outcomes place .checkRaidState k)) :
    InState outcomes devices place (k + 1) (t.step outcomes) := by
  obtain ⟨stage, awaits, here⟩ := h
  obtain ⟨stage', next, awaits'⟩ := awaits.next readable busy
  rw [← awaits.method] at next
  have there := here.step next
  rw [awaits.method, awaits'.method, if_pos rfl] at there
  exact ⟨stage', awaits', there⟩

theorem InState.success (k : Nat) (t : Progress) (h : InState outcomes devices place k t)
    (idle : Idle (outcomes place .checkRaidState k)) :
    At devices place 0 (.begin .checkMismatchCount false) (t.step outcomes) := by
  obtain ⟨stage, awaits, here⟩ := h
  have next := next_idle awaits.method idle
  rw [← awaits.method] at next
  have there := here.step next
  rwa [awaits.method, if_neg (by decide)] at there

theorem At.inState (h : At devices place 0 (.begin .checkRaidState false) p) :
    InState outcomes devices place 0 p :=
  ⟨_, .inr ⟨Nat.zero_le _, .inr ⟨rfl, by simp⟩⟩, h⟩

def InCount (devices : List Text) (place attempts : Nat) (p : Progress) : Prop :=
  ∃ stage, stage.method = .checkMismatchCount ∧ At devices place attempts stage p

theorem InCount.again (k : Nat) (t : Progress) (h : InCount devices place k t)
    (mismatch : ¬ Zero (outcomes place .checkMismatchCount k)) :
    InCount devices place (k + 1) (t.step outcomes) := by
  obtain ⟨stage, method, here⟩ := h
  obtain ⟨stage', next, method'⟩ := next_mismatch method mismatch
  rw [← method] at next
  have there := here.step next
  rw [method, method', if_pos rfl] at there
  exact ⟨stage', method', there⟩

theorem InCount.success (k : Nat) (t : Progress) (h : InCount devices place k t)
    (zero : Zero (outcomes place .checkMismatchCount k)) :
    Opens devices (place + 1) (t.step outcomes) := by
  obtain ⟨stage, method, here⟩ := h
  have next := next_zero method zero
  rw [← method] at next
  exact here.step_over next

/-- The turn of the array at this place comes to its end. -/
theorem Opens.reaches_next (h : Opens devices place p) (here : place < devices.length)
    (completes : Completes outcomes place) (readable : Readable outcomes place) :
    Reaches (Progress.step outcomes) p (Opens devices (place + 1)) := by
  obtain ⟨⟨_, accepted⟩, ⟨_, idle⟩, ⟨_, zero⟩⟩ := completes
  have requested := Iteration.reaches_of_attempt InRequest.success InRequest.again accepted
    (Nat.zero_le _) (h.inRequest here)
  apply requested.trans
  intro asked begun
  have found := Iteration.reaches_of_attempt InState.success
    (InState.again (readable ⟨_, accepted⟩)) idle (Nat.zero_le _) begun.inState
  apply found.trans
  intro settled begun
  exact Iteration.reaches_of_attempt InCount.success InCount.again zero (Nat.zero_le _)
    ⟨_, rfl, begun⟩

end Loops

section Waits

variable {outcomes : Outcomes} {devices : List Text} {place : Nat} {p : Progress}
  {performed : List Performed}

/-- The check of the array was accepted. -/
def Requested (outcomes : Outcomes) (place : Nat) (performed : List Performed) : Prop :=
  ∃ request ∈ performed, request.place = place ∧ request.method = .updateRaidDeviceFile ∧
    Accepted (outcomes place .updateRaidDeviceFile request.attempt)

/-- Where a round is, with what has come before. -/
inductive Phase (outcomes : Outcomes) (devices : List Text) (p : Progress) : Prop
  | requesting (place attempts : Nat) (inside : InRequest devices place attempts p)
  | waiting (place attempts : Nat) (requested : Requested outcomes place p.performed)
      (inside : InState outcomes devices place attempts p)
  | counting (place attempts : Nat) (settled : Settled outcomes place p.performed)
      (inside : InCount devices place attempts p)
  | ended (none_ : p.sensor.turn = none)

theorem Settled.append (h : Settled outcomes place performed) (more : List Performed) :
    Settled outcomes place (performed ++ more) := by
  obtain ⟨request, read, order, facts⟩ := h
  exact ⟨request, read, order.trans (List.sublist_append_left _ _), facts⟩

theorem Waits.append {done : Performed} (h : Waits outcomes performed)
    (settled : done.method = .checkMismatchCount → Settled outcomes done.place performed) :
    Waits outcomes (performed ++ [done]) := by
  intro before later after split count
  obtain rfl | ⟨front, last, rfl⟩ := after.eq_nil_or_concat'
  · obtain ⟨rfl, same⟩ := List.append_inj' split rfl
    cases same
    exact settled count
  · have split' : performed ++ [done] = (before ++ later :: front) ++ [last] := by simpa using split
    obtain ⟨rfl, -⟩ := List.append_inj' split' rfl
    exact h before later front rfl count

theorem Opens.phase (h : Opens devices place p) : Phase outcomes devices p := by
  by_cases here : place < devices.length
  · exact .requesting place 0 (h.inRequest here)
  · refine .ended ?_
    rw [h.turn, List.drop_eq_nil_of_le (Nat.not_lt.mp here)]
    rfl

theorem At.inside {attempts : Nat} {stage : Stage} (h : At devices place attempts stage p) :
    place < devices.length := by
  obtain ⟨device, here, -⟩ := h.turn
  exact (List.getElem?_eq_some_iff.mp here).1

/-- A command that does not read the mismatch count judges nothing. -/
theorem At.waits {attempts : Nat} {stage : Stage} (h : At devices place attempts stage p)
    (waits : Waits outcomes p.performed)
    (settled : stage.method = .checkMismatchCount → Settled outcomes place p.performed) :
    Waits outcomes (p.step outcomes).performed := by
  obtain ⟨device, -, news⟩ := h.performed outcomes
  rw [news]
  exact waits.append settled

/-- One command after another: one case for each loop and for the end of the round. -/
theorem Phase.step (readable : ∀ place < devices.length, Readable outcomes place)
    (h : Phase outcomes devices p) (waits : Waits outcomes p.performed) :
    Phase outcomes devices (p.step outcomes) ∧ Waits outcomes (p.step outcomes).performed := by
  cases h with
  | requesting place k inside =>
      obtain ⟨stage, requesting, here⟩ := id inside
      refine ⟨?_, here.waits waits (by simp [requesting.method])⟩
      by_cases accepted : Accepted (outcomes place .updateRaidDeviceFile k)
      · obtain ⟨device, -, news⟩ := here.performed outcomes
        refine .waiting place 0 ?_ (inside.success k p accepted).inState
        rw [news]
        exact ⟨_, List.mem_append_right _ (.head _), rfl, requesting.method, accepted⟩
      · exact .requesting place (k + 1) (inside.again k p accepted)
  | waiting place k requested inside =>
      obtain ⟨stage, awaits, here⟩ := id inside
      obtain ⟨request, mem, facts⟩ := requested
      obtain ⟨device, -, news⟩ := here.performed outcomes
      refine ⟨?_, here.waits waits (by simp [awaits.method])⟩
      by_cases idle : Idle (outcomes place .checkRaidState k)
      · refine .counting place 0 ?_ ⟨_, rfl, inside.success k p idle⟩
        rw [news]
        refine ⟨request, ⟨place, device, stage.method, k⟩, ?_, facts, rfl, awaits.method, idle⟩
        exact (List.singleton_sublist.mpr mem).append (.refl [_])
      · have first := readable place here.inside ⟨_, facts.2.2⟩
        refine .waiting place (k + 1) ⟨request, ?_, facts⟩ (inside.again first k p idle)
        rw [news]
        exact List.mem_append_left _ mem
  | counting place k settled inside =>
      obtain ⟨stage, method, here⟩ := id inside
      obtain ⟨device, -, news⟩ := here.performed outcomes
      refine ⟨?_, here.waits waits fun _ => settled⟩
      by_cases zero : Zero (outcomes place .checkMismatchCount k)
      · exact (inside.success k p zero).phase
      · refine .counting place (k + 1) ?_ (inside.again k p zero)
        rw [news]
        exact settled.append _
  | ended none_ =>
      have same : p.step outcomes = p := by rw [Progress.step, none_]
      rw [same]
      exact ⟨.ended none_, waits⟩

theorem Opens.waits (h : Opens devices place p) (none : p.performed = [])
    (readable : ∀ place < devices.length, Readable outcomes place) (n : Nat) :
    Waits outcomes ((Progress.step outcomes)^[n] p).performed := by
  have start : Waits outcomes p.performed := by
    intro before done after split
    rw [none] at split
    simp at split
  have kept := Iteration.stays
    (Q := fun t : Progress => Phase outcomes devices t ∧ Waits outcomes t.performed)
    (fun _ inside => inside.1.step readable inside.2) ⟨h.phase, start⟩ n
  exact kept.2

end Waits

section Needed

variable {outcomes : Outcomes} {devices : List Text} {place : Nat} {p : Progress}

theorem performed_grows (p : Progress) (n : Nat) :
    p.performed <+: ((Progress.step outcomes)^[n] p).performed := by
  refine Iteration.stays (Q := fun t : Progress => p.performed <+: t.performed) ?_
    (List.prefix_refl _) n
  intro t before
  refine before.trans ?_
  rw [Progress.step]
  split
  · exact List.prefix_refl _
  · dsimp only
    split
    · exact List.prefix_append _ _
    · exact List.prefix_append _ _

/-- Some command of the round is for a later place. -/
def Beyond (outcomes : Outcomes) (place : Nat) (p : Progress) : Prop :=
  ∃ n, ∃ done ∈ ((Progress.step outcomes)^[n] p).performed, place < done.place

theorem Beyond.later (h : Beyond outcomes place p) (m : Nat) :
    Beyond outcomes place ((Progress.step outcomes)^[m] p) := by
  obtain ⟨n, done, mem, later⟩ := h
  refine ⟨n, done, ?_, later⟩
  rw [← Function.iterate_add_apply, Nat.add_comm, Function.iterate_add_apply]
  exact (performed_grows _ m).subset mem

/-- A loop that is never left keeps the round from the next place. -/
theorem Beyond.not_stays {P : Nat → Progress → Prop} (h : Beyond outcomes place p)
    (inside : ∀ (k : Nat) (t : Progress), P k t → ∀ done ∈ t.performed, done.place ≤ place)
    (stays : ∀ n, ∃ k, P k ((Progress.step outcomes)^[n] p)) : False := by
  obtain ⟨n, done, mem, later⟩ := h
  obtain ⟨k, here⟩ := stays n
  exact absurd later (Nat.not_lt.mpr (inside k _ here done mem))

/-- Where the round goes on, the turn has come to its end. -/
theorem Opens.completes (h : Opens devices place p) (here : place < devices.length)
    (beyond : Beyond outcomes place p) (readable : Readable outcomes place) :
    Completes outcomes place := by
  have accepted : ∃ k, Accepted (outcomes place .updateRaidDeviceFile k) := by
    by_contra none
    apply beyond.not_stays (P := InRequest devices place)
    · rintro k t ⟨stage, -, inside⟩
      exact inside.past
    · exact Iteration.stays_of_no_attempt InRequest.again (not_exists.mp none) (h.inRequest here)
  obtain ⟨k, now⟩ := id accepted
  obtain ⟨n, begun⟩ := Iteration.reaches_of_attempt InRequest.success InRequest.again now
    (Nat.zero_le _) (h.inRequest here)
  have beyond := beyond.later n
  have idle : ∃ k, Idle (outcomes place .checkRaidState k) := by
    by_contra none
    apply beyond.not_stays (P := InState outcomes devices place)
    · rintro k t ⟨stage, -, inside⟩
      exact inside.past
    · exact Iteration.stays_of_no_attempt (InState.again (readable accepted)) (not_exists.mp none)
        begun.inState
  obtain ⟨k, now⟩ := id idle
  obtain ⟨m, begun⟩ := Iteration.reaches_of_attempt InState.success
    (InState.again (readable accepted)) now (Nat.zero_le _) begun.inState
  have beyond := beyond.later m
  refine ⟨accepted, idle, ?_⟩
  by_contra none
  apply beyond.not_stays (P := InCount devices place)
  · rintro k t ⟨stage, -, inside⟩
    exact inside.past
  · exact Iteration.stays_of_no_attempt InCount.again (not_exists.mp none) ⟨_, rfl, begun⟩

/-- Every read of the state of this array was one of the first so many. -/
def Reads (place bound : Nat) (p : Progress) : Prop :=
  ∀ done ∈ p.performed, done.place = place → done.method = .checkRaidState → done.attempt < bound

theorem Reads.step {attempts bound : Nat} {stage : Stage} (h : Reads place bound p)
    (inside : At devices place attempts stage p)
    (within : stage.method = .checkRaidState → attempts < bound) :
    Reads place bound (p.step outcomes) := by
  obtain ⟨device, -, news⟩ := inside.performed outcomes
  intro done mem same read
  rw [news] at mem
  obtain mem | mem := List.mem_append.mp mem
  · exact h done mem same read
  · cases List.mem_singleton.mp mem
    exact within read

theorem Reads.mono {bound bound' : Nat} (h : Reads place bound p) (le : bound ≤ bound') :
    Reads place bound' p :=
  fun done mem same read => lt_of_lt_of_le (h done mem same read) le

theorem Opens.reaches_state (h : Opens devices place p) (here : place < devices.length) {k : Nat}
    (accepted : Accepted (outcomes place .updateRaidDeviceFile k)) :
    Reaches (Progress.step outcomes) p
      (fun t => At devices place 0 (waiting 0 none) t ∧ Reads place 0 t) := by
  have fresh : Reads place 0 p := fun done mem same => absurd (h.past done mem) (by omega)
  refine Iteration.reaches_of_attempt
    (P := fun k t => InRequest devices place k t ∧ Reads place 0 t)
    (G := fun k => Accepted (outcomes place .updateRaidDeviceFile k)) ?_ ?_ accepted
    (Nat.zero_le _) ⟨h.inRequest here, fresh⟩
  · rintro k t ⟨inside, none⟩ now
    obtain ⟨stage, requesting, at_⟩ := id inside
    exact ⟨inside.success k t now, none.step at_ (by simp [requesting.method])⟩
  · rintro k t ⟨inside, none⟩ refused
    obtain ⟨stage, requesting, at_⟩ := id inside
    exact ⟨inside.again k t refused, none.step at_ (by simp [requesting.method])⟩

/-- While all reads fail the method goes on without a status. -/
theorem reaches_reads (failing : ∀ k ≤ maxRetries, (outcomes place .checkRaidState k).error ≠ [])
    (start : At devices place 0 (waiting 0 none) p) (fresh : Reads place 0 p) (k : Nat)
    (within : k ≤ maxRetries) : Reaches (Progress.step outcomes) p
      (fun t => At devices place k (waiting k none) t ∧ Reads place k t) := by
  induction k with
  | zero => exact .refl ⟨start, fresh⟩
  | succ k ih =>
      apply (ih (by omega)).trans
      rintro t ⟨inside, reads⟩
      have busy : ¬ Idle (outcomes place .checkRaidState k) :=
        fun idle => failing k (by omega) idle.1
      have next := waiting_next none (by omega : k < maxRetries) busy
      rw [if_neg (failing k (by omega))] at next
      refine ⟨1, ?_, ?_⟩
      · exact inside.step next
      · exact (reads.mono (Nat.le_succ k)).step inside fun _ => Nat.lt_succ_self k

/-- An array none of whose first reads succeeds is judged without having been idle. -/
theorem Opens.readable (h : Opens devices place p) (here : place < devices.length)
    (waits : ∀ n, Waits outcomes ((Progress.step outcomes)^[n] p).performed) :
    Readable outcomes place := by
  rintro ⟨k, accepted⟩
  by_contra never
  have failing : ∀ k ≤ maxRetries, (outcomes place .checkRaidState k).error ≠ [] :=
    fun k within read => never ⟨k, within, read⟩
  have judged : Reaches (Progress.step outcomes) p
      (fun t => At devices place 0 (.begin .checkMismatchCount false) t ∧
        Reads place (maxRetries + 1) t) := by
    apply (h.reaches_state here accepted).trans
    rintro t ⟨start, fresh⟩
    apply (reaches_reads failing start fresh maxRetries le_rfl).trans
    rintro t ⟨inside, reads⟩
    have busy : ¬ Idle (outcomes place .checkRaidState maxRetries) :=
      fun idle => failing maxRetries le_rfl idle.1
    have next := waiting_last none busy
    rw [if_neg (failing maxRetries le_rfl), if_neg (by simp)] at next
    refine ⟨1, ?_, ?_⟩
    · exact inside.step next
    · exact (reads.mono (Nat.le_succ _)).step inside fun _ => Nat.lt_succ_self _
  obtain ⟨n, inside, reads⟩ := judged
  obtain ⟨device, -, news⟩ := inside.performed outcomes
  have early := waits (n + 1)
  rw [Function.iterate_succ_apply', news] at early
  obtain ⟨request, read, order, -, ⟨same, method, idle⟩⟩ := early _ _ [] rfl rfl
  have mem : read ∈ ((Progress.step outcomes)^[n] p).performed := order.subset (by simp)
  exact failing read.attempt (Nat.le_of_lt_succ (reads read mem same method)) idle.1

end Needed

section Law

variable {outcomes : Outcomes} {s : Sensor} {content : List Text}

theorem begin_opens : Opens (getDevices content) 0 (.begin s content) :=
  ⟨rfl, rfl, rfl, nofun⟩

/-- Where every turn comes to its end, the round reaches every place. -/
theorem reaches_opens
    (completes : ∀ place, place + 1 < (getDevices content).length → Completes outcomes place)
    (readable : ∀ place < (getDevices content).length, Readable outcomes place) (place : Nat)
    (here : place < (getDevices content).length) :
    Reaches (Progress.step outcomes) (.begin s content) (Opens (getDevices content) place) := by
  induction place with
  | zero => exact .refl begin_opens
  | succ place ih =>
      have before : place < (getDevices content).length := by omega
      apply (ih before).trans
      intro t opens
      exact opens.reaches_next before (completes place here) (readable place before)

theorem RoundLaw.readable (law : RoundLaw outcomes s content) {place : Nat}
    (here : place < (getDevices content).length)
    (reached : Reaches (Progress.step outcomes) (.begin s content)
      (Opens (getDevices content) place)) : Readable outcomes place := by
  obtain ⟨n, opens⟩ := reached
  apply opens.readable here
  intro m
  rw [← Function.iterate_add_apply]
  exact law.waits (m + n)

theorem RoundLaw.completes (law : RoundLaw outcomes s content) {place : Nat}
    (more : place + 1 < (getDevices content).length)
    (reached : Reaches (Progress.step outcomes) (.begin s content)
      (Opens (getDevices content) place)) : Completes outcomes place := by
  have here : place < (getDevices content).length := by omega
  have readable := law.readable here reached
  obtain ⟨m, done, mem, later, -⟩ :=
    law.covers (place + 1) _ (List.getElem?_eq_getElem more)
  have beyond : Beyond outcomes place (.begin s content) := ⟨m, done, mem, by omega⟩
  obtain ⟨n, opens⟩ := reached
  exact opens.completes here (beyond.later n) readable

theorem RoundLaw.reaches (law : RoundLaw outcomes s content) (place : Nat)
    (here : place < (getDevices content).length) :
    Reaches (Progress.step outcomes) (.begin s content) (Opens (getDevices content) place) := by
  induction place with
  | zero => exact .refl begin_opens
  | succ place ih =>
      have before : place < (getDevices content).length := by omega
      have reached := ih before
      have completes := law.completes here reached
      have readable := law.readable before reached
      apply reached.trans
      intro t opens
      exact opens.reaches_next before completes readable

/-- A round covers all arrays and judges none too early exactly if the turn of each array but the
last comes to its end, and the state of each array can be read once its check was accepted. -/
theorem round_law_iff : RoundLaw outcomes s content ↔
    (∀ place, place + 1 < (getDevices content).length → Completes outcomes place) ∧
    ∀ place < (getDevices content).length, Readable outcomes place := by
  constructor
  · intro law
    refine ⟨fun place more => ?_, fun place here => ?_⟩
    · exact law.completes more (law.reaches place (by omega))
    · exact law.readable here (law.reaches place here)
  · rintro ⟨completes, readable⟩
    refine ⟨fun place device known => ?_, begin_opens.waits rfl readable⟩
    obtain ⟨here, -⟩ := List.getElem?_eq_some_iff.mp known
    obtain ⟨n, opens⟩ := reaches_opens (s := s) completes readable place here
    obtain ⟨device', known', news⟩ := (opens.at here).performed outcomes
    cases known.symm.trans known'
    refine ⟨n + 1, ⟨place, device, .updateRaidDeviceFile, 0⟩, ?_, rfl, rfl, rfl⟩
    rw [Function.iterate_succ_apply', news]
    exact List.mem_append_right _ (.head _)

end Law

/-- The state of the array can never be read; everything else succeeds. -/
def unreadable : Outcomes
  | _, .updateRaidDeviceFile, _ => ⟨[], []⟩
  | _, .checkRaidState, _ => ⟨[], "Permission denied".toList⟩
  | _, .checkMismatchCount, _ => ⟨"0".toList, []⟩

/-- The state of the array cannot be read once its check was accepted: after eleven attempts it is
judged all the same. -/
theorem round_law_broken :
    ¬ RoundLaw unreadable start ["md0 : active raid1 sdb1[1] sda1[0]".toList] := by
  intro law
  have judged : ((Progress.step unreadable)^[13]
      (.begin start ["md0 : active raid1 sdb1[1] sda1[0]".toList])).performed =
      ⟨0, "md0".toList, .updateRaidDeviceFile, 0⟩ ::
        (List.range 11).map (⟨0, "md0".toList, .checkRaidState, ·⟩) ++
        [⟨0, "md0".toList, .checkMismatchCount, 0⟩] := by
    decide +kernel
  have early := law.waits 13
  rw [judged] at early
  obtain ⟨request, read, -, -, ⟨-, -, idle⟩⟩ := early _ _ [] rfl rfl
  exact absurd idle.1 (by simp [unreadable])

end Integrity

end Raid

end Sspl

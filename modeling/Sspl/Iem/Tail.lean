import Mathlib.Data.List.Nodup
import Mathlib.Data.List.Perm.Subperm
import Sspl.Foundation.System
import Sspl.Iem.Message

/-!
# Following the IEM log

The sensor reads the log line by line through a file that it keeps open, and writes the time
stamp of each line to a file of its own when it is done with the line. Every ten seconds `run`
opens the log anew and passes over the lines whose time stamp is not later than the recorded
one; `_read_iem`, which has a schedule of its own, goes on where the file was left.

The log grows by whole lines. It is rotated by truncation (`copytruncate`), after which the
daemon gets a signal and the sensor opens the log again, unless it is in one of its loops and
holds the lock. A file that was opened before the truncation keeps its position.
-/

namespace Sspl

namespace Iem

namespace Tail

/-- The text of these lines in the log. -/
def render (lines : List Text) : Text := lines.flatMap (· ++ ['\n'])

/-- The next line of the text from a position on, and the position after it. -/
def readline (contents : Text) (position : Nat) : Option (Text × Nat) :=
  let rest := contents.drop position
  let line := rest.takeWhile (· ≠ '\n')
  if rest = [] then none
  else some (line, position + if '\n' ∈ rest then line.length + 1 else line.length)

/-- The two loops over the log: the one of `run`, with the time stamp it has read, and the one
of `_read_iem`. -/
inductive Loop
  | run (last : Text)
  | read
  deriving DecidableEq

inductive Stage
  | off
  | waiting
  /-- `run` has opened the log, and is going to read the time stamp. -/
  | opened
  | reading (loop : Loop)
  /-- The loop of `run` has come to the end, and `_read_iem` follows. -/
  | scanned
  /-- This line is going to be processed. -/
  | processing (loop : Loop) (line : Text)
  /-- The message is sent, and the time stamp file is going to be opened; it is empty at
  `writing`. -/
  | stamping (loop : Loop) (timestamp : Text)
  | writing (loop : Loop) (timestamp : Text)
  /-- An exception has ended the thread of the sensor. -/
  | failed
  deriving DecidableEq

/-- The log and the time stamp file, the position of the sensor in the log and the point of its
loop, with what was written and forwarded so far. -/
structure State where
  /-- The lines of the log since the last rotation. -/
  lines : List Text
  /-- All lines that were ever appended. -/
  written : List Text
  timestampFile : Text
  /-- The position in the open log. -/
  iemLogs : Option Nat
  /-- The log was truncated since it was opened, and the position was in the old text. -/
  stale : Bool
  stage : Stage
  /-- The lines that were processed. -/
  handled : List Text
  /-- The lines whose message was sent, with the message. -/
  forwarded : List (Text × Info)
  restarted : Bool

/-- Lines are appended and the log is rotated at any time; the sensor polls the log, line by
line. -/
inductive Action
  | append (line : Text)
  | rotate
  /-- `refresh_file`. -/
  | refresh
  | boot
  | run
  | readIem
  /-- The next step of the sensor in what it is doing. -/
  | advance
  | restart
  deriving DecidableEq

section

variable (env : Environment)

/-- The condition under which `run` processes a line. -/
def isNew (last : Text) (timestamp : Text) : Bool := last = [] || decide (last < timestamp)

/-- One iteration of a loop over the log. -/
def readNext (loop : Loop) (position : Nat) (s : State) : State :=
  match readline (render s.lines) position with
  | none =>
    match loop with
    | .run _ => { s with stage := .scanned }
    | .read => { s with stage := .waiting }
  | some (line, next) =>
    match loop with
    | .read => { s with iemLogs := some next, stage := .processing .read line }
    | .run last =>
      match logTimestamp (rstrip line) with
      | .error _ => { s with iemLogs := some next, stage := .failed }
      | .ok timestamp => { s with
          iemLogs := some next
          stage :=
            if isNew last timestamp then .processing (.run last) line else .reading (.run last) }

def advance (s : State) : Option State :=
  match s.stage with
  | .off | .waiting | .failed => none
  | .opened => some { s with stage := .reading (.run (strip s.timestampFile)) }
  | .reading loop => s.iemLogs.map fun position => readNext loop position s
  | .scanned => some { s with stage := .reading .read }
  | .processing loop line =>
    match processIem env (rstrip line) with
    | .error _ => some { s with stage := .failed }
    | .ok (message, timestamp) => some { s with
        handled := s.handled ++ [line]
        forwarded := s.forwarded ++ (message.map (line, ·)).toList
        stage := .stamping loop timestamp }
  | .stamping loop timestamp =>
    some { s with timestampFile := [], stage := .writing loop timestamp }
  | .writing loop timestamp =>
    some { s with timestampFile := timestamp, stage := .reading loop }

def State.isReading (s : State) : Bool :=
  match s.stage with
  | .reading _ => true
  | _ => false

/-- The lock of the log file is free. -/
def State.unlocked (s : State) : Prop :=
  s.stage = .waiting ∨ s.stage = .opened ∨ s.stage = .scanned ∨ s.stage = .failed ∨ s.stage = .off

instance (s : State) : Decidable s.unlocked :=
  inferInstanceAs (Decidable (_ ∨ _ ∨ _ ∨ _ ∨ _))

/-- The open file keeps its position when the log is truncated under it, and reads nothing until
the log is longer again or `refresh_file` opens it anew. -/
def next (s : State) : Action → Option State
  | .append line =>
    if '\n' ∈ line ∨ '\r' ∈ line then none
    else some { s with lines := s.lines ++ [line], written := s.written ++ [line] }
  | .rotate =>
    some { s with
      lines := [], stale := s.stale || decide (s.iemLogs ≠ none ∧ s.iemLogs ≠ some 0) }
  | .refresh =>
    if s.unlocked then
      if s.iemLogs = none then some s else some { s with iemLogs := some 0, stale := false }
    else none
  | .boot => if s.stage = .off then some { s with stage := .waiting } else none
  | .run =>
    if s.stage = .waiting then some { s with iemLogs := some 0, stale := false, stage := .opened }
    else none
  | .readIem =>
    if s.stage = .waiting ∧ s.iemLogs ≠ none then some { s with stage := .reading .read } else none
  | .advance => advance env s
  | .restart => some { s with iemLogs := none, stale := false, stage := .off, restarted := true }

/-- A node on which nothing was logged and the sensor has never run. -/
def start : State := ⟨[], [], [], none, false, .off, [], [], false⟩

/-- The log and the sensor over all processes of the daemon. The time stamp file outlives a
process. -/
def system : Transition.System State Action where
  init s := s = start
  next := next env

/-- The message that the line is to be forwarded as. -/
def messageOf (line : Text) : Option Info :=
  match processIem env (rstrip line) with
  | .ok (message, _) => message
  | .error _ => none

def WellFormed (line : Text) : Prop := (messageOf env line).isSome = true

/-- How often the line was forwarded. -/
def State.count (s : State) (line : Text) : Nat := (s.forwarded.map Prod.fst).count line

/-- The sensor goes on, every well-formed line is forwarded before it is lost and when the log is
read to its end, and none is forwarded twice in one process. -/
structure Conforms (s : State) : Prop where
  alive : s.stage ≠ .failed
  /-- A line is forwarded before it is lost with the log. -/
  kept : ∀ line ∈ s.written, WellFormed env line → 0 < s.count line ∨ line ∈ s.lines
  /-- When the sensor has read the log to its end, every line is forwarded. -/
  done : s.stage = .waiting → s.stale = false → s.iemLogs = some (render s.lines).length →
    ∀ line, WellFormed env line → s.written.count line ≤ s.count line
  /-- The next poll forwards what is left. -/
  polled : s.stage = .waiting → ∃ n t,
    (system env).run s (.run :: List.replicate n .advance) = some t ∧ t.stage = .waiting ∧
      ∀ line, WellFormed env line → s.written.count line ≤ t.count line
  once : s.restarted = false → ∀ line, s.count line ≤ s.written.count line

/-- The time stamp of a line that is processed without an exception. -/
def stampOf (line : Text) : Option Text :=
  match processIem env (rstrip line) with
  | .ok (_, timestamp) => some timestamp
  | .error _ => none

/-- The line does not raise, and its time stamp is later than those of all lines before it. -/
def Later (written : List Text) (line : Text) : Prop :=
  ∃ timestamp, stampOf env line = some timestamp ∧ strip timestamp = timestamp ∧
    timestamp ≠ [] ∧ ∀ before ∈ written, ∀ earlier, stampOf env before = some earlier →
      earlier < timestamp

/-- Lines come with later and later time stamps, the log is only rotated when all of it is
processed and, until a restart, only opened again when nothing of it is, and a file from before
the rotation is not read where the new log has text. -/
def Regular (s : State) : Action → Prop
  | .append line => Later env s.written line
  | .rotate => ∀ line ∈ s.lines, line ∈ s.handled
  | .refresh => s.restarted = false → s.stage = .waiting ∨ s.stage = .scanned →
    s.iemLogs ≠ none → ∀ line ∈ s.lines, line ∉ s.handled
  | .advance => s.stale = true → s.isReading = true → ∀ position ∈ s.iemLogs,
      (render s.lines).length ≤ position
  | _ => True

instance (written : List Text) (line : Text) : Decidable (Later env written line) :=
  match h : stampOf env line with
  | none => .isFalse fun later => by
      obtain ⟨_, some_, -⟩ := later
      cases h.symm.trans some_
  | some timestamp =>
    decidable_of_iff (strip timestamp = timestamp ∧ timestamp ≠ [] ∧
      ∀ before ∈ written, ∀ earlier ∈ stampOf env before, earlier < timestamp) (by
        constructor
        · exact fun later => ⟨timestamp, h, later⟩
        · rintro ⟨own, some_, later⟩
          cases h.symm.trans some_
          exact later)

instance (s : State) : (a : Action) → Decidable (Regular env s a)
  | .append line => inferInstanceAs (Decidable (Later env s.written line))
  | .rotate => inferInstanceAs (Decidable (∀ line ∈ s.lines, line ∈ s.handled))
  | .refresh => inferInstanceAs (Decidable (s.restarted = false →
      s.stage = .waiting ∨ s.stage = .scanned → s.iemLogs ≠ none →
        ∀ line ∈ s.lines, line ∉ s.handled))
  | .advance => inferInstanceAs (Decidable (s.stale = true → s.isReading = true →
      ∀ position ∈ s.iemLogs, (render s.lines).length ≤ position))
  | .boot | .run | .readIem | .restart => .isTrue trivial

end

@[simp] theorem render_nil : render [] = [] := rfl

theorem render_append (first second : List Text) :
    render (first ++ second) = render first ++ render second :=
  List.flatMap_append

theorem render_cons (line : Text) (rest : List Text) :
    render (line :: rest) = line ++ '\n' :: render rest := by
  simp [render]

theorem readline_end {contents : Text} {position : Nat} (h : contents.length ≤ position) :
    readline contents position = none := by
  unfold readline
  rw [List.drop_eq_nil_of_le h]
  rfl

/-- After some whole lines of the log, the next line is read. -/
theorem readline_render {passed ahead : List Text} {line : Text} (plain : '\n' ∉ line) :
    readline (render (passed ++ line :: ahead)) (render passed).length =
      some (line, (render (passed ++ [line])).length) := by
  have rest : (render (passed ++ line :: ahead)).drop (render passed).length =
      line ++ '\n' :: render ahead := by
    rw [render_append, List.drop_left, render_cons]
  have taken : (line ++ '\n' :: render ahead).takeWhile (· ≠ '\n') = line := by
    rw [List.takeWhile_append_of_pos, List.takeWhile_cons_of_neg (by simp), List.append_nil]
    intro c mem
    simp only [ne_eq, decide_eq_true_eq]
    rintro rfl
    exact plain mem
  unfold readline
  rw [rest]
  dsimp only
  rw [taken, if_neg (by simp), if_pos (by simp), render_append, render_cons]
  simp

theorem render_length_pos {line : Text} {rest : List Text} :
    0 < (render (line :: rest)).length := by
  rw [render_cons, List.length_append, List.length_cons]
  omega

section Runs

variable {env : Environment} {s t : State} {a : Action} {line : Text}

/-- The time stamp of a line, if it has one. -/
def stamp (env : Environment) (line : Text) : Text := (stampOf env line).getD []

theorem logTimestamp_of_stampOf {timestamp : Text} (h : stampOf env line = some timestamp) :
    ∃ message, processIem env (rstrip line) = .ok (message, timestamp) ∧
      logTimestamp (rstrip line) = .ok timestamp := by
  unfold stampOf at h
  split at h
  · rename_i message found processed
    cases h
    refine ⟨message, processed, ?_⟩
    obtain ⟨first, stamped, rest⟩ := bind_eq_ok.mp processed
    obtain ⟨iem, -, rest⟩ := bind_eq_ok.mp rest
    obtain ⟨components, -, rest⟩ := bind_eq_ok.mp rest
    rw [stamped]
    split at rest
    · obtain ⟨sent, -, rest⟩ := bind_eq_ok.mp rest
      cases rest
      rfl
    · cases rest
      rfl
  · cases h

/-- The ways a step can be taken. -/
inductive Step (env : Environment) (s : State) : Action → State → Prop
  | append (line : Text) (plain : '\n' ∉ line) :
      Step env s (.append line)
        { s with lines := s.lines ++ [line], written := s.written ++ [line] }
  | rotate :
      Step env s .rotate { s with
        lines := [], stale := s.stale || decide (s.iemLogs ≠ none ∧ s.iemLogs ≠ some 0) }
  | refresh (unlocked : s.unlocked) (opened : s.iemLogs ≠ none) :
      Step env s .refresh { s with iemLogs := some 0, stale := false }
  | closed : Step env s .refresh s
  | boot (stage : s.stage = .off) : Step env s .boot { s with stage := .waiting }
  | run (stage : s.stage = .waiting) :
      Step env s .run { s with iemLogs := some 0, stale := false, stage := .opened }
  | readIem (stage : s.stage = .waiting) : Step env s .readIem { s with stage := .reading .read }
  | opened (stage : s.stage = .opened) :
      Step env s .advance { s with stage := .reading (.run (strip s.timestampFile)) }
  | ended (loop : Loop) (position : Nat) (after : Stage) (stage : s.stage = .reading loop)
      (opened : s.iemLogs = some position) (atEnd : readline (render s.lines) position = none)
      (follows : after = .waiting ∧ loop = .read ∨ after = .scanned ∧ ∃ last, loop = .run last) :
      Step env s .advance { s with stage := after }
  | scanned (stage : s.stage = .scanned) :
      Step env s .advance { s with stage := .reading .read }
  | took (loop : Loop) (position : Nat) (line : Text) (after : Nat)
      (stage : s.stage = .reading loop) (opened : s.iemLogs = some position)
      (next : readline (render s.lines) position = some (line, after))
      (new : loop = .read ∨ ∃ last timestamp, loop = .run last ∧
        logTimestamp (rstrip line) = .ok timestamp ∧ isNew last timestamp = true) :
      Step env s .advance { s with iemLogs := some after, stage := .processing loop line }
  | passed (last timestamp : Text) (position : Nat) (line : Text) (after : Nat)
      (stage : s.stage = .reading (.run last)) (opened : s.iemLogs = some position)
      (next : readline (render s.lines) position = some (line, after))
      (stamped : logTimestamp (rstrip line) = .ok timestamp)
      (known : isNew last timestamp = false) :
      Step env s .advance { s with iemLogs := some after, stage := .reading (.run last) }
  | raised (loop : Loop) (position : Nat) (line : Text) (after : Nat) (err : PyErr)
      (stage : s.stage = .reading loop) (opened : s.iemLogs = some position)
      (next : readline (render s.lines) position = some (line, after))
      (unstamped : logTimestamp (rstrip line) = .error err) :
      Step env s .advance { s with iemLogs := some after, stage := .failed }
  | broken (loop : Loop) (line : Text) (err : PyErr) (stage : s.stage = .processing loop line)
      (processed : processIem env (rstrip line) = .error err) :
      Step env s .advance { s with stage := .failed }
  | process (loop : Loop) (line : Text) (message : Option Info) (timestamp : Text)
      (stage : s.stage = .processing loop line)
      (processed : processIem env (rstrip line) = .ok (message, timestamp)) :
      Step env s .advance { s with
        handled := s.handled ++ [line]
        forwarded := s.forwarded ++ (message.map (line, ·)).toList
        stage := .stamping loop timestamp }
  | stamp (loop : Loop) (timestamp : Text) (stage : s.stage = .stamping loop timestamp) :
      Step env s .advance { s with timestampFile := [], stage := .writing loop timestamp }
  | write (loop : Loop) (timestamp : Text) (stage : s.stage = .writing loop timestamp) :
      Step env s .advance { s with timestampFile := timestamp, stage := .reading loop }
  | restart :
      Step env s .restart
        { s with iemLogs := none, stale := false, stage := .off, restarted := true }

theorem readNext_cases {loop : Loop} {position : Nat} (stage : s.stage = .reading loop)
    (opened : s.iemLogs = some position) : Step env s .advance (readNext loop position s) := by
  unfold readNext
  split
  · split
    · exact .ended _ _ _ stage opened ‹_› (.inr ⟨rfl, _, rfl⟩)
    · exact .ended _ _ _ stage opened ‹_› (.inl ⟨rfl, rfl⟩)
  · split
    · exact .took _ _ _ _ stage opened ‹_› (.inl rfl)
    · split
      · exact .raised _ _ _ _ _ stage opened ‹_› ‹_›
      · split
        · exact .took _ _ _ _ stage opened ‹_› (.inr ⟨_, _, rfl, ‹_›, ‹_›⟩)
        · exact .passed _ _ _ _ _ stage opened ‹_› ‹_› (Bool.eq_false_iff.mpr ‹_›)

theorem next_cases (step : next env s a = some t) : Step env s a t := by
  unfold next at step
  split at step
  · split at step
    · cases step
    · rename_i plain
      cases step
      exact .append _ (not_or.mp plain).1
  · cases step
    exact .rotate
  · split at step
    · split at step
      · cases step
        exact .closed
      · cases step
        exact .refresh ‹_› ‹_›
    · cases step
  · split at step
    · cases step
      exact .boot ‹_›
    · cases step
  · split at step
    · cases step
      exact .run ‹_›
    · cases step
  · split at step
    · cases step
      exact .readIem (And.left ‹_›)
    · cases step
  · unfold advance at step
    split at step
    · cases step
    · cases step
    · cases step
    · cases step
      exact .opened ‹_›
    · obtain ⟨position, opened, same⟩ := Option.map_eq_some_iff.mp step
      cases same
      exact readNext_cases ‹_› opened
    · cases step
      exact .scanned ‹_›
    · split at step
      · cases step
        exact .broken _ _ _ ‹_› ‹_›
      · cases step
        exact .process _ _ _ _ ‹_› ‹_›
    · cases step
      exact .stamp _ _ ‹_›
    · cases step
      exact .write _ _ ‹_›
  · cases step
    exact .restart

/-- The lines that were written, with later and later time stamps. -/
structure Log (env : Environment) (written : List Text) : Prop where
  plain : ∀ line ∈ written, '\n' ∉ line
  stamped : ∀ line ∈ written, stampOf env line = some (stamp env line) ∧
    strip (stamp env line) = stamp env line ∧ stamp env line ≠ []
  sorted : written.Pairwise fun a b => stamp env a < stamp env b

/-- The text is empty, or the time stamp of a line that was processed. -/
def Recorded (env : Environment) (handled : List Text) (timestamp : Text) : Prop :=
  timestamp = [] ∨ ∃ line ∈ handled, timestamp = stamp env line

def Loop.Recorded (env : Environment) (handled : List Text) : Loop → Prop
  | .run last => Tail.Recorded env handled last
  | .read => True

/-- What is known at each stage. -/
def Staged (env : Environment) (s : State) : Prop :=
  match s.stage with
  | .reading loop => loop.Recorded env s.handled
  | .processing loop line => loop.Recorded env s.handled ∧ line ∈ s.written ∧
      ∀ before ∈ s.written, stamp env before < stamp env line → before ∈ s.handled
  | .stamping loop timestamp | .writing loop timestamp =>
    loop.Recorded env s.handled ∧ ∃ line ∈ s.handled, timestamp = stamp env line
  | .off => s.iemLogs = none
  | .failed => False
  | _ => True

def Loop.PassesOver (env : Environment) (line : Text) : Loop → Prop
  | .run last => last ≠ [] ∧ ¬ last < stamp env line
  | .read => False

/-- A line that was processed is passed over in what is left of the loop. -/
def PassedOver (env : Environment) (stage : Stage) (line : Text) : Prop :=
  match stage with
  | .opened => True
  | .reading loop | .processing loop _ | .stamping loop _ | .writing loop _ =>
    loop.PassesOver env line
  | _ => False

/-- The lines before and after the position in the log. -/
structure Position (env : Environment) (s : State) (position : Nat) (passed ahead : List Text) :
    Prop where
  lines : s.lines = passed ++ ahead
  position : position = (render passed).length
  done : ∀ line ∈ passed, line ∈ s.handled ∨ ∃ loop, s.stage = .processing loop line
  current : ∀ loop line, s.stage = .processing loop line → line ∈ passed
  rest : s.restarted = false → ∀ line ∈ ahead, line ∈ s.handled → PassedOver env s.stage line

/-- The invariant of the runs whose steps are regular. -/
structure Invariant (env : Environment) (s : State) : Prop extends Log env s.written where
  suffix : s.lines <:+ s.written
  subset : ∀ line ∈ s.handled, line ∈ s.written
  /-- The lines that are not processed are later than those that are. -/
  closed : ∀ line ∈ s.handled, ∀ other ∈ s.written, ¬ stamp env line < stamp env other →
    other ∈ s.handled
  gone : ∀ line ∈ s.written, line ∉ s.lines → line ∈ s.handled
  sent : s.forwarded.map Prod.fst = s.handled.filter fun line => (messageOf env line).isSome
  recorded : Recorded env s.handled s.timestampFile
  position : s.stale = false → ∀ position, s.iemLogs = some position →
    ∃ passed ahead, Position env s position passed ahead
  staged : Staged env s

/-- All lines that were processed have this time stamp or an earlier one. -/
def Latest (env : Environment) (handled : List Text) (timestamp : Text) : Prop :=
  ∀ line ∈ handled, timestamp ≠ [] ∧ ¬ timestamp < stamp env line

/-- The invariant of the runs without a restart. -/
structure Once (env : Environment) (s : State) : Prop where
  nodup : s.handled.Nodup
  latest : match s.stage with
    | .stamping _ timestamp | .writing _ timestamp => Latest env s.handled timestamp
    | _ => Latest env s.handled s.timestampFile
  fresh : s.stale = true → ∀ line ∈ s.lines, line ∉ s.handled
  current : ∀ loop line, s.stage = .processing loop line → line ∉ s.handled ∧ s.stale = false ∧
    line ∈ s.lines

namespace Log

variable {written : List Text} {other : Text}

theorem compare (h : Log env written) (mem : line ∈ written) (mem' : other ∈ written) :
    line = other ∨ stamp env line < stamp env other ∨ stamp env other < stamp env line := by
  have sorted := h.sorted
  clear h
  induction written with
  | nil => cases mem
  | cons first rest ih =>
      obtain ⟨before, sorted⟩ := List.pairwise_cons.mp sorted
      obtain rfl | later := List.mem_cons.mp mem
      · obtain rfl | later' := List.mem_cons.mp mem'
        · exact .inl rfl
        · exact .inr (.inl (before _ later'))
      · obtain rfl | later' := List.mem_cons.mp mem'
        · exact .inr (.inr (before _ later))
        · exact ih later later' sorted

theorem nodup (h : Log env written) : written.Nodup := by
  refine h.sorted.imp ?_
  rintro a b before rfl
  exact List.lt_irrefl _ before

theorem append (h : Log env written) (plain : '\n' ∉ line) (later : Later env written line) :
    Log env (written ++ [line]) ∧ ∀ before ∈ written, stamp env before < stamp env line := by
  obtain ⟨timestamp, stamped, stripped, nonempty, after⟩ := later
  have own : stamp env line = timestamp := by
    rw [stamp, stamped]
    rfl
  have latest : ∀ before ∈ written, stamp env before < stamp env line := by
    intro before mem
    rw [own]
    exact after before mem _ (h.stamped before mem).1
  refine ⟨⟨?_, ?_, ?_⟩, latest⟩
  · intro other mem
    obtain mem | new := List.mem_append.mp mem
    · exact h.plain other mem
    · rwa [List.mem_singleton.mp new]
  · intro other mem
    obtain mem | new := List.mem_append.mp mem
    · exact h.stamped other mem
    · rw [List.mem_singleton.mp new, own]
      exact ⟨stamped, stripped, nonempty⟩
  · refine List.pairwise_append.mpr ⟨h.sorted, List.pairwise_singleton _ _, ?_⟩
    intro before mem new among
    rw [List.mem_singleton.mp among]
    exact latest before mem

end Log

theorem Recorded.mono {handled more : List Text} {timestamp : Text}
    (h : Recorded env handled timestamp) (subset : ∀ line ∈ handled, line ∈ more) :
    Recorded env more timestamp :=
  h.imp id fun ⟨line, mem, same⟩ => ⟨line, subset line mem, same⟩

theorem Loop.Recorded.mono {handled more : List Text} {loop : Loop}
    (h : loop.Recorded env handled) (subset : ∀ line ∈ handled, line ∈ more) :
    loop.Recorded env more := by
  cases loop with
  | run last => exact Tail.Recorded.mono h subset
  | read => trivial

theorem stamp_of_processed {message : Option Info} {timestamp : Text}
    (h : processIem env (rstrip line) = .ok (message, timestamp)) : timestamp = stamp env line := by
  rw [stamp, stampOf, h]
  rfl

/-- A line that `run` passes over was processed. -/
theorem Invariant.known (h : Invariant env s) {last timestamp : Text} (mem : line ∈ s.written)
    (recorded : Recorded env s.handled last)
    (stamped : logTimestamp (rstrip line) = .ok timestamp)
    (old : isNew last timestamp = false) :
    line ∈ s.handled ∧ last ≠ [] ∧ ¬ last < stamp env line := by
  have own : timestamp = stamp env line := by
    obtain ⟨message, -, same⟩ := logTimestamp_of_stampOf (h.stamped line mem).1
    rw [stamped] at same
    exact Except.ok.inj same
  simp only [isNew, Bool.or_eq_false_iff, decide_eq_false_iff_not] at old
  obtain ⟨nonempty, notLater⟩ := old
  rw [own] at notLater
  obtain empty | ⟨processed, among, rfl⟩ := recorded
  · exact absurd empty nonempty
  · exact ⟨h.closed processed among line mem notLater, nonempty, notLater⟩

/-- The next line in the log: all lines with earlier time stamps are processed. -/
theorem Invariant.before_next (h : Invariant env s) {passed ahead : List Text}
    (lines : s.lines = passed ++ line :: ahead) (done : ∀ line ∈ passed, line ∈ s.handled)
    {before : Text} (mem : before ∈ s.written)
    (earlier : stamp env before < stamp env line) : before ∈ s.handled := by
  by_cases among : before ∈ s.lines
  · have sorted : s.lines.Pairwise fun a b => stamp env a < stamp env b :=
      h.sorted.sublist h.suffix.sublist
    rw [lines] at among sorted
    obtain ⟨-, sorted, -⟩ := List.pairwise_append.mp sorted
    obtain among | among := List.mem_append.mp among
    · exact done before among
    · obtain rfl | among := List.mem_cons.mp among
      · exact absurd earlier (List.lt_irrefl _)
      · have later := (List.pairwise_cons.mp sorted).1 before among
        exact absurd later (List.lt_asymm earlier)
  · exact h.gone before mem among

theorem Position.ahead_of_some {position after : Nat} {passed ahead : List Text}
    (h : Position env s position passed ahead) (log : Log env s.written)
    (suffix : s.lines <:+ s.written)
    (next : readline (render s.lines) position = some (line, after)) :
    ∃ rest, ahead = line :: rest ∧ after = (render (passed ++ [line])).length := by
  cases ahead with
  | nil =>
      have atEnd := h.position
      rw [h.lines, List.append_nil, atEnd, readline_end le_rfl] at next
      cases next
  | cons first rest =>
      have plain : '\n' ∉ first := by
        refine log.plain first (suffix.subset ?_)
        rw [h.lines]
        simp
      rw [h.lines, h.position, readline_render plain] at next
      cases next
      exact ⟨rest, rfl, rfl⟩

theorem Position.ahead_of_none {position : Nat} {passed ahead : List Text}
    (h : Position env s position passed ahead) (log : Log env s.written)
    (suffix : s.lines <:+ s.written) (next : readline (render s.lines) position = none) :
    ahead = [] := by
  cases ahead with
  | nil => rfl
  | cons first rest =>
      have plain : '\n' ∉ first := by
        refine log.plain first (suffix.subset ?_)
        rw [h.lines]
        simp
      rw [h.lines, h.position, readline_render plain] at next
      cases next

/-- What a loop reads is the next line of the log. -/
theorem Invariant.next_line (h : Invariant env s) {loop : Loop} {position after : Nat}
    (regular : Regular env s .advance) (stage : s.stage = .reading loop)
    (opened : s.iemLogs = some position)
    (next : readline (render s.lines) position = some (line, after)) :
    s.stale = false ∧ line ∈ s.written ∧ ∃ passed rest,
      Position env s position passed (line :: rest) ∧
      after = (render (passed ++ [line])).length ∧ ∀ line ∈ passed, line ∈ s.handled := by
  have current : s.stale = false := by
    by_contra stale
    have atEnd := regular (by simpa using stale) (by simp [State.isReading, stage]) position opened
    rw [readline_end atEnd] at next
    cases next
  obtain ⟨passed, ahead, known⟩ := h.position current position opened
  obtain ⟨rest, rfl, same⟩ := known.ahead_of_some h.toLog h.suffix next
  have mem : line ∈ s.written := by
    refine h.suffix.subset ?_
    rw [known.lines]
    simp
  refine ⟨current, mem, passed, rest, known, same, fun line mem => ?_⟩
  obtain handled | ⟨loop, processing⟩ := known.done line mem
  · exact handled
  · rw [stage] at processing
    cases processing

/-- A position that is known stays known in a stage that passes over the same lines. -/
theorem Position.staged {position : Nat} {passed ahead : List Text} {after : Stage} {file : Text}
    (h : Position env s position passed ahead)
    (before : ∀ loop line, s.stage ≠ .processing loop line)
    (later : ∀ loop line, after ≠ .processing loop line)
    (passing : s.restarted = false → ∀ line ∈ ahead, line ∈ s.handled →
      PassedOver env s.stage line → PassedOver env after line) :
    Position env { s with timestampFile := file, stage := after } position passed ahead where
  lines := h.lines
  position := h.position
  done line mem := .inl <| (h.done line mem).resolve_right fun ⟨loop, at_⟩ => before loop line at_
  current loop line at_ := absurd at_ (later loop line)
  rest unrestarted line mem handled :=
    passing unrestarted line mem handled (h.rest unrestarted line mem handled)

/-- The position after a line that was read. -/
theorem Position.read {position : Nat} {passed rest : List Text} {after : Stage}
    (h : Position env s position passed (line :: rest))
    (all : ∀ line ∈ passed, line ∈ s.handled)
    (own : line ∈ s.handled ∨ ∃ loop, after = .processing loop line)
    (current : ∀ loop other, after = .processing loop other → other = line)
    (passing : ∀ line, PassedOver env s.stage line → PassedOver env after line) (n : Nat)
    (same : n = (render (passed ++ [line])).length) :
    Position env { s with iemLogs := some n, stage := after } n (passed ++ [line]) rest where
  lines := by simpa using h.lines
  position := same
  done other mem := by
    obtain mem | mem := List.mem_append.mp mem
    · exact .inl (all other mem)
    · rw [List.mem_singleton.mp mem]
      exact own
  current loop other at_ := by simp [current loop other at_]
  rest unrestarted other mem handled :=
    passing other (h.rest unrestarted other (List.mem_cons_of_mem _ mem) handled)

theorem Invariant.append (h : Invariant env s) (plain : '\n' ∉ line)
    (later : Later env s.written line) :
    Invariant env { s with lines := s.lines ++ [line], written := s.written ++ [line] } := by
  obtain ⟨log, latest⟩ := h.toLog.append plain later
  have new : line ∉ s.written := by
    intro mem
    exact List.lt_irrefl _ (latest line mem)
  refine ⟨log, ?_, fun other mem => List.mem_append_left _ (h.subset other mem), ?_, ?_, h.sent,
    h.recorded, ?_, ?_⟩
  · obtain ⟨front, same⟩ := h.suffix
    exact ⟨front, by rw [← same, List.append_assoc]⟩
  · intro processed mem other among notLater
    obtain among | own := List.mem_append.mp among
    · exact h.closed processed mem other among notLater
    · rw [List.mem_singleton.mp own] at notLater
      exact absurd (latest processed (h.subset processed mem)) notLater
  · intro other mem absent
    obtain ⟨absent, different⟩ := not_or.mp (mt List.mem_append.mpr absent)
    obtain mem | own := List.mem_append.mp mem
    · exact h.gone other mem absent
    · exact absurd own different
  · intro current position opened
    obtain ⟨passed, ahead, known⟩ := h.position current position opened
    refine ⟨passed, ahead ++ [line], ?_, known.position, known.done, known.current, ?_⟩
    · rw [known.lines, List.append_assoc]
    · intro unrestarted other mem handled
      obtain mem | own := List.mem_append.mp mem
      · exact known.rest unrestarted other mem handled
      · rw [List.mem_singleton.mp own] at handled
        exact absurd (h.subset line handled) new
  · have staged := h.staged
    unfold Staged at staged ⊢
    dsimp only
    split at staged
    · exact staged
    · obtain ⟨last, mem, before⟩ := staged
      refine ⟨last, List.mem_append_left _ mem, fun other among earlier => ?_⟩
      obtain among | own := List.mem_append.mp among
      · exact before other among earlier
      · rw [List.mem_singleton.mp own] at earlier
        exact absurd (latest _ mem) (List.lt_asymm earlier)
    · exact staged
    · exact staged
    · exact staged
    · exact staged
    · trivial

theorem Invariant.process (h : Invariant env s) {loop : Loop} {message : Option Info}
    {timestamp : Text} (stage : s.stage = .processing loop line)
    (processed : processIem env (rstrip line) = .ok (message, timestamp)) :
    Invariant env { s with
      handled := s.handled ++ [line]
      forwarded := s.forwarded ++ (message.map (line, ·)).toList
      stage := .stamping loop timestamp } := by
  have staged := h.staged
  unfold Staged at staged
  rw [stage] at staged
  obtain ⟨last, mem, before⟩ := staged
  have more : ∀ other ∈ s.handled, other ∈ s.handled ++ [line] :=
    fun other mem => List.mem_append_left _ mem
  have own := stamp_of_processed processed
  refine ⟨h.toLog, h.suffix, ?_, ?_, fun other among absent => more _ (h.gone other among absent),
    ?_, h.recorded.mono more, ?_, ⟨last.mono more, line, by simp, own⟩⟩
  · intro other among
    obtain among | new := List.mem_append.mp among
    · exact h.subset other among
    · rwa [List.mem_singleton.mp new]
  · intro handled among other written notLater
    obtain among | new := List.mem_append.mp among
    · exact more _ (h.closed handled among other written notLater)
    · rw [List.mem_singleton.mp new] at notLater
      obtain rfl | earlier | later := h.compare written mem
      · simp
      · exact more _ (before other written earlier)
      · exact absurd later notLater
  · have sent : messageOf env line = message := by
      rw [messageOf, processed]
    rw [List.map_append, h.sent, List.filter_append]
    cases message with
    | none => simp [sent]
    | some info => simp [sent]
  · intro current position opened
    obtain ⟨passed, ahead, known⟩ := h.position current position opened
    refine ⟨passed, ahead, known.lines, known.position, fun other among => .inl ?_, ?_, ?_⟩
    · obtain handled | ⟨_, at_⟩ := known.done other among
      · exact more _ handled
      · cases stage.symm.trans at_
        simp
    · intro _ _ at_
      cases at_
    · intro unrestarted other among handled
      obtain handled | new := List.mem_append.mp handled
      · have passing := known.rest unrestarted other among handled
        rw [stage] at passing
        exact passing
      · have distinct : s.lines.Nodup := h.nodup.sublist h.suffix.sublist
        rw [known.lines, List.nodup_append] at distinct
        rw [List.mem_singleton.mp new] at among
        exact absurd rfl (distinct.2.2 line (known.current _ _ stage) line among)

theorem Invariant.rotate (h : Invariant env s) (all : ∀ line ∈ s.lines, line ∈ s.handled) :
    Invariant env { s with
      lines := [], stale := s.stale || decide (s.iemLogs ≠ none ∧ s.iemLogs ≠ some 0) } := by
  refine { h with
    suffix := List.nil_suffix
    gone := fun line mem _ => ?_
    position := ?_
    staged := h.staged }
  · by_cases among : line ∈ s.lines
    · exact all line among
    · exact h.gone line mem among
  · intro current position opened
    dsimp only at current opened
    simp only [opened, Bool.or_eq_false_iff, decide_eq_false_iff_not] at current
    obtain ⟨fresh, start⟩ := current
    have zero : position = 0 := by simpa using start
    obtain ⟨passed, ahead, known⟩ := h.position fresh position opened
    refine ⟨[], [], rfl, zero, by simp, fun loop line at_ => ?_, by simp⟩
    have mem := known.current loop line at_
    have nothing := known.position
    cases passed with
    | nil => exact mem
    | cons first rest =>
        have := @render_length_pos first rest
        omega

/-- Where the sensor is while the lock is free and the log was opened. -/
theorem Invariant.unlocked (h : Invariant env s) (unlocked : s.unlocked)
    (opened : s.iemLogs ≠ none) :
    (s.stage = .waiting ∨ s.stage = .scanned) ∨ s.stage = .opened := by
  have staged := h.staged
  unfold Staged at staged
  obtain stage | stage | stage | stage | stage := unlocked
  · exact .inl (.inl stage)
  · exact .inr stage
  · exact .inl (.inr stage)
  · rw [stage] at staged
    exact staged.elim
  · rw [stage] at staged
    exact absurd staged opened

theorem Invariant.refresh (h : Invariant env s) (unlocked : s.unlocked) (opened : s.iemLogs ≠ none)
    (regular : Regular env s .refresh) :
    Invariant env { s with iemLogs := some 0, stale := false } := by
  have stage := h.unlocked unlocked opened
  refine { h with position := ?_, staged := ?_ }
  · intro _ position opened'
    cases opened'
    refine ⟨[], s.lines, rfl, rfl, by simp, fun loop line at_ => ?_, ?_⟩
    · obtain (idle | idle) | idle := stage <;> cases idle.symm.trans at_
    · intro unrestarted line mem handled
      obtain idle | reading := stage
      · exact absurd handled (regular unrestarted idle opened line mem)
      · simp [PassedOver, reading]
  · obtain (idle | idle) | idle := stage <;> simp [Staged, idle]

/-- A step that only moves on to a stage which passes over the same lines. -/
theorem Invariant.move {after : Stage} {file : Text} (h : Invariant env s)
    (recorded : Recorded env s.handled file) (before : ∀ loop line, s.stage ≠ .processing loop line)
    (later : ∀ loop line, after ≠ .processing loop line)
    (passing : s.restarted = false → ∀ line ∈ s.handled,
      PassedOver env s.stage line → PassedOver env after line)
    (staged : Staged env { s with stage := after }) :
    Invariant env { s with timestampFile := file, stage := after } := by
  refine { h with recorded := recorded, position := ?_, staged := staged }
  intro current position opened
  obtain ⟨passed, ahead, known⟩ := h.position current position opened
  exact ⟨passed, ahead,
    known.staged before later fun unrestarted line _ => passing unrestarted line⟩

theorem Invariant.opened (h : Invariant env s) (once : s.restarted = false → Once env s)
    (stage : s.stage = .opened) :
    Invariant env { s with stage := .reading (.run (strip s.timestampFile)) } := by
  have same : strip s.timestampFile = s.timestampFile := by
    obtain empty | ⟨line, mem, own⟩ := h.recorded
    · rw [empty]
      rfl
    · rw [own]
      exact (h.stamped line (h.subset line mem)).2.1
  rw [same]
  refine h.move h.recorded (by simp [stage]) (by simp) ?_ h.recorded
  intro unrestarted line handled _
  have latest := (once unrestarted).latest
  rw [stage] at latest
  exact latest line handled

theorem Invariant.ended (h : Invariant env s) {loop : Loop} {position : Nat} {after : Stage}
    (stage : s.stage = .reading loop) (opened : s.iemLogs = some position)
    (atEnd : readline (render s.lines) position = none)
    (follows : after = .waiting ∨ after = .scanned) : Invariant env { s with stage := after } := by
  refine { h with position := ?_, staged := by obtain rfl | rfl := follows <;> trivial }
  intro current position' opened'
  cases opened.symm.trans opened'
  obtain ⟨passed, ahead, known⟩ := h.position current position opened
  have nothing := known.ahead_of_none h.toLog h.suffix atEnd
  refine ⟨passed, ahead, known.staged (by simp [stage]) ?_ (by simp [nothing])⟩
  obtain rfl | rfl := follows <;> simp

theorem Invariant.took (h : Invariant env s) {loop : Loop} {position after : Nat}
    (regular : Regular env s .advance) (stage : s.stage = .reading loop)
    (opened : s.iemLogs = some position)
    (next : readline (render s.lines) position = some (line, after)) :
    Invariant env { s with iemLogs := some after, stage := .processing loop line } := by
  have staged := h.staged
  unfold Staged at staged
  rw [stage] at staged
  obtain ⟨-, mem, passed, rest, known, same, all⟩ := h.next_line regular stage opened next
  refine { h with
    position := ?_
    staged := ⟨staged, mem, fun before mem earlier => h.before_next known.lines all mem earlier⟩ }
  intro _ position' opened'
  cases opened'
  refine ⟨_, _, known.read all (.inr ⟨loop, rfl⟩) ?_ ?_ _ same⟩
  · intro _ _ at_
    cases at_
    rfl
  · rw [stage]
    exact fun _ passing => passing

theorem Invariant.passed (h : Invariant env s) {last timestamp : Text} {position after : Nat}
    (regular : Regular env s .advance) (stage : s.stage = .reading (.run last))
    (opened : s.iemLogs = some position)
    (next : readline (render s.lines) position = some (line, after))
    (stamped : logTimestamp (rstrip line) = .ok timestamp) (old : isNew last timestamp = false) :
    Invariant env { s with iemLogs := some after, stage := .reading (.run last) } := by
  have staged := h.staged
  unfold Staged at staged
  rw [stage] at staged
  obtain ⟨-, mem, passed, rest, known, same, all⟩ := h.next_line regular stage opened next
  have handled := (h.known mem staged stamped old).1
  refine { h with position := ?_, staged := staged }
  intro _ position' opened'
  cases opened'
  refine ⟨_, _, known.read all (.inl handled) (by simp) ?_ _ same⟩
  rw [stage]
  exact fun _ passing => passing

theorem Invariant.step (h : Invariant env s) (once : s.restarted = false → Once env s)
    (regular : Regular env s a) (step : next env s a = some t) : Invariant env t := by
  have staged := h.staged
  unfold Staged at staged
  cases next_cases step with
  | append line plain => exact h.append plain regular
  | rotate => exact h.rotate regular
  | refresh unlocked opened => exact h.refresh unlocked opened regular
  | closed => exact h
  | boot stage =>
      rw [stage] at staged
      refine { h with position := ?_, staged := trivial }
      intro _ position opened
      cases staged.symm.trans opened
  | run stage =>
      refine { h with position := ?_, staged := trivial }
      intro _ position opened
      cases opened
      exact ⟨[], s.lines, rfl, rfl, by simp, by simp, fun _ _ _ _ => trivial⟩
  | readIem stage | scanned stage =>
      refine h.move h.recorded (by simp [stage]) (by simp) ?_ trivial
      simp [stage, PassedOver]
  | opened stage => exact h.opened once stage
  | ended loop position after stage opened atEnd follows =>
      exact h.ended stage opened atEnd (follows.imp And.left And.left)
  | took loop position line after stage opened next new => exact h.took regular stage opened next
  | passed last timestamp position line after stage opened next stamped old =>
      exact h.passed regular stage opened next stamped old
  | raised loop position line after err stage opened next unstamped =>
      obtain ⟨-, mem, -⟩ := h.next_line regular stage opened next
      obtain ⟨-, -, stamped⟩ := logTimestamp_of_stampOf (h.stamped line mem).1
      cases unstamped.symm.trans stamped
  | broken loop line err stage processed =>
      rw [stage] at staged
      obtain ⟨_, ok, -⟩ := logTimestamp_of_stampOf (h.stamped line staged.2.1).1
      cases processed.symm.trans ok
  | process loop line message timestamp stage processed => exact h.process stage processed
  | stamp loop timestamp stage =>
      rw [stage] at staged
      refine h.move (.inl rfl) (by simp [stage]) (by simp) ?_ staged
      rw [stage]
      exact fun _ _ _ passing => passing
  | write loop timestamp stage =>
      rw [stage] at staged
      refine h.move (.inr staged.2) (by simp [stage]) (by simp) ?_ staged.1
      rw [stage]
      exact fun _ _ _ passing => passing
  | restart =>
      refine { h with position := ?_, staged := rfl }
      intro _ position opened
      cases opened

/-- The line that a loop is going to process was not processed before. -/
theorem Invariant.unhandled (h : Invariant env s) (unrestarted : s.restarted = false)
    (regular : Regular env s .advance) {loop : Loop} {position after : Nat}
    (stage : s.stage = .reading loop) (opened : s.iemLogs = some position)
    (next : readline (render s.lines) position = some (line, after))
    (new : loop = .read ∨ ∃ last timestamp, loop = .run last ∧
      logTimestamp (rstrip line) = .ok timestamp ∧ isNew last timestamp = true) :
    line ∉ s.handled ∧ s.stale = false ∧ line ∈ s.lines := by
  obtain ⟨current, mem, passed, rest, known, -, -⟩ := h.next_line regular stage opened next
  refine ⟨fun handled => ?_, current, by rw [known.lines]; simp⟩
  have passing := known.rest unrestarted line (List.mem_cons_self ..) handled
  rw [stage] at passing
  obtain rfl | ⟨last, timestamp, rfl, stamped, later⟩ := new
  · exact passing
  · obtain ⟨message, -, same⟩ := logTimestamp_of_stampOf (h.stamped line mem).1
    cases stamped.symm.trans same
    obtain ⟨nonempty, notLater⟩ := passing
    simp [isNew, nonempty, notLater] at later

theorem Once.process (once : Once env s) (h : Invariant env s) {loop : Loop}
    {message : Option Info} {timestamp : Text} (stage : s.stage = .processing loop line)
    (processed : processIem env (rstrip line) = .ok (message, timestamp)) :
    Once env { s with
      handled := s.handled ++ [line]
      forwarded := s.forwarded ++ (message.map (line, ·)).toList
      stage := .stamping loop timestamp } := by
  obtain ⟨unhandled, current, -⟩ := once.current loop line stage
  have staged := h.staged
  unfold Staged at staged
  rw [stage] at staged
  obtain ⟨-, mem, -⟩ := staged
  have own := stamp_of_processed processed
  refine ⟨?_, ?_, by simp [current], by simp⟩
  · refine List.nodup_append.mpr ⟨once.nodup, List.nodup_singleton _, ?_⟩
    rintro other among _ own rfl
    rw [List.mem_singleton.mp own] at among
    exact unhandled among
  · intro other among
    rw [own]
    refine ⟨(h.stamped line mem).2.2, ?_⟩
    obtain among | same := List.mem_append.mp among
    · by_cases before : stamp env other < stamp env line
      · exact List.lt_asymm before
      · exact absurd (h.closed other among line mem before) unhandled
    · rw [List.mem_singleton.mp same]
      exact List.lt_irrefl _

theorem Once.step (once : Once env s) (h : Invariant env s) (after : Invariant env t)
    (unrestarted : t.restarted = false) (regular : Regular env s a)
    (step : next env s a = some t) : Once env t := by
  have latest := once.latest
  cases next_cases step with
  | append line plain =>
      have new : line ∉ s.handled := by
        intro handled
        exact List.lt_irrefl _ ((h.toLog.append plain regular).2 line (h.subset line handled))
      refine { once with fresh := ?_, current := ?_ }
      · intro stale other mem
        obtain mem | own := List.mem_append.mp mem
        · exact once.fresh stale other mem
        · rwa [List.mem_singleton.mp own]
      · intro loop other stage
        obtain ⟨unhandled, current, mem⟩ := once.current loop other stage
        exact ⟨unhandled, current, List.mem_append_left _ mem⟩
  | rotate =>
      refine { once with fresh := by simp, current := ?_ }
      intro loop line stage
      obtain ⟨unhandled, -, mem⟩ := once.current loop line stage
      exact absurd (regular line mem) unhandled
  | refresh unlocked opened =>
      refine { once with fresh := by simp, current := ?_ }
      intro loop line at_
      obtain stage | stage | stage | stage | stage := unlocked <;> cases stage.symm.trans at_
  | closed => exact once
  | run stage =>
      rw [stage] at latest
      exact { once with latest := latest, fresh := by simp, current := by simp }
  | boot stage | readIem stage | opened stage | scanned stage =>
      rw [stage] at latest
      exact { once with latest := latest, current := by simp }
  | ended loop position following stage opened atEnd follows =>
      rw [stage] at latest
      obtain ⟨rfl, -⟩ | ⟨rfl, -⟩ := follows <;>
        exact { once with latest := latest, current := by simp }
  | took loop position line following stage opened next new =>
      have fresh := h.unhandled unrestarted regular stage opened next new
      rw [stage] at latest
      refine { once with latest := latest, current := ?_ }
      intro _ _ at_
      cases at_
      exact fresh
  | passed last timestamp position line following stage opened next stamped known =>
      rw [stage] at latest
      exact { once with latest := latest, current := by simp }
  | raised | broken => exact after.staged.elim
  | process loop line message timestamp stage processed => exact once.process h stage processed
  | stamp loop timestamp stage | write loop timestamp stage =>
      rw [stage] at latest
      exact { once with latest := latest, current := by simp }
  | restart => cases unrestarted

theorem start_invariant : Invariant env start := by
  refine ⟨⟨?_, ?_, .nil⟩, List.suffix_refl _, ?_, ?_, ?_, rfl, .inl rfl, ?_, rfl⟩ <;> simp [start]

theorem start_once : Once env start := by
  refine ⟨.nil, ?_, ?_, ?_⟩ <;> simp [start, Latest]

theorem restarted_of_step (step : next env s a = some t) (unrestarted : t.restarted = false) :
    s.restarted = false := by
  cases next_cases step <;> first | exact unrestarted | cases unrestarted

/-- Both invariants, in the runs whose steps are regular. -/
def Kept (env : Environment) (s : State) : Prop :=
  Invariant env s ∧ (s.restarted = false → Once env s)

theorem Kept.step (h : Kept env s) (regular : Regular env s a) (step : next env s a = some t) :
    Kept env t := by
  obtain ⟨before, once⟩ := h
  have after := before.step once regular step
  refine ⟨after, fun unrestarted => ?_⟩
  exact (once (restarted_of_step step unrestarted)).step before after unrestarted regular step

theorem Position.ahead_of_end {passed ahead : List Text}
    (h : Position env s (render s.lines).length passed ahead) : ahead = [] := by
  have atEnd := h.position
  rw [h.lines, render_append, List.length_append] at atEnd
  cases ahead with
  | nil => rfl
  | cons first rest =>
      have := @render_length_pos first rest
      omega

theorem Invariant.count_eq (h : Invariant env s) (wellFormed : WellFormed env line) :
    s.count line = s.handled.count line := by
  rw [State.count, h.sent, List.count_filter]
  exact wellFormed

theorem Invariant.forwarded_of_end (h : Invariant env s) (stage : s.stage = .waiting)
    (current : s.stale = false) (opened : s.iemLogs = some (render s.lines).length)
    (wellFormed : WellFormed env line) : s.written.count line ≤ s.count line := by
  obtain ⟨passed, ahead, known⟩ := h.position current _ opened
  rw [h.count_eq wellFormed]
  by_cases mem : line ∈ s.written
  · have handled : line ∈ s.handled := by
      by_cases among : line ∈ s.lines
      · rw [known.lines, known.ahead_of_end, List.append_nil] at among
        exact (known.done line among).resolve_right (by simp [stage])
      · exact h.gone line mem among
    calc s.written.count line ≤ 1 := List.nodup_iff_count_le_one.mp h.nodup line
      _ ≤ s.handled.count line := List.count_pos_iff.mpr handled
  · rw [List.count_eq_zero_of_not_mem mem]
    exact Nat.zero_le _

theorem Invariant.further (h : Invariant env s) {loop : Loop} {position after : Nat}
    (regular : Regular env s .advance) (stage : s.stage = .reading loop)
    (opened : s.iemLogs = some position)
    (next : readline (render s.lines) position = some (line, after)) :
    position < after ∧ after ≤ (render s.lines).length := by
  obtain ⟨-, -, passed, rest, known, rfl, -⟩ := h.next_line regular stage opened next
  have longer := @render_length_pos line []
  have whole : (render s.lines).length =
      (render passed).length + (render [line]).length + (render rest).length := by
    rw [known.lines, List.append_cons, render_append, render_append]
    simp only [List.length_append]
  rw [known.position, whole, render_append, List.length_append]
  omega

def Loop.rank : Loop → Nat
  | .run _ => 3
  | .read => 1

/-- What a poll has left to do. -/
def State.left (s : State) : Nat :=
  5 * ((render s.lines).length - s.iemLogs.getD 0) +
    match s.stage with
    | .off | .waiting | .failed => 0
    | .scanned => 2
    | .opened => 4
    | .reading loop => loop.rank
    | .writing loop _ => loop.rank + 1
    | .stamping loop _ => loop.rank + 2
    | .processing loop _ => loop.rank + 3

/-- The states of a poll during which nothing else happens. -/
structure Polling (env : Environment) (written : List Text) (s : State) : Prop where
  kept : Kept env s
  current : s.stale = false
  opened : ∃ position, s.iemLogs = some position
  running : s.stage ≠ .off
  atEnd : s.stage = .waiting → s.iemLogs = some (render s.lines).length
  written : s.written = written

theorem Polling.enabled {written : List Text} (h : Polling env written s) :
    s.stage = .waiting ∨ ∃ t, next env s .advance = some t := by
  have staged := h.kept.1.staged
  obtain ⟨position, opened⟩ := h.opened
  unfold Staged at staged
  simp only [next, advance]
  cases stage : s.stage with
  | off => exact absurd stage h.running
  | waiting => exact .inl rfl
  | failed =>
      rw [stage] at staged
      exact staged.elim
  | reading loop => exact .inr ⟨_, by rw [opened]; rfl⟩
  | processing loop line =>
      dsimp only
      split
      · exact .inr ⟨_, rfl⟩
      · exact .inr ⟨_, rfl⟩
  | opened | scanned | stamping | writing => exact .inr ⟨_, rfl⟩

theorem Polling.lower {written : List Text} (h : Polling env written s) :
    s.stage = .waiting ∨
      ∃ t, next env s .advance = some t ∧ Polling env written t ∧ t.left < s.left := by
  refine h.enabled.imp id ?_
  rintro ⟨t, step⟩
  refine ⟨t, step, ?_⟩
  have regular : Regular env s .advance := by
    intro stale
    rw [h.current] at stale
    cases stale
  have kept := h.kept.step regular step
  obtain ⟨⟨before, -⟩, current, ⟨position, opened⟩, running, atEnd, written⟩ := h
  cases next_cases step with
  | opened stage =>
      refine ⟨⟨kept, current, ⟨position, opened⟩, by simp, by simp, written⟩, ?_⟩
      simp [State.left, stage, Loop.rank]
  | ended loop position' after stage opened' finished follows =>
      cases opened.symm.trans opened'
      obtain ⟨passed, ahead, known⟩ := before.position current position opened
      have reached : position = (render s.lines).length := by
        rw [known.lines, known.ahead_of_none before.toLog before.suffix finished, List.append_nil]
        exact known.position
      obtain ⟨rfl, rfl⟩ | ⟨rfl, last, rfl⟩ := follows
      · refine ⟨⟨kept, current, ⟨position, opened⟩, by simp, ?_, written⟩, ?_⟩
        · rw [← reached]
          exact fun _ => opened
        · simp [State.left, stage, Loop.rank]
      · refine ⟨⟨kept, current, ⟨position, opened⟩, by simp, by simp, written⟩, ?_⟩
        simp [State.left, stage, Loop.rank]
  | scanned stage =>
      refine ⟨⟨kept, current, ⟨position, opened⟩, by simp, by simp, written⟩, ?_⟩
      simp [State.left, stage, Loop.rank]
  | took loop position' line after stage opened' next new =>
      cases opened.symm.trans opened'
      have further := before.further regular stage opened next
      refine ⟨⟨kept, current, ⟨after, rfl⟩, by simp, by simp, written⟩, ?_⟩
      simp only [State.left, stage, opened, Option.getD_some]
      omega
  | passed last timestamp position' line after stage opened' next stamped known =>
      cases opened.symm.trans opened'
      have further := before.further regular stage opened next
      refine ⟨⟨kept, current, ⟨after, rfl⟩, by simp, by simp, written⟩, ?_⟩
      simp only [State.left, stage, opened, Option.getD_some]
      omega
  | raised | broken => exact kept.1.staged.elim
  | process loop line message timestamp stage processed =>
      refine ⟨⟨kept, current, ⟨position, opened⟩, by simp, by simp, written⟩, ?_⟩
      simp [State.left, stage]
  | stamp loop timestamp stage =>
      refine ⟨⟨kept, current, ⟨position, opened⟩, by simp, by simp, written⟩, ?_⟩
      simp [State.left, stage]
  | write loop timestamp stage =>
      refine ⟨⟨kept, current, ⟨position, opened⟩, by simp, by simp, written⟩, ?_⟩
      simp [State.left, stage]

/-- A poll with which nothing interferes comes to the end of the log. -/
theorem Kept.polled (h : Kept env s) (stage : s.stage = .waiting) : ∃ n t,
    (system env).run s (.run :: List.replicate n .advance) = some t ∧ t.stage = .waiting ∧
      ∀ line, WellFormed env line → s.written.count line ≤ t.count line := by
  have step : next env s .run =
      some { s with iemLogs := some 0, stale := false, stage := .opened } := by
    simp [next, stage]
  have polling : Polling env s.written
      { s with iemLogs := some 0, stale := false, stage := .opened } :=
    ⟨h.step (a := .run) trivial step, rfl, ⟨0, rfl⟩, by simp, by simp, rfl⟩
  obtain ⟨n, t, run, last, waiting⟩ := (system env).exists_run_replicate
    (I := Polling env s.written) (P := fun s => s.stage = .waiting) (a := .advance) State.left
    (fun _ => Polling.lower) polling
  refine ⟨n, t, ?_, waiting, fun line wellFormed => ?_⟩
  · rw [Transition.System.run]
    exact Option.bind_eq_some_iff.mpr ⟨_, step, run⟩
  · rw [← last.written]
    exact last.kept.1.forwarded_of_end waiting last.current (last.atEnd waiting) wellFormed

theorem Kept.conforms (h : Kept env s) : Conforms env s := by
  obtain ⟨known, once⟩ := h
  refine ⟨fun stage => ?_, fun line mem wellFormed => ?_,
    fun stage current opened line => known.forwarded_of_end stage current opened,
    Kept.polled ⟨known, once⟩, fun unrestarted line => ?_⟩
  · have staged := known.staged
    unfold Staged at staged
    rwa [stage] at staged
  · by_cases among : line ∈ s.lines
    · exact .inr among
    · rw [known.count_eq wellFormed]
      exact .inl (List.count_pos_iff.mpr (known.gone line mem among))
  · have distinct := (once unrestarted).nodup
    calc s.count line ≤ s.handled.count line := by
          rw [State.count, known.sent]
          exact List.filter_sublist.count_le line
      _ ≤ s.written.count line := (List.subperm_of_subset distinct known.subset).count_le line

end Runs

/-- In every run whose steps are regular, every well-formed line is forwarded, and only once unless
the sensor was restarted. Lines are appended, the log is rotated and the sensor restarted at any
points of a poll that the regularity of the steps allows. -/
theorem lines_forwarded (env : Environment) (actions : List Action) (s : State)
    (run : (system env).Runs (Regular env) start actions s) : Conforms env s := by
  have kept : Kept env s := by
    refine run.invariant (I := Kept env) ?_ ⟨start_invariant, fun _ => start_once⟩
    exact fun _ _ _ before regular step => before.step regular step
  exact kept.conforms

namespace Example

/-- A node in the time zone `UTC` without mapping files, in the second of the lines below. -/
def node : Environment where
  mktime _ := some 1577836800
  components := none
  mapping _ := none

def first : Text :=
  "2020-01-01T00:00:00.000001+00:00 n IEC:BO1001000001:Error".toList

def second : Text :=
  "2020-01-01T00:00:00.000002+00:00 n IEC:BO1001000001:Error".toList

/-- A poll of `run` that finds a new line. -/
def poll : List Action := .run :: List.replicate 8 Action.advance

/-- The log is read, rotated and opened again, and read after a restart. -/
def rotates : List Action :=
  [Action.append first, .boot] ++ poll ++
    [Action.rotate, .refresh, .append second, .restart, .boot] ++ poll

theorem rotates_replay : ((system node).replay (Regular node) start rotates).map
    (fun s => (s.stage, s.count first, s.count second, s.restarted)) =
      some (.waiting, 1, 1, true) := by
  decide +kernel

/-- The log is rotated between two lines, and the sensor restarted before the second is read. -/
theorem lines_forwarded_rotates : ∃ s, (system node).Runs (Regular node) start rotates s ∧
    s.count first = 1 ∧ s.count second = 1 ∧ s.restarted = true ∧ Conforms node s := by
  obtain ⟨s, replay, facts⟩ := Option.map_eq_some_iff.mp rotates_replay
  simp only [Prod.mk.injEq] at facts
  obtain ⟨-, once, afterwards, restarted⟩ := facts
  have run := (Transition.System.replay_eq_some_iff _).mp replay
  exact ⟨s, run, once, afterwards, restarted, lines_forwarded node rotates s run⟩

/-- The sensor opens the log again that was not rotated, or that `run` has opened already. -/
def reopens : List Action :=
  [Action.append first, .boot] ++ poll ++ [Action.refresh, .readIem] ++
    List.replicate 5 Action.advance

theorem reopens_run : ((system node).run start reopens).map
    (fun s => (s.count first, s.written.count first, s.restarted)) = some (2, 1, false) := by
  decide +kernel

/-- Not every run conforms: a line is forwarded twice. -/
theorem lines_not_forwarded : ¬ ∀ env actions s,
    (system env).FreeRuns start actions s → Conforms env s := by
  intro always
  obtain ⟨s, run, facts⟩ := Option.map_eq_some_iff.mp reopens_run
  simp only [Prod.mk.injEq] at facts
  obtain ⟨forwarded, written, unrestarted⟩ := facts
  have conforms := always node reopens s ((Transition.System.run_eq_some_iff _).mp run)
  have once := conforms.once unrestarted first
  rw [forwarded, written] at once
  exact absurd once (by decide)

end Example

end Tail

end Iem

end Sspl

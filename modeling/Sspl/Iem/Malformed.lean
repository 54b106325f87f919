import Mathlib.Data.List.TakeWhile
import Sspl.Iem.Tail

/-!
# Malformed lines in the IEM log

A log is given to which nothing is appended and which is not rotated; the sensor reads it, is
recovered or restarted at any point, and reads it again. A malformed line that is discarded
with a warning does no harm by itself. One that raises ends the thread of the sensor before
its time stamp is written, and the next thread meets it again.
-/

namespace Sspl

namespace Iem

namespace Tail

/-- The lines of a log file, none of which has an end of a line in it. -/
structure LogFile where
  lines : List Text
  plain : ∀ line ∈ lines, '\n' ∉ line ∧ '\r' ∉ line

/-- The sensor has never run, and this is in the log. -/
def logged (log : LogFile) : State :=
  { start with lines := log.lines, written := log.lines }

/-- The log stays as it is. -/
def Action.leavesLog : Action → Bool
  | .append _ | .rotate => false
  | .refresh | .boot | .run | .readIem | .advance | .restart => true

section

variable (env : Environment)

/-- The sensor goes on, and the next poll comes to its end with all these lines forwarded. -/
structure GoesOn (lines : List Text) (s : State) : Prop where
  alive : s.stage ≠ .failed
  polled : s.stage = .waiting → ∃ n t,
    (system env).run s (.run :: List.replicate n .advance) = some t ∧ t.stage = .waiting ∧
      ∀ line ∈ lines, WellFormed env line → 0 < t.count line

/-- No malformed line of the log stops the sensor or keeps it from the lines that follow, whatever
the sensor does with the log from its beginning. -/
def MalformedHarmless (log : LogFile) : Prop :=
  ∀ before bad after, log.lines = before ++ bad :: after → ¬WellFormed env bad →
    ∀ actions s, (∀ a ∈ actions, a.leavesLog = true) →
      (system env).FreeRuns (logged log) actions s → GoesOn env after s

/-- The line comes after a malformed line. -/
def Follows (lines : List Text) (line : Text) : Prop :=
  ∃ before bad after, lines = before ++ bad :: after ∧ ¬WellFormed env bad ∧ line ∈ after

/-- No line raises, and a well-formed line after a malformed one has a time stamp by which it
is told from all the lines before it. -/
structure Untroubled (lines : List Text) : Prop where
  quiet : ∀ line ∈ lines, stampOf env line ≠ none
  told : ∀ line, Follows env lines line → WellFormed env line →
    ∀ earlier ∈ lines.takeWhile (· ≠ line),
      isNew (strip (stamp env earlier)) (stamp env line) = true

end

section Sufficient

variable {env : Environment} {lines : List Text} {s t : State} {line : Text} {a : Action}

/-- A line that is to be forwarded and has not been. -/
structure Due (env : Environment) (lines : List Text) (forwarded : List (Text × Info))
    (line : Text) : Prop where
  follows : Follows env lines line
  wellFormed : WellFormed env line
  unsent : (forwarded.map Prod.fst).count line = 0

/-- The loop that the sensor is in. -/
def Stage.loop? : Stage → Option Loop
  | .reading loop | .processing loop _ | .stamping loop _ | .writing loop _ => some loop
  | .off | .waiting | .opened | .scanned | .failed => none

/-- The time stamp that is going to be written. -/
def Stage.stamp? : Stage → Option Text
  | .stamping _ timestamp | .writing _ timestamp => some timestamp
  | _ => none

/-- The line that is going to be processed. -/
def Stage.line? : Stage → Option Text
  | .processing _ line => some line
  | _ => none

/-- Nothing that is due is passed over: it is still ahead in the log, and has a time stamp later
than all that the sensor compares with. -/
structure Ahead (env : Environment) (lines : List Text) (s : State) : Prop where
  lines_eq : s.lines = lines
  alive : s.stage ≠ .failed
  position : s.stage.line? = none → ∀ position, s.iemLogs = some position →
    ∃ passed ahead, lines = passed ++ ahead ∧ position = (render passed).length ∧
      ∀ line ∈ passed, ¬Due env lines s.forwarded line
  processing : ∀ line, s.stage.line? = some line →
    ∃ passed ahead, lines = passed ++ line :: ahead ∧
      s.iemLogs = some (render (passed ++ [line])).length ∧
        ∀ other ∈ passed, ¬Due env lines s.forwarded other
  recorded : ∀ line, Due env lines s.forwarded line →
    isNew (strip s.timestampFile) (stamp env line) = true
  compared : ∀ last, s.stage.loop? = some (.run last) → ∀ line, Due env lines s.forwarded line →
    isNew last (stamp env line) = true
  stamping : ∀ timestamp, s.stage.stamp? = some timestamp → ∀ line, Due env lines s.forwarded line →
    isNew (strip timestamp) (stamp env line) = true

/-- A well-formed line does not raise. -/
theorem isSome_stampOf (wellFormed : WellFormed env line) : (stampOf env line).isSome = true := by
  unfold WellFormed messageOf at wellFormed
  unfold stampOf
  split at wellFormed
  · rfl
  · cases wellFormed

theorem isNew_nil (timestamp : Text) : isNew [] timestamp = true := rfl

theorem readline_split {passed ahead : List Text} {next : Nat} (plain : ∀ line ∈ ahead, '\n' ∉ line)
    (read : readline (render (passed ++ ahead)) (render passed).length = some (line, next)) :
    ∃ rest, ahead = line :: rest ∧ next = (render (passed ++ [line])).length := by
  cases ahead with
  | nil =>
      rw [List.append_nil, readline_end (le_refl _)] at read
      cases read
  | cons first rest =>
      rw [readline_render (plain first List.mem_cons_self)] at read
      cases read
      exact ⟨rest, rfl, rfl⟩

namespace Ahead

/-- Steps that leave the open log, and are not about a line. -/
theorem move (h : Ahead env lines s) {after : Stage} (alive : after ≠ .failed)
    (still : s.stage.line? = none) (line : after.line? = none) (stamp : after.stamp? = none)
    (compared : ∀ last, after.loop? = some (.run last) → ∀ line, Due env lines s.forwarded line →
      isNew last (Iem.Tail.stamp env line) = true) : Ahead env lines { s with stage := after } :=
  { h with
    alive
    position := fun _ => h.position still
    processing := fun _ other => nomatch line.symm.trans other
    compared
    stamping := fun _ other => nomatch stamp.symm.trans other }

/-- The log is opened, or is not open any more. -/
theorem reopen (h : Ahead env lines s) {after : Stage} {position : Option Nat} {restarted : Bool}
    (alive : after ≠ .failed) (line : after.line? = none) (stamp : after.stamp? = none)
    (loop : after.loop? = none) (opened : ∀ p, position = some p → p = 0) :
    Ahead env lines
      { s with iemLogs := position, stale := false, stage := after, restarted := restarted } :=
  { h with
    alive
    position := by
      intro _ p some_
      cases opened p some_
      exact ⟨[], lines, rfl, rfl, fun _ mem => nomatch mem⟩
    processing := fun _ other => nomatch line.symm.trans other
    compared := fun _ other => nomatch loop.symm.trans other
    stamping := fun _ other => nomatch stamp.symm.trans other }

theorem unlocked_line (unlocked : s.unlocked) : s.stage.line? = none ∧ s.stage.loop? = none ∧
    s.stage.stamp? = none := by
  obtain stage | stage | stage | stage | stage := unlocked <;> rw [stage] <;> exact ⟨rfl, rfl, rfl⟩

variable {position after : Nat} {loop : Loop}

/-- The line that is read next is the first one ahead. -/
theorem next_line (h : Ahead env lines s) (plain : ∀ line ∈ lines, '\n' ∉ line)
    (still : s.stage.line? = none) (opened : s.iemLogs = some position)
    (read : readline (render s.lines) position = some (line, after)) :
    ∃ passed rest, lines = passed ++ line :: rest ∧ after = (render (passed ++ [line])).length ∧
      ∀ other ∈ passed, ¬Due env lines s.forwarded other := by
  obtain ⟨passed, ahead, rfl, rfl, sent⟩ := h.position still position opened
  rw [h.lines_eq] at read
  obtain ⟨rest, rfl, after⟩ :=
    readline_split (fun other mem => plain other (List.mem_append_right _ mem)) read
  exact ⟨passed, rest, rfl, after, sent⟩

theorem took (h : Ahead env lines s) (plain : ∀ line ∈ lines, '\n' ∉ line)
    (stage : s.stage = .reading loop) (opened : s.iemLogs = some position)
    (read : readline (render s.lines) position = some (line, after)) :
    Ahead env lines { s with iemLogs := some after, stage := .processing loop line } := by
  obtain ⟨passed, rest, split, rfl, sent⟩ :=
    h.next_line plain (by rw [stage]; rfl) opened read
  exact
    { h with
      alive := by simp
      position := fun other => nomatch other
      processing := by
        rintro _ ⟨⟩
        exact ⟨passed, rest, split, rfl, sent⟩
      compared := fun last other => h.compared last (by rw [stage]; exact other)
      stamping := fun _ other => nomatch other }

/-- A line that is passed over is not due. -/
theorem passed {last timestamp : Text} (h : Ahead env lines s) (plain : ∀ line ∈ lines, '\n' ∉ line)
    (stage : s.stage = .reading (.run last)) (opened : s.iemLogs = some position)
    (read : readline (render s.lines) position = some (line, after))
    (stamped : logTimestamp (rstrip line) = .ok timestamp) (known : isNew last timestamp = false) :
    Ahead env lines { s with iemLogs := some after, stage := .reading (.run last) } := by
  obtain ⟨passed, rest, split, rfl, sent⟩ :=
    h.next_line plain (by rw [stage]; rfl) opened read
  have settled : ¬Due env lines s.forwarded line := by
    intro due
    have new := h.compared last (by rw [stage]; rfl) line due
    obtain ⟨own, some_⟩ := Option.isSome_iff_exists.mp (isSome_stampOf due.wellFormed)
    obtain ⟨_, _, stamped'⟩ := logTimestamp_of_stampOf some_
    cases stamped.symm.trans stamped'
    rw [stamp, some_, Option.getD_some, known] at new
    cases new
  exact
    { h with
      alive := by simp
      position := by
        rintro _ p ⟨⟩
        refine ⟨passed ++ [line], rest, by simp [split], rfl, ?_⟩
        intro other mem
        obtain mem | mem := List.mem_append.mp mem
        · exact sent other mem
        · rwa [List.mem_singleton.mp mem]
      processing := by
        intro _ other
        cases other
      compared := fun last' other => h.compared last' (by rw [stage]; exact other)
      stamping := by
        intro _ other
        cases other }

/-- What is due after a line is processed is another line, and was due before. -/
theorem Due.of_processed {message : Option Info} {timestamp other : Text}
    (processed : processIem env (rstrip line) = .ok (message, timestamp))
    (due : Due env lines (s.forwarded ++ (message.map (line, ·)).toList) other) :
    other ≠ line ∧ Due env lines s.forwarded other := by
  obtain ⟨follows, wellFormed, unsent⟩ := due
  rw [List.map_append, List.count_append] at unsent
  refine ⟨?_, follows, wellFormed, by omega⟩
  rintro rfl
  rw [WellFormed, messageOf, processed] at wellFormed
  obtain ⟨info, rfl⟩ := Option.isSome_iff_exists.mp wellFormed
  simp at unsent

theorem process (h : Ahead env lines s) (untroubled : Untroubled env lines)
    {message : Option Info} {timestamp : Text} (stage : s.stage = .processing loop line)
    (processed : processIem env (rstrip line) = .ok (message, timestamp)) :
    Ahead env lines { s with
      handled := s.handled ++ [line]
      forwarded := s.forwarded ++ (message.map (line, ·)).toList
      stage := .stamping loop timestamp } := by
  obtain ⟨passed, rest, split, opened, sent⟩ := h.processing line (by rw [stage]; rfl)
  refine
    { lines_eq := h.lines_eq
      alive := by simp
      position := ?_
      processing := fun _ other => nomatch other
      recorded := fun other due => h.recorded other (Due.of_processed processed due).2
      compared := fun last run other due =>
        h.compared last (by rw [stage]; exact run) other (Due.of_processed processed due).2
      stamping := ?_ }
  · intro _ p some_
    cases opened.symm.trans some_
    refine ⟨passed ++ [line], rest, by simp [split], rfl, ?_⟩
    intro other mem due
    obtain ⟨different, due⟩ := Due.of_processed processed due
    obtain mem | mem := List.mem_append.mp mem
    · exact sent other mem due
    · exact different (List.mem_singleton.mp mem)
  · rintro _ ⟨⟩ other due
    obtain ⟨different, due⟩ := Due.of_processed processed due
    rw [stamp_of_processed processed]
    apply untroubled.told other due.follows due.wellFormed
    -- the line stands before the first line with the text that is due
    have absent : ∀ front ∈ passed, decide (front ≠ other) = true := by
      intro front mem
      simp only [ne_eq, decide_eq_true_eq]
      rintro rfl
      exact sent front mem due
    rw [split, List.takeWhile_append_of_pos absent,
      List.takeWhile_cons_of_pos (by simpa using different.symm)]
    simp

theorem step (h : Ahead env lines s) (plain : ∀ line ∈ lines, '\n' ∉ line)
    (untroubled : Untroubled env lines) (leaves : a.leavesLog = true)
    (step : next env s a = some t) : Ahead env lines t := by
  cases next_cases step with
  | append | rotate => cases leaves
  | refresh unlocked opened =>
      obtain ⟨line, loop, stamp⟩ := unlocked_line unlocked
      exact h.reopen h.alive line stamp loop fun p some_ => (Option.some.inj some_).symm
  | closed => exact h
  | boot stage => exact h.move (by simp) (by rw [stage]; rfl) rfl rfl (fun _ run => nomatch run)
  | run stage =>
      exact h.reopen (by simp) rfl rfl rfl fun p some_ => (Option.some.inj some_).symm
  | readIem stage => exact h.move (by simp) (by rw [stage]; rfl) rfl rfl (fun _ run => nomatch run)
  | opened stage =>
      refine h.move (by simp) (by rw [stage]; rfl) rfl rfl ?_
      rintro _ ⟨⟩
      exact h.recorded
  | ended loop position after stage opened atEnd follows =>
      obtain ⟨rfl, -⟩ | ⟨rfl, -⟩ := follows <;>
        exact h.move (by simp) (by rw [stage]; rfl) rfl rfl (fun _ run => nomatch run)
  | scanned stage => exact h.move (by simp) (by rw [stage]; rfl) rfl rfl (fun _ run => nomatch run)
  | took loop position line after stage opened next new => exact h.took plain stage opened next
  | passed last timestamp position line after stage opened next stamped known =>
      exact h.passed plain stage opened next stamped known
  | raised loop position line after err stage opened next unstamped =>
      obtain ⟨passed, rest, split, -, -⟩ := h.next_line plain (by rw [stage]; rfl) opened next
      have quiet := untroubled.quiet line (by simp [split])
      obtain ⟨own, some_⟩ := Option.ne_none_iff_exists'.mp quiet
      obtain ⟨_, _, stamped⟩ := logTimestamp_of_stampOf some_
      cases unstamped.symm.trans stamped
  | broken loop line err stage processed =>
      obtain ⟨passed, rest, split, -, -⟩ := h.processing line (by rw [stage]; rfl)
      have quiet := untroubled.quiet line (by simp [split])
      obtain ⟨own, some_⟩ := Option.ne_none_iff_exists'.mp quiet
      obtain ⟨_, processed', -⟩ := logTimestamp_of_stampOf some_
      cases processed.symm.trans processed'
  | process loop line message timestamp stage processed =>
      exact h.process untroubled stage processed
  | stamp loop timestamp stage =>
      exact { h with
        alive := by simp
        position := fun _ => h.position (by rw [stage]; rfl)
        processing := fun _ other => nomatch other
        recorded := fun _ _ => rfl
        compared := fun last other => h.compared last (by rw [stage]; exact other)
        stamping := fun own other => h.stamping own (by rw [stage]; exact other) }
  | write loop timestamp stage =>
      exact { h with
        alive := by simp
        position := fun _ => h.position (by rw [stage]; rfl)
        processing := fun _ other => nomatch other
        recorded := h.stamping timestamp (by rw [stage]; rfl)
        compared := fun last other => h.compared last (by rw [stage]; exact other)
        stamping := fun _ other => nomatch other }
  | restart => exact h.reopen (by simp) rfl rfl rfl fun p some_ => nomatch some_

theorem logged (log : LogFile) : Ahead env log.lines (logged log) where
  lines_eq := rfl
  alive := by simp [Iem.Tail.logged, start]
  position _ _ some_ := nomatch some_
  processing _ other := nomatch other
  recorded _ _ := rfl
  compared _ other := nomatch other
  stamping _ other := nomatch other

end Ahead

end Sufficient

section Scan

variable {env : Environment} {s t u : State} {line : Text}

/-- The loop of `run` has come to the end of these lines. -/
def readTo (last : Text) (passed : List Text) (s : State) : State :=
  { s with iemLogs := some (render passed).length, stage := .reading (.run last) }

/-- What an iteration of the loop does with a line that does not raise. -/
def scanLine (env : Environment) (last : Text) (s : State) (line : Text) : State :=
  match processIem env (rstrip line) with
  | .ok (message, timestamp) =>
    if isNew last timestamp then { s with
      handled := s.handled ++ [line]
      forwarded := s.forwarded ++ (message.map (line, ·)).toList
      timestampFile := timestamp }
    else s
  | .error _ => s

def scan (env : Environment) (last : Text) (s : State) (lines : List Text) : State :=
  lines.foldl (scanLine env last) s

theorem scanLine_lines (last : Text) : (scanLine env last s line).lines = s.lines := by
  unfold scanLine
  split
  · split <;> rfl
  · rfl

theorem scan_lines (last : Text) (lines : List Text) :
    (scan env last s lines).lines = s.lines := by
  induction lines generalizing s with
  | nil => rfl
  | cons line rest ih => exact ih.trans (scanLine_lines last)

theorem run_replicate_add {first second : Nat}
    (front : (system env).run s (List.replicate first Action.advance) = some t)
    (back : (system env).run t (List.replicate second Action.advance) = some u) :
    (system env).run s (List.replicate (first + second) Action.advance) = some u := by
  rw [← List.replicate_append_replicate, Transition.System.run_append, front]
  exact back

/-- One iteration of the loop. -/
theorem scanLine_run {last : Text} {passed rest : List Text} (quiet : stampOf env line ≠ none)
    (plain : '\n' ∉ line) (split : s.lines = passed ++ line :: rest) :
    ∃ n, (system env).run (readTo last passed s) (List.replicate n Action.advance) =
      some (readTo last (passed ++ [line]) (scanLine env last s line)) := by
  obtain ⟨timestamp, some_⟩ := Option.ne_none_iff_exists'.mp quiet
  obtain ⟨message, processed, stamped⟩ := logTimestamp_of_stampOf some_
  have read := @readline_render passed rest line plain
  rw [← split] at read
  cases new : isNew last timestamp with
  | false =>
      refine ⟨1, ?_⟩
      simp [Transition.System.run, system, next, advance, readTo, readNext, read, stamped,
        scanLine, processed, new]
  | true =>
      refine ⟨4, ?_⟩
      simp [Transition.System.run, system, next, advance, readTo, readNext, read, stamped,
        scanLine, processed, new]

/-- The loop of `run`, over some lines. -/
theorem scan_run {last : Text} {passed lines rest : List Text}
    (quiet : ∀ line ∈ lines, stampOf env line ≠ none) (plain : ∀ line ∈ lines, '\n' ∉ line)
    (split : s.lines = passed ++ lines ++ rest) :
    ∃ n, (system env).run (readTo last passed s) (List.replicate n Action.advance) =
      some (readTo last (passed ++ lines) (scan env last s lines)) := by
  induction lines generalizing passed s with
  | nil => exact ⟨0, by rw [List.append_nil]; rfl⟩
  | cons line lines ih =>
      rw [List.forall_mem_cons] at quiet plain
      obtain ⟨first, front⟩ := @scanLine_run _ _ _ last _ (lines ++ rest) quiet.1 plain.1
        (by rw [split, List.append_assoc, List.cons_append])
      obtain ⟨second, back⟩ := @ih (scanLine env last s line) (passed ++ [line])
        quiet.2 plain.2 (by rw [scanLine_lines, split]; simp)
      refine ⟨first + second, ?_⟩
      rw [List.append_assoc] at back
      exact run_replicate_add front back

/-- A poll, up to the beginning of the loop. -/
theorem poll_begins (stage : s.stage = .waiting) :
    (system env).run s [.run, .advance] =
      some (readTo (strip s.timestampFile) [] { s with stale := false }) := by
  simp [Transition.System.run, system, next, advance, stage, readTo]

/-- A poll that ends. -/
theorem poll_run {log : LogFile} (lines : s.lines = log.lines) (stage : s.stage = .waiting)
    (quiet : ∀ line ∈ log.lines, stampOf env line ≠ none) :
    ∃ n, (system env).run s (.run :: List.replicate n .advance) =
      some { scan env (strip s.timestampFile) { s with stale := false } log.lines with
        iemLogs := some (render log.lines).length, stage := .waiting } := by
  obtain ⟨n, middle⟩ := @scan_run _ { s with stale := false } (strip s.timestampFile) [] _ [] quiet
    (fun line mem => (log.plain line mem).1) (by simp [lines])
  have ends : (system env).run (readTo (strip s.timestampFile) log.lines
      (scan env (strip s.timestampFile) { s with stale := false } log.lines))
      (List.replicate 3 Action.advance) =
        some { scan env (strip s.timestampFile) { s with stale := false } log.lines with
          iemLogs := some (render log.lines).length, stage := .waiting } := by
    have same : (scan env (strip s.timestampFile) { s with stale := false } log.lines).lines =
        log.lines := (scan_lines _ _).trans lines
    simp [Transition.System.run, system, next, advance, readTo, readNext, same,
      readline_end (le_refl _)]
  refine ⟨1 + (n + 3), ?_⟩
  have begins := @poll_begins env _ stage
  have whole : Action.run :: List.replicate (1 + (n + 3)) Action.advance =
      [.run, .advance] ++ List.replicate (n + 3) Action.advance := by
    rw [Nat.add_comm 1, List.replicate_succ]
    rfl
  rw [whole, Transition.System.run_append, begins]
  exact run_replicate_add middle ends

theorem mem_poll_leavesLog {n : Nat} {a : Action}
    (h : a ∈ Action.run :: List.replicate n Action.advance) : a.leavesLog = true := by
  obtain rfl | mem := List.mem_cons.mp h
  · rfl
  · rw [(List.mem_replicate.mp mem).2]
    rfl

theorem Ahead.run {log : LogFile} {actions : List Action} (h : Ahead env log.lines s)
    (untroubled : Untroubled env log.lines) (leaves : ∀ a ∈ actions, a.leavesLog = true)
    (run : (system env).FreeRuns s actions t) : Ahead env log.lines t := by
  have meets : (system env).Runs (fun _ a => a.leavesLog = true) s actions t :=
    run.of_forall_mem fun a mem _ => leaves a mem
  refine meets.invariant ?_ h
  intro _ a _ before leaves step
  exact before.step (fun line mem => (log.plain line mem).1) untroubled leaves step

/-- Where the log has been read to its end, nothing is due. -/
theorem Ahead.forwarded {lines : List Text} (h : Ahead env lines s) (stage : s.stage = .waiting)
    (atEnd : s.iemLogs = some (render lines).length) (follows : Follows env lines line)
    (wellFormed : WellFormed env line) : 0 < s.count line := by
  obtain ⟨passed, ahead, split, same, sent⟩ := h.position (by rw [stage]; rfl) _ atEnd
  have nothing : ahead = [] := by
    cases ahead with
    | nil => rfl
    | cons next rest =>
        rw [split, render_append, List.length_append] at same
        have := @render_length_pos next rest
        omega
  rw [nothing, List.append_nil] at split
  obtain ⟨before, bad, after, whole, malformed, mem⟩ := follows
  have among : line ∈ passed := by
    rw [← split, whole]
    exact List.mem_append_right _ (List.mem_cons_of_mem _ mem)
  refine Nat.pos_of_ne_zero fun unsent => ?_
  exact sent line among ⟨⟨before, bad, after, whole, malformed, mem⟩, wellFormed, unsent⟩

theorem goesOn_of_untroubled {log : LogFile} {lines : List Text} (h : Ahead env log.lines s)
    (untroubled : Untroubled env log.lines) (follows : ∀ line ∈ lines, Follows env log.lines line) :
    GoesOn env lines s := by
  refine ⟨h.alive, fun stage => ?_⟩
  obtain ⟨n, run⟩ := poll_run h.lines_eq stage untroubled.quiet
  refine ⟨n, _, run, rfl, fun line mem wellFormed => ?_⟩
  have after := h.run untroubled (fun a => mem_poll_leavesLog)
    ((system env).run_eq_some_iff.mp run)
  exact after.forwarded rfl rfl (follows line mem) wellFormed

end Scan

section Necessary

variable {env : Environment} {s t : State} {line other : Text} {last : Text} {lines : List Text}
  {log : LogFile}

theorem exists_first {p : Text → Prop} [DecidablePred p] (h : ∃ line ∈ lines, p line) :
    ∃ before first after, lines = before ++ first :: after ∧ p first ∧
      ∀ line ∈ before, ¬p line := by
  induction lines with
  | nil =>
      obtain ⟨_, mem, -⟩ := h
      cases mem
  | cons x rest ih =>
      by_cases here : p x
      · exact ⟨[], x, rest, rfl, here, fun _ mem => nomatch mem⟩
      · have later : ∃ line ∈ rest, p line := by
          obtain ⟨line, mem, holds⟩ := h
          obtain rfl | mem := List.mem_cons.mp mem
          · exact absurd holds here
          · exact ⟨line, mem, holds⟩
        obtain ⟨before, first, after, rfl, holds, none⟩ := ih later
        exact ⟨x :: before, first, after, rfl, holds, List.forall_mem_cons.mpr ⟨here, none⟩⟩

/-- The sensor is started and reads these lines. -/
theorem begins_run {passed rest : List Text} (split : log.lines = passed ++ rest)
    (quiet : ∀ line ∈ passed, stampOf env line ≠ none) :
    ∃ n, (system env).run (logged log) ([.boot, .run, .advance] ++ List.replicate n .advance) =
      some (readTo [] passed (scan env [] { logged log with stage := .waiting } passed)) := by
  obtain ⟨n, read⟩ := @scan_run _ { logged log with stage := .waiting } [] [] _ rest quiet
    (fun line mem => (log.plain line (by rw [split]; exact List.mem_append_left _ mem)).1) split
  refine ⟨n, ?_⟩
  rw [Transition.System.run_append]
  exact read

/-- A line that raises is the end of the sensor. -/
theorem fails_run {passed rest : List Text} (split : s.lines = passed ++ line :: rest)
    (plain : '\n' ∉ line) (raises : stampOf env line = none) :
    ∃ n t, (system env).run (readTo [] passed s) (List.replicate n Action.advance) = some t ∧
      t.stage = .failed := by
  have read := @readline_render passed rest line plain
  rw [← split] at read
  unfold stampOf at raises
  split at raises
  · cases raises
  · rename_i err processed
    cases stamped : logTimestamp (rstrip line) with
    | error err =>
        refine ⟨1, { s with iemLogs := some (render (passed ++ [line])).length, stage := .failed },
          ?_, rfl⟩
        simp [Transition.System.run, system, next, advance, readTo, readNext, read, stamped]
    | ok timestamp =>
        refine ⟨2, { s with iemLogs := some (render (passed ++ [line])).length, stage := .failed },
          ?_, rfl⟩
        simp [Transition.System.run, system, next, advance, readTo, readNext, read, stamped,
          isNew_nil, processed]

theorem quiet_of_harmless (harmless : MalformedHarmless env log) :
    ∀ line ∈ log.lines, stampOf env line ≠ none := by
  intro line mem raises
  obtain ⟨before, bad, after, split, raises, quiet⟩ :=
    exists_first (p := fun line => stampOf env line = none) ⟨line, mem, raises⟩
  have malformed : ¬WellFormed env bad := by
    intro wellFormed
    have some_ := isSome_stampOf wellFormed
    rw [raises] at some_
    cases some_
  obtain ⟨n, begins⟩ := begins_run split quiet
  obtain ⟨m, t, fails, failed⟩ := fails_run
    (s := scan env [] { logged log with stage := .waiting } before)
    (by rw [scan_lines]; exact split) (log.plain bad (by simp [split])).1 raises
  have goesOn := harmless before bad after split malformed
    (([.boot, .run, .advance] ++ List.replicate n .advance) ++ List.replicate m .advance) t ?_ ?_
  · exact goesOn.alive failed
  · intro a mem
    simp only [List.mem_append, List.mem_cons, List.mem_replicate] at mem
    obtain ((rfl | rfl | rfl | none) | ⟨-, rfl⟩) | ⟨-, rfl⟩ := mem
    all_goals first | rfl | cases none
  · apply (system env).run_eq_some_iff.mp
    rw [Transition.System.run_append, begins]
    exact fails

/-- A line that is passed over, or is not there, is not forwarded. -/
theorem scan_count (absent : line ∈ lines → isNew last (stamp env line) = false) :
    (scan env last s lines).count line = s.count line := by
  induction lines generalizing s with
  | nil => rfl
  | cons next rest ih =>
      refine (ih fun mem => absent (List.mem_cons_of_mem _ mem)).trans ?_
      unfold scanLine
      split
      · rename_i message timestamp processed
        split
        · rename_i new
          have different : next ≠ line := by
            rintro rfl
            have old := absent List.mem_cons_self
            rw [← stamp_of_processed processed, new] at old
            cases old
          cases message with
          | none => simp [State.count]
          | some info => simp [State.count, different]
        · rfl
      · rfl

theorem scan_timestampFile {front : List Text} (quiet : stampOf env line ≠ none) :
    (scan env [] s (front ++ [line])).timestampFile = stamp env line := by
  obtain ⟨timestamp, some_⟩ := Option.ne_none_iff_exists'.mp quiet
  obtain ⟨message, processed, -⟩ := logTimestamp_of_stampOf some_
  have written (s : State) : (scanLine env [] s line).timestampFile = stamp env line := by
    simp only [scanLine, processed, isNew_nil, if_true]
    exact stamp_of_processed processed
  rw [scan, List.foldl_append]
  exact written _

/-- The sensor has been restarted when it was done with these lines. -/
def restartedAfter (env : Environment) (log : LogFile) (passed : List Text) : State :=
  { scan env [] { logged log with stage := .waiting } passed with
    iemLogs := none, stale := false, stage := .waiting, restarted := true }

/-- The end of a poll does not depend on how many steps are counted. -/
theorem poll_unique {n m : Nat} {u : State}
    (left : (system env).run s (.run :: List.replicate n .advance) = some t)
    (leftEnd : t.stage = .waiting)
    (right : (system env).run s (.run :: List.replicate m .advance) = some u)
    (rightEnd : u.stage = .waiting) : t = u := by
  obtain ⟨begun, first, left⟩ := Option.bind_eq_some_iff.mp left
  obtain ⟨begun', first', right⟩ := Option.bind_eq_some_iff.mp right
  cases first.symm.trans first'
  have stuck {s : State} (stage : s.stage = .waiting) : (system env).next s .advance = none := by
    simp only [system, next, advance, stage]
  exact (system env).run_replicate_unique left (stuck leftEnd) right (stuck rightEnd)

theorem told_of_harmless (harmless : MalformedHarmless env log)
    (follows : Follows env log.lines line) (wellFormed : WellFormed env line)
    (mem : other ∈ log.lines.takeWhile (· ≠ line)) :
    isNew (strip (stamp env other)) (stamp env line) = true := by
  by_contra old
  rw [Bool.not_eq_true] at old
  have quiet := quiet_of_harmless harmless
  obtain ⟨front, more, before⟩ := List.append_of_mem mem
  have split : log.lines = (front ++ [other]) ++ (more ++ log.lines.dropWhile (· ≠ line)) := by
    calc log.lines = log.lines.takeWhile (· ≠ line) ++ log.lines.dropWhile (· ≠ line) :=
          List.takeWhile_append_dropWhile.symm
      _ = _ := by rw [before]; simp
  have known : ∀ x ∈ front ++ [other], x ∈ log.lines := fun x mem => by
    rw [split]
    exact List.mem_append_left _ mem
  have absent : line ∉ front ++ [other] := by
    intro among
    have whole : line ∈ log.lines.takeWhile (· ≠ line) := by
      rw [before]
      obtain among | among := List.mem_append.mp among
      · exact List.mem_append_left _ among
      · rw [List.mem_singleton.mp among]
        exact List.mem_append_right _ List.mem_cons_self
    simpa using List.mem_takeWhile_imp whole
  obtain ⟨n, begins⟩ := begins_run split fun x mem => quiet x (known x mem)
  have again : (system env).run (logged log)
      (([.boot, .run, .advance] ++ List.replicate n .advance) ++ [.restart, .boot]) =
        some (restartedAfter env log (front ++ [other])) := by
    rw [Transition.System.run_append, begins]
    rfl
  obtain ⟨start, bad, after, whole, malformed, following⟩ := follows
  have goesOn := harmless start bad after whole malformed _ _ ?_
    ((system env).run_eq_some_iff.mp again)
  · obtain ⟨m, t, poll, waiting, forwarded⟩ := goesOn.polled rfl
    obtain ⟨m', poll'⟩ := @poll_run _ (restartedAfter env log (front ++ [other])) log
      (scan_lines _ _) rfl quiet
    have sent := forwarded line following wellFormed
    rw [poll_unique poll waiting poll' rfl] at sent
    have stamped : (restartedAfter env log (front ++ [other])).timestampFile = stamp env other :=
      scan_timestampFile (quiet other (known other (by simp)))
    have unsent : (restartedAfter env log (front ++ [other])).count line = 0 :=
      scan_count fun among => absurd among absent
    have still := @scan_count env
      { restartedAfter env log (front ++ [other]) with stale := false } line _ log.lines
      fun _ => stamped ▸ old
    exact absurd (still.trans unsent) (Nat.pos_iff_ne_zero.mp sent)
  · intro a mem
    simp only [List.mem_append, List.mem_cons, List.mem_replicate] at mem
    obtain ((rfl | rfl | rfl | none) | ⟨-, rfl⟩) | (rfl | rfl | none) := mem
    all_goals first | rfl | cases none

end Necessary

/-- Malformed lines do no harm exactly in the logs in which no line raises, and every well-formed
line after a malformed one is told from the lines before it by its time stamp. -/
theorem malformed_harmless_iff (env : Environment) (log : LogFile) :
    MalformedHarmless env log ↔ Untroubled env log.lines := by
  constructor
  · intro harmless
    exact ⟨quiet_of_harmless harmless,
      fun line follows wellFormed other => told_of_harmless harmless follows wellFormed⟩
  · intro untroubled before bad after split malformed actions s leaves run
    exact goesOn_of_untroubled ((Ahead.logged log).run untroubled leaves run) untroubled
      fun line mem => ⟨before, bad, after, split, malformed, mem⟩

namespace Example

/-- A line of this component with an event that it does not have. -/
def unknownEvent : Text :=
  "2020-01-01T00:00:00.000002+00:00 n IEC:EO0050010099:Error".toList

def third : Text :=
  "2020-01-01T00:00:00.000003+00:00 n IEC:BO1001000001:Error".toList

def poisoned : LogFile := ⟨[first, unknownEvent, third], by decide +kernel⟩

theorem unknownEvent_malformed : ¬WellFormed node unknownEvent := by
  unfold WellFormed
  decide +kernel

/-- The sensor has sent the first line when it fails at the second. -/
theorem poisoned_run : ((system node).run (logged poisoned)
    ([Action.boot, .run, .advance] ++ List.replicate 6 Action.advance)).map
      (fun s => (s.stage, s.count first)) = some (.failed, 1) := by
  decide +kernel

/-- One line with an unknown event ends the sensor. -/
theorem poisoned_not_harmless : ¬MalformedHarmless node poisoned := by
  intro harmless
  obtain ⟨s, run, facts⟩ := Option.map_eq_some_iff.mp poisoned_run
  have goesOn := harmless [first] unknownEvent [third] rfl unknownEvent_malformed _ s
    (by decide) ((system node).run_eq_some_iff.mp run)
  exact goesOn.alive (congrArg Prod.fst facts)

end Example

end Tail

end Iem

end Sspl

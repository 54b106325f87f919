import Mathlib.Data.List.Nodup
import Sspl.Foundation.System
import Sspl.Python.Text

/-!
# The system event log of the BMC

In every run the node sensor lists the system event log into a file, hands each new entry to
the handler of its FRU type and writes the index of the last one to the index file. When the
log is nearly full it is cleared, after which the BMC counts its entries from the beginning
and the index file is reset to 0. A list file that is not empty at the beginning of a run is
left from a run that was cut off, and its entries are handed over first.

The BMC may append entries at any time, and the sensor may be restarted between any two
steps. An entry carries a serial number of its own, counted over all entries that were ever
appended, which the code does not know.
-/

namespace Sspl

namespace NodeHw

namespace Sel

/-- A line of `ipmitool sel list`: the number in its first column and the other columns. -/
structure Entry where
  serial : Nat
  index : Nat
  columns : List String
  deriving DecidableEq

structure SelEvent where
  index : Nat
  date : String
  time : String
  deviceId : String
  deviceType : String
  sensorNum : Option String
  event : String
  status : String
  deriving DecidableEq

/-- The keys of `fru_types`. -/
def fruTypes : List String :=
  ["Fan", "Power Supply", "Power Unit", "Drive Slot / Bay", "Temperature", "Voltage", "Current"]

/-- The digits after `#0x`. -/
def sensorNum : List Char → Option String
  | '#' :: '0' :: 'x' :: rest =>
    let digits := rest.takeWhile fun c => decide (c.isDigit ∨ 'a' ≤ c ∧ c ≤ 'f')
    if digits = [] then none else some (String.ofList digits)
  | _ => none

/-- `_get_device_type_num`: the device type is what comes before the last blank. -/
def getDeviceTypeNum (deviceId : String) : String × Option String :=
  match deviceId.toList.reverse.dropWhile (· ≠ ' ') with
  | [] => (deviceId, some "")
  | _ :: before =>
    (String.ofList before.reverse,
      sensorNum (deviceId.toList.reverse.takeWhile (· ≠ ' ')).reverse)

/-- `_make_sel_event`, which raises on a line that does not have six columns. -/
def makeSelEvent (line : Entry) : Option SelEvent :=
  match line.columns with
  | [date, time, deviceId, event, status] =>
    some ⟨line.index, date, time, deviceId, (getDeviceTypeNum deviceId).1,
      (getDeviceTypeNum deviceId).2, event, status⟩
  | _ => none

/-- The line has one of the FRU types in it, so that `sel list` with `grep_args` keeps it. -/
def grep (line : Entry) : Bool := line.columns.any (anyIn fruTypes)

/-- The event is parsed and has a handler. -/
def hasHandler (line : Entry) : Bool :=
  (makeSelEvent line).any fun event => decide (event.deviceType ∈ fruTypes)

/-- `_get_sel_event`: the lines after the one with the last index, or all of them. -/
def getSelEvent (lastIndex : Nat) (lines : List Entry) : List Entry :=
  if lastIndex ∈ lines.map Entry.index then (lines.dropWhile (·.index ≠ lastIndex)).tail else lines

/-- `last_fru_index`. -/
def lastFruIndex (lines : List Entry) (deviceType : String) : Option Nat :=
  ((lines.filter fun line => (makeSelEvent line).any (·.deviceType = deviceType)).getLast?).map
    Entry.index

/-- What the handler of a FRU type is called with. -/
structure Handed where
  line : Entry
  event : SelEvent
  isLast : Bool
  deriving DecidableEq

inductive Stage
  | off
  /-- Between two calls of `run`. -/
  | idle
  /-- `_notify_NodeDataMsgHandler` begins; `leftover` if for the list file of an earlier run. -/
  | notify (leftover : Bool)
  /-- Its second loop, over these lines, has the lines of `todo` still to hand over. -/
  | handing (leftover : Bool) (lines todo : List Entry)
  /-- The index file is going to be opened, and is empty at `writing`. -/
  | saving (leftover : Bool) (lastIndex : Nat)
  | writing (leftover : Bool) (lastIndex : Nat)
  | emptying (leftover : Bool)
  | listing
  /-- The lines are in `sel_list_collect`, which is going to be renamed; `upTo` entries had been
  appended when they were listed. -/
  | collected (lines : List Entry) (upTo : Nat)
  | checking
  | clearing
  /-- The log is cleared, and the index file is going to be opened; it is empty at `rewriting`. -/
  | resetting
  | rewriting
  /-- An exception has ended the thread of the sensor. -/
  | failed
  deriving DecidableEq

/-- The system event log of the BMC, the two files of the sensor, the point at which it stands, and
what has become of the entries. -/
structure State where
  log : List Entry
  /-- The number of entries that were ever appended. -/
  appended : Nat
  /-- The number in the index file, unless the file is empty. -/
  indexFile : Option Nat
  listFile : List Entry
  stage : Stage
  handed : List Handed
  /-- The entries that were cleared. -/
  cleared : List Entry
  /-- The number of entries that had been appended at the listing in the list file, or at the
  one before if that is empty. -/
  listed : Nat
  /-- The index file has the index of an entry that was cleared. -/
  stale : Bool
  restarted : Bool

/-- `SEL_USAGE_THRESHOLD`. -/
def selUsageThreshold : Nat := 90

/-- The BMC appends an entry, a command of `ipmitool` is carried out, or the sensor takes its next
step between two of them. -/
inductive Action
  /-- The BMC appends an entry, with an index after those of its log. -/
  | append (index : Nat) (columns : List String)
  | boot
  /-- A call of `run`, which skips the events while there is a channel error. -/
  | run (channelErr : Bool)
  /-- `ipmitool sel list`. -/
  | list (succeeds : Bool)
  /-- `sel info`, if it is due and tells how much of the log is used. -/
  | info (used : Option Nat)
  /-- `sel clear`. -/
  | clear (succeeds : Bool)
  /-- The next step of the sensor on its own files. -/
  | advance
  | restart
  deriving DecidableEq

/-- What follows `_notify_NodeDataMsgHandler` in `run`. -/
def afterNotify (leftover : Bool) : Stage := if leftover then .listing else .checking

def advance (s : State) : Option State :=
  match s.stage with
  | .notify leftover =>
    let lines := getSelEvent (s.indexFile.getD 0) s.listFile
    some { s with
      stage :=
        if lines.all fun line => (makeSelEvent line).isSome then .handing leftover lines lines
        else .failed }
  | .handing leftover lines (line :: todo) =>
    match makeSelEvent line with
    | some event => some { s with
        handed :=
          if event.deviceType ∈ fruTypes then
            s.handed ++ [⟨line, event,
              decide (lastFruIndex lines event.deviceType = some event.index)⟩]
          else s.handed
        stage := .handing leftover lines todo }
    | none => some { s with stage := .failed }
  | .handing leftover lines [] =>
    match lines.getLast? with
    | some last => some { s with stage := .saving leftover last.index }
    | none => some { s with stage := .emptying leftover }
  | .saving leftover lastIndex =>
    some { s with indexFile := none, stale := false, stage := .writing leftover lastIndex }
  | .writing leftover lastIndex =>
    some { s with indexFile := some lastIndex, stage := .emptying leftover }
  | .emptying leftover => some { s with listFile := [], stage := afterNotify leftover }
  | .collected lines upTo =>
    some { s with listFile := lines, listed := upTo, stage := .notify false }
  | .resetting => some { s with indexFile := none, stale := false, stage := .rewriting }
  | .rewriting => some { s with indexFile := some 0, stage := .idle }
  | _ => none

/-- Each access to the log and to a file is a step of its own, so that entries come, and restarts
happen, between any two of them. -/
def next (s : State) : Action → Option State
  | .append index columns =>
    if 0 < index ∧ ∀ entry ∈ s.log, entry.index < index then
      some { s with log := s.log ++ [⟨s.appended, index, columns⟩], appended := s.appended + 1 }
    else none
  | .boot =>
    if s.stage = .off then
      some { s with indexFile := some (s.indexFile.getD 0), stage := .idle }
    else none
  | .run channelErr =>
    if s.stage = .idle then
      some { s with
        stage :=
          if channelErr then .checking
          else if s.listFile = [] then .listing
          else .notify true }
    else none
  | .list succeeds =>
    if s.stage = .listing then
      if succeeds then
        some { s with stage := .collected (s.log.filter grep) s.appended }
      else some { s with stage := .failed }
    else none
  | .info used =>
    if s.stage = .checking then
      some { s with
        stage := if ∃ n, used = some n ∧ selUsageThreshold < n then .clearing else .idle }
    else none
  | .clear succeeds =>
    if s.stage = .clearing then
      if succeeds then
        some { s with
          log := [], cleared := s.cleared ++ s.log, stale := true, stage := .resetting }
      else some { s with stage := .idle }
    else none
  | .advance => advance s
  | .restart => some { s with stage := .off, restarted := true }

/-- A node whose sensor has never run. -/
def start : State := ⟨[], 0, none, [], .off, [], [], 0, false, false⟩

/-- The sensor and the BMC over all processes of the daemon. The files outlive a process. -/
def system : Transition.System State Action where
  init s := s = start
  next := next

def State.handedSerials (s : State) : List Nat := s.handed.map (·.line.serial)

/-- No entry with a handler is cleared or passed over before it was handed over, and none is handed
over twice in one process. -/
structure Conforms (s : State) : Prop where
  /-- Every entry is handed over before it is cleared. -/
  kept : ∀ entry ∈ s.cleared, hasHandler entry = true → entry.serial ∈ s.handedSerials
  /-- At the end of a run with nothing left over, what was listed is handed over. -/
  done : s.stage = .idle → s.listFile = [] → ∀ entry ∈ s.log, hasHandler entry = true →
    entry.serial < s.listed → entry.serial ∈ s.handedSerials
  once : s.restarted = false → s.handedSerials.Nodup

/-- The log is only cleared when everything in it was listed and no list is left over, and an
index that was recorded before the last clearing is not the one of a line that is listed. -/
def Regular (s : State) : Action → Prop
  | .clear true =>
    s.listFile = [] ∧ ∀ entry ∈ s.log, hasHandler entry = true → entry.serial < s.listed
  | .list true => s.stale = true →
    s.indexFile.getD 0 ∉ (s.log.filter grep).map Entry.index
  | _ => True

instance (s : State) : (a : Action) → Decidable (Regular s a)
  | .clear true => inferInstanceAs (Decidable (_ ∧ ∀ entry ∈ s.log, _ → _))
  | .list true => inferInstanceAs (Decidable (_ → _ ∉ _))
  | .clear false | .list false => .isTrue trivial
  | .append _ _ | .boot | .run _ | .info _ | .advance | .restart => .isTrue trivial

section Runs

variable {s t : State} {a : Action} {line entry : Entry} {lines : List Entry} {n : Nat}

theorem getDeviceTypeNum_isPrefix (deviceId : String) :
    (getDeviceTypeNum deviceId).1.toList <+: deviceId.toList := by
  unfold getDeviceTypeNum
  split
  · exact List.prefix_rfl
  · rename_i blank before split
    have parts := List.takeWhile_append_dropWhile (p := (· ≠ ' ')) (l := deviceId.toList.reverse)
    rw [split] at parts
    have whole := congrArg List.reverse parts
    rw [List.reverse_reverse] at whole
    rw [← whole, String.toList_ofList]
    simp only [List.reverse_append, List.reverse_cons, List.append_assoc]
    exact List.prefix_append _ _

theorem grep_of_hasHandler (h : hasHandler line = true) : grep line = true := by
  unfold hasHandler makeSelEvent at h
  split at h
  · rename_i date time deviceId event status columns
    simp only [Option.any_some, decide_eq_true_eq] at h
    have device : anyIn fruTypes deviceId = true :=
      List.any_eq_true.mpr ⟨_, h, decide_eq_true (getDeviceTypeNum_isPrefix deviceId).isInfix⟩
    exact List.any_eq_true.mpr ⟨deviceId, by simp [columns], device⟩
  · cases h

/-- Entries in the order they were appended. -/
def Ordered (lines : List Entry) : Prop :=
  lines.Pairwise fun a b => a.index < b.index ∧ a.serial < b.serial

theorem mem_getSelEvent (ordered : Ordered lines) :
    line ∈ getSelEvent n lines ↔ line ∈ lines ∧ (n ∈ lines.map Entry.index → n < line.index) := by
  unfold getSelEvent
  split
  · rename_i found
    induction lines with
    | nil => simp at found
    | cons first rest ih =>
        obtain ⟨before, ordered⟩ := List.pairwise_cons.mp ordered
        by_cases here : first.index = n
        · rw [List.dropWhile_cons_of_neg (by simpa using here), List.tail_cons]
          constructor
          · exact fun mem => ⟨List.mem_cons_of_mem _ mem, fun _ => here ▸ (before _ mem).1⟩
          · rintro ⟨mem, later⟩
            obtain rfl | mem := List.mem_cons.mp mem
            · exact absurd (later found) (by omega)
            · exact mem
        · have further : n ∈ rest.map Entry.index := by
            simpa [Ne.symm here] using found
          have step : (first :: rest).dropWhile (·.index ≠ n) = rest.dropWhile (·.index ≠ n) :=
            List.dropWhile_cons_of_pos (by simpa using here)
          rw [step, ih ordered further]
          obtain ⟨last, mem, own⟩ := List.mem_map.mp further
          have := (before last mem).1
          constructor
          · exact fun ⟨mem, later⟩ => ⟨List.mem_cons_of_mem _ mem, fun _ => later further⟩
          · rintro ⟨mem, later⟩
            obtain rfl | mem := List.mem_cons.mp mem
            · have := later found
              omega
            · exact ⟨mem, fun _ => later found⟩
  · simp_all

theorem getSelEvent_sublist : (getSelEvent n lines).Sublist lines := by
  unfold getSelEvent
  split
  · exact (List.tail_sublist _).trans (List.dropWhile_sublist _)
  · exact .refl _

theorem Ordered.getSelEvent (ordered : Ordered lines) : Ordered (getSelEvent n lines) :=
  ordered.sublist getSelEvent_sublist

theorem Ordered.le_last (ordered : Ordered lines) {last : Entry}
    (h : lines.getLast? = some last) (mem : line ∈ lines) : line.index ≤ last.index := by
  obtain ⟨front, rfl⟩ := List.getLast?_eq_some_iff.mp h
  obtain ⟨-, -, before⟩ := List.pairwise_append.mp ordered
  obtain mem | mem := List.mem_append.mp mem
  · exact (before line mem last (by simp)).1.le
  · rw [List.mem_singleton.mp mem]

/-- Up to the last line that is handed over, no line is later. -/
theorem le_last_getSelEvent (ordered : Ordered lines) {last : Entry}
    (h : (getSelEvent n lines).getLast? = some last) (mem : line ∈ lines) :
    line.index ≤ last.index := by
  have among := List.mem_of_getLast? h
  by_cases yielded : line ∈ getSelEvent n lines
  · exact ordered.getSelEvent.le_last h yielded
  · rw [mem_getSelEvent ordered] at yielded among
    have passed : n ∈ lines.map Entry.index ∧ line.index ≤ n := by
      by_contra later
      exact yielded ⟨mem, fun found => by_contra fun le => later ⟨found, by omega⟩⟩
    have := among.2 passed.1
    omega

/-- Two entries of the log are in the same order by index and by serial number. -/
theorem Ordered.compare (ordered : Ordered lines) {other : Entry} (mem : line ∈ lines)
    (mem' : other ∈ lines) : line = other ∨
      line.index < other.index ∧ line.serial < other.serial ∨
      other.index < line.index ∧ other.serial < line.serial := by
  induction lines with
  | nil => cases mem
  | cons first rest ih =>
      obtain ⟨before, ordered⟩ := List.pairwise_cons.mp ordered
      obtain rfl | later := List.mem_cons.mp mem
      · obtain rfl | later' := List.mem_cons.mp mem'
        · exact .inl rfl
        · exact .inr (.inl (before _ later'))
      · obtain rfl | later' := List.mem_cons.mp mem'
        · exact .inr (.inr (before _ later))
        · exact ih ordered later later'

theorem Ordered.serial_le (ordered : Ordered lines) {other : Entry} (mem : line ∈ lines)
    (mem' : other ∈ lines) (le : line.index ≤ other.index) : line.serial ≤ other.serial := by
  obtain rfl | ⟨-, before⟩ | ⟨after, -⟩ := ordered.compare mem mem'
  · rfl
  · exact before.le
  · omega

theorem Ordered.eq_of_serial (ordered : Ordered lines) {other : Entry} (mem : line ∈ lines)
    (mem' : other ∈ lines) (same : line.serial = other.serial) : line = other := by
  obtain rfl | ⟨-, before⟩ | ⟨-, after⟩ := ordered.compare mem mem'
  · rfl
  · omega
  · omega

/-- The listed part of the log, as `sel list` has filtered it. -/
def listing (log : List Entry) (upTo : Nat) : List Entry :=
  log.filter fun entry => grep entry && decide (entry.serial < upTo)

theorem mem_listing {log : List Entry} :
    entry ∈ listing log n ↔ entry ∈ log ∧ grep entry = true ∧ entry.serial < n := by
  simp [listing]

theorem listing_append {log : List Entry} (fresh : n ≤ entry.serial) :
    listing (log ++ [entry]) n = listing log n := by
  simp [listing, Nat.not_lt.mpr fresh]

theorem Ordered.listing (ordered : Ordered lines) : Ordered (listing lines n) :=
  ordered.sublist List.filter_sublist

/-- The log of the BMC, with the serial numbers below `appended`. -/
structure Log (log : List Entry) (appended : Nat) : Prop where
  ordered : Ordered log
  positive : ∀ entry ∈ log, 0 < entry.index
  fresh : ∀ entry ∈ log, entry.serial < appended

/-- The lines that are to be handed over are handed over, but for those of `todo`. -/
def HandedBut (s : State) (todo : List Entry) : Prop :=
  ∀ entry ∈ s.listFile, hasHandler entry = true → entry.serial ∈ s.handedSerials ∨ entry ∈ todo

/-- The second loop is over, and this is the index of the last line. -/
def Ended (s : State) (lastIndex : Nat) : Prop :=
  (∃ last ∈ s.listFile, last.index = lastIndex ∧ ∀ line ∈ s.listFile, line.index ≤ lastIndex) ∧
    HandedBut s []

/-- What is known at each stage of a run of the sensor. -/
def Staged (s : State) : Prop :=
  match s.stage with
  | .handing _ lines todo =>
    lines = getSelEvent (s.indexFile.getD 0) s.listFile ∧ todo <:+ lines ∧ HandedBut s todo
  | .saving _ lastIndex => Ended s lastIndex
  | .writing _ lastIndex => s.stale = false ∧ Ended s lastIndex
  | .rewriting => s.stale = false
  | .emptying _ => HandedBut s []
  | .listing => s.listFile = []
  | .collected lines upTo =>
    s.listFile = [] ∧ lines = listing s.log upTo ∧ s.listed ≤ upTo ∧ upTo ≤ s.appended ∧
      (s.stale = true → s.indexFile.getD 0 ∉ lines.map Entry.index)
  | _ => True

/-- The invariant of the runs whose steps are regular. -/
structure Invariant (s : State) : Prop extends Log s.log s.appended where
  bounded : s.listed ≤ s.appended
  file : s.listFile = [] ∨ s.listFile = listing s.log s.listed
  kept : ∀ entry ∈ s.cleared, hasHandler entry = true → entry.serial ∈ s.handedSerials
  passed : s.stale = false → ∀ entry ∈ s.log, hasHandler entry = true →
    entry.index ≤ s.indexFile.getD 0 → entry.serial ∈ s.handedSerials
  recorded : s.stale = false → s.indexFile.getD 0 = 0 ∨
    ∃ entry ∈ s.log, entry.index = s.indexFile.getD 0
  unused : s.stale = true → s.indexFile.getD 0 ∉ s.listFile.map Entry.index
  covered : ∀ entry ∈ s.log, hasHandler entry = true → entry.serial < s.listed →
    entry.serial ∈ s.handedSerials ∨ entry ∈ s.listFile
  staged : Staged s

theorem Invariant.subset (h : Invariant s) (mem : entry ∈ s.listFile) :
    entry ∈ s.log ∧ entry.serial < s.listed := by
  obtain empty | same := h.file
  · simp [empty] at mem
  · rw [same, mem_listing] at mem
    exact ⟨mem.1, mem.2.2⟩

theorem Invariant.ordered_file (h : Invariant s) : Ordered s.listFile := by
  obtain empty | same := h.file
  · rw [empty]
    exact .nil
  · rw [same]
    exact h.ordered.listing

/-- What a line adds to the events that were handed over. -/
def handOver (lines : List Entry) (line : Entry) (event : SelEvent) (handed : List Handed) :
    List Handed :=
  if event.deviceType ∈ fruTypes then
    handed ++ [⟨line, event, decide (lastFruIndex lines event.deviceType = some event.index)⟩]
  else handed

/-- The ways a step can be taken. -/
inductive Step (s : State) : Action → State → Prop
  | append (index : Nat) (columns : List String) (positive : 0 < index)
      (later : ∀ entry ∈ s.log, entry.index < index) :
      Step s (.append index columns)
        { s with log := s.log ++ [⟨s.appended, index, columns⟩], appended := s.appended + 1 }
  | boot (stage : s.stage = .off) :
      Step s .boot { s with indexFile := some (s.indexFile.getD 0), stage := .idle }
  | run (channelErr : Bool) (stage' : Stage) (stage : s.stage = .idle)
      (moved : stage' = .checking ∨ stage' = .listing ∧ s.listFile = [] ∨ stage' = .notify true) :
      Step s (.run channelErr) { s with stage := stage' }
  | list (stage : s.stage = .listing) :
      Step s (.list true) { s with stage := .collected (s.log.filter grep) s.appended }
  | info (used : Option Nat) (stage' : Stage) (stage : s.stage = .checking)
      (moved : stage' = .clearing ∨ stage' = .idle) : Step s (.info used) { s with stage := stage' }
  | clear (stage : s.stage = .clearing) :
      Step s (.clear true) { s with
        log := [], cleared := s.cleared ++ s.log, stale := true, stage := .resetting }
  | clearFails (stage : s.stage = .clearing) : Step s (.clear false) { s with stage := .idle }
  | fail (a : Action) (internal : a = .list false ∨ a = .advance) :
      Step s a { s with stage := .failed }
  | notify (leftover : Bool) (stage : s.stage = .notify leftover) :
      Step s .advance { s with
        stage := .handing leftover (getSelEvent (s.indexFile.getD 0) s.listFile)
          (getSelEvent (s.indexFile.getD 0) s.listFile) }
  | hand (leftover : Bool) (lines : List Entry) (line : Entry) (todo : List Entry)
      (event : SelEvent) (stage : s.stage = .handing leftover lines (line :: todo))
      (made : makeSelEvent line = some event) :
      Step s .advance { s with
        handed := handOver lines line event s.handed, stage := .handing leftover lines todo }
  | handed (leftover : Bool) (lines : List Entry) (last : Entry)
      (stage : s.stage = .handing leftover lines []) (ends : lines.getLast? = some last) :
      Step s .advance { s with stage := .saving leftover last.index }
  | nothing (leftover : Bool) (stage : s.stage = .handing leftover [] []) :
      Step s .advance { s with stage := .emptying leftover }
  | save (leftover : Bool) (lastIndex : Nat) (stage : s.stage = .saving leftover lastIndex) :
      Step s .advance { s with
        indexFile := none, stale := false, stage := .writing leftover lastIndex }
  | write (leftover : Bool) (lastIndex : Nat) (stage : s.stage = .writing leftover lastIndex) :
      Step s .advance { s with indexFile := some lastIndex, stage := .emptying leftover }
  | empty (leftover : Bool) (stage : s.stage = .emptying leftover) :
      Step s .advance { s with listFile := [], stage := afterNotify leftover }
  | rename (lines : List Entry) (upTo : Nat) (stage : s.stage = .collected lines upTo) :
      Step s .advance { s with listFile := lines, listed := upTo, stage := .notify false }
  | reset (stage : s.stage = .resetting) :
      Step s .advance { s with indexFile := none, stale := false, stage := .rewriting }
  | rewrite (stage : s.stage = .rewriting) :
      Step s .advance { s with indexFile := some 0, stage := .idle }
  | restart : Step s .restart { s with stage := .off, restarted := true }

theorem advance_cases (step : advance s = some t) : Step s .advance t := by
  unfold advance at step
  split at step
  · cases step
    split
    · exact .notify _ ‹_›
    · exact .fail _ (.inr rfl)
  · split at step
    · cases step
      exact .hand _ _ _ _ _ ‹_› ‹_›
    · cases step
      exact .fail _ (.inr rfl)
  · rename_i lines stage
    split at step
    · cases step
      exact .handed _ _ _ stage ‹_›
    · rename_i none
      cases step
      rw [List.getLast?_eq_none_iff] at none
      subst none
      exact .nothing _ stage
  · cases step
    exact .save _ _ ‹_›
  · cases step
    exact .write _ _ ‹_›
  · cases step
    exact .empty _ ‹_›
  · cases step
    exact .rename _ _ ‹_›
  · cases step
    exact .reset ‹_›
  · cases step
    exact .rewrite ‹_›
  · cases step

theorem next_cases (step : next s a = some t) : Step s a t := by
  unfold next at step
  split at step
  · split at step
    · rename_i admitted
      cases step
      exact .append _ _ admitted.1 admitted.2
    · cases step
  · split at step
    · cases step
      exact .boot ‹_›
    · cases step
  · split at step
    · cases step
      refine .run _ _ ‹_› ?_
      split
      · exact .inl rfl
      · split
        · exact .inr (.inl ⟨rfl, ‹_›⟩)
        · exact .inr (.inr rfl)
    · cases step
  · split at step
    · split at step
      · cases step
        rename_i succeeds
        subst succeeds
        exact .list ‹_›
      · rename_i fails
        cases step
        exact .fail _ (.inl (by rw [Bool.not_eq_true] at fails; rw [fails]))
    · cases step
  · split at step
    · cases step
      refine .info _ _ ‹_› ?_
      split
      · exact .inl rfl
      · exact .inr rfl
    · cases step
  · split at step
    · split at step
      · cases step
        rename_i succeeds
        subst succeeds
        exact .clear ‹_›
      · rename_i fails
        cases step
        rw [Bool.not_eq_true] at fails
        subst fails
        exact .clearFails ‹_›
    · cases step
  · exact advance_cases step
  · cases step
    exact .restart

theorem Log.append {log : List Entry} {appended index : Nat} (h : Log log appended)
    (positive : 0 < index) (later : ∀ entry ∈ log, entry.index < index) (columns : List String) :
    Log (log ++ [⟨appended, index, columns⟩]) (appended + 1) where
  ordered := by
    refine List.pairwise_append.mpr ⟨h.ordered, List.pairwise_singleton _ _, ?_⟩
    intro entry mem new among
    rw [List.mem_singleton.mp among]
    exact ⟨later entry mem, h.fresh entry mem⟩
  positive entry mem := by
    obtain mem | new := List.mem_append.mp mem
    · exact h.positive entry mem
    · rw [List.mem_singleton.mp new]
      exact positive
  fresh entry mem := by
    obtain mem | new := List.mem_append.mp mem
    · have := h.fresh entry mem
      omega
    · rw [List.mem_singleton.mp new]
      exact Nat.lt_succ_self _

theorem mem_handOver {event : SelEvent} {handed : List Handed} :
    n ∈ (handOver lines line event handed).map (·.line.serial) ↔
      n ∈ handed.map (·.line.serial) ∨ event.deviceType ∈ fruTypes ∧ n = line.serial := by
  unfold handOver
  split
  · simp [*]
  · simp [*]

theorem hasHandler_iff {event : SelEvent} (made : makeSelEvent line = some event) :
    hasHandler line = true ↔ event.deviceType ∈ fruTypes := by
  unfold hasHandler
  rw [made, Option.any_some, decide_eq_true_iff]

/-- Before the second loop begins, a line is handed over already or among those to hand over. -/
theorem Invariant.handedBut (h : Invariant s) :
    HandedBut s (getSelEvent (s.indexFile.getD 0) s.listFile) := by
  intro entry mem handler
  by_cases yielded : entry ∈ getSelEvent (s.indexFile.getD 0) s.listFile
  · exact .inr yielded
  · rw [mem_getSelEvent h.ordered_file, not_and, Classical.not_imp] at yielded
    obtain ⟨found, le⟩ := yielded mem
    have current : s.stale = false := by
      by_contra stale
      exact h.unused (by simpa using stale) found
    exact .inl (h.passed current entry (h.subset mem).1 handler (by omega))

/-- After the second loop, what comes before the last line in the log is handed over. -/
theorem Invariant.passed_last (h : Invariant s) {last : Entry} (mem : last ∈ s.listFile)
    (all : HandedBut s []) (among : entry ∈ s.log) (handler : hasHandler entry = true)
    (le : entry.index ≤ last.index) : entry.serial ∈ s.handedSerials := by
  obtain ⟨logged, listed⟩ := h.subset mem
  have before := h.ordered.serial_le among logged le
  obtain handed | left := h.covered entry among handler (by omega)
  · exact handed
  · exact (all entry left handler).resolve_right (by simp)

/-- The system writes a line, after all that are there. -/
theorem Invariant.append {index : Nat} (h : Invariant s) (positive : 0 < index)
    (later : ∀ entry ∈ s.log, entry.index < index) (columns : List String) :
    Invariant { s with
      log := s.log ++ [⟨s.appended, index, columns⟩], appended := s.appended + 1 } := by
  refine ⟨h.toLog.append positive later columns, Nat.le_succ_of_le h.bounded, ?_, h.kept, ?_, ?_,
    h.unused, ?_, ?_⟩
  · refine h.file.imp id fun same => same.trans (listing_append ?_).symm
    exact h.bounded
  · intro current entry mem handler le
    obtain mem | new := List.mem_append.mp mem
    · exact h.passed current entry mem handler le
    · rw [List.mem_singleton.mp new] at le
      obtain zero | ⟨entry, mem, own⟩ := h.recorded current
      · dsimp only at le
        omega
      · have := later entry mem
        dsimp only at le
        omega
  · exact fun current => (h.recorded current).imp id
      fun ⟨entry, mem, own⟩ => ⟨entry, List.mem_append_left _ mem, own⟩
  · intro entry mem handler listed
    obtain mem | new := List.mem_append.mp mem
    · exact h.covered entry mem handler listed
    · rw [List.mem_singleton.mp new] at listed
      have := h.bounded
      dsimp only at listed
      omega
  · have staged := h.staged
    unfold Staged at staged ⊢
    cases stage : s.stage with
    | collected lines upTo =>
        rw [stage] at staged
        obtain ⟨empty, same, le, bounded, unused⟩ := staged
        exact ⟨empty, same.trans (listing_append bounded).symm, le,
          Nat.le_succ_of_le bounded, unused⟩
    | _ =>
        rw [stage] at staged
        exact staged

/-- The log is cleared when all of its lines are handed over. -/
theorem Invariant.clear (h : Invariant s) (empty : s.listFile = [])
    (all : ∀ entry ∈ s.log, hasHandler entry = true → entry.serial < s.listed) :
    Invariant { s with
      log := [], cleared := s.cleared ++ s.log, stale := true, stage := .resetting } := by
  refine ⟨⟨.nil, by simp, by simp⟩, h.bounded, .inl empty, ?_, by simp, by simp, ?_, by simp,
    trivial⟩
  · intro entry mem handler
    obtain mem | mem := List.mem_append.mp mem
    · exact h.kept entry mem handler
    · obtain handed | left := h.covered entry mem handler (all entry mem handler)
      · exact handed
      · rw [empty] at left
        cases left
  · intro _ found
    dsimp only at found
    rw [empty] at found
    cases found

/-- The first of the lines that are left is handed over. -/
theorem Invariant.hand {leftover : Bool} {lines todo : List Entry} {line : Entry}
    {event : SelEvent} (h : Invariant s) (stage : s.stage = .handing leftover lines (line :: todo))
    (made : makeSelEvent line = some event) :
    Invariant { s with
      handed := handOver lines line event s.handed, stage := .handing leftover lines todo } := by
  have staged := h.staged
  unfold Staged at staged
  rw [stage] at staged
  obtain ⟨same, suffix, all⟩ := staged
  have more : ∀ n, n ∈ s.handedSerials →
      n ∈ (handOver lines line event s.handed).map (·.line.serial) :=
    fun n mem => mem_handOver.mpr (.inl mem)
  refine { h with
    kept := fun entry mem handler => more _ (h.kept entry mem handler)
    passed := fun current entry mem handler le => more _ (h.passed current entry mem handler le)
    covered := fun entry mem handler listed =>
      (h.covered entry mem handler listed).imp (more _) id
    staged := ⟨same, (List.suffix_cons line todo).trans suffix, ?_⟩ }
  intro entry mem handler
  obtain handed | left := all entry mem handler
  · exact .inl (more _ handed)
  · obtain rfl | left := List.mem_cons.mp left
    · exact .inl (mem_handOver.mpr (.inr ⟨(hasHandler_iff made).mp handler, rfl⟩))
    · exact .inr left

/-- No line is passed by the index zero, whether it is written or not. -/
theorem Invariant.forget (h : Invariant s) (indexFile : Option Nat) (stage : Stage)
    (zero : indexFile.getD 0 = 0)
    (staged : Staged { s with indexFile := indexFile, stale := false, stage := stage }) :
    Invariant { s with indexFile := indexFile, stale := false, stage := stage } := by
  refine { h with
    passed := fun _ entry mem _ le => ?_
    recorded := fun _ => .inl zero
    unused := by simp
    staged := staged }
  have := h.positive entry mem
  dsimp only at le
  omega

/-- The index of the last line is written, when all lines are handed over. -/
theorem Invariant.write {leftover : Bool} {lastIndex : Nat} (h : Invariant s)
    (stage : s.stage = .writing leftover lastIndex) :
    Invariant { s with indexFile := some lastIndex, stage := .emptying leftover } := by
  have staged := h.staged
  unfold Staged at staged
  rw [stage] at staged
  obtain ⟨current, ⟨last, mem, rfl, later⟩, all⟩ := staged
  exact { h with
    passed := fun _ entry among handler le => h.passed_last mem all among handler le
    recorded := fun _ => .inr ⟨last, (h.subset mem).1, rfl⟩
    unused := fun stale => absurd (current.symm.trans stale) (by decide)
    staged := all }

/-- The list file is emptied, when all of its lines are handed over. -/
theorem Invariant.empty {leftover : Bool} (h : Invariant s) (stage : s.stage = .emptying leftover) :
    Invariant { s with listFile := [], stage := afterNotify leftover } := by
  have staged := h.staged
  unfold Staged at staged
  rw [stage] at staged
  refine { h with
    file := .inl rfl
    unused := fun _ found => by cases found
    covered := fun entry mem handler listed => ?_
    staged := ?_ }
  · obtain handed | left := h.covered entry mem handler listed
    · exact .inl handed
    · exact .inl ((staged entry left handler).resolve_right (by simp))
  · cases leftover with
    | false => trivial
    | true => rfl

theorem Invariant.step (h : Invariant s) (regular : Regular s a) (step : next s a = some t) :
    Invariant t := by
  have staged := h.staged
  unfold Staged at staged
  cases next_cases step with
  | append index columns positive later => exact h.append positive later columns
  | boot stage =>
      exact { h with
        passed := h.passed
        recorded := h.recorded
        unused := h.unused
        staged := trivial }
  | run channelErr stage' stage moved =>
      refine { h with staged := ?_ }
      obtain rfl | ⟨rfl, empty⟩ | rfl := moved
      · trivial
      · exact empty
      · trivial
  | list stage =>
      rw [stage] at staged
      refine { h with staged := ⟨staged, ?_, h.bounded, le_rfl, regular⟩ }
      refine List.filter_congr fun entry mem => ?_
      simp [h.fresh entry mem]
  | info used stage' stage moved =>
      refine { h with staged := ?_ }
      obtain rfl | rfl := moved <;> trivial
  | clear stage => exact h.clear regular.1 regular.2
  | clearFails stage => exact { h with staged := trivial }
  | fail a internal => exact { h with staged := trivial }
  | notify leftover stage => exact { h with staged := ⟨rfl, List.suffix_rfl, h.handedBut⟩ }
  | hand leftover lines line todo event stage made => exact h.hand stage made
  | handed leftover lines last stage ends =>
      rw [stage] at staged
      obtain ⟨same, -, all⟩ := staged
      rw [same] at ends
      refine { h with staged := ⟨⟨last, ?_, rfl, ?_⟩, all⟩ }
      · exact getSelEvent_sublist.mem (List.mem_of_getLast? ends)
      · exact fun line mem => le_last_getSelEvent h.ordered_file ends mem
  | nothing leftover stage =>
      rw [stage] at staged
      exact { h with staged := staged.2.2 }
  | save leftover lastIndex stage =>
      rw [stage] at staged
      exact h.forget none (.writing leftover lastIndex) rfl ⟨rfl, staged⟩
  | write leftover lastIndex stage => exact h.write stage
  | empty leftover stage => exact h.empty stage
  | rename lines upTo stage =>
      rw [stage] at staged
      obtain ⟨empty, same, le, bounded, unused⟩ := staged
      refine { h with
        bounded := bounded
        file := .inr same
        unused := unused
        covered := fun entry mem handler listed => .inr ?_
        staged := trivial }
      dsimp only
      rw [same]
      exact mem_listing.mpr ⟨mem, grep_of_hasHandler handler, listed⟩
  | reset stage => exact h.forget none .rewriting rfl rfl
  | rewrite stage =>
      rw [stage] at staged
      have forgotten := h.forget (some 0) .idle rfl trivial
      rwa [← show s.stale = false from staged] at forgotten
  | restart => exact { h with staged := trivial }

/-- No entry of the log with a later index is handed over. -/
def State.bound (s : State) : Nat :=
  match s.stage with
  | .handing _ lines _ => (lines.getLast?.map Entry.index).getD (s.indexFile.getD 0)
  | .saving _ lastIndex | .writing _ lastIndex => lastIndex
  | .resetting | .rewriting => 0
  | _ => s.indexFile.getD 0

structure Tracked (s : State) : Prop where
  bounded : ∀ entry ∈ s.log, entry.serial ∈ s.handedSerials → entry.index ≤ s.bound
  found : s.bound = 0 ∨ ∃ entry ∈ s.log, grep entry = true ∧ entry.serial < s.listed ∧
    entry.index = s.bound
  todo : ∀ leftover lines todo, s.stage = .handing leftover lines todo →
    (todo.map Entry.serial).Nodup ∧ ∀ line ∈ todo, line.serial ∉ s.handedSerials

/-- The invariant of the runs without a restart. -/
structure Once (s : State) : Prop where
  nodup : s.handedSerials.Nodup
  old : ∀ n ∈ s.handedSerials, n < s.appended
  tracked : s.stage ≠ .failed → Tracked s

theorem Tracked.moved (h : Tracked s) (log : t.log = s.log) (handed : t.handed = s.handed)
    (listed : s.listed ≤ t.listed) (bound : t.bound = s.bound)
    (other : ∀ leftover lines todo, t.stage ≠ .handing leftover lines todo) : Tracked t := by
  have serials : t.handedSerials = s.handedSerials := by
    rw [State.handedSerials, handed, State.handedSerials]
  refine ⟨?_, ?_, fun leftover lines todo stage => absurd stage (other _ _ _)⟩
  · rw [log, serials, bound]
    exact h.bounded
  · rw [log, bound]
    exact h.found.imp id fun ⟨entry, mem, kept, before, own⟩ =>
      ⟨entry, mem, kept, before.trans_le listed, own⟩

theorem Once.moved (h : Once s) (live : s.stage ≠ .failed) (log : t.log = s.log)
    (handed : t.handed = s.handed) (appended : t.appended = s.appended)
    (listed : s.listed ≤ t.listed) (bound : t.bound = s.bound)
    (other : ∀ leftover lines todo, t.stage ≠ .handing leftover lines todo) : Once t := by
  have serials : t.handedSerials = s.handedSerials := by
    rw [State.handedSerials, handed, State.handedSerials]
  refine ⟨?_, ?_, fun _ => (h.tracked live).moved log handed listed bound other⟩
  · rw [serials]
    exact h.nodup
  · rw [serials, appended]
    exact h.old

theorem Ordered.nodup (ordered : Ordered lines) : (lines.map Entry.serial).Nodup := by
  refine List.pairwise_map.mpr (ordered.imp ?_)
  rintro a b ⟨-, before⟩
  exact before.ne

/-- The lines that are going to be handed over are later than all that were. -/
theorem Tracked.fresh (h : Tracked s) (files : Invariant s) (bound : s.bound = s.indexFile.getD 0)
    (mem : line ∈ getSelEvent (s.indexFile.getD 0) s.listFile) :
    s.indexFile.getD 0 < line.index := by
  rw [mem_getSelEvent files.ordered_file] at mem
  obtain ⟨mem, later⟩ := mem
  have logged := (files.subset mem).1
  obtain zero | ⟨entry, among, kept, listed, own⟩ := h.found
  · rw [← bound, zero]
    exact files.positive line logged
  · refine later (List.mem_map.mpr ⟨entry, ?_, own.trans bound⟩)
    obtain empty | same := files.file
    · rw [empty] at mem
      cases mem
    · rw [same]
      exact mem_listing.mpr ⟨among, kept, listed⟩

theorem Once.notify (h : Once s) (files : Invariant s) {leftover : Bool}
    (stage : s.stage = .notify leftover) (lines : List Entry)
    (same : lines = getSelEvent (s.indexFile.getD 0) s.listFile) :
    Once { s with stage := .handing leftover lines lines } := by
  have known := h.tracked (by simp [stage])
  have bound : s.bound = s.indexFile.getD 0 := by simp [State.bound, stage]
  have later : ∀ line ∈ lines, s.indexFile.getD 0 < line.index := by
    intro line mem
    exact known.fresh files bound (same ▸ mem)
  have listed : ∀ line ∈ lines, line ∈ s.listFile := by
    intro line mem
    exact getSelEvent_sublist.mem (same ▸ mem)
  refine ⟨h.nodup, h.old, fun _ => ⟨?_, ?_, ?_⟩⟩
  · intro entry mem handed
    have := known.bounded entry mem handed
    simp only [State.bound]
    cases last : lines.getLast? with
    | none => simpa [bound] using this
    | some last' =>
        have := later last' (List.mem_of_getLast? last)
        simp only [Option.map_some, Option.getD_some]
        omega
  · simp only [State.bound]
    cases last : lines.getLast? with
    | none => simpa [bound] using known.found
    | some last' =>
        have mem := listed last' (List.mem_of_getLast? last)
        refine .inr ⟨last', (files.subset mem).1, ?_, (files.subset mem).2, rfl⟩
        obtain empty | all := files.file
        · rw [empty] at mem
          cases mem
        · rw [all, mem_listing] at mem
          exact mem.2.1
  · rintro _ _ _ stage'
    cases stage'
    refine ⟨?_, fun line mem handed => ?_⟩
    · rw [same]
      exact files.ordered_file.getSelEvent.nodup
    · have := known.bounded line (files.subset (listed line mem)).1 handed
      have := later line mem
      omega

theorem Once.hand (h : Once s) (files : Invariant s) {leftover : Bool} {todo : List Entry}
    {event : SelEvent} (stage : s.stage = .handing leftover lines (line :: todo)) :
    Once { s with
      handed := handOver lines line event s.handed, stage := .handing leftover lines todo } := by
  have known := h.tracked (by simp [stage])
  have staged := files.staged
  unfold Staged at staged
  rw [stage] at staged
  obtain ⟨same, suffix, -⟩ := staged
  have yielded : line ∈ lines := suffix.mem (List.mem_cons_self ..)
  have listed : line ∈ s.listFile := getSelEvent_sublist.mem (same ▸ yielded)
  have logged := (files.subset listed).1
  obtain ⟨distinct, unhanded⟩ := known.todo _ _ _ stage
  rw [List.map_cons, List.nodup_cons] at distinct
  have bound : State.bound { s with
      handed := handOver lines line event s.handed, stage := .handing leftover lines todo } =
        s.bound := by
    simp [State.bound, stage]
  refine ⟨?_, ?_, fun _ => ⟨?_, ?_, ?_⟩⟩
  · simp only [State.handedSerials, handOver]
    split
    · rw [List.map_append]
      refine List.nodup_append.mpr ⟨h.nodup, List.nodup_singleton _, ?_⟩
      rintro n handed _ new rfl
      rw [List.map_singleton, List.mem_singleton] at new
      exact unhanded line (List.mem_cons_self ..) (new ▸ handed)
    · exact h.nodup
  · intro n mem
    obtain handed | ⟨-, rfl⟩ := mem_handOver.mp mem
    · exact h.old n handed
    · exact files.fresh line logged
  · intro entry mem handed
    rw [bound]
    obtain handed | ⟨-, own⟩ := mem_handOver.mp handed
    · exact known.bounded entry mem handed
    · rw [files.ordered.eq_of_serial mem logged own]
      cases last : lines.getLast? with
      | none =>
          rw [List.getLast?_eq_none_iff] at last
          rw [last] at yielded
          cases yielded
      | some last' =>
          simp only [State.bound, stage, last, Option.map_some, Option.getD_some]
          exact (same ▸ files.ordered_file.getSelEvent).le_last last yielded
  · rw [bound]
    exact known.found
  · rintro _ _ _ stage'
    cases stage'
    refine ⟨distinct.2, fun other mem handed => ?_⟩
    obtain handed | ⟨-, own⟩ := mem_handOver.mp handed
    · exact unhanded other (List.mem_cons_of_mem _ mem) handed
    · exact distinct.1 (own ▸ List.mem_map_of_mem mem)

theorem Once.step (h : Once s) (files : Invariant s) (step : next s a = some t)
    (unrestarted : t.restarted = false) : Once t := by
  cases next_cases step with
  | append index columns positive later =>
      refine ⟨h.nodup, fun n mem => Nat.lt_succ_of_lt (h.old n mem), fun live => ?_⟩
      have known := h.tracked live
      refine ⟨fun entry mem handed => ?_, known.found.imp id ?_, known.todo⟩
      · obtain mem | new := List.mem_append.mp mem
        · exact known.bounded entry mem handed
        · rw [List.mem_singleton.mp new] at handed
          exact absurd (h.old _ handed) (Nat.lt_irrefl _)
      · exact fun ⟨entry, mem, kept⟩ => ⟨entry, List.mem_append_left _ mem, kept⟩
  | boot stage =>
      exact h.moved (by simp [stage]) rfl rfl rfl le_rfl (by simp [State.bound, stage]) (by simp)
  | run channelErr stage' stage moved =>
      obtain rfl | ⟨rfl, -⟩ | rfl := moved <;>
        exact h.moved (by simp [stage]) rfl rfl rfl le_rfl (by simp [State.bound, stage]) (by simp)
  | list stage =>
      exact h.moved (by simp [stage]) rfl rfl rfl le_rfl (by simp [State.bound, stage]) (by simp)
  | info used stage' stage moved =>
      obtain rfl | rfl := moved <;>
        exact h.moved (by simp [stage]) rfl rfl rfl le_rfl (by simp [State.bound, stage]) (by simp)
  | clear stage =>
      exact ⟨h.nodup, h.old, fun _ => ⟨by simp, .inl rfl, by simp⟩⟩
  | clearFails stage =>
      exact h.moved (by simp [stage]) rfl rfl rfl le_rfl (by simp [State.bound, stage]) (by simp)
  | fail a internal => exact ⟨h.nodup, h.old, fun live => absurd rfl live⟩
  | notify leftover stage => exact h.notify files stage _ rfl
  | hand leftover lines line todo event stage made => exact h.hand files stage
  | handed leftover lines last stage ends =>
      exact h.moved (by simp [stage]) rfl rfl rfl le_rfl (by simp [State.bound, stage, ends])
        (by simp)
  | nothing leftover stage =>
      exact h.moved (by simp [stage]) rfl rfl rfl le_rfl (by simp [State.bound, stage]) (by simp)
  | save leftover lastIndex stage =>
      exact h.moved (by simp [stage]) rfl rfl rfl le_rfl (by simp [State.bound, stage]) (by simp)
  | write leftover lastIndex stage =>
      exact h.moved (by simp [stage]) rfl rfl rfl le_rfl (by simp [State.bound, stage]) (by simp)
  | empty leftover stage =>
      cases leftover <;>
        exact h.moved (by simp [stage]) rfl rfl rfl le_rfl
          (by simp [State.bound, stage, afterNotify]) (by simp [afterNotify])
  | rename lines upTo stage =>
      have staged := files.staged
      unfold Staged at staged
      rw [stage] at staged
      exact h.moved (by simp [stage]) rfl rfl rfl staged.2.2.1 (by simp [State.bound, stage])
        (by simp)
  | reset stage =>
      exact h.moved (by simp [stage]) rfl rfl rfl le_rfl (by simp [State.bound, stage]) (by simp)
  | rewrite stage =>
      exact h.moved (by simp [stage]) rfl rfl rfl le_rfl (by simp [State.bound, stage]) (by simp)
  | restart => cases unrestarted

theorem restarted_of_next (step : next s a = some t) (before : s.restarted = true) :
    t.restarted = true := by
  cases next_cases step <;> first | exact before | rfl

theorem start_invariant : Invariant start :=
  ⟨⟨.nil, by simp [start], by simp [start]⟩, le_rfl, .inl rfl, by simp [start], by simp [start],
    fun _ => .inl rfl, by simp [start], by simp [start], trivial⟩

theorem start_once : Once start :=
  ⟨.nil, by simp [start, State.handedSerials],
    fun _ => ⟨by simp [start], .inl rfl, by simp [start]⟩⟩

end Runs

/-- In every run whose steps are regular, each entry with a handler is handed over before it is
cleared, and not twice unless the sensor was restarted. Entries may be logged at any point of the
loop. -/
theorem events_processed (actions : List Action) (s : State)
    (run : system.Runs Regular start actions s) : Conforms s := by
  have known : Invariant s ∧ (s.restarted = false → Once s) := by
    apply run.invariant (I := fun s => Invariant s ∧ (s.restarted = false → Once s)) _
      ⟨start_invariant, fun _ => start_once⟩
    rintro u a v ⟨files, once⟩ regular step
    refine ⟨files.step regular step, fun unrestarted => ?_⟩
    refine (once ?_).step files step unrestarted
    by_contra restarted
    have := restarted_of_next step (by simpa using restarted)
    rw [unrestarted] at this
    cases this
  obtain ⟨files, once⟩ := known
  refine ⟨files.kept, fun _ empty entry mem handler listed => ?_, fun unrestarted =>
    (once unrestarted).nodup⟩
  obtain handed | left := files.covered entry mem handler listed
  · exact handed
  · rw [empty] at left
    cases left

namespace Example

def fanEvent : List String :=
  ["04/16/2019", "05:29:09", "Fan #0x30", "Lower Non-critical going low", "Asserted"]

/-- One entry is listed and handed over. -/
def handsOver : List Action :=
  [Action.append 1 fanEvent, .boot, .run false, .list true] ++ List.replicate 7 Action.advance

/-- The log is found to be nearly full and cleared. -/
def clears : List Action := [.info (some 95), .clear true, .advance, .advance]

example : makeSelEvent ⟨0, 1, fanEvent⟩ = some ⟨1, "04/16/2019", "05:29:09", "Fan #0x30", "Fan",
    some "30", "Lower Non-critical going low", "Asserted"⟩ := by
  decide

theorem clears_replay : (system.replay Regular start (handsOver ++ clears)).map
    (fun s => (s.cleared.length, s.handedSerials, s.restarted)) = some (1, [0], false) := by
  decide

/-- The entry is handed over, and the log is cleared. -/
theorem events_processed_clears :
    ∃ s, system.Runs Regular start (handsOver ++ clears) s ∧ s.cleared.length = 1 ∧
      s.handedSerials = [0] ∧ Conforms s := by
  obtain ⟨s, replay, facts⟩ := Option.map_eq_some_iff.mp clears_replay
  simp only [Prod.mk.injEq] at facts
  have run := (Transition.System.replay_eq_some_iff _).mp replay
  exact ⟨s, run, facts.1, facts.2.1, events_processed _ s run⟩

/-- The BMC appends an entry after the first one was handed over. -/
def late : List Action := handsOver ++ .append 2 fanEvent :: clears

theorem late_cleared : (system.run start late).map
    (fun s => (s.cleared.map fun entry => (entry.serial, hasHandler entry), s.handedSerials)) =
      some ([(0, true), (1, true)], [0]) := by
  decide

/-- An entry is cleared that was not handed over. -/
theorem events_lost : ¬ ∀ actions s, system.FreeRuns start actions s → Conforms s := by
  intro always
  obtain ⟨s, replay, facts⟩ := Option.map_eq_some_iff.mp late_cleared
  simp only [Prod.mk.injEq] at facts
  obtain ⟨cleared, handed⟩ := facts
  have conforms := always late s ((Transition.System.run_eq_some_iff _).mp replay)
  have lost : (1, true) ∈ s.cleared.map fun entry => (entry.serial, hasHandler entry) := by
    rw [cleared]
    decide
  obtain ⟨entry, mem, same⟩ := List.mem_map.mp lost
  simp only [Prod.mk.injEq] at same
  have handedOver := conforms.kept entry mem same.2
  rw [handed, same.1] at handedOver
  exact absurd handedOver (by decide)

end Example

end Sel

end NodeHw

end Sspl

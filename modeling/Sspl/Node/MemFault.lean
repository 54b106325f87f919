import Sspl.Disk.Handler
import Sspl.Foundation.Alternation
import Sspl.Node.Alert

/-!
# The memory fault sensor

`MemFaultSensor` runs once in a start of the process. It compares the total memory with the
size that it has stored, and stores the size it compares with together with the state of the
alert, as one text `size:state`.

The stored size is that of the first run or of the run that has resolved the last fault. It
does not grow while no fault is outstanding: memory that is added in that time and lost again
is not missed.
-/

namespace Sspl

namespace Node

namespace MemFault

open Iem (Text strip)

/-- `text.split()`. -/
def words (text : Text) : List Text := (text.splitOnP isSpace).filter (· ≠ [])

/-- `text.splitlines()`, for lines that end with a line feed. -/
def splitlines (text : Text) : List Text :=
  let lines := text.splitOn '\n'
  if lines.getLast? = some [] then lines.dropLast else lines

structure Alert where
  alertType : AlertType
  description : Text
  deriving DecidableEq

/-- A sensor with what it has stored and sent. -/
structure Sensor where
  totalMem : Option Text
  prevMem : Option Text
  faultAlertState : Text
  store : Option Text
  sent : List Alert

def neutralState : Text := "Neutral State".toList

def faultGenerated : Text := "Fault Generated".toList

/-- A new sensor, which finds this in the store. -/
def Sensor.init (store : Option Text) : Sensor := ⟨none, none, neutralState, store, []⟩

abbrev Block := Try Sensor PyErr

def getStoredMemInfo : Block PUnit := do
  let s ← Try.get
  match s.store with
  | none => return ⟨⟩
  | some data =>
    match data.splitOn ':' with
    | prev :: state :: _ =>
      Try.modify fun s => { s with prevMem := some (strip prev), faultAlertState := strip state }
    -- `consul_data[1]`
    | _ => throw .other

def putMemInfo (totalMemorySize : Text) : Block PUnit :=
  Try.modify fun s => { s with store := some (totalMemorySize ++ ':' :: s.faultAlertState) }

def description (alertType : AlertType) (prevMem totalMem : Text) : Text :=
  match alertType with
  | .fault => "Total available main memory value decreased from ".toList ++ prevMem ++
      " kB to ".toList ++ totalMem ++ " kB".toList
  | .faultResolved => "Total main memory value available ".toList ++ totalMem ++ " kB".toList

/-- `_generate_alert`. The lines of the file become a dictionary, for which each of them has to
have two parts. -/
def generateAlert (memPathFile : Text) (alertType : AlertType) (prevMem totalMem : Text) :
    Block PUnit :=
  if ∀ line ∈ splitlines memPathFile, 2 ≤ (words line).length then
    Try.modify fun s =>
      { s with sent := s.sent ++ [⟨alertType, description alertType prevMem totalMem⟩] }
  else throw .valueError

/-- The second field of the file, if the first is `MemTotal:`. -/
def memTotal (memPathFile : Text) : Except PyErr Text :=
  match words memPathFile with
  | name :: total :: _ => if name = "MemTotal:".toList then .ok total else .error .other
  | _ => .error .other

/-- The comparison with a stored size. -/
def compare (memPathFile totalMem prevMem : Text) : Block PUnit := do
  let prev ← Try.ofExcept (Disk.int prevMem)
  let total ← Try.ofExcept (Disk.int totalMem)
  let s ← Try.get
  if total < prev then
    if s.faultAlertState = neutralState then
      Try.modify fun s => { s with faultAlertState := faultGenerated }
      generateAlert memPathFile .fault prevMem totalMem
      putMemInfo prevMem
    else return ⟨⟩
  else if s.faultAlertState = faultGenerated then
    Try.modify fun s => { s with faultAlertState := neutralState }
    generateAlert memPathFile .faultResolved prevMem totalMem
    putMemInfo totalMem
  else return ⟨⟩

/-- `run`; there is no text if the path is no file. -/
def run (memPath : Option Text) : Block PUnit := do
  let memPathFile ← Try.ofExcept (memPath.elim (.error .other) .ok)
  let total ← Try.ofExcept (memTotal memPathFile)
  Try.modify fun s => { s with totalMem := some total }
  getStoredMemInfo
  let s ← Try.get
  match s.prevMem with
  | none => putMemInfo total
  | some prev => compare memPathFile total prev

/-- A text of `/proc/meminfo`: its first line says the size, and every line has two parts. -/
structure Reading where
  text : Text
  total : Text
  size : Int
  field : memTotal text = .ok total
  digits : ∀ c ∈ total, c.isDigit
  value : Disk.int total = .ok size
  lines : ∀ line ∈ splitlines text, 2 ≤ (words line).length

/-- A run with the size it has read and the alerts it has raised. -/
structure Run where
  size : Int
  alerts : List AlertType
  deriving DecidableEq

/-- The store, and the runs so far, the last one first. -/
structure State where
  store : Option Text
  runs : List Run

def start : State := ⟨none, []⟩

/-- Each run is one of a new sensor. -/
def system : Transition.System State Reading where
  init s := s = start
  next s reading :=
    let after := ((run (some reading.text)).run (.init s.store)).2
    some ⟨after.store, ⟨reading.size, after.sent.map Alert.alertType⟩ :: s.runs⟩

/-- The alerts of some runs, in the order in which they were raised. -/
abbrev alertsOf (runs : List Run) : List AlertType := told Run.alerts runs

/-- The last alert is a fault. -/
def Outstanding (runs : List Run) : Prop := (alertsOf runs).getLast? = some .fault

/-- The runs since the first one, or since the last one that has resolved a fault. -/
def sinceBase : List Run → List Run
  | [] => []
  | run :: earlier => run :: if .faultResolved ∈ run.alerts then [] else sinceBase earlier

/-- The alerts alternate, and after each run a fault is outstanding exactly if the size is below
the largest since the base, that is below one of them. -/
structure MemoryFaultLaw (runs : List Run) : Prop where
  alternating : Alternating .fault .faultResolved (alertsOf runs)
  outstanding : ∀ run earlier, run :: earlier <:+ runs →
    (Outstanding (run :: earlier) ↔ ∃ seen ∈ sinceBase (run :: earlier), run.size < seen.size)

/-- If no fault is outstanding, the size that is read is below that of the base or not below any
since then. -/
def Noticed (s : State) (reading : Reading) : Prop :=
  ¬ Outstanding s.runs → ∀ base ∈ (sinceBase s.runs).getLast?, base.size ≤ reading.size →
    ∀ seen ∈ sinceBase s.runs, seen.size ≤ reading.size

section Texts

theorem strip_of_noSpace {text : Text} (none : ∀ c ∈ text, isSpace c = false) :
    strip text = text := by
  have kept : Iem.rstrip text = text := by
    refine List.rdropWhile_eq_self_iff.mpr fun some_ => ?_
    rw [none _ (List.getLast_mem some_)]
    simp
  rw [strip, kept]
  cases text with
  | nil => rfl
  | cons c rest => rw [List.dropWhile_cons_of_neg (by simp [none c (.head _)])]

theorem isSpace_of_isDigit {c : Char} (digit : c.isDigit) : isSpace c = false := by
  have range : 48 ≤ c.toNat ∧ c.toNat ≤ 57 := by
    simpa [Char.isDigit, UInt32.le_iff_toNat_le] using digit
  simp [isSpace]
  omega

/-- The text that is stored for the state of the alert. -/
def stateText (outstanding : Bool) : Text := if outstanding then faultGenerated else neutralState

theorem strip_stateText (outstanding : Bool) :
    strip (stateText outstanding) = stateText outstanding := by
  cases outstanding <;> decide +kernel

theorem notMem_stateText (outstanding : Bool) : ':' ∉ stateText outstanding := by
  cases outstanding <;> decide +kernel

end Texts

/-- What is stored for a size in decimal digits. -/
structure Stored (store : Option Text) (base : Int) (outstanding : Bool) : Prop where
  text : ∃ total, store = some (total ++ ':' :: stateText outstanding) ∧
    (∀ c ∈ total, c.isDigit) ∧ Disk.int total = .ok base

/-- What a run with a stored size makes of it, and the alerts it raises. -/
inductive Outcome (base size : Int) : Bool → Int → Bool → List AlertType → Prop
  | fault (less : size < base) : Outcome base size false base true [.fault]
  | stillLess (less : size < base) : Outcome base size true base true []
  | resolved (enough : base ≤ size) : Outcome base size true size false [.faultResolved]
  | kept (enough : base ≤ size) : Outcome base size false base false []

section Run

variable {reading : Reading} {base : Int} {outstanding : Bool}

theorem getStoredMemInfo_run {total : Text} {s : Sensor} (digits : ∀ c ∈ total, c.isDigit)
    (store : s.store = some (total ++ ':' :: stateText outstanding)) :
    getStoredMemInfo.run s = (.ok ⟨⟩,
      { s with prevMem := some total, faultAlertState := stateText outstanding }) := by
  have colon : ':' ∉ total := by
    intro mem
    exact absurd (digits _ mem) (by decide)
  have parts : (total ++ ':' :: stateText outstanding).splitOn ':' =
      [total, stateText outstanding] := by
    rw [List.splitOn_append_cons_self_of_not_mem colon,
      List.splitOn_eq_singleton (notMem_stateText outstanding)]
  have stripped : strip total = total :=
    strip_of_noSpace fun c mem => isSpace_of_isDigit (digits c mem)
  rw [getStoredMemInfo, Try.run_bind_of_ok (Try.run_get s), store]
  simp [parts, stripped, strip_stateText, store]

theorem generateAlert_run (alertType : AlertType) (prevMem totalMem : Text) (s : Sensor) :
    (generateAlert reading.text alertType prevMem totalMem).run s = (.ok ⟨⟩,
      { s with sent := s.sent ++ [⟨alertType, description alertType prevMem totalMem⟩] }) := by
  rw [generateAlert, if_pos reading.lines, Try.run_modify]

/-- The start of a run. -/
theorem run_eq (s : Sensor) : (run (some reading.text)).run s = (do
    getStoredMemInfo
    let s ← Try.get
    match s.prevMem with
    | none => putMemInfo reading.total
    | some prev => compare reading.text reading.total prev : Block PUnit).run
      { s with totalMem := some reading.total } := by
  rw [run, Option.elim_some, Try.run_ofExcept_bind_ok, reading.field, Try.run_ofExcept_bind_ok,
    Try.run_bind_of_ok (Try.run_modify _ s)]

variable (reading) in
theorem run_first : let after := ((run (some reading.text)).run (.init none)).2
    Stored after.store reading.size false ∧ after.sent = [] := by
  have started : (run (some reading.text)).run (.init none) =
      (.ok ⟨⟩, ⟨some reading.total, none, neutralState,
        some (reading.total ++ ':' :: stateText false), []⟩) := by
    rw [run_eq]
    rfl
  rw [started]
  exact ⟨⟨reading.total, rfl, reading.digits, reading.value⟩, rfl⟩

/-- The comparison, from the state that the store was read into. -/
theorem compare_run {prev : Text} {s : Sensor} (value : Disk.int prev = .ok base)
    (digits : ∀ c ∈ prev, c.isDigit) (state : s.faultAlertState = stateText outstanding)
    (store : s.store = some (prev ++ ':' :: stateText outstanding)) (fresh : s.sent = []) :
    let after := ((compare reading.text reading.total prev).run s).2
    ∃ base' outstanding', Stored after.store base' outstanding' ∧
      Outcome base reading.size outstanding base' outstanding'
        (after.sent.map Alert.alertType) := by
  have same : Stored s.store base outstanding := ⟨prev, store, digits, value⟩
  rw [compare, value, Try.run_ofExcept_bind_ok, reading.value, Try.run_ofExcept_bind_ok,
    Try.run_bind_of_ok (Try.run_get s), state]
  by_cases less : reading.size < base
  · rw [if_pos less]
    cases outstanding with
    | false =>
        rw [if_pos (show stateText false = neutralState from rfl),
          Try.run_bind_of_ok (Try.run_modify _ s),
          Try.run_bind_of_ok (generateAlert_run _ _ _ _), putMemInfo, Try.run_modify]
        refine ⟨base, true, ⟨prev, rfl, digits, value⟩, ?_⟩
        rw [fresh]
        exact .fault less
    | true =>
        rw [if_neg (by decide +kernel)]
        refine ⟨base, true, same, ?_⟩
        rw [Try.run_pure, fresh]
        exact .stillLess less
  · rw [if_neg less]
    have enough := Int.not_lt.mp less
    cases outstanding with
    | false =>
        rw [if_neg (by decide +kernel)]
        refine ⟨base, false, same, ?_⟩
        rw [Try.run_pure, fresh]
        exact .kept enough
    | true =>
        rw [if_pos (show stateText true = faultGenerated from rfl),
          Try.run_bind_of_ok (Try.run_modify _ s),
          Try.run_bind_of_ok (generateAlert_run _ _ _ _), putMemInfo, Try.run_modify]
        refine ⟨reading.size, false, ⟨reading.total, rfl, reading.digits, reading.value⟩, ?_⟩
        rw [fresh]
        exact .resolved enough

variable (reading) in
theorem run_stored {store : Option Text} (stored : Stored store base outstanding) :
    let after := ((run (some reading.text)).run (.init store)).2
    ∃ base' outstanding', Stored after.store base' outstanding' ∧
      Outcome base reading.size outstanding base' outstanding'
        (after.sent.map Alert.alertType) := by
  obtain ⟨prev, rfl, digits, value⟩ := stored.text
  have read := getStoredMemInfo_run (s := { Sensor.init (some (prev ++ ':' :: stateText
    outstanding)) with totalMem := some reading.total }) digits rfl
  rw [run_eq, Try.run_bind_of_ok read, Try.run_bind_of_ok (Try.run_get _)]
  exact compare_run value digits rfl rfl rfl

end Run

section Law

variable {s t : State} {run : Run} {earlier : List Run} {reading : Reading} {base base' : Int}
  {outstanding outstanding' : Bool}

/-- The store says what the runs were. -/
structure Recorded (base : Int) (outstanding : Bool) (runs : List Run) : Prop where
  base : (sinceBase runs).getLast?.map Run.size = some base
  follows : Follows .fault .faultResolved Run.alerts runs (outstanding = true)

/-- A run after which the law has to be looked at anew. -/
theorem MemoryFaultLaw.next (h : MemoryFaultLaw earlier)
    (alternating : Alternating .fault .faultResolved (alertsOf (run :: earlier)))
    (last : Outstanding (run :: earlier) ↔
      ∃ seen ∈ sinceBase (run :: earlier), run.size < seen.size) :
    MemoryFaultLaw (run :: earlier) := by
  refine ⟨alternating, fun later before suffix => ?_⟩
  obtain same | inside := List.suffix_cons_iff.mp suffix
  · cases same
    exact last
  · exact h.outstanding later before inside

theorem sinceBase_quiet (quiet : .faultResolved ∉ run.alerts) :
    sinceBase (run :: earlier) = run :: sinceBase earlier := by
  rw [sinceBase, if_neg quiet]

theorem sinceBase_resolved (resolved : .faultResolved ∈ run.alerts) :
    sinceBase (run :: earlier) = [run] := by
  rw [sinceBase, if_pos resolved]

/-- A run that resolves nothing leaves the base. -/
theorem Recorded.base_quiet (h : Recorded base outstanding earlier)
    (quiet : .faultResolved ∉ run.alerts) :
    (sinceBase (run :: earlier)).getLast?.map Run.size = some base := by
  rw [sinceBase_quiet quiet, List.getLast?_cons]
  have known := h.base
  cases last : (sinceBase earlier).getLast? with
  | none => simp [last] at known
  | some first => simpa [last] using known

variable (run) in
theorem Recorded.next (h : Recorded base outstanding earlier)
    (outcome : Outcome base run.size outstanding base' outstanding' run.alerts) :
    Recorded base' outstanding' (run :: earlier) := by
  generalize raised : run.alerts = alerts at outcome
  cases outcome with
  | fault less => exact ⟨h.base_quiet (by simp [raised]), h.follows.raise (by simp) raised rfl⟩
  | stillLess less => exact ⟨h.base_quiet (by simp [raised]), h.follows.silent raised .rfl⟩
  | resolved enough =>
      refine ⟨?_, h.follows.settle (by decide) rfl raised (by simp)⟩
      rw [sinceBase_resolved (by simp [raised])]
      rfl
  | kept enough => exact ⟨h.base_quiet (by simp [raised]), h.follows.silent raised .rfl⟩

/-- A size below that of the base is below the largest. -/
theorem Recorded.below (h : Recorded base outstanding earlier) (less : run.size < base)
    (quiet : .faultResolved ∉ run.alerts) :
    ∃ seen ∈ sinceBase (run :: earlier), run.size < seen.size := by
  obtain ⟨first, last, size⟩ := Option.map_eq_some_iff.mp h.base
  rw [sinceBase_quiet quiet]
  exact ⟨first, .tail _ (List.mem_of_getLast? last), size ▸ less⟩

variable (run) in
/-- What the law asks of a run: only one that raises nothing can break it. -/
theorem Recorded.lawful_iff (h : Recorded base outstanding earlier)
    (outcome : Outcome base run.size outstanding base' outstanding' run.alerts) :
    (Outstanding (run :: earlier) ↔ ∃ seen ∈ sinceBase (run :: earlier), run.size < seen.size) ↔
      (¬ Outstanding earlier → base ≤ run.size →
        ∀ seen ∈ sinceBase earlier, seen.size ≤ run.size) := by
  have now := (h.next run outcome).follows.on_iff
  generalize raised : run.alerts = alerts at outcome
  cases outcome with
  | fault less =>
      have quiet : .faultResolved ∉ run.alerts := by simp [raised]
      exact iff_of_true (iff_of_true (now.mp rfl) (h.below less quiet))
        (fun _ enough => absurd less (Int.not_lt.mpr enough))
  | stillLess less =>
      have quiet : .faultResolved ∉ run.alerts := by simp [raised]
      exact iff_of_true (iff_of_true (now.mp rfl) (h.below less quiet))
        (fun _ enough => absurd less (Int.not_lt.mpr enough))
  | resolved enough =>
      have idle : ¬ Outstanding (run :: earlier) := by simp [Outstanding, ← now]
      refine iff_of_true (iff_of_false idle ?_) (fun free => absurd (h.follows.on_iff.mp rfl) free)
      rw [sinceBase_resolved (by simp [raised])]
      simp
  | kept enough =>
      have idle : ¬ Outstanding (run :: earlier) := by simp [Outstanding, ← now]
      have free : ¬ Outstanding earlier := by simp [Outstanding, ← h.follows.on_iff]
      rw [sinceBase_quiet (by simp [raised])]
      simp [idle, free, enough]

end Law

section Runs

variable {s t : State} {reading : Reading}

/-- Before the first run nothing is stored; afterwards the store says what the runs were. -/
structure Invariant (s : State) : Prop where
  recorded : s = start ∨ ∃ base outstanding, Stored s.store base outstanding ∧
    Recorded base outstanding s.runs
  law : MemoryFaultLaw s.runs

theorem Invariant.start : Invariant start :=
  ⟨.inl rfl, trivial, fun run earlier suffix => by simp [MemFault.start] at suffix⟩

theorem Invariant.first (step : system.next MemFault.start reading = some t) : Invariant t := by
  cases step
  obtain ⟨stored, silent⟩ := run_first reading
  have none : ¬ Outstanding [⟨reading.size, []⟩] := by simp [Outstanding, told]
  rw [MemFault.start, silent]
  refine ⟨.inr ⟨reading.size, false, stored, ⟨rfl, .silent (.nil (by simp)) rfl .rfl⟩⟩, trivial, ?_⟩
  intro run earlier suffix
  obtain same | inside := List.suffix_cons_iff.mp suffix
  · cases same
    exact iff_of_false none (by simp [sinceBase])
  · simp at inside

/-- The invariant is kept exactly by the readings that are noticed. -/
theorem Invariant.step_iff (h : Invariant s) (step : system.next s reading = some t) :
    (Noticed s reading → Invariant t) ∧ (MemoryFaultLaw t.runs → Noticed s reading) := by
  obtain rfl | ⟨base, outstanding, stored, recorded⟩ := h.recorded
  · refine ⟨fun _ => .first step, fun _ _ base last => ?_⟩
    simp [MemFault.start, sinceBase] at last
  · cases step
    obtain ⟨base', outstanding', stored', outcome⟩ := run_stored reading stored
    have next := recorded.next ⟨reading.size, _⟩ outcome
    have lawful := recorded.lawful_iff ⟨reading.size, _⟩ outcome
    have noticed : Noticed s reading ↔ (¬ Outstanding s.runs → base ≤ reading.size →
        ∀ seen ∈ sinceBase s.runs, seen.size ≤ reading.size) := by
      obtain ⟨first, last, rfl⟩ := Option.map_eq_some_iff.mp recorded.base
      rw [Noticed, last]
      simp
    rw [noticed, ← lawful]
    refine ⟨fun last => ?_, fun law => law.outstanding _ _ (List.suffix_refl _)⟩
    exact ⟨.inr ⟨base', outstanding', stored', next⟩, h.law.next next.follows.alternating last⟩

/-- The law holds in every state of a run of the system exactly if each reading is noticed: while
no fault is outstanding, memory that falls below what it was falls below the last base as well. -/
theorem memory_fault_law_iff {readings : List Reading}
    (runs : system.FreeRuns start readings s) :
    system.Always (fun s => MemoryFaultLaw s.runs) start readings ↔
      system.Runs Noticed start readings s := by
  refine Transition.System.Runs.always_iff (I := Invariant) (fun _ h => h.law) ?_ ?_ runs .start
  · exact fun _ _ _ h noticed step => (h.step_iff step).1 noticed
  · exact fun _ _ _ h step law => (h.step_iff step).2 law

end Runs

/-- The line that the kernel writes. -/
def memInfo (size : Text) : Text := "MemTotal: ".toList ++ size ++ " kB\n".toList

def reading8 : Reading where
  text := memInfo "8".toList
  total := "8".toList
  size := 8
  field := by decide +kernel
  digits := List.all_eq_true.mp (by decide +kernel)
  value := by decide +kernel
  lines := by decide +kernel

def reading12 : Reading where
  text := memInfo "12".toList
  total := "12".toList
  size := 12
  field := by decide +kernel
  digits := List.all_eq_true.mp (by decide +kernel)
  value := by decide +kernel
  lines := by decide +kernel

def reading16 : Reading where
  text := memInfo "16".toList
  total := "16".toList
  size := 16
  field := by decide +kernel
  digits := List.all_eq_true.mp (by decide +kernel)
  value := by decide +kernel
  lines := by decide +kernel

/-- Half of the memory is lost, and comes back in two steps. -/
theorem memory_fault_law_iff_lost :
    ∃ s, system.run start [reading16, reading8, reading12, reading16] = some s ∧
      alertsOf s.runs = [.fault, .faultResolved] ∧
      (system.Always (fun s => MemoryFaultLaw s.runs) start
          [reading16, reading8, reading12, reading16] ↔
        system.Runs Noticed start [reading16, reading8, reading12, reading16] s) := by
  have runs : system.FreeRuns start [reading16, reading8, reading12, reading16] _ :=
    system.run_eq_some_iff.mp rfl
  exact ⟨_, rfl, by decide +kernel, memory_fault_law_iff runs⟩

/-- Memory is added while no fault is outstanding, and half of it is lost again. -/
theorem memory_loss_missed :
    ∃ s, system.run start [reading8, reading16, reading12] = some s ∧
      ¬ MemoryFaultLaw s.runs := by
  refine ⟨_, rfl, fun law => ?_⟩
  have last := (law.outstanding _ _ (List.suffix_refl _)).mpr
    ⟨⟨16, []⟩, by decide +kernel, by decide +kernel⟩
  exact absurd last (by unfold Outstanding; decide +kernel)

end MemFault

end Node

end Sspl

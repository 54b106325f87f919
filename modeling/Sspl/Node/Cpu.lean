import Mathlib.Data.List.Nodup
import Sspl.Foundation.Alternation
import Sspl.Foundation.System
import Sspl.Iem.Message
import Sspl.Node.Alert

/-!
# The fault list of the CPUs

`CPUFaultSensor` compares the CPUs that are online with those of the last run. A CPU that is
gone is put into `FAULT_LIST` while the two lists are compared; one that is back is taken out
when its alert has been sent. Both lists are kept in a file, from which a sensor that starts
reads them again.

The sensor only ever looks at two readings. That its list has all CPUs that were online at some
time and are not now is what every run has to preserve.
-/

namespace Sspl

namespace Node

open Iem (Text)

/-- `range(num1, num2 + 1)`. -/
def cpuRange (num1 num2 : Int) : List Int :=
  (List.range (num2 + 1 - num1).toNat).map (fun i => num1 + (i : Int))

/-- `int(text)`, which raises for a text that is no number. -/
def cpuIndex (text : Text) : Except PyErr Int :=
  match parseInt text with
  | some n => .ok n
  | none => .error .valueError

/-- The CPUs of an item: an index or the two ends of a range. -/
def cpuItem (item : Text) : Except PyErr (List Int) :=
  match item.splitOn '-' with
  | [first, last] => do return cpuRange (← cpuIndex first) (← cpuIndex last)
  | [index] => do return [← cpuIndex index]
  | _ => return []

def convertCpuInfoList (cpuInfo : Text) : Except PyErr (List Int) :=
  (cpuInfo.splitOn ',').foldlM (fun cpuList item => do return cpuList ++ (← cpuItem item)) []

/-- `get_cpu_info`, from the text of the file `online`. -/
def getCpuInfo (online : Text) : Except PyErr (List Int) :=
  convertCpuInfoList (online.reverse.dropWhile (· = '\n')).reverse

example : getCpuInfo "0-2,4,6-8\n".toList = .ok [0, 1, 2, 4, 6, 7, 8] := by decide

/-- What is kept for the node: `CPU_LIST` and `FAULT_LIST`. -/
structure CpuInfo where
  cpuList : List Int
  faultList : List Int
  deriving DecidableEq

structure CpuFaultSensor where
  storedCpuInfo : Option CpuInfo
  prevCpuInfo : Option (List Int)
  deriving DecidableEq

namespace CpuFaultSensor

def start : CpuFaultSensor := ⟨none, none⟩

/-- The file is read if nothing is in memory yet. -/
def readStoredCpuInfo (file : Option CpuInfo) (s : CpuFaultSensor) : CpuFaultSensor :=
  let stored := if s.storedCpuInfo = none then file else s.storedCpuInfo
  match stored with
  | none => { s with storedCpuInfo := none }
  | some info => ⟨some info, some info.cpuList⟩

/-- The comparison for one CPU; it changes `FAULT_LIST` and `alerts_for`. -/
def compareCpu (prev current : List Int) (acc : List Int × List (Int × AlertType)) (cpu : Int) :
    List Int × List (Int × AlertType) :=
  if cpu ∉ current ∧ cpu ∉ acc.1 then (acc.1 ++ [cpu], acc.2 ++ [(cpu, .fault)])
  else if cpu ∉ prev ∧ cpu ∈ acc.1 then (acc.1, acc.2 ++ [(cpu, .faultResolved)])
  else acc

/-- The `try` block of `run`: what is stored then, the alerts to be sent and `to_update`. The
set of the relevant CPUs is walked through as in `scan`. -/
def processCpuInfo (scan current : List Int) (s : CpuFaultSensor) :
    Except PyErr (CpuInfo × List (Int × AlertType) × Bool) :=
  if s.prevCpuInfo = none ∨ s.prevCpuInfo = some [] then .ok (⟨current, []⟩, [], true)
  else
    match s.storedCpuInfo, s.prevCpuInfo with
    | some info, some prev =>
      if current ≠ prev then
        let acc := scan.foldl (compareCpu prev current) (info.faultList, [])
        .ok (⟨current, acc.1⟩, acc.2, true)
      else .ok (info, [], false)
    | _, _ => .error .typeError

/-- The loop over `alerts_for`: what is left of `FAULT_LIST` and what has been sent. -/
def sendAlert (delivers : Int → Bool) (acc : List Int × List (Int × AlertType))
    (alert : Int × AlertType) : List Int × List (Int × AlertType) :=
  if delivers alert.1 then
    (if alert.2 = .faultResolved then acc.1.erase alert.1 else acc.1, acc.2 ++ [alert])
  else acc

end CpuFaultSensor

namespace Cpu

/-- The file, the sensor and what has happened: the alerts sent and the readings taken. -/
structure State where
  file : Option CpuInfo
  sensor : CpuFaultSensor
  alerts : List (Int × AlertType)
  readings : List (List Int)
  deriving DecidableEq

def start : State := ⟨none, .start, [], []⟩

inductive Action where
  /-- A run with the text of the file `online`; the set of CPUs is walked through as in `scan`
  and `delivers` tells what `_generate_alert` returns. -/
  | run (delivers : Int → Bool) (scan : List Int) (online : Text)
  | restart

/-- The CPUs that the set in `run` is made of. -/
def relevant (s : State) (current : List Int) : List Int :=
  ((s.sensor.readStoredCpuInfo s.file).prevCpuInfo.getD []) ++ current

/-- The list has the members of the set, each once. -/
def Enumerates (scan cpus : List Int) : Prop :=
  scan.Nodup ∧ (∀ cpu ∈ scan, cpu ∈ cpus) ∧ ∀ cpu ∈ cpus, cpu ∈ scan

instance (scan cpus : List Int) : Decidable (Enumerates scan cpus) :=
  inferInstanceAs (Decidable (_ ∧ _))

/-- A run with a reading that could be taken. -/
def State.run (delivers : Int → Bool) (scan current : List Int) (s : State) : State :=
  let sensor := s.sensor.readStoredCpuInfo s.file
  match sensor.processCpuInfo scan current with
  | .error _ => { s with sensor := sensor }
  | .ok (info, alertsFor, toUpdate) =>
    let sent := alertsFor.foldl (CpuFaultSensor.sendAlert delivers) (info.faultList, [])
    let info := { info with faultList := sent.1 }
    { file := if toUpdate then some info else s.file
      sensor := { sensor with storedCpuInfo := some info }
      alerts := s.alerts ++ sent.2
      readings := s.readings ++ [current] }

/-- A run that cannot take a reading raises; a restart makes a new sensor. -/
def system : Transition.System State Action where
  init s := s = start
  next s a := match a with
    | .run delivers scan online =>
      match getCpuInfo online with
      | .error _ => some { s with sensor := s.sensor.readStoredCpuInfo s.file }
      | .ok current =>
        if Enumerates scan (relevant s current) then some (s.run delivers scan current) else none
    | .restart => some { s with sensor := .start }

section Compare

variable {prev current : List Int} {faults : List Int} {alertsFor : List (Int × AlertType)}

/-- The alert that a CPU calls for, going by the list before the comparison. -/
def verdict (prev current faults : List Int) (cpu : Int) : Option AlertType :=
  if cpu ∉ current ∧ cpu ∉ faults then some .fault
  else if cpu ∉ prev ∧ cpu ∈ faults then some .faultResolved
  else none

/-- The CPUs that are lost now. -/
def lostNow (prev current faults scan : List Int) : List Int :=
  scan.filter (fun cpu => verdict prev current faults cpu = some .fault)

/-- `alerts_for` after the loop. -/
def alertsOf (prev current faults scan : List Int) : List (Int × AlertType) :=
  scan.filterMap (fun cpu => (verdict prev current faults cpu).map (fun alert => (cpu, alert)))

/-- The loop puts the CPUs that are lost into the list, and notes an alert for each CPU that
calls for one. -/
theorem foldl_compareCpu {scan : List Int} (nodup : scan.Nodup) :
    scan.foldl (CpuFaultSensor.compareCpu prev current) (faults, alertsFor) =
      (faults ++ lostNow prev current faults scan,
        alertsFor ++ alertsOf prev current faults scan) := by
  unfold lostNow alertsOf
  induction scan generalizing faults alertsFor with
  | nil => simp
  | cons cpu rest ih =>
      obtain ⟨fresh, nodup⟩ := List.nodup_cons.mp nodup
      rw [List.foldl_cons]
      by_cases lost : cpu ∉ current ∧ cpu ∉ faults
      · have head : CpuFaultSensor.compareCpu prev current (faults, alertsFor) cpu =
            (faults ++ [cpu], alertsFor ++ [(cpu, .fault)]) := if_pos lost
        have same : ∀ x ∈ rest, verdict prev current (faults ++ [cpu]) x =
            verdict prev current faults x := by
          intro x mem
          have other : x ≠ cpu := fun h => fresh (h ▸ mem)
          simp [verdict, other]
        rw [head, ih nodup, List.filter_cons_of_pos (by simp [verdict, lost]),
          List.filterMap_cons_some (b := (cpu, .fault)) (by simp [verdict, lost]),
          List.append_assoc, List.append_assoc]
        rw [List.filter_congr (fun x mem => by rw [same x mem]),
          List.filterMap_congr (fun x mem => by rw [same x mem])]
        rfl
      · by_cases back : cpu ∉ prev ∧ cpu ∈ faults
        · have head : CpuFaultSensor.compareCpu prev current (faults, alertsFor) cpu =
              (faults, alertsFor ++ [(cpu, .faultResolved)]) := (if_neg lost).trans (if_pos back)
          rw [head, ih nodup, List.filter_cons_of_neg (by simp [verdict, back]),
            List.filterMap_cons_some (b := (cpu, .faultResolved)) (by simp [verdict, back]),
            List.append_assoc]
          rfl
        · have head : CpuFaultSensor.compareCpu prev current (faults, alertsFor) cpu =
              (faults, alertsFor) := (if_neg lost).trans (if_neg back)
          have none : verdict prev current faults cpu = none := by
            rw [verdict, if_neg lost, if_neg back]
          rw [head, ih nodup, List.filter_cons_of_neg (by simp [none]),
            List.filterMap_cons_none (by simp [none])]

theorem verdict_fault {cpu : Int} :
    verdict prev current faults cpu = some .fault ↔ cpu ∉ current ∧ cpu ∉ faults := by
  unfold verdict
  split
  · exact iff_of_true rfl ‹_›
  · refine iff_of_false ?_ ‹_›
    split <;> simp

theorem verdict_faultResolved {cpu : Int} (relevant : cpu ∈ prev ∨ cpu ∈ current) :
    verdict prev current faults cpu = some .faultResolved ↔
      cpu ∈ current ∧ cpu ∉ prev ∧ cpu ∈ faults := by
  unfold verdict
  split
  · rename_i lost
    exact iff_of_false (by simp) (fun back => lost.1 back.1)
  · split
    · rename_i back
      exact iff_of_true rfl ⟨relevant.resolve_left back.1, back⟩
    · rename_i other
      exact iff_of_false (by simp) (fun back => other back.2)

section Scanned

variable {scan : List Int} (scanned : Enumerates scan (prev ++ current))
include scanned

theorem mem_scan (cpu : Int) : cpu ∈ scan ↔ cpu ∈ prev ∨ cpu ∈ current := by
  rw [← List.mem_append]
  exact ⟨scanned.2.1 cpu, scanned.2.2 cpu⟩

theorem mem_lostNow (cpu : Int) :
    cpu ∈ lostNow prev current faults scan ↔ cpu ∈ prev ∧ cpu ∉ current ∧ cpu ∉ faults := by
  rw [lostNow, List.mem_filter, decide_eq_true_iff, verdict_fault, mem_scan scanned cpu]
  tauto

theorem nodup_lostNow (nodup : faults.Nodup) :
    (faults ++ lostNow prev current faults scan).Nodup := by
  refine List.nodup_append.mpr ⟨nodup, scanned.1.filter _, ?_⟩
  rintro cpu held cpu' mem rfl
  exact ((mem_lostNow scanned cpu).mp mem).2.2 held

theorem fault_mem_alertsOf (cpu : Int) : (cpu, .fault) ∈ alertsOf prev current faults scan ↔
    cpu ∈ prev ∧ cpu ∉ current ∧ cpu ∉ faults := by
  rw [← mem_lostNow scanned cpu]
  simp [alertsOf, lostNow]

theorem faultResolved_mem_alertsOf (cpu : Int) :
    (cpu, .faultResolved) ∈ alertsOf prev current faults scan ↔
      cpu ∈ current ∧ cpu ∉ prev ∧ cpu ∈ faults := by
  have mem : (cpu, .faultResolved) ∈ alertsOf prev current faults scan ↔
      cpu ∈ scan ∧ verdict prev current faults cpu = some .faultResolved := by
    simp [alertsOf]
  rw [mem, mem_scan scanned cpu]
  constructor
  · exact fun h => (verdict_faultResolved h.1).mp h.2
  · exact fun h => ⟨.inr h.1, (verdict_faultResolved (.inr h.1)).mpr h⟩

/-- There is one alert for a CPU at most. -/
theorem nodup_alertsOf :
    ((alertsOf prev current faults scan).map (fun alert => alert.1)).Nodup := by
  rw [alertsOf, List.map_filterMap]
  refine List.Nodup.filterMap ?_ scanned.1
  intro cpu cpu' key mem mem'
  simp only [Option.mem_def, Option.map_map, Option.map_eq_some_iff] at mem mem'
  obtain ⟨_, _, first⟩ := mem
  obtain ⟨_, _, second⟩ := mem'
  exact first.trans second.symm

/-- A fault is raised for a CPU that has none outstanding, and one that has is resolved. -/
theorem alertsOf_fits {alert : Int × AlertType} (mem : alert ∈ alertsOf prev current faults scan) :
    alert.2 = .fault ∧ alert.1 ∉ faults ∨ alert.2 = .faultResolved ∧ alert.1 ∈ faults := by
  obtain ⟨cpu, alert⟩ := alert
  cases alert with
  | fault => exact .inl ⟨rfl, ((fault_mem_alertsOf scanned cpu).mp mem).2.2⟩
  | faultResolved => exact .inr ⟨rfl, ((faultResolved_mem_alertsOf scanned cpu).mp mem).2.2⟩

end Scanned

/-- The loop sends every alert and takes the CPUs that are back out of the list. -/
theorem foldl_sendAlert {delivers : Int → Bool} (delivered : ∀ cpu, delivers cpu = true)
    (faults : List Int) (sent alertsFor : List (Int × AlertType)) (nodup : faults.Nodup) :
    ∃ left, alertsFor.foldl (CpuFaultSensor.sendAlert delivers) (faults, sent) =
      (left, sent ++ alertsFor) ∧ left.Nodup ∧
      ∀ cpu, cpu ∈ left ↔ cpu ∈ faults ∧ (cpu, AlertType.faultResolved) ∉ alertsFor := by
  induction alertsFor generalizing faults sent with
  | nil => exact ⟨faults, by simp, nodup, by simp⟩
  | cons alert rest ih =>
      obtain ⟨cpu, alert⟩ := alert
      rw [List.foldl_cons]
      have head : CpuFaultSensor.sendAlert delivers (faults, sent) (cpu, alert) =
          (if alert = .faultResolved then faults.erase cpu else faults, sent ++ [(cpu, alert)]) :=
        if_pos (delivered cpu)
      rw [head]
      have nodup' : (if alert = .faultResolved then faults.erase cpu else faults).Nodup := by
        split
        · exact nodup.erase cpu
        · exact nodup
      obtain ⟨left, ran, nodup', mem⟩ := ih _ (sent ++ [(cpu, alert)]) nodup'
      refine ⟨left, by rw [ran, List.append_assoc]; rfl, nodup', ?_⟩
      intro x
      rw [mem x]
      split
      · rename_i resolved
        subst resolved
        rw [nodup.mem_erase_iff]
        simp
        tauto
      · rename_i other
        simp [Ne.symm other]

end Compare

/-- The list has, each once, the CPUs that were online in one of the readings and are not in the
last one. -/
structure Lost (readings : List (List Int)) (current faults : List Int) : Prop where
  nodup : faults.Nodup
  mem : ∀ cpu, cpu ∈ faults ↔ (∃ reading ∈ readings, cpu ∈ reading) ∧ cpu ∉ current

/-- A comparison with the last reading brings the list up to date. -/
theorem Lost.compare {readings : List (List Int)} {prev current faults left : List Int}
    (h : Lost readings prev faults) (last : prev ∈ readings) (nodup : left.Nodup)
    (mem : ∀ cpu, cpu ∈ left ↔ (cpu ∈ faults ∨ cpu ∈ prev ∧ cpu ∉ current ∧ cpu ∉ faults) ∧
      ¬ (cpu ∈ current ∧ cpu ∉ prev ∧ cpu ∈ faults)) :
    Lost (readings ++ [current]) current left := by
  refine ⟨nodup, ?_⟩
  intro cpu
  have known : cpu ∈ prev → ∃ reading ∈ readings, cpu ∈ reading := fun h => ⟨prev, last, h⟩
  have now : (∃ reading ∈ readings ++ [current], cpu ∈ reading) ↔
      (∃ reading ∈ readings, cpu ∈ reading) ∨ cpu ∈ current := by
    simp [or_and_right, exists_or]
  rw [mem cpu, now, h.mem cpu]
  generalize (∃ reading ∈ readings, cpu ∈ reading) = seen at known
  tauto

/-- What is true between the runs: a sensor has what is in the file, and `FAULT_LIST` has the CPUs
that are lost and have a fault outstanding. -/
structure Invariant (s : State) : Prop where
  loaded : ∀ info, s.sensor.storedCpuInfo = some info → s.file = some info
  unread : s.file = none → s.sensor.prevCpuInfo = none ∧ s.readings = [] ∧ s.alerts = []
  stored : ∀ info, s.file = some info → info.cpuList ≠ [] ∧
    s.readings.getLast? = some info.cpuList ∧ Lost s.readings info.cpuList info.faultList
  alerts : Tracks .fault .faultResolved s.alerts
    (fun cpu => ∃ info, s.file = some info ∧ cpu ∈ info.faultList)

namespace Invariant

theorem start : Invariant start where
  loaded _ h := by cases h
  unread _ := ⟨rfl, rfl, rfl⟩
  stored _ h := by cases h
  alerts := .nil (by rintro cpu ⟨info, h, -⟩; cases h)

variable {s : State}

theorem readStored (h : Invariant s) : s.sensor.readStoredCpuInfo s.file =
    ⟨s.file, s.file.map (fun info => info.cpuList)⟩ := by
  unfold CpuFaultSensor.readStoredCpuInfo
  have stored : (if s.sensor.storedCpuInfo = none then s.file else s.sensor.storedCpuInfo) =
      s.file := by
    split
    · rfl
    · obtain ⟨info, held⟩ := Option.ne_none_iff_exists'.mp ‹_›
      rw [held, h.loaded info held]
  rw [stored]
  cases file : s.file with
  | none => simp [(h.unread file).1]
  | some info => rfl

/-- Reading the file and starting a new sensor keep it. -/
theorem of_sensor (h : Invariant s) {sensor : CpuFaultSensor}
    (loaded : ∀ info, sensor.storedCpuInfo = some info → s.file = some info)
    (unread : s.file = none → sensor.prevCpuInfo = none) : Invariant { s with sensor := sensor } :=
  ⟨loaded, fun file => ⟨unread file, (h.unread file).2⟩, h.stored, h.alerts⟩

/-- The first reading is stored as it is. -/
theorem run_first (h : Invariant s) {delivers : Int → Bool} {scan current : List Int}
    (file : s.file = none) (some_ : current ≠ []) : Invariant (s.run delivers scan current) := by
  obtain ⟨-, readings, alerts⟩ := h.unread file
  have same : s.run delivers scan current =
      ⟨some ⟨current, []⟩, ⟨some ⟨current, []⟩, none⟩, [], [current]⟩ := by
    rw [State.run, h.readStored, file, readings, alerts]
    rfl
  rw [same]
  refine ⟨fun info held => held, (fun clash => by cases clash), ?_, ?_⟩
  · intro info held
    cases held
    refine ⟨some_, rfl, .nil, ?_⟩
    intro cpu
    simp
  · refine .nil ?_
    rintro cpu ⟨info, held, mem⟩
    cases held
    cases mem

/-- A reading that is the last one again changes nothing. -/
theorem run_same (h : Invariant s) {delivers : Int → Bool} {scan : List Int} {info : CpuInfo}
    (file : s.file = some info) : Invariant (s.run delivers scan info.cpuList) := by
  obtain ⟨online, last, lost⟩ := h.stored info file
  have same : s.run delivers scan info.cpuList =
      ⟨some info, ⟨some info, some info.cpuList⟩, s.alerts, s.readings ++ [info.cpuList]⟩ := by
    rw [State.run, h.readStored, file]
    simp [CpuFaultSensor.processCpuInfo, online]
  have mem_last : info.cpuList ∈ s.readings := List.mem_of_getLast? last
  rw [same]
  refine ⟨fun held eq => eq, (fun clash => by cases clash), ?_, ?_⟩
  · intro held eq
    cases eq
    refine ⟨online, List.getLast?_concat, ?_⟩
    refine lost.compare mem_last lost.nodup ?_
    intro cpu
    tauto
  · exact h.alerts.congr (fun cpu => by simp [file])

/-- Another reading: the alerts that are sent are those the CPUs call for. -/
theorem run_changed (h : Invariant s) {delivers : Int → Bool} {scan current : List Int}
    {info : CpuInfo} (delivered : ∀ cpu, delivers cpu = true) (file : s.file = some info)
    (some_ : current ≠ []) (changed : current ≠ info.cpuList)
    (scanned : Enumerates scan (info.cpuList ++ current)) :
    Invariant (s.run delivers scan current) := by
  obtain ⟨online, last, lost⟩ := h.stored info file
  have mem_last : info.cpuList ∈ s.readings := List.mem_of_getLast? last
  obtain ⟨left, sent, left_nodup, mem_left⟩ := foldl_sendAlert delivered
    (info.faultList ++ lostNow info.cpuList current info.faultList scan) []
    (alertsOf info.cpuList current info.faultList scan) (nodup_lostNow scanned lost.nodup)
  have ran : s.run delivers scan current = ⟨some ⟨current, left⟩,
      ⟨some ⟨current, left⟩, some info.cpuList⟩,
      s.alerts ++ alertsOf info.cpuList current info.faultList scan, s.readings ++ [current]⟩ := by
    rw [State.run, h.readStored, file]
    simp only [CpuFaultSensor.processCpuInfo, Option.map_some, Option.some.injEq, online,
      reduceCtorEq, or_self, if_false, changed, ne_eq, not_false_eq_true, if_true,
      foldl_compareCpu scanned.1, List.nil_append]
    rw [sent]
    rfl
  have mem : ∀ cpu, cpu ∈ left ↔ (cpu ∈ info.faultList ∨ cpu ∈ info.cpuList ∧ cpu ∉ current ∧
      cpu ∉ info.faultList) ∧ ¬ (cpu ∈ current ∧ cpu ∉ info.cpuList ∧ cpu ∈ info.faultList) := by
    intro cpu
    rw [mem_left cpu, List.mem_append, mem_lostNow scanned cpu,
      faultResolved_mem_alertsOf scanned cpu]
  rw [ran]
  refine ⟨fun held eq => eq, (fun clash => by cases clash), ?_, ?_⟩
  · intro held eq
    cases eq
    exact ⟨some_, List.getLast?_concat, lost.compare mem_last left_nodup mem⟩
  · refine h.alerts.append (by decide) (nodup_alertsOf scanned) ?_ ?_
    · intro alert news
      simpa [file] using alertsOf_fits scanned news
    · intro cpu
      simp only [file, Option.some.injEq, exists_eq_left']
      rw [mem cpu, faultResolved_mem_alertsOf scanned cpu, fault_mem_alertsOf scanned cpu]
      tauto

end Invariant

/-- A run reads at least one CPU, and the alerts that it sends are delivered. -/
def Admitted : Action → Prop
  | .run delivers _ online =>
    (∃ current, getCpuInfo online = .ok current ∧ current ≠ []) ∧ ∀ cpu, delivers cpu = true
  | .restart => True

theorem Invariant.step {s t : State} {a : Action} (h : Invariant s) (admitted : Admitted a)
    (step : system.next s a = some t) : Invariant t := by
  cases a with
  | restart =>
      cases step
      exact h.of_sensor (fun info held => by cases held) (fun _ => rfl)
  | run delivers scan online =>
      obtain ⟨⟨current, read, some_⟩, delivered⟩ := admitted
      simp only [system, read] at step
      split at step
      · rename_i scanned
        cases step
        cases file : s.file with
        | none => exact h.run_first file some_
        | some info =>
            rw [relevant, h.readStored, file] at scanned
            by_cases changed : current = info.cpuList
            · subst changed
              exact h.run_same file
            · exact h.run_changed delivered file some_ changed scanned
      · cases step

end Cpu

end Node

end Sspl

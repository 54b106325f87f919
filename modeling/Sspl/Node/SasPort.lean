import Mathlib.Algebra.Ring.Int.Defs
import Mathlib.Data.List.Sort
import Mathlib.Data.Finset.Card
import Sspl.Foundation.Alternation
import Sspl.Foundation.System
import Sspl.Iem.Message
import Sspl.Node.Alert

/-!
# Phys, ports and the connection of a SAS adapter

`SASPortSensor` keeps three things of an adapter. The status of a phy follows its link rate, and
with it goes a count of the phys that are up. The status of a port is computed anew from the
phys of the port, which are four in a row when the phys are sorted by number. The alerts last
sent, for each port and for the connection as a whole, are kept in a file.

A port has its fault raised when all of its phys are down and resolved when all are up; what is
in between changes nothing. The connection is judged by the alerts of the ports, not by their
status, right after these alerts have been brought up to date.
-/

namespace Sspl

namespace Node

open Iem (Text strip)

namespace SasPort

def numSasPorts : Nat := 4
def numPhysPerPort : Nat := 4
def currentDataVersion : Nat := 1

/-- The number in the name of a phy: 12 for `phy-0:12`. -/
def phyNum (phy : Text) : Except PyErr Int :=
  match (phy.splitOn ':')[1]? with
  | none => .error .other
  | some num =>
    match parseInt num with
    | none => .error .valueError
    | some num => .ok num

/-- `phy_num_dict[num]`: the last phy with the number. -/
def phyNumDict (phyList : List Text) (num : Int) : Text :=
  (phyList.reverse.find? (fun phy => (phyNum phy).toOption = some num)).getD []

def sortPhyList (phyList : List Text) : Except PyErr (List Text) := do
  let numList ← phyList.mapM phyNum
  return (numList.insertionSort (· ≤ ·)).map (phyNumDict phyList)

/-- The sixteen phys of an adapter, in the order of their directory. -/
structure Hba where
  phyList : List Text
  num : Text → Int
  phyNum_eq : ∀ phy ∈ phyList, phyNum phy = .ok (num phy)
  nodup : (phyList.map num).Nodup
  length_eq : phyList.length = 16

inductive PhyStatus
  | up
  | fault
  deriving DecidableEq

inductive PortStatus
  | down
  | up
  | degraded
  deriving DecidableEq

/-- What `phy_dir_to_linkrate_mapping` has for a phy. -/
structure Phy where
  rate : Text
  status : PhyStatus
  deriving DecidableEq

/-- What is kept in the file. -/
structure Stored where
  version : Nat
  conn : AlertType
  ports : Fin numSasPorts → AlertType

/-- What an alert is about. -/
inductive Source
  | port (i : Fin numSasPorts)
  | conn
  deriving DecidableEq

/-- The sensor, its file, the alerts sent and the rates that were read last for the phys. -/
structure State where
  phys : Text → Phy
  phyLinkCount : Int
  file : Option Stored
  alerts : List (Source × AlertType)
  rates : Text → Text

section Phys

variable (lower : Text → Text)

/-- `'Gbit'.lower() in rate.strip().lower()`. -/
def hasGbit (rate : Text) : Bool :=
  decide (lower ['G', 'b', 'i', 't'] <:+: lower (strip rate))

/-- The loop of `initialize` for one phy, and its part of the count. -/
def initializePhy (rate : Text) : Phy × Int :=
  if hasGbit lower rate then (⟨rate, .up⟩, 1) else (⟨rate, .fault⟩, 0)

/-- The loop of `run` for one phy: its entry, and what is added to `new_phy_up` and
`new_phy_down`. -/
def readPhy (prev : Phy) (value : Text) : Phy × Int × Int :=
  let linkRate := strip value
  if lower linkRate ≠ lower (strip prev.rate) then
    if ¬ hasGbit lower linkRate ∧ prev.status = .up then (⟨linkRate, .fault⟩, 0, 1)
    else if hasGbit lower linkRate ∧ prev.status = .fault then (⟨linkRate, .up⟩, 1, 0)
    else (⟨linkRate, prev.status⟩, 0, 0)
  else (prev, 0, 0)

/-- The loop of `run`, with the two counts. -/
def readPhys (rates : Text → Text) (acc : (Text → Phy) × Int × Int) (phy : Text) :
    (Text → Phy) × Int × Int :=
  let (entry, up, down) := readPhy lower (acc.1 phy) (rates phy)
  (Function.update acc.1 phy entry, acc.2.1 + up, acc.2.2 + down)

end Phys

/-- The phys of a port, of the sorted ones. -/
def portPhys (sorted : List Text) (i : Fin numSasPorts) : List Text :=
  (sorted.drop (numPhysPerPort * i)).take numPhysPerPort

/-- The status of a port, from the set of the values of its phys. -/
def portStatus (s : Finset Nat) : PortStatus :=
  if s.card = 1 ∧ 0 ∈ s then .down
  else if s.card = 1 ∧ 1 ∈ s then .up
  else .degraded

def updateSasPortsStatus (hba : Hba) (phys : Text → Phy) :
    Except PyErr (Fin numSasPorts → PortStatus) := do
  let sorted ← sortPhyList hba.phyList
  return fun i => portStatus ((portPhys sorted i).map
    (fun phy => if (phys phy).status = .up then 1 else 0)).toFinset

/-- The loop of `handle_current_version_data` for one port. -/
def comparePort (status : Fin numSasPorts → PortStatus)
    (acc : (Fin numSasPorts → AlertType) × List (Source × AlertType)) (port : Fin numSasPorts) :
    (Fin numSasPorts → AlertType) × List (Source × AlertType) :=
  if acc.1 port = .faultResolved ∧ status port = .down then
    (Function.update acc.1 port .fault, acc.2 ++ [(.port port, .fault)])
  else if acc.1 port = .fault ∧ status port = .up then
    (Function.update acc.1 port .faultResolved, acc.2 ++ [(.port port, .faultResolved)])
  else acc

/-- The loop of `check_and_send_conn_alert`: `cur_all_fault` and `cur_all_fault_resolved`. -/
def allPorts (ports : Fin numSasPorts → AlertType) : Bool × Bool :=
  (List.finRange numSasPorts).foldl (fun acc port =>
    if ports port ≠ .fault then (false, acc.2)
    else if ports port ≠ .faultResolved then (acc.1, false)
    else acc) (true, true)

def checkAndSendConnAlert (stored : Stored) (alerts : List (Source × AlertType)) :
    Stored × List (Source × AlertType) :=
  let (curAllFault, curAllFaultResolved) := allPorts stored.ports
  if stored.conn = .faultResolved ∧ curAllFault = true then
    ({ stored with conn := .fault }, alerts ++ [(.conn, .fault)])
  else if stored.conn = .fault ∧ curAllFaultResolved = true then
    ({ stored with conn := .faultResolved }, alerts ++ [(.conn, .faultResolved)])
  else (stored, alerts)

/-- The alerts are sent one by one and the file is written after them. All of it is one step: a
restart comes before the first alert or after the file. -/
def handleCurrentVersionData (status : Fin numSasPorts → PortStatus) (stored : Stored)
    (s : State) : State :=
  let (ports, alerts) :=
    (List.finRange numSasPorts).foldl (comparePort status) (stored.ports, s.alerts)
  let (stored, alerts) := checkAndSendConnAlert { stored with ports := ports } alerts
  { s with file := some stored, alerts := alerts }

/-- The file as it is written when there is none. -/
def Stored.first : Stored := ⟨currentDataVersion, .faultResolved, fun _ => .faultResolved⟩

def checkAndSendAlert (hba : Hba) (s : State) : Except PyErr State := do
  let status ← updateSasPortsStatus hba s.phys
  match s.file with
  | none => return { s with file := some .first }
  | some stored =>
    if stored.version = currentDataVersion then return handleCurrentVersionData status stored s
    else return s

section Sensor

variable (hba : Hba) (lower : Text → Text)

/-- `initialize` of a new sensor, which raises if the check does. A sensor that is initialized
twice is left out: the second time adds the phys that are up to `phy_link_count` once more. -/
def initializeSensor (rates : Text → Text) (s : State) : State :=
  let entries := fun phy => initializePhy lower (rates phy)
  let s := { s with phys := fun phy => (entries phy).1
                    phyLinkCount := (hba.phyList.map (fun phy => (entries phy).2)).sum
                    rates := rates }
  match checkAndSendAlert hba s with
  | .error _ => s
  | .ok s => s

/-- `run`, when the sensor is not suspended. -/
def run (rates : Text → Text) (s : State) : State :=
  let (phys, newPhyUp, newPhyDown) := hba.phyList.foldl (readPhys lower rates) (s.phys, 0, 0)
  let newPhyLinkCount := s.phyLinkCount + newPhyUp - newPhyDown
  let s := { s with phys := phys, rates := rates }
  match checkAndSendAlert hba s with
  | .error _ => s
  | .ok s => { s with phyLinkCount := newPhyLinkCount }

/-- The state that the first start leads to: there is no file yet. -/
def first (rates : Text → Text) : State :=
  initializeSensor hba lower rates ⟨fun _ => ⟨[], .fault⟩, 0, none, [], rates⟩

/-- A check with the rates of all phys, or a restart, which reads them as well. -/
inductive Action where
  | run (rates : Text → Text)
  | restart (rates : Text → Text)

/-- The sensor with its adapter, over all its restarts. Each check reads the rates of all phys. -/
def system : Transition.System State Action where
  init s := ∃ rates, s = first hba lower rates
  next s a := match a with
    | .run rates => some (run hba lower rates s)
    | .restart rates => some (initializeSensor hba lower rates s)

end Sensor

/-- One phy: its status goes by the rate read last. -/
def Marked (lower : Text → Text) (entry : Phy) (rate : Text) : Prop :=
  entry.status = .up ↔ hasGbit lower rate = true

section Phys

variable {lower : Text → Text}

theorem hasGbit_congr {first second : Text} (same : lower (strip first) = lower (strip second)) :
    hasGbit lower first = hasGbit lower second := by
  rw [hasGbit, hasGbit, same]

theorem hasGbit_strip (rate : Text) : hasGbit lower (strip rate) = hasGbit lower rate :=
  hasGbit_congr (congrArg lower (Iem.strip_strip rate))

/-- What `run` counts for a phy. -/
def upCount (status : PhyStatus) : Int := if status = .up then 1 else 0

theorem marked_initializePhy (rate : Text) : Marked lower (initializePhy lower rate).1 rate := by
  unfold initializePhy Marked
  split
  · exact iff_of_true rfl ‹_›
  · exact iff_of_false (by simp) ‹_›

/-- A reading keeps the status right, and the two counts make up for its change. -/
theorem readPhy_spec {prev : Phy} {before : Text} (value : Text)
    (right : Marked lower prev before) (kept : lower (strip prev.rate) = lower (strip before)) :
    Marked lower (readPhy lower prev value).1 value ∧
    lower (strip (readPhy lower prev value).1.rate) = lower (strip value) ∧
    upCount (readPhy lower prev value).1.status =
      upCount prev.status + (readPhy lower prev value).2.1 - (readPhy lower prev value).2.2 := by
  have stripped := Iem.strip_strip value
  simp only [readPhy, hasGbit_strip, Marked] at right ⊢
  split
  · split
    · rename_i lost
      simp only [stripped, upCount, lost.2]
      simpa using lost.1
    · split
      · rename_i back
        simp only [stripped, upCount, back.2]
        simpa using back.1
      · rename_i notLost notBack
        refine ⟨?_, congrArg lower stripped, by simp⟩
        cases status : prev.status with
        | up => simpa [status] using notLost
        | fault => simpa [status] using notBack
  · rename_i same
    have same : lower (strip prev.rate) = lower (strip value) := (not_not.mp same).symm
    refine ⟨?_, same, by simp⟩
    rw [right, hasGbit_congr (kept.symm.trans same)]

/-- The number of phys of a list that are up. -/
def upCounts (phys : Text → Phy) (phyList : List Text) : Int :=
  (phyList.map (fun phy => upCount (phys phy).status)).sum

theorem upCounts_eq (phys : Text → Phy) (phyList : List Text) :
    upCounts phys phyList = phyList.countP (fun phy => (phys phy).status = .up) := by
  induction phyList with
  | nil => rfl
  | cons phy rest ih =>
      rw [upCounts, List.map_cons, List.sum_cons, ← upCounts, ih, List.countP_cons]
      unfold upCount
      split <;> simp [*, add_comm]

/-- The loop of `run` over all phys. -/
theorem readPhys_spec {rates before : Text → Text} {phyList : List Text} (nodup : phyList.Nodup)
    (acc : (Text → Phy) × Int × Int)
    (right : ∀ phy ∈ phyList, Marked lower (acc.1 phy) (before phy) ∧
      lower (strip (acc.1 phy).rate) = lower (strip (before phy))) :
    let read := phyList.foldl (readPhys lower rates) acc
    (∀ phy ∈ phyList, Marked lower (read.1 phy) (rates phy) ∧
      lower (strip (read.1 phy).rate) = lower (strip (rates phy))) ∧
    (∀ phy ∉ phyList, read.1 phy = acc.1 phy) ∧
    upCounts read.1 phyList - read.2.1 + read.2.2 =
      upCounts acc.1 phyList - acc.2.1 + acc.2.2 := by
  induction phyList generalizing acc with
  | nil => simp [upCounts]
  | cons phy rest ih =>
      obtain ⟨fresh, nodup⟩ := List.nodup_cons.mp nodup
      obtain ⟨marked, kept⟩ := right phy (.head _)
      obtain ⟨marked', kept', count⟩ := readPhy_spec (rates phy) marked kept
      have other : ∀ x ∈ rest, (readPhys lower rates acc phy).1 x = acc.1 x := by
        intro x mem
        have different : x ≠ phy := fun same => fresh (same ▸ mem)
        exact Function.update_of_ne different _ _
      obtain ⟨all, outside, counts⟩ := ih nodup (readPhys lower rates acc phy) (by
        intro x mem
        rw [other x mem]
        exact right x (.tail _ mem))
      have own : (readPhys lower rates acc phy).1 phy = (readPhy lower (acc.1 phy) (rates phy)).1 :=
        Function.update_self ..
      have same : upCounts (readPhys lower rates acc phy).1 rest = upCounts acc.1 rest := by
        refine congrArg List.sum (List.map_congr_left ?_)
        intro x mem
        rw [other x mem]
      simp only [List.foldl_cons]
      refine ⟨?_, ?_, ?_⟩
      · intro x mem
        obtain rfl | later := List.mem_cons.mp mem
        · rw [outside x fresh, own]
          exact ⟨marked', kept'⟩
        · exact all x later
      · intro x missing
        rw [outside x (fun later => missing (.tail _ later))]
        have different : x ≠ phy := fun same => missing (same ▸ List.mem_cons_self)
        exact Function.update_of_ne different _ _
      · rw [same] at counts
        have split : ∀ phys, upCounts phys (phy :: rest) =
            upCount (phys phy).status + upCounts phys rest := fun phys => by
          simp [upCounts]
        have up : (readPhys lower rates acc phy).2.1 =
            acc.2.1 + (readPhy lower (acc.1 phy) (rates phy)).2.1 := rfl
        have down : (readPhys lower rates acc phy).2.2 =
            acc.2.2 + (readPhy lower (acc.1 phy) (rates phy)).2.2 := rfl
        rw [up, down] at counts
        rw [split, split, outside phy fresh, own, count]
        omega

end Phys

section Sorting

variable {phyList : List Text} {num : Text → Int}

/-- The names are sorted by their numbers, which are turned back into names. -/
theorem sortPhyList_of_nums (known : ∀ phy ∈ phyList, phyNum phy = .ok (num phy)) :
    sortPhyList phyList =
      .ok (((phyList.map num).insertionSort (· ≤ ·)).map (phyNumDict phyList)) := by
  have all : ∀ names : List Text, (∀ phy ∈ names, phyNum phy = .ok (num phy)) →
      names.mapM phyNum = .ok (names.map num) := by
    intro names known
    induction names with
    | nil => rfl
    | cons phy rest ih =>
        rw [List.mapM_cons, known phy (.head _), ih (fun x mem => known x (.tail _ mem))]
        rfl
  rw [sortPhyList, all phyList known]
  rfl

/-- A number that only one name has stands for this name. -/
theorem phyNumDict_num (known : ∀ phy ∈ phyList, phyNum phy = .ok (num phy))
    (nodup : (phyList.map num).Nodup) {phy : Text} (mem : phy ∈ phyList) :
    phyNumDict phyList (num phy) = phy := by
  have own : ((phyNum phy).toOption = some (num phy)) := by
    rw [known phy mem]
    rfl
  have some_ : (phyList.reverse.find? (fun x => (phyNum x).toOption = some (num phy))).isSome := by
    rw [List.find?_isSome]
    exact ⟨phy, List.mem_reverse.mpr mem, decide_eq_true own⟩
  obtain ⟨x, found⟩ := Option.isSome_iff_exists.mp some_
  have mem' := List.mem_reverse.mp (List.mem_of_find?_eq_some found)
  have same : decide ((phyNum x).toOption = some (num phy)) = true :=
    List.find?_some (p := fun x => decide ((phyNum x).toOption = some (num phy))) found
  rw [decide_eq_true_iff, known x mem'] at same
  rw [phyNumDict, found]
  exact List.inj_on_of_nodup_map nodup mem' mem (Option.some.inj same)

end Sorting

section Ports

variable (hba : Hba)

/-- The sorted list has the phys of the adapter. -/
theorem Hba.sortPhyList_eq : ∃ sorted, sortPhyList hba.phyList = .ok sorted ∧
    sorted.Perm hba.phyList := by
  refine ⟨_, sortPhyList_of_nums hba.phyNum_eq, ?_⟩
  refine ((List.perm_insertionSort _ _).map _).trans ?_
  rw [List.map_map]
  refine .of_eq ((List.map_congr_left ?_).trans (List.map_id _))
  intro phy mem
  exact phyNumDict_num hba.phyNum_eq hba.nodup mem

/-- The four phys of a port. -/
def Hba.port (i : Fin numSasPorts) : List Text :=
  match sortPhyList hba.phyList with
  | .ok sorted => portPhys sorted i
  | .error _ => []

theorem Hba.port_length (i : Fin numSasPorts) : (hba.port i).length = 4 := by
  obtain ⟨sorted, eq, perm⟩ := hba.sortPhyList_eq
  have length : sorted.length = 16 := perm.length_eq.trans hba.length_eq
  have bound : (i : Nat) < 4 := i.isLt
  rw [port, eq]
  simp only [portPhys, List.length_take, List.length_drop, length, numPhysPerPort]
  omega

theorem toFinset_eq_singleton {values : List Nat} (some_ : values ≠ []) (v : Nat) :
    values.toFinset.card = 1 ∧ v ∈ values.toFinset ↔ ∀ x ∈ values, x = v := by
  constructor
  · rintro ⟨one, mem⟩ x mem'
    exact Finset.card_le_one.mp one.le x (List.mem_toFinset.mpr mem') v mem
  · intro all
    have eq : values.toFinset = {v} := by
      refine Finset.eq_singleton_iff_nonempty_unique_mem.mpr ⟨?_, ?_⟩
      · exact List.toFinset_nonempty_iff values |>.mpr some_
      · exact fun x mem => all x (List.mem_toFinset.mp mem)
    rw [eq]
    simp

theorem portStatus_eq {values : List Nat} (some_ : values ≠ []) :
    (portStatus values.toFinset = .down ↔ ∀ x ∈ values, x = 0) ∧
    (portStatus values.toFinset = .up ↔ ∀ x ∈ values, x = 1) := by
  rw [← toFinset_eq_singleton some_ 0, ← toFinset_eq_singleton some_ 1]
  unfold portStatus
  split
  · rename_i down
    refine ⟨iff_of_true rfl down, iff_of_false (by simp) ?_⟩
    rintro ⟨one, mem⟩
    exact absurd (Finset.card_le_one.mp one.le 1 mem 0 down.2) (by decide)
  · rename_i notDown
    split
    · exact ⟨iff_of_false (by simp) notDown, iff_of_true rfl ‹_›⟩
    · exact ⟨iff_of_false (by simp) notDown, iff_of_false (by simp) ‹_›⟩

theorem updateSasPortsStatus_eq (phys : Text → Phy) : ∃ status,
    updateSasPortsStatus hba phys = .ok status ∧ ∀ i,
      (status i = .down ↔ ∀ phy ∈ hba.port i, (phys phy).status = .fault) ∧
      (status i = .up ↔ ∀ phy ∈ hba.port i, (phys phy).status = .up) := by
  obtain ⟨sorted, eq, -⟩ := hba.sortPhyList_eq
  have port : ∀ i, hba.port i = portPhys sorted i := fun i => by rw [Hba.port, eq]
  refine ⟨_, by rw [updateSasPortsStatus, eq]; rfl, ?_⟩
  intro i
  have some_ :
      (portPhys sorted i).map (fun phy => if (phys phy).status = .up then 1 else 0) ≠ [] := by
    intro none
    have length := congrArg List.length none
    rw [List.length_map, ← port i, hba.port_length i] at length
    cases length
  obtain ⟨down, up⟩ := portStatus_eq some_
  have either : ∀ phy, (phys phy).status ≠ .up ↔ (phys phy).status = .fault := by
    intro phy
    cases (phys phy).status <;> simp
  constructor
  · rw [port i, down]
    simp [either]
  · rw [port i, up]
    simp

end Ports

section Alerts

/-- The faults that are outstanding, by the alerts kept for the ports and the connection. -/
def Pending (ports : Fin numSasPorts → AlertType) (conn : AlertType) : Source → Prop
  | .port i => ports i = .fault
  | .conn => conn = .fault

variable {status : Fin numSasPorts → PortStatus} {conn : AlertType}

/-- One port: its alert is brought up to date. -/
theorem comparePort_spec {ports : Fin numSasPorts → AlertType} {alerts : List (Source × AlertType)}
    (h : Tracks .fault .faultResolved alerts (Pending ports conn)) (i : Fin numSasPorts) :
    let acc := comparePort status (ports, alerts) i
    Tracks .fault .faultResolved acc.2 (Pending acc.1 conn) ∧
    (status i = .down → acc.1 i = .fault) ∧ (status i = .up → acc.1 i = .faultResolved) ∧
    ∀ j, j ≠ i → acc.1 j = ports j := by
  simp only [comparePort]
  split
  · rename_i down
    refine ⟨h.raise (k := .port i) ?_ ?_, ?_, ?_, ?_⟩
    · rw [Pending, down.1]
      decide
    · rintro (j | _)
      · by_cases same : j = i
        · subst same
          simp [Pending]
        · simp [Pending, same]
      · simp [Pending]
    · simp
    · simp [down.2]
    · exact fun j other => Function.update_of_ne other _ _
  · rename_i notDown
    split
    · rename_i up
      refine ⟨h.settle (k := .port i) (by decide) up.1 ?_, ?_, ?_, ?_⟩
      · rintro (j | _)
        · by_cases same : j = i
          · subst same
            simp [Pending]
          · simp [Pending, same]
        · simp [Pending]
      · simp [up.2]
      · simp
      · exact fun j other => Function.update_of_ne other _ _
    · rename_i notUp
      refine ⟨h, ?_, ?_, fun _ _ => rfl⟩
      · intro down
        cases value : ports i with
        | fault => exact value
        | faultResolved => exact absurd ⟨value, down⟩ notDown
      · intro up
        cases value : ports i with
        | fault => exact absurd ⟨value, up⟩ notUp
        | faultResolved => exact value

theorem foldl_comparePort {ports : Fin numSasPorts → AlertType}
    {alerts : List (Source × AlertType)}
    (h : Tracks .fault .faultResolved alerts (Pending ports conn)) {is : List (Fin numSasPorts)}
    (nodup : is.Nodup) :
    let acc := is.foldl (comparePort status) (ports, alerts)
    Tracks .fault .faultResolved acc.2 (Pending acc.1 conn) ∧
    (∀ i ∈ is, (status i = .down → acc.1 i = .fault) ∧
      (status i = .up → acc.1 i = .faultResolved)) ∧
    ∀ j, j ∉ is → acc.1 j = ports j := by
  induction is generalizing ports alerts with
  | nil => exact ⟨h, (fun _ mem => by cases mem), fun _ _ => rfl⟩
  | cons i rest ih =>
      obtain ⟨fresh, nodup⟩ := List.nodup_cons.mp nodup
      obtain ⟨tracks, down, up, others⟩ := @comparePort_spec status _ _ _ h i
      obtain ⟨tracks', all, outside⟩ := ih tracks nodup
      rw [List.foldl_cons]
      refine ⟨tracks', ?_, ?_⟩
      · intro j mem
        obtain rfl | later := List.mem_cons.mp mem
        · rw [outside j fresh]
          exact ⟨down, up⟩
        · exact all j later
      · intro j missing
        rw [List.mem_cons, not_or] at missing
        rw [outside j missing.2, others j missing.1]

/-- What the loop finds out: all ports are in fault, no port is. -/
theorem allPorts_eq (ports : Fin numSasPorts → AlertType) :
    ((allPorts ports).1 = true ↔ ∀ i, ports i = .fault) ∧
    ((allPorts ports).2 = true ↔ ∀ i, ports i ≠ .fault) := by
  have loop : ∀ (is : List (Fin numSasPorts)) (acc : Bool × Bool),
      let found := is.foldl (fun acc port =>
        if ports port ≠ .fault then (false, acc.2)
        else if ports port ≠ .faultResolved then (acc.1, false)
        else acc) acc
      (found.1 = true ↔ acc.1 = true ∧ ∀ i ∈ is, ports i = .fault) ∧
      (found.2 = true ↔ acc.2 = true ∧ ∀ i ∈ is, ports i ≠ .fault) := by
    intro is
    induction is with
    | nil => simp
    | cons i rest ih =>
        intro acc
        simp only [List.foldl_cons]
        cases value : ports i with
        | fault =>
            obtain ⟨first, second⟩ := ih (acc.1, false)
            simp only [ne_eq, not_true_eq_false, if_false, reduceCtorEq, not_false_eq_true, if_true]
            rw [first, second]
            simp [value]
        | faultResolved =>
            obtain ⟨first, second⟩ := ih (false, acc.2)
            simp only [ne_eq, reduceCtorEq, not_false_eq_true, if_true]
            rw [first, second]
            simp [value]
  obtain ⟨first, second⟩ := loop (List.finRange numSasPorts) (true, true)
  exact ⟨first.trans (by simp), second.trans (by simp)⟩

/-- The connection is in fault when all ports are and not when none is. -/
theorem checkAndSendConnAlert_spec {stored : Stored} {alerts : List (Source × AlertType)}
    (h : Tracks .fault .faultResolved alerts (Pending stored.ports stored.conn)) :
    let checked := checkAndSendConnAlert stored alerts
    Tracks .fault .faultResolved checked.2 (Pending stored.ports checked.1.conn) ∧
    checked.1.ports = stored.ports ∧ checked.1.version = stored.version ∧
    ((∀ i, stored.ports i = .fault) → checked.1.conn = .fault) ∧
    ((∀ i, stored.ports i ≠ .fault) → checked.1.conn ≠ .fault) := by
  obtain ⟨all, none⟩ := allPorts_eq stored.ports
  simp only [checkAndSendConnAlert]
  split
  · rename_i down
    refine ⟨h.raise (k := .conn) ?_ ?_, rfl, rfl, fun _ => rfl, ?_⟩
    · rw [Pending, down.1]
      decide
    · rintro (j | _) <;> simp [Pending]
    · exact fun free => absurd (all.mp down.2 ⟨0, by decide⟩) (free _)
  · rename_i notDown
    split
    · rename_i up
      refine ⟨h.settle (k := .conn) (by decide) up.1 ?_, rfl, rfl, ?_, fun _ => by simp⟩
      · rintro (j | _) <;> simp [Pending]
      · exact fun held => absurd (held ⟨0, by decide⟩) (none.mp up.2 _)
    · rename_i notUp
      refine ⟨h, rfl, rfl, ?_, ?_⟩
      · intro held
        cases value : stored.conn with
        | fault => rfl
        | faultResolved => exact absurd ⟨value, all.mpr held⟩ notDown
      · intro free value
        exact notUp ⟨value, none.mpr free⟩

end Alerts

section Runs

variable {hba : Hba} {lower : Text → Text} {s : State}

/-- What holds between the runs. -/
structure Invariant (hba : Hba) (lower : Text → Text) (s : State) : Prop where
  marked : ∀ phy ∈ hba.phyList, Marked lower (s.phys phy) (s.rates phy) ∧
    lower (strip (s.phys phy).rate) = lower (strip (s.rates phy))
  count : s.phyLinkCount = upCounts s.phys hba.phyList
  stored : ∃ stored, s.file = some stored ∧ stored.version = currentDataVersion ∧
    Tracks .fault .faultResolved s.alerts (Pending stored.ports stored.conn)

/-- The last alert about this is a fault. -/
def Outstanding (s : State) (source : Source) : Prop :=
  (entries source s.alerts).getLast? = some .fault

/-- What the alerts have to be when they have been compared with the status of the ports: a fault
is outstanding for a port that is down, and none for one that is up. -/
structure Told (hba : Hba) (s : State) : Prop where
  down : ∀ i, (∀ phy ∈ hba.port i, (s.phys phy).status = .fault) → Outstanding s (.port i)
  up : ∀ i, (∀ phy ∈ hba.port i, (s.phys phy).status = .up) → ¬ Outstanding s (.port i)
  connDown : (∀ i, Outstanding s (.port i)) → Outstanding s .conn
  connUp : (∀ i, ¬ Outstanding s (.port i)) → ¬ Outstanding s .conn

/-- The comparison with the file: the ports are told first, then the connection. -/
theorem handleCurrentVersionData_spec {status : Fin numSasPorts → PortStatus} {stored : Stored}
    (judged : ∀ i, (status i = .down ↔ ∀ phy ∈ hba.port i, (s.phys phy).status = .fault) ∧
      (status i = .up ↔ ∀ phy ∈ hba.port i, (s.phys phy).status = .up))
    (version : stored.version = currentDataVersion)
    (h : Tracks .fault .faultResolved s.alerts (Pending stored.ports stored.conn)) :
    let t := handleCurrentVersionData status stored s
    (∃ now, t.file = some now ∧ now.version = currentDataVersion ∧
      Tracks .fault .faultResolved t.alerts (Pending now.ports now.conn)) ∧ Told hba t := by
  obtain ⟨compared, ports, -⟩ := @foldl_comparePort status _ _ _ h _
    (List.nodup_finRange numSasPorts)
  simp only [handleCurrentVersionData]
  generalize (List.finRange numSasPorts).foldl (comparePort status) (stored.ports, s.alerts) =
    acc at compared ports ⊢
  obtain ⟨tracks, same, kept, allDown, allUp⟩ :=
    @checkAndSendConnAlert_spec { stored with ports := acc.1 } acc.2 compared
  generalize checkAndSendConnAlert { stored with ports := acc.1 } acc.2 =
    checked at tracks same kept allDown allUp ⊢
  have out : ∀ source, Outstanding { s with file := some checked.1, alerts := checked.2 } source ↔
      Pending acc.1 checked.1.conn source := fun source => (tracks.pending_iff source).symm
  refine ⟨⟨_, rfl, kept.trans version, same ▸ tracks⟩, ⟨?_, ?_, ?_, ?_⟩⟩
  · intro i down
    exact (out _).mpr ((ports i (List.mem_finRange i)).1 ((judged i).1.mpr down))
  · intro i up held
    have resolved := (ports i (List.mem_finRange i)).2 ((judged i).2.mpr up)
    cases resolved.symm.trans ((out _).mp held)
  · intro held
    exact (out _).mpr (allDown (fun i => (out (.port i)).mp (held i)))
  · intro free held
    exact allUp (fun i fault => free i ((out (.port i)).mpr fault)) ((out _).mp held)

/-- The check does not raise. Without a file it writes one, otherwise it tells what has changed. -/
theorem checkAndSendAlert_eq (s : State) : ∃ t, checkAndSendAlert hba s = .ok t ∧
    t.phys = s.phys ∧ t.rates = s.rates ∧ t.phyLinkCount = s.phyLinkCount ∧
    (s.file = none → t.file = some .first ∧ t.alerts = s.alerts) ∧
    ∀ stored, s.file = some stored → stored.version = currentDataVersion →
      Tracks .fault .faultResolved s.alerts (Pending stored.ports stored.conn) →
      (∃ now, t.file = some now ∧ now.version = currentDataVersion ∧
        Tracks .fault .faultResolved t.alerts (Pending now.ports now.conn)) ∧ Told hba t := by
  obtain ⟨status, eq, judged⟩ := updateSasPortsStatus_eq hba s.phys
  cases file : s.file with
  | none =>
      refine ⟨{ s with file := some .first }, ?_, rfl, rfl, rfl, fun _ => ⟨rfl, rfl⟩, ?_⟩
      · rw [checkAndSendAlert, eq, file]
        rfl
      · intro stored clash
        cases clash
  | some stored =>
      by_cases current : stored.version = currentDataVersion
      · refine ⟨handleCurrentVersionData status stored s, ?_, rfl, rfl, rfl, ?_, ?_⟩
        · rw [checkAndSendAlert, eq, file]
          exact if_pos current
        · intro clash
          cases clash
        · intro stored' same _ h
          cases same
          exact handleCurrentVersionData_spec judged current h
      · refine ⟨s, ?_, rfl, rfl, rfl, ?_, ?_⟩
        · rw [checkAndSendAlert, eq, file]
          exact if_neg current
        · intro clash
          cases clash
        · intro stored' same current'
          cases same
          exact absurd current' current

theorem marked_of_initialize (rates : Text → Text) (phy : Text) :
    Marked lower (initializePhy lower (rates phy)).1 (rates phy) ∧
    lower (strip (initializePhy lower (rates phy)).1.rate) = lower (strip (rates phy)) := by
  refine ⟨marked_initializePhy (rates phy), ?_⟩
  unfold initializePhy
  split <;> rfl

theorem count_of_initialize (rates : Text → Text) (phyList : List Text) :
    (phyList.map (fun phy => (initializePhy lower (rates phy)).2)).sum =
      upCounts (fun phy => (initializePhy lower (rates phy)).1) phyList := by
  refine congrArg List.sum (List.map_congr_left ?_)
  intro phy _
  show _ = upCount (initializePhy lower (rates phy)).1.status
  unfold initializePhy
  split <;> rfl

/-- The first start writes the file. -/
theorem Invariant.first (rates : Text → Text) : Invariant hba lower (first hba lower rates) := by
  simp only [SasPort.first, initializeSensor]
  obtain ⟨t, eq, phys, latest, count, unset, -⟩ := @checkAndSendAlert_eq hba
    { phys := fun phy => (initializePhy lower (rates phy)).1
      phyLinkCount := (hba.phyList.map (fun phy => (initializePhy lower (rates phy)).2)).sum
      file := none, alerts := [], rates := rates }
  obtain ⟨file, alerts⟩ := unset rfl
  rw [eq]
  refine ⟨?_, ?_, ⟨_, file, rfl, ?_⟩⟩
  · intro phy _
    rw [phys, latest]
    exact marked_of_initialize rates phy
  · rw [count, phys]
    exact count_of_initialize rates hba.phyList
  · rw [alerts]
    refine .nil ?_
    rintro (i | _) <;> simp [Pending, Stored.first]

/-- A new sensor tells what has changed since the file was written. -/
theorem Invariant.restart (h : Invariant hba lower s) (rates : Text → Text) :
    Invariant hba lower (initializeSensor hba lower rates s) ∧
      Told hba (initializeSensor hba lower rates s) := by
  simp only [initializeSensor]
  obtain ⟨t, eq, phys, latest, count, -, kept⟩ := @checkAndSendAlert_eq hba
    { s with
      phys := fun phy => (initializePhy lower (rates phy)).1
      phyLinkCount := (hba.phyList.map (fun phy => (initializePhy lower (rates phy)).2)).sum
      rates := rates }
  obtain ⟨stored, file, version, tracks⟩ := h.stored
  obtain ⟨stored, told⟩ := kept stored file version tracks
  rw [eq]
  refine ⟨⟨?_, ?_, stored⟩, told⟩
  · intro phy _
    rw [phys, latest]
    exact marked_of_initialize rates phy
  · rw [count, phys]
    exact count_of_initialize rates hba.phyList

theorem Invariant.run (h : Invariant hba lower s) (rates : Text → Text) :
    Invariant hba lower (run hba lower rates s) ∧ Told hba (run hba lower rates s) := by
  obtain ⟨marked, -, counts⟩ := @readPhys_spec lower rates s.rates hba.phyList
    (List.Nodup.of_map _ hba.nodup) (s.phys, 0, 0) h.marked
  simp only [SasPort.run]
  generalize hba.phyList.foldl (readPhys lower rates) (s.phys, 0, 0) = read at marked counts ⊢
  obtain ⟨t, eq, phys, latest, -, -, kept⟩ := @checkAndSendAlert_eq hba
    { s with phys := read.1, rates := rates }
  obtain ⟨stored, file, version, tracks⟩ := h.stored
  obtain ⟨stored, told⟩ := kept stored file version tracks
  rw [eq]
  refine ⟨⟨?_, ?_, stored⟩, ⟨told.down, told.up, told.connDown, told.connUp⟩⟩
  · intro phy mem
    rw [phys, latest]
    exact marked phy mem
  · show s.phyLinkCount + read.2.1 - read.2.2 = upCounts t.phys hba.phyList
    have same : t.phys = read.1 := phys
    rw [same, h.count]
    change upCounts read.1 hba.phyList - read.2.1 + read.2.2 =
      upCounts s.phys hba.phyList - 0 + 0 at counts
    omega

/-- In every state that readings and restarts lead to: a phy is marked by its latest rate and
their count is right, the alerts of every port and those of the connection alternate, and from
the second check on they are what the phys and the ports want them to be. -/
theorem sas_alerts {rates : Text → Text} {actions : List Action}
    (runs : (system hba lower).FreeRuns (SasPort.first hba lower rates) actions s) :
    (∀ phy ∈ hba.phyList, (s.phys phy).status = .up ↔ hasGbit lower (s.rates phy) = true) ∧
    s.phyLinkCount = hba.phyList.countP (fun phy => (s.phys phy).status = .up) ∧
    (∀ source, Alternating .fault .faultResolved (entries source s.alerts)) ∧
    (actions ≠ [] → Told hba s) := by
  have reach : ∀ t u, Invariant hba lower t → ∀ a, (system hba lower).next t a = some u →
      Invariant hba lower u ∧ Told hba u := by
    intro t u h a step
    cases a with
    | run rates =>
        cases step
        exact h.run rates
    | restart rates =>
        cases step
        exact h.restart rates
  have h : Invariant hba lower s ∧ (actions ≠ [] → Told hba s) := by
    obtain rfl | ⟨front, a, rfl⟩ := actions.eq_nil_or_concat'
    · cases runs
      exact ⟨.first rates, fun clash => absurd rfl clash⟩
    · obtain ⟨t, before, last⟩ := runs.split
      have ht : Invariant hba lower t := before.invariant
        (fun _ _ _ h _ step => (reach _ _ h _ step).1) (.first rates)
      cases last with
      | cons _ step tail =>
          cases tail
          obtain ⟨invariant, told⟩ := reach _ _ ht _ step
          exact ⟨invariant, fun _ => told⟩
  obtain ⟨h, told⟩ := h
  obtain ⟨stored, -, -, tracks⟩ := h.stored
  exact ⟨fun phy mem => (h.marked phy mem).1, h.count.trans (upCounts_eq _ _),
    tracks.alternating, told⟩

end Runs

/-- An adapter with the phys `phy-0:0` to `phy-0:15`. -/
def adapter : Hba where
  phyList := (List.range 16).map (fun i => ("phy-0:" ++ toString i).toList)
  num phy := (parseInt (phy.drop 6)).getD 0
  phyNum_eq := by decide +kernel
  nodup := by decide +kernel
  length_eq := by decide +kernel

/-- `str.lower` for the letters of ASCII. -/
def asciiLower (text : Text) : Text := text.map Char.toLower

/-- Every phy has lost its link, and comes back with a rate in capitals. -/
def lostAndBack : List Action :=
  [.run (fun _ => "Unknown".toList), .restart (fun _ => "12.0 GBIT".toList)]

def afterBack : State :=
  initializeSensor adapter asciiLower (fun _ => "12.0 GBIT".toList)
    (run adapter asciiLower (fun _ => "Unknown".toList)
      (first adapter asciiLower (fun _ => "12.0 Gbit".toList)))

/-- All phys lose their rates, and have them again after a restart. -/
theorem sas_alerts_lostAndBack :
    afterBack.alerts.length = 10 ∧
    (∀ phy ∈ adapter.phyList,
      (afterBack.phys phy).status = .up ↔ hasGbit asciiLower (afterBack.rates phy) = true) ∧
    afterBack.phyLinkCount = adapter.phyList.countP (fun phy => (afterBack.phys phy).status = .up) ∧
    (∀ source, Alternating .fault .faultResolved (entries source afterBack.alerts)) ∧
    (lostAndBack ≠ [] → Told adapter afterBack) := by
  refine ⟨by decide +kernel, @sas_alerts adapter asciiLower _ (fun _ => "12.0 Gbit".toList)
    lostAndBack ?_⟩
  exact .cons trivial rfl (.cons trivial rfl (.nil _))

/-- A rate in capitals marks its phy as up. -/
theorem capitals_marked : ∃ s : State,
    (system adapter asciiLower).FreeRuns (first adapter asciiLower (fun _ => "12.0 GBIT".toList))
      [] s ∧
    ∃ phy ∈ adapter.phyList,
      ¬ ((s.phys phy).status = .up ↔ "Gbit".toList <:+: s.rates phy) :=
  ⟨_, .nil _, "phy-0:0".toList, by decide +kernel⟩

end SasPort

end Node

end Sspl

import Mathlib.Data.Char
import Mathlib.Data.List.Lex
import Mathlib.Data.List.Sort
import Sspl.Foundation.Dict
import Sspl.Node.CpuList

/-!
# The health of the CPUs

`ServerHealth.get_cpu_info` takes the number of CPUs from the list of the present ones and then
counts from zero. Its entries are those of the present CPUs when no number is missing among them.
-/

namespace Sspl

namespace Server

open Iem (Text)
open Node (kernelText convertCpuInfoList)

/-- `HEALTH_UNDESIRED_VALS`. -/
def healthUndesiredVals : List Text := ["NA".toList, "N/A".toList, []]

def defaultRecommendation : Text := "Please Contact Seagate Support.".toList

structure CpuSpecifics where
  cpuUsage : Json
  state : String
  deriving DecidableEq

structure Health (σ : Type) where
  status : String
  description : Text
  recommendation : Text
  specifics : List σ
  deriving DecidableEq

/-- The data of a component; `last_updated` is empty in the template. -/
structure HealthData (σ : Type) where
  uid : Text
  fru : String
  lastUpdated : Option Int
  health : Health σ
  deriving DecidableEq

def getHealthTemplate {σ : Type} (uid : Text) (isFru : Bool) : HealthData σ where
  uid := uid
  fru := if isFru then "true" else "false"
  lastUpdated := none
  health := ⟨"", [], [], []⟩

/-- `not value or value in HEALTH_UNDESIRED_VALS`. -/
def undesired : Option Text → Bool
  | none => true
  | some value => value ∈ healthUndesiredVals

def setHealthData {σ : Type} (healthData : HealthData σ) (status : String)
    (description recommendation : Option Text) (specifics : List σ) (now : Int) : HealthData σ :=
  let goodState := status = "OK"
  let description :=
    if undesired description then
      healthData.uid ++ ' ' :: (if goodState then "is" else "is not").toList ++
        " in good health.".toList
    else description.getD []
  let recommendation :=
    if goodState then "None".toList
    else if undesired recommendation then defaultRecommendation
    else recommendation.getD []
  { healthData with
    lastUpdated := some now
    health := ⟨status, description, recommendation, specifics⟩ }

/-- `sorted` by the key that `eval` finds in an item; where an item has none, the data stay as
they are. -/
def sortBySpecificKv {α : Type} (key : α → Except PyErr Text) (data : List α) : List α :=
  match data.mapM (fun k => (key k).map (fun text => (text, k))) with
  | .ok keyed => (keyed.insertionSort (fun a b => a.1 ≤ b.1)).map Prod.snd
  | .error _ => data

/-- What `get_cpu_info` reads: the two files, what `psutil` tells, and the clock. -/
structure Host where
  present : Text
  online : Text
  cpuUsage : List Json
  overall : Json
  loadAvg : Json × Json × Json
  clock : Nat → Int

structure OverallUsage where
  current : Json
  oneMinAvg : Json
  fiveMinAvg : Json
  fifteenMinAvg : Json
  deriving DecidableEq

/-- The entries of the CPUs, or the one entry that has them below the usage of all. -/
inductive CpuData where
  | cpus (perCpuData : List (HealthData CpuSpecifics))
  | overall (overallUsage : OverallUsage) (cpuCount : Nat) (lastUpdated : Int)
      (perCpuData : List (HealthData CpuSpecifics))
  deriving DecidableEq

def getCpuList (file : Text) : Except PyErr (List Int) :=
  convertCpuInfoList (file.reverse.dropWhile (· = '\n')).reverse

/-- `f"CPU-{cpu_id}"`. -/
def cpuUid (cpuId : Nat) : Text := "CPU-".toList ++ Nat.toDigits 10 cpuId

/-- The body of the loop. -/
def cpuEntry (cpuOnline : List Int) (cpuUsageDict : Dict Int Json) (now : Int) (cpuId : Nat) :
    Except PyErr (HealthData CpuSpecifics) := do
  let onlineStatus := if (cpuId : Int) ∈ cpuOnline then "Online" else "Offline"
  let healthStatus := if onlineStatus = "Online" then "OK" else "NA"
  let usage ←
    if healthStatus = "NA" then .ok (.str "NA")
    else match cpuUsageDict.get? (cpuId : Int) with
      | some usage => .ok usage
      | none => .error .keyError
  return setHealthData (getHealthTemplate (cpuUid cpuId) false) healthStatus none none
    [⟨usage, onlineStatus⟩] now

def getCpuInfo (addOverallUsage : Bool) (host : Host) : Except PyErr CpuData := do
  let cpuPresent ← getCpuList host.present
  let cpuOnline ← getCpuList host.online
  let cpuUsageDict := Dict.empty.update (cpuOnline.zip host.cpuUsage)
  let cpuCount := cpuPresent.length
  let overallUsage : OverallUsage :=
    ⟨host.overall, host.loadAvg.1, host.loadAvg.2.1, host.loadAvg.2.2⟩
  let perCpuData ← (List.range cpuCount).mapM
    (fun cpuId => cpuEntry cpuOnline cpuUsageDict (host.clock cpuId) cpuId)
  if addOverallUsage then
    -- This one entry has no `uid`, so there is nothing to sort by.
    return .overall overallUsage cpuCount (host.clock cpuCount) perCpuData
  else return .cpus (sortBySpecificKv (fun entry => .ok entry.uid) perCpuData)

/-- The present CPUs and those online, as the kernel prints them, with one usage value for each
CPU online. -/
structure Host.Shows (host : Host) (present online : Finset Nat) : Prop where
  presentFile : host.present = kernelText present ++ ['\n']
  onlineFile : host.online = kernelText online ++ ['\n']
  subset : ∀ cpu ∈ online, cpu ∈ present
  usage : host.cpuUsage.length = online.card

/-- The entry of a CPU: it is marked `Online`, with the usage value at the place of the CPU among
those online, if the CPU is online. -/
def Tells (host : Host) (online : Finset Nat) (cpu : Nat) (entry : HealthData CpuSpecifics) :
    Prop :=
  if cpu ∈ online then ∃ usage,
    ((cpu : Nat), usage) ∈ (online.sort (· ≤ ·)).zip host.cpuUsage ∧
      entry.health.status = "OK" ∧ entry.health.specifics = [⟨usage, "Online"⟩]
  else entry.health.status = "NA" ∧ entry.health.specifics = [⟨.str "NA", "Offline"⟩]

/-- There is one entry for each present CPU and no other, and it tells about that CPU. -/
def Covers (host : Host) (present online : Finset Nat) : Prop :=
  ∃ entries, getCpuInfo false host = .ok (.cpus entries) ∧
    (entries.map HealthData.uid).Perm ((present.sort (· ≤ ·)).map cpuUid) ∧
    ∀ cpu ∈ present, ∀ entry ∈ entries, entry.uid = cpuUid cpu → Tells host online cpu entry

/-- No number is missing among the CPUs, so that their numbers are those of a range. -/
def Gapless (cpus : Finset Nat) : Prop := ∀ cpu ∈ cpus, ∀ lower < cpu, lower ∈ cpus

theorem getCpuList_kernelText {cpus : Finset Nat} (some_ : cpus.Nonempty) :
    getCpuList (kernelText cpus ++ ['\n']) =
      .ok ((cpus.sort (· ≤ ·)).map (fun n : Nat => (n : Int))) := by
  have numbers : cpus.sort (· ≤ ·) ≠ [] := by
    obtain ⟨n, mem⟩ := some_
    exact List.ne_nil_of_mem ((Finset.mem_sort (· ≤ ·)).mpr mem)
  have plain : ∀ c ∈ (kernelText cpus).reverse, decide (c = '\n') = false := by
    intro c mem
    rw [decide_eq_false_iff_not]
    rintro rfl
    exact Node.notMem_listText rfl (by decide) (by decide) _ (List.mem_reverse.mp mem)
  rw [getCpuList, List.reverse_append, List.reverse_singleton, List.singleton_append,
    List.dropWhile_cons_of_pos (by rfl), dropWhile_eq_self plain, List.reverse_reverse, kernelText,
    Node.convertCpuInfoList_cut numbers]

theorem getCpuList_empty : getCpuList (kernelText ∅ ++ ['\n']) = .error .valueError := by
  have none : kernelText ∅ = [] := by simp [kernelText, Interval.cut, Node.listText]
  rw [none]
  rfl

theorem cpuUid_injective : Function.Injective cpuUid := by
  intro first second same
  have digits := List.append_cancel_left same
  have read := parseInt_toDigits first
  rw [digits, parseInt_toDigits] at read
  exact Int.ofNat_inj.mp (Option.some.inj read).symm

theorem gapless_iff {cpus : Finset Nat} : Gapless cpus ↔ cpus = Finset.range cpus.card := by
  constructor
  · intro gapless
    refine Finset.eq_of_subset_of_card_le ?_ (by rw [Finset.card_range])
    intro cpu mem
    have lower : Finset.range (cpu + 1) ⊆ cpus := by
      intro n below
      obtain rfl | below := Nat.eq_or_lt_of_le (Nat.le_of_lt_succ (Finset.mem_range.mp below))
      · exact mem
      · exact gapless cpu mem n below
    have card := Finset.card_le_card lower
    rw [Finset.card_range] at card
    exact Finset.mem_range.mpr (by omega)
  · intro same cpu mem lower below
    rw [same, Finset.mem_range] at mem ⊢
    omega

theorem snd_of_mapM {α β : Type} {key : α → Except PyErr β} {data : List α}
    {keyed : List (β × α)}
    (found : data.mapM (fun k => (key k).map (fun text => (text, k))) = .ok keyed) :
    keyed.map Prod.snd = data := by
  induction data generalizing keyed with
  | nil =>
      cases found
      rfl
  | cons k rest ih =>
      rw [List.mapM_cons] at found
      obtain ⟨pair, here, found⟩ := bind_eq_ok.mp found
      obtain ⟨later, there, found⟩ := bind_eq_ok.mp found
      cases found
      cases known : key k with
      | error e =>
          rw [known] at here
          cases here
      | ok text =>
          rw [known] at here
          cases here
          rw [List.map_cons, ih there]

/-- Sorting neither loses nor adds an item. -/
theorem sortBySpecificKv_perm {α : Type} (key : α → Except PyErr Text) (data : List α) :
    (sortBySpecificKv key data).Perm data := by
  rw [sortBySpecificKv]
  split
  · rename_i keyed found
    have sorted := (List.perm_insertionSort (fun a b => a.1 ≤ b.1) keyed).map Prod.snd
    rwa [snd_of_mapM found] at sorted
  · exact .rfl

theorem mapM_eq_ok {α β : Type} {f : α → Except PyErr β} {g : α → β} {l : List α}
    (each : ∀ a ∈ l, f a = .ok (g a)) : l.mapM f = .ok (l.map g) := by
  induction l with
  | nil => rfl
  | cons a rest ih =>
      rw [List.mapM_cons, each a List.mem_cons_self,
        ih (fun b mem => each b (List.mem_cons_of_mem a mem))]
      rfl

variable {host : Host} {present online : Finset Nat}

/-- The list that is read from the file `online`. -/
def onlineList (online : Finset Nat) : List Int :=
  (online.sort (· ≤ ·)).map (fun n : Nat => (n : Int))

theorem mem_onlineList {cpuId : Nat} : (cpuId : Int) ∈ onlineList online ↔ cpuId ∈ online := by
  rw [onlineList, List.mem_map]
  simp only [Int.ofNat_inj, exists_eq_right, Finset.mem_sort]

/-- `cpu_usage_dict`. -/
def usageDict (host : Host) (online : Finset Nat) : Dict Int Json :=
  Dict.empty.update ((onlineList online).zip host.cpuUsage)

section Usage

variable (usage : host.cpuUsage.length = online.card)
include usage

theorem exists_usage {cpuId : Nat} (mem : cpuId ∈ online) :
    ∃ value, (cpuId, value) ∈ (online.sort (· ≤ ·)).zip host.cpuUsage := by
  obtain ⟨i, lt, here⟩ := List.mem_iff_getElem.mp ((Finset.mem_sort (· ≤ ·)).mpr mem)
  rw [Finset.length_sort, ← usage] at lt
  refine ⟨_, List.mem_iff_getElem?.mpr ⟨i, List.getElem?_zip_eq_some.mpr
    ⟨List.getElem?_eq_some_iff.mpr ⟨_, here⟩, List.getElem?_eq_getElem lt⟩⟩⟩

/-- The dictionary has for a CPU the value at its place. -/
theorem get?_usageDict {cpuId : Nat} {value : Json}
    (mem : (cpuId, value) ∈ (online.sort (· ≤ ·)).zip host.cpuUsage) :
    (usageDict host online).get? (cpuId : Int) = some value := by
  have keys : ((onlineList online).zip host.cpuUsage).map Prod.fst = onlineList online := by
    refine List.map_fst_zip ?_
    rw [onlineList, List.length_map, Finset.length_sort, usage]
  refine Dict.get?_update _ ?_ ?_
  · rw [keys]
    exact (Finset.sort_nodup online _).map (fun _ _ => Int.ofNat_inj.mp)
  · rw [onlineList, List.zip_map_left]
    exact List.mem_map.mpr ⟨_, mem, rfl⟩

end Usage

/-- The entry that the loop makes for a number. -/
def entryOf (host : Host) (online : Finset Nat) (cpuId : Nat) : HealthData CpuSpecifics :=
  if cpuId ∈ online then
    setHealthData (getHealthTemplate (cpuUid cpuId) false) "OK" none none
      [⟨((usageDict host online).get? (cpuId : Int)).getD .null, "Online"⟩] (host.clock cpuId)
  else setHealthData (getHealthTemplate (cpuUid cpuId) false) "NA" none none
    [⟨.str "NA", "Offline"⟩] (host.clock cpuId)

theorem cpuEntry_eq (usage : host.cpuUsage.length = online.card) (cpuId : Nat) :
    cpuEntry (onlineList online) (usageDict host online) (host.clock cpuId) cpuId =
      .ok (entryOf host online cpuId) := by
  rw [cpuEntry, entryOf]
  by_cases mem : cpuId ∈ online
  · obtain ⟨value, here⟩ := exists_usage usage mem
    rw [if_pos mem, if_pos (mem_onlineList.mpr mem), get?_usageDict usage here]
    rfl
  · rw [if_neg mem, if_neg (fun h => mem (mem_onlineList.mp h))]
    rfl

@[simp] theorem entryOf_uid (cpuId : Nat) : (entryOf host online cpuId).uid = cpuUid cpuId := by
  rw [entryOf]
  split <;> rfl

theorem tells_entryOf (usage : host.cpuUsage.length = online.card) (cpuId : Nat) :
    Tells host online cpuId (entryOf host online cpuId) := by
  rw [Tells, entryOf]
  by_cases mem : cpuId ∈ online
  · obtain ⟨value, here⟩ := exists_usage usage mem
    rw [if_pos mem, if_pos mem, get?_usageDict usage here]
    exact ⟨value, here, rfl, rfl⟩
  · rw [if_neg mem, if_neg mem]
    exact ⟨rfl, rfl⟩

/-- The entries are those of the first numbers, as many as there are present CPUs. -/
theorem getCpuInfo_eq (shows : host.Shows present online) (some_ : online.Nonempty) :
    getCpuInfo false host = .ok (.cpus (sortBySpecificKv (fun entry => .ok entry.uid)
      ((List.range present.card).map (entryOf host online)))) := by
  have some_present : present.Nonempty := some_.mono shows.subset
  have length : ((present.sort (· ≤ ·)).map (fun n : Nat => (n : Int))).length = present.card := by
    rw [List.length_map, Finset.length_sort]
  have entries : (List.range present.card).mapM (fun cpuId =>
      cpuEntry (onlineList online) (usageDict host online) (host.clock cpuId) cpuId) =
      .ok ((List.range present.card).map (entryOf host online)) :=
    mapM_eq_ok (fun cpuId _ => cpuEntry_eq shows.usage cpuId)
  rw [getCpuInfo, shows.presentFile, shows.onlineFile, getCpuList_kernelText some_present,
    getCpuList_kernelText some_]
  show ((List.range ((present.sort (· ≤ ·)).map (fun n : Nat => (n : Int))).length).mapM
    (fun cpuId => cpuEntry (onlineList online) (usageDict host online) (host.clock cpuId) cpuId)
    >>= _) = _
  rw [length, entries]
  rfl

/-- With no CPU online the text of the file is no list. -/
theorem getCpuInfo_offline (shows : host.Shows present ∅) :
    getCpuInfo false host = .error .valueError := by
  rw [getCpuInfo, shows.presentFile, shows.onlineFile, getCpuList_empty]
  obtain rfl | some_ := present.eq_empty_or_nonempty
  · rw [getCpuList_empty]
    rfl
  · rw [getCpuList_kernelText some_]
    rfl

/-- The health data has an entry for each present CPU, and for no other one, when some CPU is
online and no number is missing among the present ones. -/
theorem covers_iff (host : Host) (present online : Finset Nat)
    (shows : host.Shows present online) :
    Covers host present online ↔ online.Nonempty ∧ Gapless present := by
  obtain rfl | some_ := online.eq_empty_or_nonempty
  · refine iff_of_false ?_ (fun h => Finset.not_nonempty_empty h.1)
    rintro ⟨entries, ran, -⟩
    rw [getCpuInfo_offline shows] at ran
    cases ran
  · have sorted := sortBySpecificKv_perm (fun entry => .ok entry.uid)
      ((List.range present.card).map (entryOf host online))
    have uids := sorted.map HealthData.uid
    have numbers : ((List.range present.card).map (entryOf host online)).map HealthData.uid =
        (List.range present.card).map cpuUid := by
      rw [List.map_map]
      exact List.map_congr_left (fun cpuId _ => entryOf_uid cpuId)
    rw [numbers] at uids
    constructor
    · rintro ⟨entries, ran, perm, -⟩
      rw [getCpuInfo_eq shows some_] at ran
      cases ran
      refine ⟨some_, gapless_iff.mpr ?_⟩
      have same : (present.sort (· ≤ ·)).Perm (List.range present.card) :=
        (List.map_perm_map_iff cpuUid_injective).mp (perm.symm.trans uids)
      ext cpu
      rw [← Finset.mem_sort (· ≤ ·), same.mem_iff, List.mem_range, Finset.mem_range]
    · rintro ⟨-, gapless⟩
      have range := gapless_iff.mp gapless
      refine ⟨_, getCpuInfo_eq shows some_, ?_, ?_⟩
      · have numbers : present.sort (· ≤ ·) = List.range present.card := by
          rw [range, Finset.sort_range, Finset.card_range]
        rw [numbers]
        exact uids
      · intro cpu mem entry listed uid
        obtain ⟨cpuId, -, rfl⟩ := List.mem_map.mp (sorted.mem_iff.mp listed)
        rw [entryOf_uid] at uid
        cases cpuUid_injective uid
        exact tells_entryOf shows.usage _

theorem sort_pair {first second : Nat} (lt : first < second) :
    ({first, second} : Finset Nat).sort (· ≤ ·) = [first, second] := by
  refine (Finset.sortedLT_sort {first, second}).eq_of_mem_iff ?_ ?_
  · exact List.Pairwise.sortedLT (by simpa using lt)
  · intro n
    simp

/-- A host whose CPU 1 is missing. -/
def gapHost : Host where
  present := "0,2\n".toList
  online := "0,2\n".toList
  cpuUsage := [.float "3.0", .float "7.5"]
  overall := .float "5.2"
  loadAvg := (.float "0.4", .float "0.3", .float "0.2")
  clock _ := 1614000000

theorem gapHost_shows : gapHost.Shows {0, 2} {0, 2} := by
  have text : kernelText {0, 2} ++ ['\n'] = "0,2\n".toList := by
    rw [kernelText, sort_pair (by decide)]
    decide +kernel
  exact ⟨text.symm, text.symm, fun _ mem => mem, rfl⟩

/-- CPU 2 is online, and there is an entry for a CPU 1 instead. -/
theorem gapHost_not_covered : gapHost.Shows {0, 2} {0, 2} ∧
    getCpuInfo false gapHost = .ok (.cpus
      [⟨"CPU-0".toList, "false", some 1614000000, ⟨"OK", "CPU-0 is in good health.".toList,
          "None".toList, [⟨.float "3.0", "Online"⟩]⟩⟩,
        ⟨"CPU-1".toList, "false", some 1614000000, ⟨"NA", "CPU-1 is not in good health.".toList,
          "Please Contact Seagate Support.".toList, [⟨.str "NA", "Offline"⟩]⟩⟩]) ∧
    ¬ Covers gapHost {0, 2} {0, 2} := by
  have ran : getCpuInfo false gapHost = .ok (.cpus
      [⟨"CPU-0".toList, "false", some 1614000000, ⟨"OK", "CPU-0 is in good health.".toList,
          "None".toList, [⟨.float "3.0", "Online"⟩]⟩⟩,
        ⟨"CPU-1".toList, "false", some 1614000000, ⟨"NA", "CPU-1 is not in good health.".toList,
          "Please Contact Seagate Support.".toList, [⟨.str "NA", "Offline"⟩]⟩⟩]) := by
    decide +kernel
  refine ⟨gapHost_shows, ran, ?_⟩
  rintro ⟨entries, ran', perm, -⟩
  cases ran.symm.trans ran'
  rw [sort_pair (by decide)] at perm
  have listed : cpuUid 2 ∈ [cpuUid 0, cpuUid 2] := by simp
  exact absurd (perm.mem_iff.mpr listed) (by decide +kernel)

/-- With CPU 1 missing neither side holds. -/
theorem covers_iff_gapHost : gapHost.Shows {0, 2} {0, 2} ∧
    (Covers gapHost {0, 2} {0, 2} ↔ ({0, 2} : Finset Nat).Nonempty ∧ Gapless {0, 2}) :=
  ⟨gapHost_shows, covers_iff gapHost {0, 2} {0, 2} gapHost_shows⟩

end Server

end Sspl

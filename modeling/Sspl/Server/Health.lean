import Sspl.Iem.Message
import Sspl.Python.Value

/-!
# The health of the server

`get_server_health_info` calls every reader and looks at what it returned. The flag for an
unhealthy resource is not collected over the readers: each reader whose data can be looked at
overwrites it.
-/

namespace Sspl

namespace Server

/-- What a reader does: it returns data or raises. -/
abbrev Outcome := Except PyErr Json

/-- `server_resources`. -/
def serverResources : List (String × List String) :=
  [("hw", ["cpu", "platform_sensor", "memory", "fan", "nw_port", "sas_hba", "sas_port", "disk",
      "psu"]),
    ("sw", ["cortx_sw_services", "external_sw_services", "raid"])]

/-- What the function reads: the details of the platform, the attributes of the build, the overall
usage, and the resources. -/
structure HealthEnv where
  serverDetails : Outcome
  buildAttribute : String → Outcome
  /-- `get_cpu_info(add_overall_usage=True)`. -/
  cpuInfo : Outcome
  diskOverallUsage : Outcome
  /-- `get_mem_info()`, called for the overall usage. -/
  memInfo : Outcome
  read : String → Outcome
  fqdn : String
  now : Int

/-- `status.lower() == "ok"`; the sign for Kelvin has the lower case `k` too. -/
def isOk (status : String) : Bool :=
  match status.toList with
  | [o, k] => (o == 'o' || o == 'O') && (k == 'k' || k == 'K' || k.toNat == 0x212a)
  | _ => false

def itemList : Items → List Json
  | .nil => []
  | .cons head tail => head :: itemList tail

/-- `for child in value`; the children of a string and of a dictionary are strings. -/
def children : Json → Except PyErr (List Json)
  | .list items => .ok (itemList items)
  | .str _ => .ok []
  | .dict _ => .ok []
  | _ => .error .typeError

/-- The body of the loop of `_is_any_resource_unhealthy`. -/
def childUnhealthy : Json → Except PyErr Bool
  | .dict fields => do
    let health := (fields.lookup "health").getD .null
    if health.truthy then
      match ← health.item "status" with
      | .str status => return !isOk status
      | _ => .error .attributeError
    else return false
  | _ => .ok false

def isAnyResourceUnhealthy (fru : String) (data : Fields) : Except PyErr Bool := do
  let child ← (Json.dict data).item fru
  (← children child).anyM childUnhealthy

/-- `value[0]`. -/
def firstItem : Json → Except PyErr Json
  | .list (.cons head _) => .ok head
  | .list .nil => .error .other
  | .dict _ => .error .keyError
  | .str s => match s.toList with
    | c :: _ => .ok (.str (String.ofList [c]))
    | [] => .error .other
  | _ => .error .typeError

def getCpuOverallUsage (cpuInfo : Outcome) : Except PyErr Json := do
  let overallUsage ← (← firstItem (← cpuInfo)).get "overall_usage"
  return if overallUsage.truthy then overallUsage else .null

def getMemoryOverallUsage (memInfo : Outcome) : Except PyErr Json := do
  let memory ← firstItem (← memInfo)
  if (← memory.get "health").truthy then (← memory.item "health").item "specifics"
  else return .null

/-- The `try` block with `BuildInfo`: an attribute that cannot be read ends it. -/
def addBuildInfo (getAttribute : String → Outcome) (info : Fields) : Fields :=
  match getAttribute "NAME" with
  | .error _ => info
  | .ok name =>
    let info := info.set "product_family" name
    match getAttribute "VERSION" with
    | .error _ => info
    | .ok version =>
      let info := info.set "version" version
      match getAttribute "BUILD" with
      | .error _ => info
      | .ok build => info.set "build" build

/-- What stands in the report before the readers are called. -/
def overview (env : HealthEnv) : Except PyErr Fields := do
  let serverDetails ← env.serverDetails
  let make ← serverDetails.item "Board Mfg"
  let model ← serverDetails.item "Product Name"
  let info := addBuildInfo env.buildAttribute
    (.cons "make" make (.cons "model" model .nil))
  let cpuUsage ← getCpuOverallUsage env.cpuInfo
  let diskUsage ← env.diskOverallUsage
  let memoryUsage ← getMemoryOverallUsage env.memInfo
  return info.set "resource_usage" (.dict (.cons "cpu_usage" cpuUsage
    (.cons "disk_usage" diskUsage (.cons "memory_usage" memoryUsage .nil))))

/-- The body of the inner loop, on `unhealthy_resource_found` and `info[res_type]`. -/
def readResource (read : String → Outcome) (acc : Bool × Fields) (fru : String) : Bool × Fields :=
  match read fru with
  | .error _ => (acc.1, acc.2.set fru .null)
  | .ok data =>
    let info := acc.2.set fru data
    match isAnyResourceUnhealthy fru info with
    | .ok found => (found, info)
    | .error _ => (acc.1, info.set fru .null)

/-- The body of the outer loop, on `unhealthy_resource_found` and `info`. -/
def readResources (read : String → Outcome) (acc : Bool × Fields)
    (resources : String × List String) : Bool × Fields :=
  let section_ := resources.2.foldl (readResource read) (acc.1, .nil)
  (section_.1, acc.2.set resources.1 (.dict section_.2))

def overallHealth (unhealthyResourceFound : Bool) : Fields :=
  let status := if unhealthyResourceFound then "Degraded" else "OK"
  .cons "status" (.str status) (.cons "description"
    (.str (if status = "OK" then "Server is in good health." else "Server is in bad health."))
    (.cons "recommendation"
      (.str (if status = "OK" then "NA" else "Please Contact Seagate Support."))
      (.cons "specifics" (.list .nil) .nil)))

def getServerHealthInfo (env : HealthEnv) : Except PyErr Json := do
  let acc := serverResources.foldl (readResources env.read) (false, ← overview env)
  let info := acc.2.set "uid" (.str env.fqdn)
  let info := info.set "last_updated" (.int env.now)
  let info := info.set "health" (.dict (overallHealth acc.1))
  return .list (.cons (.dict info) .nil)

/-- The entry has a health status other than `OK`. -/
def Unhealthy (entry : Json) : Prop :=
  ∃ fields health status, entry = .dict fields ∧ fields.lookup "health" = some (.dict health) ∧
    health.lookup "status" = some (.str status) ∧ isOk status = false

/-- The entries of what a reader returned; the sensors of the platform come as a dictionary of
lists. -/
def entriesOf : Json → List Json
  | .list items => itemList items
  | .dict fields => ofFields fields
  | _ => []
where
  ofFields : Fields → List Json
    | .nil => []
    | .cons _ (.list items) tail => itemList items ++ ofFields tail
    | .cons _ _ tail => ofFields tail

/-- The readers in the order in which they are called. -/
def readers : List String := serverResources.flatMap Prod.snd

def AnyUnhealthy (env : HealthEnv) : Prop :=
  ∃ fru ∈ readers, ∃ data, env.read fru = .ok data ∧ ∃ entry ∈ entriesOf data, Unhealthy entry

/-- The report is made, its status is `Degraded` when an entry is unhealthy and only then, and it
has the data of the readers that did not raise. -/
def RollsUp (env : HealthEnv) : Prop :=
  ∃ info, getServerHealthInfo env = .ok (.list (.cons (.dict info) .nil)) ∧
    (∃ health, info.lookup "health" = some (.dict health) ∧
      (health.lookup "status" = some (.str "Degraded") ↔ AnyUnhealthy env)) ∧
    ∀ resType frus, (resType, frus) ∈ serverResources →
      ∃ section_, info.lookup resType = some (.dict section_) ∧
        ∀ fru ∈ frus, ∀ data, env.read fru = .ok data → section_.lookup fru = some data

/-- The check of the data of one reader. -/
def check (data : Json) : Except PyErr Bool := do (← children data).anyM childUnhealthy

/-- What the check says of the data of a reader, if it gets through them. -/
def verdict (outcome : Outcome) : Option Bool :=
  match outcome with
  | .error _ => none
  | .ok data => (check data).toOption

/-- The verdict on the last reader whose data the check gets through. -/
def lastVerdict (env : HealthEnv) : Option Bool :=
  (readers.filterMap (fun fru => verdict (env.read fru))).getLast?

theorem unhealthy_of_childUnhealthy {child : Json} (found : childUnhealthy child = .ok true) :
    Unhealthy child := by
  cases child with
  | dict fields =>
      rw [childUnhealthy] at found
      split at found
      · cases health : (fields.lookup "health").getD .null with
        | dict entry =>
            rw [health] at found
            obtain ⟨status, read, found⟩ := bind_eq_ok.mp found
            cases status with
            | str status =>
                refine ⟨fields, entry, status, rfl, ?_, ?_, ?_⟩
                · cases lookup : fields.lookup "health" with
                  | none =>
                      rw [lookup] at health
                      cases health
                  | some value =>
                      rw [lookup] at health
                      exact congrArg some health
                · rw [Json.item] at read
                  cases lookup : entry.lookup "status" with
                  | none =>
                      rw [lookup] at read
                      cases read
                  | some value =>
                      rw [lookup] at read
                      cases read
                      rfl
                · simpa using Except.ok.inj found
            | _ => cases found
        | _ =>
            rw [health] at found
            cases found
      · cases found
  | _ => cases found

theorem anyM_eq_true {test : Json → Except PyErr Bool} {l : List Json}
    (found : l.anyM test = .ok true) : ∃ a ∈ l, test a = .ok true := by
  induction l with
  | nil => cases found
  | cons a rest ih =>
      rw [List.anyM] at found
      obtain ⟨here, tested, found⟩ := bind_eq_ok.mp found
      cases here with
      | true => exact ⟨a, List.mem_cons_self, tested⟩
      | false =>
          obtain ⟨b, mem, tested⟩ := ih found
          exact ⟨b, List.mem_cons_of_mem a mem, tested⟩

/-- What the check finds is an entry of the data. -/
theorem unhealthy_of_verdict {outcome : Outcome} (found : verdict outcome = some true) :
    ∃ data, outcome = .ok data ∧ ∃ entry ∈ entriesOf data, Unhealthy entry := by
  cases outcome with
  | error e => cases found
  | ok data =>
      have checked : check data = .ok true := by
        cases checked : check data with
        | error e =>
            rw [verdict, checked] at found
            cases found
        | ok flag =>
            rw [verdict, checked] at found
            exact congrArg Except.ok (Option.some.inj found)
      obtain ⟨entries, children, checked⟩ := bind_eq_ok.mp checked
      obtain ⟨entry, mem, unhealthy⟩ := anyM_eq_true checked
      refine ⟨data, rfl, entry, ?_, unhealthy_of_childUnhealthy unhealthy⟩
      cases data with
      | list items =>
          cases children
          exact mem
      | str _ =>
          cases children
          cases mem
      | dict _ =>
          cases children
          cases mem
      | _ => cases children

variable {read : String → Outcome}

/-- What stands in the report for a reader. -/
def kept (outcome : Outcome) : Json :=
  match outcome with
  | .error _ => .null
  | .ok data => match check data with
    | .ok _ => data
    | .error _ => .null

theorem isAnyResourceUnhealthy_set (fru : String) (data : Json) (info : Fields) :
    isAnyResourceUnhealthy fru (info.set fru data) = check data := by
  rw [isAnyResourceUnhealthy, Json.item, Fields.lookup_set_same]
  rfl

theorem readResource_flag (acc : Bool × Fields) (fru : String) :
    (readResource read acc fru).1 = (verdict (read fru)).getD acc.1 := by
  rw [readResource]
  cases read fru with
  | error e => rfl
  | ok data =>
      simp only [isAnyResourceUnhealthy_set, verdict]
      cases check data <;> rfl

theorem readResource_lookup (acc : Bool × Fields) (fru name : String) :
    (readResource read acc fru).2.lookup name =
      if name = fru then some (kept (read fru)) else acc.2.lookup name := by
  rw [readResource]
  by_cases same : name = fru
  · subst same
    rw [if_pos rfl]
    cases read name with
    | error e => exact Fields.lookup_set_same _ _ _
    | ok data =>
        simp only [isAnyResourceUnhealthy_set, kept]
        cases check data <;> exact Fields.lookup_set_same _ _ _
  · have other : fru ≠ name := Ne.symm same
    rw [if_neg same]
    cases read fru with
    | error e => exact Fields.lookup_set_ne _ other _
    | ok data =>
        simp only [isAnyResourceUnhealthy_set]
        cases check data with
        | ok found => exact Fields.lookup_set_ne _ other _
        | error e =>
            exact (Fields.lookup_set_ne _ other _).trans (Fields.lookup_set_ne _ other _)

/-- The last verdict stands. -/
theorem foldl_readResource_flag (frus : List String) (acc : Bool × Fields) :
    (frus.foldl (readResource read) acc).1 =
      ((frus.filterMap (fun fru => verdict (read fru))).getLast?).getD acc.1 := by
  induction frus generalizing acc with
  | nil => rfl
  | cons fru rest ih =>
      rw [List.foldl_cons, ih, readResource_flag, List.filterMap_cons]
      cases verdict (read fru) with
      | none => rfl
      | some found =>
          rw [List.getLast?_cons]
          cases (rest.filterMap (fun fru => verdict (read fru))).getLast? <;> rfl

theorem foldl_readResource_lookup (frus : List String) (acc : Bool × Fields) (name : String) :
    (frus.foldl (readResource read) acc).2.lookup name =
      if name ∈ frus then some (kept (read name)) else acc.2.lookup name := by
  induction frus generalizing acc with
  | nil => rfl
  | cons fru rest ih =>
      rw [List.foldl_cons, ih, readResource_lookup]
      by_cases later : name ∈ rest
      · rw [if_pos later, if_pos (List.mem_cons_of_mem fru later)]
      · by_cases same : name = fru
        · subst same
          rw [if_neg later, if_pos rfl, if_pos List.mem_cons_self]
        · rw [if_neg later, if_neg same, if_neg (by simp [same, later])]

variable {env : HealthEnv}

/-- `info[res_type]` after the inner loop. -/
def sectionOf (read : String → Outcome) (flag : Bool) (frus : List String) : Fields :=
  (frus.foldl (readResource read) (flag, .nil)).2

theorem foldl_readResources_flag (resources : List (String × List String))
    (acc : Bool × Fields) :
    (resources.foldl (readResources read) acc).1 =
      (((resources.flatMap Prod.snd).filterMap (fun fru => verdict (read fru))).getLast?).getD
        acc.1 := by
  induction resources generalizing acc with
  | nil => rfl
  | cons resource rest ih =>
      have flag : (readResources read acc resource).1 =
          ((resource.2.filterMap (fun fru => verdict (read fru))).getLast?).getD acc.1 :=
        foldl_readResource_flag resource.2 (acc.1, .nil)
      rw [List.foldl_cons, ih, flag, List.flatMap_cons, List.filterMap_append,
        List.getLast?_append, Option.getD_or]

/-- A section that is written stays until a section of the same name is written. -/
theorem foldl_readResources_lookup (read : String → Outcome) {resType : String} {frus : List String}
    {resources : List (String × List String)} (nodup : (resources.map Prod.fst).Nodup)
    (mem : (resType, frus) ∈ resources) (acc : Bool × Fields) :
    ∃ flag, (resources.foldl (readResources read) acc).2.lookup resType =
      some (.dict (sectionOf read flag frus)) := by
  have stays : ∀ (resources : List (String × List String)) (acc : Bool × Fields),
      resType ∉ resources.map Prod.fst →
      (resources.foldl (readResources read) acc).2.lookup resType = acc.2.lookup resType := by
    intro resources
    induction resources with
    | nil => exact fun acc _ => rfl
    | cons resource rest ih =>
        intro acc fresh
        rw [List.map_cons, List.mem_cons, not_or] at fresh
        rw [List.foldl_cons, ih _ fresh.2]
        exact Fields.lookup_set_ne _ (Ne.symm fresh.1) _
  induction resources generalizing acc with
  | nil => cases mem
  | cons resource rest ih =>
      obtain ⟨fresh, nodup⟩ := List.nodup_cons.mp nodup
      rw [List.foldl_cons]
      obtain rfl | later := List.mem_cons.mp mem
      · exact ⟨acc.1, (stays rest _ fresh).trans (Fields.lookup_set_same _ _ _)⟩
      · exact ih nodup later _

/-- The report, once what stands before the readers has been read. -/
def report (env : HealthEnv) (info : Fields) : Fields :=
  let acc := serverResources.foldl (readResources env.read) (false, info)
  ((acc.2.set "uid" (.str env.fqdn)).set "last_updated" (.int env.now)).set "health"
    (.dict (overallHealth acc.1))

theorem getServerHealthInfo_eq {info : Fields} (read : overview env = .ok info) :
    getServerHealthInfo env = .ok (.list (.cons (.dict (report env info)) .nil)) := by
  rw [getServerHealthInfo, read]
  rfl

theorem status_overallHealth (flag : Bool) :
    (overallHealth flag).lookup "status" = some (.str "Degraded") ↔ flag = true := by
  cases flag <;> simp [overallHealth, Fields.lookup]

theorem report_health (env : HealthEnv) (info : Fields) :
    (report env info).lookup "health" =
      some (.dict (overallHealth ((lastVerdict env).getD false))) := by
  rw [report, Fields.lookup_set_same, foldl_readResources_flag]
  rfl

theorem report_section {resType : String} {frus : List String} (env : HealthEnv) (info : Fields)
    (mem : (resType, frus) ∈ serverResources) : ∃ section_,
      (report env info).lookup resType = some (.dict section_) ∧
      ∀ fru ∈ frus, section_.lookup fru = some (kept (env.read fru)) := by
  obtain ⟨flag, found⟩ := foldl_readResources_lookup env.read (by decide) mem
    (false, info)
  have other : "uid" ≠ resType ∧ "last_updated" ≠ resType ∧ "health" ≠ resType := by
    have names : resType ∈ serverResources.map Prod.fst := List.mem_map_of_mem mem
    have all : ∀ name ∈ serverResources.map Prod.fst,
        "uid" ≠ name ∧ "last_updated" ≠ name ∧ "health" ≠ name := by decide
    exact all resType names
  refine ⟨sectionOf env.read flag frus, ?_, ?_⟩
  · rw [report, Fields.lookup_set_ne _ other.2.2, Fields.lookup_set_ne _ other.2.1,
      Fields.lookup_set_ne _ other.1, found]
  · intro fru listed
    rw [sectionOf, foldl_readResource_lookup, if_pos listed]

theorem anyUnhealthy_of_lastVerdict (found : lastVerdict env = some true) : AnyUnhealthy env := by
  obtain ⟨fru, mem, found⟩ := List.mem_filterMap.mp (List.mem_of_getLast? found)
  exact ⟨fru, mem, unhealthy_of_verdict found⟩

theorem kept_eq {data : Json} :
    kept (.ok data) = data ↔ data = .null ∨ ∃ found, check data = .ok found := by
  rw [kept]
  cases check data with
  | ok found => simp
  | error e => simp [eq_comm]

/-- The report is right when it is made, the check gets through the data of every reader that
returned something, and an unhealthy entry of some reader is seen in the last data it gets
through. -/
theorem rollsUp_iff (env : HealthEnv) :
    RollsUp env ↔ (∃ info, overview env = .ok info) ∧
      (∀ fru ∈ readers, ∀ data, env.read fru = .ok data →
        data = .null ∨ ∃ found, check data = .ok found) ∧
      (AnyUnhealthy env → lastVerdict env = some true) := by
  constructor
  · rintro ⟨report_, ran, ⟨health, here, status⟩, sections⟩
    cases start : overview env with
    | error e =>
        rw [getServerHealthInfo, start] at ran
        cases ran
    | ok info =>
        rw [getServerHealthInfo_eq start] at ran
        cases ran
        rw [report_health] at here
        cases here
        rw [status_overallHealth] at status
        refine ⟨⟨info, rfl⟩, ?_, ?_⟩
        · intro fru mem data returned
          obtain ⟨⟨resType, frus⟩, resource, listed⟩ := List.mem_flatMap.mp mem
          obtain ⟨section_, here, found⟩ := sections resType frus resource
          obtain ⟨section', there, stands⟩ := report_section env info resource
          cases here.symm.trans there
          have same := (stands fru listed).symm.trans (found fru listed data returned)
          rw [returned] at same
          exact kept_eq.mp (Option.some.inj same)
        · intro unhealthy
          have flag := status.mpr unhealthy
          cases last : lastVerdict env with
          | none =>
              rw [last] at flag
              cases flag
          | some found =>
              rw [last] at flag
              exact congrArg some flag
  · rintro ⟨⟨info, start⟩, through, seen⟩
    refine ⟨_, getServerHealthInfo_eq start, ⟨_, report_health env info, ?_⟩, ?_⟩
    · rw [status_overallHealth]
      constructor
      · intro flag
        cases last : lastVerdict env with
        | none =>
            rw [last] at flag
            cases flag
        | some found =>
            rw [last] at flag
            refine anyUnhealthy_of_lastVerdict (last.trans ?_)
            exact congrArg some flag
      · intro unhealthy
        rw [seen unhealthy]
        rfl
    · intro resType frus resource
      obtain ⟨section_, here, stands⟩ := report_section env info resource
      refine ⟨section_, here, ?_⟩
      intro fru listed data returned
      rw [stands fru listed, returned]
      exact congrArg some (kept_eq.mpr (through fru (List.mem_flatMap.mpr ⟨_, resource, listed⟩)
        data returned))

/-- An entry as the readers make them. -/
def entry (uid status : String) : Json :=
  .dict (.cons "uid" (.str uid) (.cons "health" (.dict (.cons "status" (.str status) .nil)) .nil))

/-- The disk has failed and the arrays are well. -/
def failedDisk : HealthEnv where
  serverDetails := .ok (.dict (.cons "Board Mfg" (.str "Seagate")
    (.cons "Product Name" (.str "5U84") .nil)))
  buildAttribute _ := .ok (.str "")
  cpuInfo := .ok (.list (.cons (.dict .nil) .nil))
  diskOverallUsage := .ok (.dict .nil)
  memInfo := .ok (.list (.cons (.dict .nil) .nil))
  read fru :=
    if fru = "disk" then .ok (.list (.cons (entry "/dev/sda" "Fault") .nil))
    else if fru = "raid" then .ok (.list (.cons (entry "/dev/md0" "OK") .nil))
    else .ok (.list .nil)
  fqdn := "node1"
  now := 1614000000

/-- A failed disk is read, the readers after it return nothing that is unhealthy, and the server is
reported as healthy. -/
theorem failedDisk_not_seen : AnyUnhealthy failedDisk ∧
    (∃ info, getServerHealthInfo failedDisk = .ok (.list (.cons (.dict info) .nil)) ∧
      info.lookup "health" = some (.dict (overallHealth false))) ∧ ¬ RollsUp failedDisk := by
  have unhealthy : AnyUnhealthy failedDisk := by
    refine ⟨"disk", by decide, _, rfl, entry "/dev/sda" "Fault", List.mem_cons_self, ?_⟩
    exact ⟨_, _, "Fault", rfl, rfl, rfl, by decide⟩
  have healthy : lastVerdict failedDisk = some false := by decide +kernel
  obtain ⟨start, read⟩ : ∃ start, overview failedDisk = .ok start := ⟨_, rfl⟩
  have shown := report_health failedDisk start
  rw [healthy] at shown
  refine ⟨unhealthy, ⟨_, getServerHealthInfo_eq read, shown⟩, ?_⟩
  rintro ⟨info, ran, ⟨health, here, status⟩, -⟩
  rw [getServerHealthInfo_eq read] at ran
  cases ran
  cases here.symm.trans shown
  exact absurd (status.mpr unhealthy) (by decide)

end Server

end Sspl

import Sspl.Server.Health

/-!
# The data of a group of resources

The health and manifest providers of the server and of the storage serve a request for a whole
group with the same loop over its readers. A reader that raises sets the dictionary that is being
filled to `None`, and from then on nothing can be put into it. So the data of the readers that
succeeded are there if all of them did.
-/

namespace Sspl

namespace Server

open Iem (Text strip)

section Normalize

variable (inputV : List String) (replaceV : String)

mutual

def normalizeKv : Json → Json
  | .dict fields => .dict (normalizeFields fields)
  | .list items => .list (normalizeItems items)
  | .str s => if s ∈ inputV then .str replaceV else .str s
  | value => value

def normalizeItems : Items → Items
  | .nil => .nil
  | .cons head tail => .cons (normalizeKv head) (normalizeItems tail)

def normalizeFields : Fields → Fields
  | .nil => .nil
  | .cons key value tail => .cons key (normalizeKv value) (normalizeFields tail)

end

theorem lookup_normalizeFields (key : String) : ∀ fields : Fields,
    (normalizeFields inputV replaceV fields).lookup key =
      (fields.lookup key).map (normalizeKv inputV replaceV)
  | .nil => by simp [normalizeFields, Fields.lookup]
  | .cons k value tail => by
      by_cases same : k = key
      · simp [normalizeFields, Fields.lookup, same]
      · simp [normalizeFields, Fields.lookup, same, lookup_normalizeFields key tail]

end Normalize

/-- `normalize_kv` with `HEALTH_UNDESIRED_VALS`. -/
def normalize (info : Json) : Json := normalizeKv ["NA", "N/A", ""] "Not Available" info

/-- The characters that `\w` and `\d` match. -/
structure Classes where
  word : Char → Bool
  decimal : Char → Bool

inductive DataError where
  | resourceMapError (msg : Text)
  | raised (err : PyErr)
  deriving DecidableEq

/-- `get_node_info`: the first word, and the number in brackets after it. -/
def getNodeInfo (classes : Classes) (node : Text) : Except DataError (String × Text) :=
  let start := node.dropWhile (fun c => !classes.word c)
  let name := String.ofList (start.takeWhile classes.word)
  if start = [] then .error (.raised .attributeError)
  else match start.dropWhile classes.word with
    | '[' :: rest =>
      let digits := rest.takeWhile classes.decimal
      if digits ≠ [] ∧ (rest.dropWhile classes.decimal).head? = some ']' then .ok (name, digits)
      else .ok (name, ['*'])
    | _ => .ok (name, ['*'])

/-- `rpath.strip().split(">")`. -/
def nodesOf (rpath : Text) : List Text := (strip rpath).splitOn '>'

def leafNode (classes : Classes) (rpath : Text) : Except DataError String := do
  return (← getNodeInfo classes ((nodesOf rpath).getLastD [])).1

/-- The body of the loop, on `info` and `resource_found`. `info.update` is looked up before the
reader is called, so a reader is not called once `info` is `None`. -/
def readInto (read : String → Outcome) (acc : Option Fields × Bool) (resource : String) :
    Option Fields × Bool :=
  match acc.1 with
  | none => (none, acc.2)
  | some info => match read resource with
    | .ok data => (some (info.set resource data), true)
    | .error _ => (none, acc.2)

def readGroup (read : String → Outcome) (resources : List String) (resourceFound : Bool) :
    Json × Bool :=
  let acc := resources.foldl (readInto read) (some .nil, resourceFound)
  (match acc.1 with | some info => .dict info | none => .null, acc.2)

/-- The server providers try each type that knows the resource. -/
def readTypes (types : List (String × List String)) (read : String → String → Outcome)
    (resource : String) (acc : Json × Bool) : Json × Bool :=
  types.foldl (fun acc resType =>
    if resource ∈ resType.2 then
      match read resType.1 resource with
      | .ok data => (data, true)
      | .error _ => (.null, acc.2)
    else acc) acc

/-- The storage providers note the resource as found before they read it, and stop at the first
that can be read. -/
def readFirstType (types : List (String × List String)) (read : String → String → Outcome)
    (resource : String) (acc : Json × Bool) : Json × Bool :=
  match types with
  | [] => acc
  | resType :: rest =>
    if resource ∈ resType.2 then
      match read resType.1 resource with
      | .ok data => (data, true)
      | .error _ => readFirstType rest read resource (.null, true)
    else readFirstType rest read resource acc

def readNodes (classes : Classes) (readNode : String → Json × Bool → Json × Bool) :
    List Text → Json × Bool → Except DataError (Json × Bool)
  | [], acc => .ok acc
  | node :: rest, acc => do
    let acc := readNode (← getNodeInfo classes node).1 acc
    if acc.2 then return acc else readNodes classes readNode rest acc

/-- The end of `get_data`. -/
def finish (provider : String) (rpath : Text) (result : Json × Bool) : Except DataError Json :=
  if result.2 then .ok (normalize result.1)
  else .error (.resourceMapError ("Invalid rpath or ".toList ++ provider.toList ++
    " provider doesn't have support for'".toList ++ rpath ++ "'.".toList))

/-- What the readers of a provider do: each returns its data or raises. -/
structure Readers where
  /-- All resources together, for the node of the provider itself. -/
  overall : Outcome
  read : String → Outcome
  /-- `get_server_hw_info()` of the manifest, and what is made of it for the whole server. -/
  serverHwInfo : Outcome
  serverInfo : Json → Outcome

/-- A reader that is called outside of a `try` block. -/
def called (outcome : Outcome) : Except DataError Json := outcome.mapError .raised

namespace ServerHealth

def resources : List (String × List String) := serverResources

def getData (classes : Classes) (readers : Readers) (rpath : Text) : Except DataError Json := do
  let leaf ← leafNode classes rpath
  if leaf = "server" then
    finish "health" rpath (← called readers.overall, true)
  else match resources.find? (fun resType => resType.1 = leaf) with
    | some resType => finish "health" rpath (readGroup readers.read resType.2 false)
    | none => finish "health" rpath (← readNodes classes
        (readTypes resources (fun _ => readers.read)) (nodesOf rpath) (.dict .nil, false))

end ServerHealth

namespace StorageHealth

def resources : List (String × List String) :=
  [("hw", ["controller", "psu", "platform_sensor", "sideplane_expander", "nw_port", "disk",
      "sas_port", "fan"]),
    ("fw", ["logical_volume", "disk_group"])]

def getData (classes : Classes) (readers : Readers) (rpath : Text) : Except DataError Json := do
  let leaf ← leafNode classes rpath
  if leaf = "storage" then
    finish "health" rpath (← called readers.overall, true)
  else match resources.find? (fun resType => resType.1 = leaf) with
    | some resType => finish "health" rpath (readGroup readers.read resType.2 true)
    | none => finish "health" rpath (← readNodes classes
        (readFirstType resources (fun _ => readers.read)) (nodesOf rpath) (.dict .nil, false))

end StorageHealth

namespace StorageManifest

def resources : List (String × List String) :=
  [("hw", ["enclosure", "controller", "psu", "fan", "disk", "sideplane_expander"]),
    ("fw", ["version"])]

def getData (classes : Classes) (readers : Readers) (rpath : Text) : Except DataError Json := do
  let leaf ← leafNode classes rpath
  if leaf = "storage" then
    finish "manifest" rpath (← called readers.overall, true)
  else match resources.find? (fun resType => resType.1 = leaf) with
    | some resType => finish "manifest" rpath (readGroup readers.read resType.2 true)
    | none => finish "manifest" rpath (← readNodes classes
        (readFirstType resources (fun _ => readers.read)) (nodesOf rpath) (.dict .nil, false))

end StorageManifest

namespace ServerManifest

def hwResources : List String :=
  ["memory", "disk", "storage", "system", "cpu", "nw_port", "psu", "volume", "bus", "bridge",
    "display", "input", "generic"]

def resources : List (String × List String) :=
  [("hw", hwResources), ("sw", ["os", "cortx_sw_services", "external_sw_services"]),
    ("fw", ["bmc"])]

/-- `"hw" in server_hw_data` and the resources of it, in the order of `hw_resources`. -/
def hwData (hw : Json) : List String → Fields → Except PyErr Fields
  | [], server => .ok server
  | serverType :: rest, server => do
    if ← hw.contains serverType then hwData hw rest (server.set serverType (← hw.item serverType))
    else hwData hw rest server

def getHwResourcesInfo (serverHwData : Json) (resource : String) : Outcome := do
  if resource = "hw" && (← serverHwData.contains "hw") then
    return .dict (.cons "hw" (.dict (← hwData (← serverHwData.item "hw") hwResources .nil)) .nil)
  else match ← serverHwData.item "hw" with
    | .dict hw => return (hw.lookup resource).getD (.list .nil)
    | _ => .error .attributeError

def getData (classes : Classes) (readers : Readers) (rpath : Text) : Except DataError Json := do
  let leaf ← leafNode classes rpath
  if leaf = "server" then
    finish "manifest" rpath (← called (readers.serverHwInfo >>= readers.serverInfo), true)
  else if leaf = "hw" then
    let info ← called (do (← getHwResourcesInfo (← readers.serverHwInfo) "hw").item "hw")
    finish "manifest" rpath (info, true)
  else if leaf = "sw" ∨ leaf = "fw" then
    let resType := (resources.find? (fun resType => resType.1 = leaf)).getD ("", [])
    finish "manifest" rpath (readGroup readers.read resType.2 false)
  else
    let serverHwData ← called readers.serverHwInfo
    finish "manifest" rpath (← readNodes classes (readTypes resources (fun resType resource =>
      if resType = "hw" then getHwResourcesInfo serverHwData resource else readers.read resource))
      (nodesOf rpath) (.dict .nil, false))

end ServerManifest

/-- The four providers, each with its groups of resources. -/
inductive Provider where
  | serverHealth
  | serverManifest
  | storageHealth
  | storageManifest
  deriving DecidableEq

namespace Provider

def getData (classes : Classes) (readers : Readers) (rpath : Text) :
    Provider → Except DataError Json
  | serverHealth => ServerHealth.getData classes readers rpath
  | serverManifest => ServerManifest.getData classes readers rpath
  | storageHealth => StorageHealth.getData classes readers rpath
  | storageManifest => StorageManifest.getData classes readers rpath

/-- The groups that the loop over readers serves, with their readers. The hardware of the server
manifest has one reader for all of it. -/
def groups : Provider → List (String × List String)
  | serverHealth => ServerHealth.resources
  | serverManifest => ServerManifest.resources.tail
  | storageHealth => StorageHealth.resources
  | storageManifest => StorageManifest.resources

end Provider

def Succeeds (read : String → Outcome) (resource : String) : Prop :=
  ∃ data, read resource = .ok data

def Fails (read : String → Outcome) (resource : String) : Prop := ∃ err, read resource = .error err

/-- The data of every reader that did not raise are returned; an exception is raised only where no
reader succeeded. -/
def Delivers (read : String → Outcome) (resources : List String) :
    Except DataError Json → Prop
  | .ok info => ∀ resource ∈ resources, ∀ data, read resource = .ok data →
      info.item resource = .ok (normalize data)
  | .error _ => ∀ resource ∈ resources, Fails read resource

/-- The same for the hardware of the server manifest. -/
def DeliversHw (serverHwInfo : Outcome) : Except DataError Json → Prop
  | .ok info => ∀ fields hw, serverHwInfo = .ok (.dict fields) →
      fields.lookup "hw" = some (.dict hw) → ∀ resource ∈ ServerManifest.hwResources,
        ∀ data, hw.lookup resource = some data → info.item resource = .ok (normalize data)
  | .error _ => ∀ fields hw, serverHwInfo = .ok (.dict fields) →
      fields.lookup "hw" ≠ some (.dict hw)

section Loop

variable {read : String → Outcome} {resources : List String}

theorem fails_or_succeeds (read : String → Outcome) (resource : String) :
    Fails read resource ∨ Succeeds read resource := by
  rw [Fails, Succeeds]
  cases read resource with
  | error err => exact .inl ⟨err, rfl⟩
  | ok data => exact .inr ⟨data, rfl⟩

/-- Nothing is put into `None`. -/
theorem foldl_readInto_none (resources : List String) (found : Bool) :
    resources.foldl (readInto read) (none, found) = (none, found) := by
  induction resources with
  | nil => rfl
  | cons resource rest ih => exact ih

theorem foldl_readInto_of_fails {resource : String} (mem : resource ∈ resources)
    (fails : Fails read resource) (acc : Option Fields × Bool) :
    (resources.foldl (readInto read) acc).1 = none := by
  induction resources generalizing acc with
  | nil => cases mem
  | cons first rest ih =>
      obtain ⟨info, found⟩ := acc
      rw [List.foldl_cons]
      obtain rfl | later := List.mem_cons.mp mem
      · obtain ⟨err, raised⟩ := fails
        have lost : readInto read (info, found) resource = (none, found) := by
          cases info with
          | none => rfl
          | some info => simp only [readInto, raised]
        rw [lost, foldl_readInto_none]
      · exact ih later _

theorem foldl_readInto_of_succeeds (all : ∀ resource ∈ resources, Succeeds read resource)
    (info : Fields) (found : Bool) : ∃ info',
      resources.foldl (readInto read) (some info, found) =
        (some info', found || !resources.isEmpty) ∧
      ∀ resource, info'.lookup resource =
        if resource ∈ resources then (read resource).toOption else info.lookup resource := by
  induction resources generalizing info found with
  | nil => exact ⟨info, by simp, fun resource => by simp⟩
  | cons first rest ih =>
      obtain ⟨data, here⟩ := all first List.mem_cons_self
      obtain ⟨info', ran, lookup⟩ := ih
        (fun resource mem => all resource (List.mem_cons_of_mem first mem))
        (info.set first data) true
      have step : readInto read (some info, found) first = (some (info.set first data), true) := by
        simp only [readInto, here]
      refine ⟨info', ?_, ?_⟩
      · rw [List.foldl_cons, step, ran]
        simp
      · intro resource
        rw [lookup]
        by_cases later : resource ∈ rest
        · rw [if_pos later, if_pos (List.mem_cons_of_mem first later)]
        · by_cases same : resource = first
          · subst same
            rw [if_neg later, if_pos List.mem_cons_self, Fields.lookup_set_same, here]
            rfl
          · rw [if_neg later, if_neg (by simp [same, later]),
              Fields.lookup_set_ne _ (Ne.symm same)]

/-- Where a reader fails nothing is left of the data. -/
theorem finish_readGroup_of_fails {resource : String} (mem : resource ∈ resources)
    (fails : Fails read resource) (provider : String) (rpath : Text) (found : Bool) :
    finish provider rpath (readGroup read resources found) = .ok .null ∨
      ∃ err, finish provider rpath (readGroup read resources found) = .error err := by
  have lost : readGroup read resources found =
      (.null, (resources.foldl (readInto read) (some .nil, found)).2) := by
    rw [readGroup, foldl_readInto_of_fails mem fails]
  rw [lost, finish]
  split
  · exact .inl rfl
  · exact .inr ⟨_, rfl⟩

/-- A group is delivered when its readers agree. Where one fails nothing is left of the data, and
for the storage that is no error either. -/
theorem delivers_readGroup (provider : String) (rpath : Text) (found : Bool)
    (some_ : resources ≠ []) :
    Delivers read resources (finish provider rpath (readGroup read resources found)) ↔
      (∀ resource ∈ resources, Succeeds read resource) ∨
        ∀ resource ∈ resources, Fails read resource := by
  by_cases all : ∀ resource ∈ resources, Succeeds read resource
  · refine iff_of_true ?_ (.inl all)
    obtain ⟨info, ran, lookup⟩ := foldl_readInto_of_succeeds all .nil found
    have done : finish provider rpath (readGroup read resources found) =
        .ok (normalize (.dict info)) := by
      rw [finish, readGroup, ran]
      simp [some_]
    rw [done]
    intro resource mem data returned
    have here : info.lookup resource = some data := by
      rw [lookup, if_pos mem, returned]
      rfl
    rw [normalize, normalizeKv, Json.item, lookup_normalizeFields, here]
    rfl
  · push Not at all
    obtain ⟨failing, mem, not⟩ := all
    have fails := (fails_or_succeeds read failing).resolve_right not
    constructor
    · intro delivers
      refine .inr (fun resource listed => ?_)
      obtain fails' | ⟨data, returned⟩ := fails_or_succeeds read resource
      · exact fails'
      obtain done | ⟨err, done⟩ := finish_readGroup_of_fails mem fails provider rpath found
      · rw [done] at delivers
        cases delivers resource listed data returned
      · rw [done] at delivers
        exact delivers resource listed
    · rintro (all | none)
      · exact absurd (all failing mem) not
      · obtain done | ⟨err, done⟩ := finish_readGroup_of_fails mem fails provider rpath found
        · rw [done]
          intro resource listed data returned
          obtain ⟨err, raised⟩ := none resource listed
          rw [raised] at returned
          cases returned
        · rw [done]
          exact none

end Loop

/-- The resources of the hardware that the data have are copied. -/
theorem hwData_eq (hw : Fields) (resources : List String) (server : Fields) : ∃ server',
    ServerManifest.hwData (.dict hw) resources server = .ok server' ∧
    ∀ resource, server'.lookup resource =
      if resource ∈ resources ∧ (hw.lookup resource).isSome then hw.lookup resource
      else server.lookup resource := by
  induction resources generalizing server with
  | nil => exact ⟨server, rfl, fun resource => by simp⟩
  | cons first rest ih =>
      cases here : hw.lookup first with
      | none =>
          obtain ⟨server', ran, lookup⟩ := ih server
          refine ⟨server', ?_, ?_⟩
          · rw [ServerManifest.hwData]
            simp only [Json.contains, here, Option.isSome_none]
            exact ran
          · intro resource
            rw [lookup]
            by_cases same : resource = first
            · subst same
              rw [here]
              simp
            · simp [same]
      | some data =>
          obtain ⟨server', ran, lookup⟩ := ih (server.set first data)
          refine ⟨server', ?_, ?_⟩
          · rw [ServerManifest.hwData]
            simp only [Json.contains, Json.item, here, Option.isSome_some]
            exact ran
          · intro resource
            rw [lookup]
            by_cases same : resource = first
            · subst same
              simp [here]
            · simp [same, Fields.lookup_set_ne _ (Ne.symm same)]

theorem deliversHw {classes : Classes} {readers : Readers} {rpath : Text}
    (leaf : leafNode classes rpath = .ok "hw") :
    DeliversHw readers.serverHwInfo (ServerManifest.getData classes readers rpath) := by
  have ran : ServerManifest.getData classes readers rpath =
      called (do (← ServerManifest.getHwResourcesInfo (← readers.serverHwInfo) "hw").item "hw")
        >>= fun info => finish "manifest" rpath (info, true) := by
    rw [ServerManifest.getData, leaf]
    rfl
  by_cases has : ∃ fields hw, readers.serverHwInfo = .ok (.dict fields) ∧
      fields.lookup "hw" = some (.dict hw)
  · obtain ⟨fields, hw, read, here⟩ := has
    obtain ⟨server, copied, lookup⟩ := hwData_eq hw ServerManifest.hwResources .nil
    have info : ServerManifest.getHwResourcesInfo (.dict fields) "hw" =
        .ok (.dict (.cons "hw" (.dict server) .nil)) := by
      simp only [ServerManifest.getHwResourcesInfo, Json.contains, Json.item, here]
      show (ServerManifest.hwData (.dict hw) ServerManifest.hwResources .nil >>= _) = _
      rw [copied]
      rfl
    have done : ServerManifest.getData classes readers rpath =
        .ok (normalize (.dict server)) := by
      rw [ran, read]
      show called (ServerManifest.getHwResourcesInfo (.dict fields) "hw" >>= _) >>= _ = _
      rw [info]
      rfl
    rw [done]
    intro fields' hw' read' here' resource mem data found
    cases read.symm.trans read'
    cases here.symm.trans here'
    have there : server.lookup resource = some data := by
      rw [lookup, found, if_pos ⟨mem, rfl⟩]
    rw [normalize, normalizeKv, Json.item, lookup_normalizeFields, there]
    rfl
  · cases result : ServerManifest.getData classes readers rpath with
    | ok info => exact fun fields hw read here => absurd ⟨fields, hw, read, here⟩ has
    | error err => exact fun fields hw read here => has ⟨fields, hw, read, here⟩

theorem find?_resources {types : List (String × List String)} {resType : String}
    {resources : List String} (nodup : (types.map Prod.fst).Nodup)
    (mem : (resType, resources) ∈ types) :
    types.find? (fun type => type.1 = resType) = some (resType, resources) := by
  induction types with
  | nil => cases mem
  | cons first rest ih =>
      obtain ⟨fresh, nodup⟩ := List.nodup_cons.mp nodup
      obtain rfl | later := List.mem_cons.mp mem
      · exact List.find?_cons_of_pos (by simp)
      · rw [List.find?_cons_of_neg, ih nodup later]
        rintro same
        rw [decide_eq_true_iff] at same
        exact fresh (same ▸ List.mem_map_of_mem later)

/-- Each provider reads the resources of the group that is asked for. -/
theorem getData_group (classes : Classes) (readers : Readers) (rpath : Text)
    (provider : Provider) {resType : String} {resources : List String}
    (mem : (resType, resources) ∈ provider.groups) (leaf : leafNode classes rpath = .ok resType) :
    ∃ name found, provider.getData classes readers rpath =
      finish name rpath (readGroup readers.read resources found) := by
  cases provider with
  | serverHealth =>
      have types : (resType, resources) ∈ ServerHealth.resources := mem
      have other : resType ≠ "server" := by
        have all : ∀ group ∈ ServerHealth.resources, group.1 ≠ "server" := by decide
        exact all _ types
      refine ⟨"health", false, ?_⟩
      rw [Provider.getData, ServerHealth.getData, leaf]
      show (if resType = "server" then _ else _) = _
      rw [if_neg other, find?_resources (by decide) types]
  | serverManifest =>
      have types : (resType, resources) ∈ ServerManifest.resources := List.mem_of_mem_tail mem
      have other : resType ≠ "server" ∧ resType ≠ "hw" ∧ (resType = "sw" ∨ resType = "fw") := by
        have all : ∀ group ∈ Provider.serverManifest.groups,
            group.1 ≠ "server" ∧ group.1 ≠ "hw" ∧ (group.1 = "sw" ∨ group.1 = "fw") := by decide
        exact all _ mem
      refine ⟨"manifest", false, ?_⟩
      rw [Provider.getData, ServerManifest.getData, leaf]
      show (if resType = "server" then _ else _) = _
      rw [if_neg other.1, if_neg other.2.1, if_pos other.2.2, find?_resources (by decide) types]
      rfl
  | storageHealth =>
      have types : (resType, resources) ∈ StorageHealth.resources := mem
      have other : resType ≠ "storage" := by
        have all : ∀ group ∈ StorageHealth.resources, group.1 ≠ "storage" := by decide
        exact all _ types
      refine ⟨"health", true, ?_⟩
      rw [Provider.getData, StorageHealth.getData, leaf]
      show (if resType = "storage" then _ else _) = _
      rw [if_neg other, find?_resources (by decide) types]
  | storageManifest =>
      have types : (resType, resources) ∈ StorageManifest.resources := mem
      have other : resType ≠ "storage" := by
        have all : ∀ group ∈ StorageManifest.resources, group.1 ≠ "storage" := by decide
        exact all _ types
      refine ⟨"manifest", true, ?_⟩
      rw [Provider.getData, StorageManifest.getData, leaf]
      show (if resType = "storage" then _ else _) = _
      rw [if_neg other, find?_resources (by decide) types]

theorem groups_ne_nil (provider : Provider) : ∀ group ∈ provider.groups, group.2 ≠ [] := by
  cases provider <;> decide

/-- A request for a group is answered with the data of all readers that succeeded when none of
them failed, or when all did; the hardware of the server manifest is always delivered. -/
theorem delivers_iff (classes : Classes) (readers : Readers) (rpath : Text) :
    (∀ provider : Provider, ∀ resType resources, (resType, resources) ∈ provider.groups →
      leafNode classes rpath = .ok resType →
      (Delivers readers.read resources (provider.getData classes readers rpath) ↔
        (∀ resource ∈ resources, Succeeds readers.read resource) ∨
          ∀ resource ∈ resources, Fails readers.read resource)) ∧
    (leafNode classes rpath = .ok "hw" → DeliversHw readers.serverHwInfo
      (Provider.serverManifest.getData classes readers rpath)) := by
  refine ⟨?_, deliversHw⟩
  intro provider resType resources mem leaf
  obtain ⟨name, found, served⟩ := getData_group classes readers rpath provider mem leaf
  rw [served]
  exact delivers_readGroup name rpath found (groups_ne_nil provider _ mem)

/-- The classes for texts without other characters than those of ASCII. -/
def asciiClasses : Classes where
  word c := c.isAlphanum || c == '_'
  decimal := Char.isDigit

def hwPath : Text := "node>server[0]>hw".toList

/-- The sensors of the platform cannot be read. -/
def noSensors : Readers where
  overall := .ok .null
  read resource := if resource = "platform_sensor" then .error .other else .ok (.list .nil)
  serverHwInfo := .ok (.dict (.cons "hw" (.dict (.cons "disk" (.list .nil) .nil)) .nil))
  serverInfo := .ok

/-- The other readers return their data, and the answer is `None`. -/
theorem noSensors_not_delivered : leafNode asciiClasses hwPath = .ok "hw" ∧
    Succeeds noSensors.read "cpu" ∧
    Provider.serverHealth.getData asciiClasses noSensors hwPath = .ok .null ∧
    ¬ Delivers noSensors.read ["cpu", "platform_sensor", "memory", "fan", "nw_port", "sas_hba",
      "sas_port", "disk", "psu"] (Provider.serverHealth.getData asciiClasses noSensors hwPath) := by
  have ran : Provider.serverHealth.getData asciiClasses noSensors hwPath = .ok .null := by
    decide +kernel
  refine ⟨by decide +kernel, ⟨_, rfl⟩, ran, ?_⟩
  rw [ran]
  intro delivers
  cases delivers "cpu" (by decide) (.list .nil) rfl

/-- The reader for the platform sensors fails, and no other one. -/
theorem delivers_iff_noSensors :
    ("hw", ["cpu", "platform_sensor", "memory", "fan", "nw_port", "sas_hba", "sas_port", "disk",
      "psu"]) ∈ Provider.serverHealth.groups ∧ leafNode asciiClasses hwPath = .ok "hw" ∧
    (Delivers noSensors.read ["cpu", "platform_sensor", "memory", "fan", "nw_port", "sas_hba",
        "sas_port", "disk", "psu"] (Provider.serverHealth.getData asciiClasses noSensors hwPath) ↔
      (∀ resource ∈ ["cpu", "platform_sensor", "memory", "fan", "nw_port", "sas_hba", "sas_port",
        "disk", "psu"], Succeeds noSensors.read resource) ∨
        ∀ resource ∈ ["cpu", "platform_sensor", "memory", "fan", "nw_port", "sas_hba", "sas_port",
          "disk", "psu"], Fails noSensors.read resource) ∧
    DeliversHw noSensors.serverHwInfo
      (Provider.serverManifest.getData asciiClasses noSensors hwPath) := by
  have leaf : leafNode asciiClasses hwPath = .ok "hw" := by decide +kernel
  exact ⟨by decide, leaf, (delivers_iff asciiClasses noSensors hwPath).1 .serverHealth "hw" _
    (by decide) leaf, (delivers_iff asciiClasses noSensors hwPath).2 leaf⟩

end Server

end Sspl

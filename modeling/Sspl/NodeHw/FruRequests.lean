import Sspl.Foundation.Dict
import Sspl.Iem.Message
import Sspl.Python.Text

/-!
# FRU requests to the node hardware actuator

A request for a type of FRU reads the sensors of the type one after the other into the field
`fru_specific_info` and answers from the whole field, which is emptied once the answer has been
put together. A request that fails before that leaves what it has read in the field, and the
next request that gets as far takes it for readings of its own type.

`textAsIndex` is `isdigit` together with `int`, which know the digits of all scripts.
-/

namespace Sspl

namespace NodeHw

namespace FruRequests

open Iem (Text strip)

/-- A property of a sensor: its text, or the error of a command that failed. -/
inductive Property
  | text (value : Text)
  | failed (message : Text)
  deriving DecidableEq

abbrev Properties := Dict Text Property

/-- What `get_sensor_props` returns: `False` for the common properties if the command failed. -/
structure SensorProps where
  common : Option (Dict Text Text)
  specific : Properties

/-- What the actuator answers from, without the field that its requests change. -/
structure Actuator where
  sensorIdMap : Dict Text (Dict Nat Text)
  /-- `IPMITool.is_fru`. -/
  isFru : Text → Text
  /-- The number that a text of digits stands for, or the `ValueError`. -/
  textAsIndex : Text → Option (Except PyErr Nat)

/-- A FRU request: the fourth part of `node_request` and the resource, with the readings of the
sensors, by their turn in the request, and the name of the manufacturer. -/
structure Call where
  fruNodeRequest : Text
  resource : Text
  sensorProps : Nat → Text → Except PyErr SensorProps
  manufacturer : Except PyErr Text

/-- `NODE_REQUEST_MAP`, with the names as they are in `sensor_id_map`. -/
def fruName (fruNodeRequest : Text) : Option (String × String) :=
  if fruNodeRequest = "disk".toList then some ("Drive Slot / Bay", "drive slot / bay")
  else if fruNodeRequest = "fan".toList then some ("Fan", "fan")
  else if fruNodeRequest = "psu".toList then some ("Power Supply", "power supply")
  else none

/-- The specific info of an answer. -/
inductive SpecificInfo
  | all (resources : List Properties)
  | one (properties : Properties)

/-- An answer, without host and time. -/
structure FruMessage where
  instanceId : Text
  resourceId : Text
  fru : Text
  resourceType : Text
  specificInfo : SpecificInfo

/-- `fru_specific_info`. -/
abbrev Info := Dict Text Properties

section Parse

def statesAsserted : Text := "States Asserted".toList

def resourceId : Text := "resource_id".toList

/-- `' '.join(x.strip() for x in text.split())`. -/
def normalize (text : Text) : Text :=
  List.intercalate [' '] (((text.splitOnP isSpace).filter (· ≠ [])).map strip)

/-- What becomes of the properties of a sensor in `_parse_fru_info`. -/
def tidy (sensorId : Text) (properties : Properties) : Except PyErr Properties :=
  let properties := properties.set resourceId (.text sensorId)
  match properties.get? statesAsserted with
  | some (.failed _) => .error .attributeError
  | some (.text states) =>
    .ok (if states = [] then properties
      else properties.set statesAsserted (.text (normalize states)))
  | none => .ok properties

/-- `_parse_fru_info`, without the statement that empties the field. -/
def parseFruInfo (fru : String) (manufacturer : Except PyErr Text) (info : Info) :
    Except PyErr (List Properties) :=
  if info.items = [] then do
    let name ← manufacturer
    return [Dict.empty.set "ERROR".toList
      (.text (quote :: fru.toList ++ quote :: " sensors not seen in ".toList ++ name ++
        " node server".toList))]
  else info.items.mapM fun item => tidy item.1 item.2

end Parse

section Request

/-- The loop of `_get_fru_instances` over the sensors of the type. -/
def readSensors (props : Nat → Text → Except PyErr SensorProps) :
    Nat → List Text → Info → Info × Option PyErr
  | _, [], info => (info, none)
  | turn, sensorId :: rest, info =>
    if sensorId = [] then readSensors props turn rest info
    else
      match props turn sensorId with
      | .error e => (info, some e)
      | .ok read => readSensors props (turn + 1) rest (info.set sensorId read.specific)

/-- `_create_node_fru_json_message`. -/
def createNodeFruJsonMessage (a : Actuator) (fruNodeRequest : Text) (specifics : SpecificInfo)
    (resource : Text) : FruMessage where
  instanceId := resource
  resourceId := resource
  fru := a.isFru fruNodeRequest
  resourceType := "node:hw:".toList ++ fruNodeRequest
  specificInfo := specifics

/-- What is answered once the resources are known. -/
def answer (a : Actuator) (call : Call) (resources : List Properties) : Option FruMessage :=
  if call.resource = ['*'] then
    some (createNodeFruJsonMessage a call.fruNodeRequest (.all resources) call.resource)
  else
    (resources.find? fun resource =>
        decide (resource.get? resourceId = some (.text call.resource))).map fun resource =>
      createNodeFruJsonMessage a call.fruNodeRequest (.one resource) call.resource

/-- The sensors of the requested type, if the type is known. -/
def sensorsOf (a : Actuator) (fruNodeRequest : Text) : Option (List Text) :=
  (fruName fruNodeRequest).bind fun name =>
    (a.sensorIdMap.get? name.2.toList).map fun fruDict => fruDict.items.map Prod.snd

/-- `_get_fru_instances`: the answer and the field as it is left. -/
def getFruInstances (a : Actuator) (call : Call) (info : Info) : Option FruMessage × Info :=
  match fruName call.fruNodeRequest, sensorsOf a call.fruNodeRequest with
  | some name, some sensors =>
    match readSensors call.sensorProps 0 sensors info with
    | (info, some _) => (none, info)
    | (info, none) =>
      match parseFruInfo name.1 call.manufacturer info with
      | .error _ => (none, info)
      | .ok resources => (answer a call resources, .empty)
  | _, _ => (none, info)

/-- `fru+" #"+common['Sensor ID'].split('(')[1][:-1]`. -/
def fruId (fru : String) (common : Option (Dict Text Text)) : Except PyErr Text :=
  match common with
  | none => .error .typeError
  | some common =>
    match common.get? "Sensor ID".toList with
    | none => .error .keyError
    | some sensorId =>
      match (sensorId.splitOn '(')[1]? with
      | none => .error .other
      | some number => .ok (fru.toList ++ " #".toList ++ number.dropLast)

/-- `_process_fru_request` for a resource that is a number. -/
def processNumber (a : Actuator) (call : Call) (index : Except PyErr Nat) :
    Except PyErr FruMessage := do
  let index ← index
  let some name := fruName call.fruNodeRequest | throw .attributeError
  let some fruDict := a.sensorIdMap.get? name.2.toList | throw .typeError
  let some sensorId := fruDict.get? index | throw .keyError
  let read ← call.sensorProps 0 sensorId
  let id ← fruId name.1 read.common
  return { createNodeFruJsonMessage a call.fruNodeRequest
      (.one (read.specific.set "fru_id".toList (.text id))) sensorId with
    instanceId := call.resource }

/-- `_process_fru_request`. -/
def processFruRequest (a : Actuator) (call : Call) (info : Info) :
    Except PyErr (Option FruMessage) × Info :=
  match a.textAsIndex call.resource with
  | some index => ((processNumber a call index).map some, info)
  | none => ((.ok (getFruInstances a call info).1), (getFruInstances a call info).2)

end Request

section Histories

variable (a : Actuator)

/-- The field after the requests, from the actuator as it is made. -/
def after (history : List Call) : Info :=
  history.foldl (fun info call => (processFruRequest a call info).2) .empty

def response (history : List Call) (call : Call) : Except PyErr (Option FruMessage) :=
  (processFruRequest a call (after a history)).1

/-- What a request reads of its sensors, and how the reading ends. -/
def readOut (props : Nat → Text → Except PyErr SensorProps) :
    Nat → List Text → List (Text × Properties) × Option PyErr
  | _, [] => ([], none)
  | turn, sensorId :: rest =>
    if sensorId = [] then readOut props turn rest
    else
      match props turn sensorId with
      | .error e => ([], some e)
      | .ok read =>
        ((sensorId, read.specific) :: (readOut props (turn + 1) rest).1,
          (readOut props (turn + 1) rest).2)

/-- The request is not for a number, and reads these sensors to the end. -/
structure ReadsAll (call : Call) (fru : String) (own : List (Text × Properties)) : Prop where
  noNumber : a.textAsIndex call.resource = none
  fruName : ∃ key, fruName call.fruNodeRequest = some (fru, key)
  sensors : ∃ sensors, sensorsOf a call.fruNodeRequest = some sensors ∧
    readOut call.sensorProps 0 sensors = (own, none)

/-- The answer can be put together. -/
def Parses (fru : String) (call : Call) (info : Info) : Prop :=
  ∃ resources, parseFruInfo fru call.manufacturer info = .ok resources

/-- A request that reads its sensors to the end overwrites in place all that is left of earlier
ones, or the answer cannot be put together in any case. A request for one sensor finds it only
if it reads it. -/
def Undisturbed (history : List Call) (call : Call) : Prop :=
  ∀ fru own, ReadsAll a call fru own →
    if call.resource = ['*'] then
      (after a history).update own = Dict.empty.update own ∨
        ¬ Parses fru call ((after a history).update own) ∧
          ¬ Parses fru call (Dict.empty.update own)
    else
      (Parses fru call ((after a history).update own) ∧
          call.resource ∈ ((after a history).update own).keys ↔
        Parses fru call (Dict.empty.update own) ∧ call.resource ∈ (Dict.empty.update own).keys)

/-- The answer tells of sensors of the requested type only, and not of those of an earlier
request. -/
def OfType (call : Call) (m : FruMessage) : Prop :=
  ∃ sensors, sensorsOf a call.fruNodeRequest = some sensors ∧
    match m.specificInfo with
    | .all resources => ∀ resource ∈ resources, ∀ id,
      resource.get? resourceId = some (.text id) → id ∈ sensors
    | .one _ => m.resourceId ∈ sensors

end Histories

section Resources

variable {fru : String} {manufacturer : Except PyErr Text} {info : Info}
  {resources : List Properties}

theorem mapM_eq_ok {α β : Type} {f : α → Except PyErr β} {items : List α} {results : List β} :
    items.mapM f = .ok results ↔ List.Forall₂ (fun item r => f item = .ok r) items results := by
  induction items generalizing results with
  | nil =>
      rw [List.mapM_nil, List.forall₂_nil_left_iff]
      constructor
      · intro same
        cases same
        rfl
      · rintro rfl
        rfl
  | cons item rest ih =>
      rw [List.mapM_cons, bind_eq_ok, List.forall₂_cons_left_iff]
      constructor
      · rintro ⟨r, first, run⟩
        obtain ⟨later, tail, same⟩ := bind_eq_ok.mp run
        cases same
        exact ⟨r, later, first, ih.mp tail, rfl⟩
      · rintro ⟨r, later, first, tail, rfl⟩
        exact ⟨r, first, bind_eq_ok.mpr ⟨later, ih.mpr tail, rfl⟩⟩

/-- The id of the sensor stays in its properties. -/
theorem tidy_resourceId {sensorId : Text} {properties tidied : Properties}
    (ok : tidy sensorId properties = .ok tidied) :
    tidied.get? resourceId = some (.text sensorId) := by
  have other : resourceId ≠ statesAsserted := by decide
  rw [tidy] at ok
  split at ok
  · cases ok
  · cases ok
    split
    · rw [Dict.get?_set_self]
    · rw [Dict.get?_set_of_ne _ _ other, Dict.get?_set_self]
  · cases ok
    rw [Dict.get?_set_self]

/-- The resources of an answer: one that is an error, or one for each sensor. -/
theorem parseFruInfo_ok (ok : parseFruInfo fru manufacturer info = .ok resources) :
    info.items = [] ∧ (∃ error, resources = [error] ∧ error.get? resourceId = none) ∨
      info.items ≠ [] ∧
        List.Forall₂ (fun item r => tidy item.1 item.2 = .ok r) info.items resources := by
  rw [parseFruInfo] at ok
  split at ok
  · obtain ⟨name, -, same⟩ := bind_eq_ok.mp ok
    cases same
    refine .inl ⟨‹_›, _, rfl, ?_⟩
    rw [Dict.get?_set_of_ne _ _ (by decide), Dict.get?_empty]
  · exact .inr ⟨‹_›, mapM_eq_ok.mp ok⟩

theorem resourceIds_of_parse (ok : parseFruInfo fru manufacturer info = .ok resources) :
    resources.map (Dict.get? · resourceId) =
      if info.items = [] then [none] else info.keys.map fun id => some (.text id) := by
  obtain ⟨empty, error, rfl, none⟩ | ⟨some_, told⟩ := parseFruInfo_ok ok
  · rw [if_pos empty, List.map_singleton, none]
  · rw [if_neg some_, Dict.keys]
    clear ok
    generalize info.items = items at told
    induction told with
    | nil => rfl
    | cons first _ ih =>
        rw [List.map_cons, tidy_resourceId first, ih]
        rfl

/-- The resource of a sensor is the one made of its properties. -/
theorem find?_of_parse (ok : parseFruInfo fru manufacturer info = .ok resources) (id : Text) :
    (resources.find? fun resource => decide (resource.get? resourceId = some (.text id))) =
      (info.get? id).bind fun properties => (tidy id properties).toOption := by
  obtain ⟨empty, error, rfl, none⟩ | ⟨-, told⟩ := parseFruInfo_ok ok
  · rw [List.find?_cons, none, Dict.get?, empty]
    rfl
  · rw [Dict.get?]
    clear ok
    generalize info.items = items at told
    induction told with
    | nil => rfl
    | cons first _ ih =>
        rename_i item r items rest _
        rw [List.find?_cons, tidy_resourceId first, Dict.getItems]
        by_cases own : item.1 = id
        · subst own
          rw [if_pos rfl, Option.bind_some, first]
          simp [Except.toOption]
        · rw [if_neg own, ← ih]
          simp [own]

end Resources

section Answers

variable {a : Actuator} {call : Call} {fru : String} {own : List (Text × Properties)} {info : Info}

/-- What a request answers from the field, once its sensors are read. -/
def answerOf (a : Actuator) (call : Call) (fru : String) (info : Info) : Option FruMessage :=
  match parseFruInfo fru call.manufacturer info with
  | .error _ => none
  | .ok resources => answer a call resources

theorem readSensors_eq (props : Nat → Text → Except PyErr SensorProps) (turn : Nat)
    (sensors : List Text) (info : Info) :
    readSensors props turn sensors info =
      (info.update (readOut props turn sensors).1, (readOut props turn sensors).2) := by
  induction sensors generalizing turn info with
  | nil => rfl
  | cons sensorId rest ih =>
      rw [readSensors, readOut]
      split
      · exact ih turn info
      · cases props turn sensorId with
        | error e => rfl
        | ok read => exact ih (turn + 1) _

theorem mem_of_readOut {props : Nat → Text → Except PyErr SensorProps} {turn : Nat}
    {sensors : List Text} {id : Text}
    (mem : id ∈ (readOut props turn sensors).1.map Prod.fst) : id ∈ sensors := by
  induction sensors generalizing turn with
  | nil => cases mem
  | cons sensorId rest ih =>
      rw [readOut] at mem
      split at mem
      · exact List.mem_cons_of_mem _ (ih mem)
      · cases read : props turn sensorId with
        | error e =>
            rw [read] at mem
            cases mem
        | ok r =>
            rw [read] at mem
            obtain same | later := List.mem_cons.mp mem
            · exact same ▸ List.mem_cons_self
            · exact List.mem_cons_of_mem _ (ih later)

/-- A request that reads its sensors to the end answers from the field with its readings. -/
theorem response_readsAll (reads : ReadsAll a call fru own) (info : Info) :
    (processFruRequest a call info).1 = .ok (answerOf a call fru (info.update own)) := by
  obtain ⟨noNumber, ⟨key, name⟩, sensors, known, out⟩ := reads
  rw [processFruRequest, noNumber]
  simp only [getFruInstances, name, known, readSensors_eq, out, answerOf]
  cases parseFruInfo fru call.manufacturer (info.update own) <;> rfl

theorem processNumber_ofType {index : Except PyErr Nat} {m : FruMessage}
    (ok : processNumber a call index = .ok m) : OfType a call m := by
  obtain ⟨index, -, run⟩ := bind_eq_ok.mp ok
  cases name : fruName call.fruNodeRequest with
  | none =>
      rw [name] at run
      cases run
  | some fru =>
      cases known : a.sensorIdMap.get? fru.2.toList with
      | none =>
          simp only [name, known] at run
          cases run
      | some fruDict =>
          cases found : fruDict.get? index with
          | none =>
              simp only [name, known, found] at run
              cases run
          | some sensorId =>
              simp only [name, known, found] at run
              obtain ⟨read, -, run⟩ := bind_eq_ok.mp run
              obtain ⟨id, -, run⟩ := bind_eq_ok.mp run
              cases run
              refine ⟨fruDict.items.map Prod.snd, ?_, ?_⟩
              · simp only [sensorsOf, name, Option.bind_some, known, Option.map_some]
              · exact List.mem_map.mpr ⟨_, Dict.mem_items.mpr found, rfl⟩

/-- Every other request answers without the field, and of sensors of the requested type. -/
theorem response_other (other : ∀ fru own, ¬ ReadsAll a call fru own) :
    ∃ r, (∀ info, (processFruRequest a call info).1 = r) ∧
      ∀ m, r = .ok (some m) → OfType a call m := by
  cases number : a.textAsIndex call.resource with
  | some index =>
      refine ⟨(processNumber a call index).map some, fun info => ?_, fun m ok => ?_⟩
      · rw [processFruRequest, number]
      · cases run : processNumber a call index with
        | error e =>
            rw [run] at ok
            cases ok
        | ok m' =>
            rw [run] at ok
            cases ok
            exact processNumber_ofType run
  | none =>
      refine ⟨.ok none, fun info => ?_, fun m ok => by cases ok⟩
      rw [processFruRequest, number]
      cases name : fruName call.fruNodeRequest with
      | none => simp only [getFruInstances, name]
      | some fru =>
          cases known : sensorsOf a call.fruNodeRequest with
          | none => simp only [getFruInstances, name, known]
          | some sensors =>
              cases out : readOut call.sensorProps 0 sensors with
              | mk own ended =>
                  cases ended with
                  | none => exact absurd ⟨number, ⟨_, name⟩, sensors, known, out⟩ (other fru.1 own)
                  | some e => simp only [getFruInstances, name, known, readSensors_eq, out]

theorem answerOf_parsed {resources : List Properties}
    (ok : parseFruInfo fru call.manufacturer info = .ok resources) :
    answerOf a call fru info = answer a call resources := by
  rw [answerOf, ok]

theorem answerOf_unparsed (not_ : ¬ Parses fru call info) : answerOf a call fru info = none := by
  cases parsed : parseFruInfo fru call.manufacturer info with
  | error e => rw [answerOf, parsed]
  | ok resources => exact absurd ⟨resources, parsed⟩ not_

theorem answer_all (all : call.resource = ['*']) (resources : List Properties) :
    answer a call resources =
      some (createNodeFruJsonMessage a call.fruNodeRequest (.all resources) call.resource) :=
  if_pos all

/-- Where the resources are the same, the sensors are. -/
theorem keys_of_parse {manufacturer : Except PyErr Text} {first second : Info}
    {resources : List Properties} (left : parseFruInfo fru manufacturer first = .ok resources)
    (right : parseFruInfo fru manufacturer second = .ok resources) : first.keys = second.keys := by
  have same := (resourceIds_of_parse left).symm.trans (resourceIds_of_parse right)
  have text : Function.Injective fun id : Text => some (Property.text id) := by
    intro id id' same
    cases same
    rfl
  by_cases empty : first.items = [] <;> by_cases empty' : second.items = []
  · rw [Dict.keys, Dict.keys, empty, empty']
  · rw [if_pos empty, if_neg empty'] at same
    cases keys : second.keys <;> simp [keys] at same
  · rw [if_neg empty, if_pos empty'] at same
    cases keys : first.keys <;> simp [keys] at same
  · rw [if_neg empty, if_neg empty'] at same
    exact text.list_map same

/-- The readings of a request are all there is for it to find. -/
theorem mem_own {id : Text} (mem : id ∈ (Dict.empty.update own : Info).keys) :
    id ∈ own.map Prod.fst := by
  obtain none | mem := Dict.mem_keys_update.mp mem
  · cases none
  · exact mem

theorem update_eq_of_keys {left : Info}
    (keys : (left.update own).keys = (Dict.empty.update own : Info).keys) :
    left.update own = Dict.empty.update own := by
  refine Dict.ext_keys keys fun id => ?_
  by_cases mem : id ∈ own.map Prod.fst
  · exact Dict.get?_update_congr _ _ mem
  · have fresh : ∀ info : Info, info.keys = (Dict.empty.update own : Info).keys →
        info.get? id = none := by
      intro info same
      by_contra some_
      obtain ⟨properties, found⟩ := Option.ne_none_iff_exists'.mp some_
      exact mem (mem_own (same ▸ Dict.mem_keys.mpr ⟨properties, found⟩))
    rw [fresh _ keys, fresh _ rfl]

theorem answerOf_all_iff (all : call.resource = ['*']) (left : Info) :
    answerOf a call fru (left.update own) = answerOf a call fru (Dict.empty.update own) ↔
      left.update own = Dict.empty.update own ∨
        ¬ Parses fru call (left.update own) ∧ ¬ Parses fru call (Dict.empty.update own) := by
  constructor
  · intro same
    by_cases first : Parses fru call (left.update own) <;>
      by_cases second : Parses fru call (Dict.empty.update own)
    · obtain ⟨resources, ok⟩ := first
      obtain ⟨resources', ok'⟩ := second
      rw [answerOf_parsed ok, answerOf_parsed ok', answer_all all, answer_all all] at same
      cases same
      exact .inl (update_eq_of_keys (keys_of_parse ok ok'))
    · obtain ⟨resources, ok⟩ := first
      rw [answerOf_parsed ok, answerOf_unparsed second, answer_all all] at same
      cases same
    · obtain ⟨resources, ok⟩ := second
      rw [answerOf_parsed ok, answerOf_unparsed first, answer_all all] at same
      cases same
    · exact .inr ⟨first, second⟩
  · rintro (same | ⟨first, second⟩)
    · rw [same]
    · rw [answerOf_unparsed first, answerOf_unparsed second]

/-- The answer for one sensor, from its properties. -/
theorem answerOf_one (one : call.resource ≠ ['*']) (parses : Parses fru call info) :
    answerOf a call fru info = ((info.get? call.resource).bind fun properties =>
      (tidy call.resource properties).toOption).map fun resource =>
        createNodeFruJsonMessage a call.fruNodeRequest (.one resource) call.resource := by
  obtain ⟨resources, ok⟩ := parses
  rw [answerOf_parsed ok, answer, if_neg one, find?_of_parse ok]

theorem answerOf_isSome (one : call.resource ≠ ['*']) :
    (answerOf a call fru info).isSome ↔ Parses fru call info ∧ call.resource ∈ info.keys := by
  by_cases parses : Parses fru call info
  · obtain ⟨resources, ok⟩ := parses
    have ids := resourceIds_of_parse ok
    rw [answerOf_parsed ok, answer, if_neg one, Option.isSome_map, List.find?_isSome]
    have found : (∃ resource ∈ resources,
        resource.get? resourceId = some (.text call.resource)) ↔
        some (Property.text call.resource) ∈ resources.map (Dict.get? · resourceId) := by
      rw [List.mem_map]
    simp only [decide_eq_true_eq, found, ids]
    refine ⟨fun mem => ⟨⟨resources, ok⟩, ?_⟩, fun both => ?_⟩
    · split at mem
      · cases List.mem_singleton.mp mem
      · obtain ⟨id, mem, same⟩ := List.mem_map.mp mem
        cases same
        exact mem
    · have some_ : info.items ≠ [] := by
        intro empty
        have mem := both.2
        rw [Dict.keys, empty] at mem
        cases mem
      rw [if_neg some_]
      exact List.mem_map.mpr ⟨_, both.2, rfl⟩
  · rw [answerOf_unparsed parses]
    exact iff_of_false (by simp) (fun both => parses both.1)

theorem answerOf_one_iff (one : call.resource ≠ ['*']) (left : Info) :
    answerOf a call fru (left.update own) = answerOf a call fru (Dict.empty.update own) ↔
      (Parses fru call (left.update own) ∧ call.resource ∈ (left.update own).keys ↔
        Parses fru call (Dict.empty.update own) ∧
          call.resource ∈ (Dict.empty.update own : Info).keys) := by
  rw [← answerOf_isSome (a := a) one, ← answerOf_isSome (a := a) one]
  constructor
  · exact fun same => by rw [same]
  · intro same
    by_cases found : (answerOf a call fru (Dict.empty.update own)).isSome
    · have first := (answerOf_isSome one).mp (same.mpr found)
      have second := (answerOf_isSome one).mp found
      rw [answerOf_one one first.1, answerOf_one one second.1,
        Dict.get?_update_congr left .empty (mem_own second.2)]
    · rw [Option.not_isSome_iff_eq_none.mp found,
        Option.not_isSome_iff_eq_none.mp (mt same.mp found)]

theorem ReadsAll.unique {fru' : String} {own' : List (Text × Properties)}
    (first : ReadsAll a call fru own) (second : ReadsAll a call fru' own') :
    fru' = fru ∧ own' = own := by
  obtain ⟨-, ⟨key, name⟩, sensors, known, out⟩ := first
  obtain ⟨-, ⟨key', name'⟩, sensors', known', out'⟩ := second
  cases name.symm.trans name'
  cases known.symm.trans known'
  cases out.symm.trans out'
  exact ⟨rfl, rfl⟩

/-- An answer from the readings of the request alone is of the requested type. -/
theorem answerOf_ofType (reads : ReadsAll a call fru own) {m : FruMessage}
    (answered : answerOf a call fru (Dict.empty.update own) = some m) : OfType a call m := by
  obtain ⟨-, -, sensors, known, out⟩ := reads
  have sensor : ∀ id ∈ (Dict.empty.update own : Info).keys, id ∈ sensors := by
    intro id mem
    have mem := mem_own mem
    rw [← show (readOut call.sensorProps 0 sensors).1 = own by rw [out]] at mem
    exact mem_of_readOut mem
  refine ⟨sensors, known, ?_⟩
  by_cases all : call.resource = ['*']
  · cases parsed : parseFruInfo fru call.manufacturer (Dict.empty.update own) with
    | error e =>
        rw [answerOf, parsed] at answered
        cases answered
    | ok resources =>
        rw [answerOf_parsed parsed, answer_all all] at answered
        cases answered
        intro resource mem id named
        have listed : some (Property.text id) ∈ resources.map (Dict.get? · resourceId) :=
          List.mem_map.mpr ⟨resource, mem, named⟩
        rw [resourceIds_of_parse parsed] at listed
        split at listed
        · cases List.mem_singleton.mp listed
        · obtain ⟨id', mem', same⟩ := List.mem_map.mp listed
          cases same
          exact sensor id mem'
  · have found := (answerOf_isSome all).mp (by rw [answered]; rfl)
    rw [answerOf_one all found.1] at answered
    obtain ⟨resource, -, rfl⟩ := Option.map_eq_some_iff.mp answered
    exact sensor _ found.2

theorem response_eq_fresh_iff (a : Actuator) (history : List Call) (call : Call) :
    response a history call = response a [] call ↔ Undisturbed a history call := by
  by_cases reads : ∃ fru own, ReadsAll a call fru own
  · obtain ⟨fru, own, reads⟩ := reads
    have only : Undisturbed a history call ↔
        (if call.resource = ['*'] then _ else _ : Prop) :=
      ⟨fun undisturbed => undisturbed fru own reads, fun now fru' own' reads' => by
        obtain ⟨rfl, rfl⟩ := reads.unique reads'
        exact now⟩
    rw [only, response, response, response_readsAll reads, response_readsAll reads,
      Except.ok.injEq]
    show answerOf a call fru _ = answerOf a call fru (Dict.empty.update own) ↔ _
    split
    · exact answerOf_all_iff ‹_› _
    · exact answerOf_one_iff ‹_› _
  · have none : ∀ fru own, ¬ ReadsAll a call fru own := fun fru own found => reads ⟨fru, own, found⟩
    obtain ⟨r, same, -⟩ := response_other none
    refine iff_of_true ?_ fun fru own found => absurd found (none fru own)
    rw [response, response, same, same]

theorem response_fresh_ofType (a : Actuator) (call : Call) {m : FruMessage}
    (answered : response a [] call = .ok (some m)) : OfType a call m := by
  by_cases reads : ∃ fru own, ReadsAll a call fru own
  · obtain ⟨fru, own, reads⟩ := reads
    rw [response, response_readsAll reads, Except.ok.injEq] at answered
    exact answerOf_ofType reads answered
  · obtain ⟨r, same, typed⟩ :=
      response_other fun fru own found => reads ⟨fru, own, found⟩
    rw [response, same] at answered
    exact typed m answered

end Answers

/-- The final response is the same as after every other undisturbed history of requests, and it
lists sensors of the requested type only, if and only if the history is undisturbed. -/
theorem response_independent_iff (a : Actuator) (history : List Call) (call : Call) :
    ((∀ other, Undisturbed a other call → response a history call = response a other call) ∧
      ∀ m, response a history call = .ok (some m) → OfType a call m) ↔
      Undisturbed a history call := by
  constructor
  · rintro ⟨same, -⟩
    refine (response_eq_fresh_iff a history call).mp (same [] ?_)
    exact (response_eq_fresh_iff a [] call).mp rfl
  · intro undisturbed
    have fresh := (response_eq_fresh_iff a history call).mpr undisturbed
    refine ⟨fun other clean => ?_, fun m answered => ?_⟩
    · rw [fresh, (response_eq_fresh_iff a other call).mpr clean]
    · exact response_fresh_ofType a call (fresh.symm.trans answered)

namespace Example

/-- Two fans and one power supply. -/
def node : Actuator where
  sensorIdMap := (Dict.empty.set "fan".toList ((Dict.empty.set 0 ['f']).set 1 ['g'])).set
    "power supply".toList (Dict.empty.set 0 ['p'])
  isFru _ := "true:hot_swappable".toList
  textAsIndex _ := none

/-- All sensors of a type, of which the second one cannot be read. -/
def fans : Call where
  fruNodeRequest := "fan".toList
  resource := ['*']
  sensorProps turn _ := if turn = 0 then .ok ⟨none, .empty⟩ else .error .valueError
  manufacturer := .ok []

def psus : Call := { fans with fruNodeRequest := "psu".toList }

/-- The number of resources in an answer. -/
def count : Except PyErr (Option FruMessage) → Nat
  | .ok (some m) => match m.specificInfo with
    | .all resources => resources.length
    | .one _ => 1
  | _ => 0

/-- After a request for the fans that failed, a fan is among the power supplies. -/
theorem response_depends_on_history :
    ¬ ∀ first second, response node first psus = response node second psus := by
  intro same
  have counts := congrArg count (same [fans] [])
  exact absurd counts (by decide)

end Example

end FruRequests

end NodeHw

end Sspl

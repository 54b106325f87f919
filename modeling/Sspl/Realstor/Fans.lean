import Mathlib.Data.List.Forall2
import Sspl.Foundation.Dict

/-!
# The fans of a fan module

The fan sensor and the actuator both tell the fans of a module, each by its attributes. Both
collect the attributes of a fan in a dictionary that is made before the loop over the fans
and appended to the list once for each fan, so all entries of the list are this one
dictionary, with what all the fans together have left in it.
-/

namespace Sspl

namespace Realstor

namespace Fans

variable {ν : Type}

/-- A fan module: its list of fans, if it has one, and its other items, which are passed on as they
are. -/
structure FanModule (ν : Type) where
  fan : Option (List (Dict String ν))
  items : Dict String ν

/-- `fan_attribute_list`. -/
def fanAttributeList : List String :=
  ["status", "name", "speed", "durable-id", "health", "fw-revision", "health-reason",
    "serial-number", "location", "position", "part-number", "health-recommendation",
    "hw-revision", "locator-led"]

/-- `fan_module_info_key_list`. -/
def fanModuleInfoKeyList : List String :=
  ["name", "location", "status", "health", "health-reason", "health-recommendation",
    "enclosure-id", "durable-id", "position"]

/-- The fan restricted to the attributes. -/
def restrict (fan : Dict String ν) : Dict String ν :=
  fan.filterKeys fun key => decide (key ∈ fanAttributeList)

/-- The local variables of the loop. Every entry of `fan_list` is the object `fans`, so the list
is known by its length. -/
structure Loop (ν : Type) where
  fans : Dict String ν
  fanList : Nat

/-- One turn: the attributes of the fan are set in `fans`, which is appended. -/
def turn (loop : Loop ν) (fan : Dict String ν) : Loop ν where
  fans := loop.fans.update (restrict fan).items
  fanList := loop.fanList + 1

/-- The loop over the fans, and what is in the list after it. -/
def collect (fruFans : List (Dict String ν)) : List (Dict String ν) :=
  let loop := fruFans.foldl turn ⟨.empty, 0⟩
  List.replicate loop.fanList loop.fans

/-- `RealStorFanSensor._get_fan_attributes`. -/
def getFanAttributes (fanModule : FanModule ν) : List (Dict String ν) :=
  collect (fanModule.fan.getD [])

/-- A value of the dictionary that the actuator makes of a fan module. -/
inductive Info (ν : Type)
  | item (value : ν)
  | fans (list : List (Dict String ν))

/-- `RealStorActuator._parse_fan_module_info`. -/
def parseFanModuleInfo (fanModule : FanModule ν) : Dict String (Info ν) :=
  let items := fanModule.items.filterKeys fun key => decide (key ∈ fanModuleInfoKeyList)
  let info := Dict.empty.update (items.items.map fun item => (item.1, Info.item item.2))
  info.set "fans" (.fans (collect (fanModule.fan.getD [])))

/-- The sensor tells every fan by its own attributes, in the order of the module, and the actuator
tells the same list. -/
def Told (fanModule : FanModule ν) : Prop :=
  List.Forall₂ Dict.Same (getFanAttributes fanModule) ((fanModule.fan.getD []).map restrict) ∧
    (parseFanModuleInfo fanModule).get? "fans" = some (.fans (getFanAttributes fanModule))

/-- The fans do not differ in any attribute of the list. -/
def Alike (fans : List (Dict String ν)) : Prop :=
  ∀ fan ∈ fans, ∀ other ∈ fans, (restrict fan).Same (restrict other)

variable {fans : List (Dict String ν)}

theorem foldl_fanList (fans : List (Dict String ν)) (loop : Loop ν) :
    (fans.foldl turn loop).fanList = loop.fanList + fans.length := by
  induction fans generalizing loop with
  | nil => rfl
  | cons fan rest ih =>
      have step : (turn loop fan).fanList = loop.fanList + 1 := rfl
      rw [List.foldl_cons, ih, step, List.length_cons]
      omega

/-- What fans that are all alike leave in the dictionary. -/
theorem foldl_fans {fan : Dict String ν} (loop : Loop ν)
    (alike : ∀ other ∈ fans, (restrict other).Same (restrict fan)) (k : String) :
    (fans.foldl turn loop).fans.get? k =
      if fans = [] then loop.fans.get? k else ((restrict fan).get? k).or (loop.fans.get? k) := by
  induction fans generalizing loop with
  | nil => rfl
  | cons first rest ih =>
      have step : (turn loop first).fans.get? k =
          ((restrict fan).get? k).or (loop.fans.get? k) := by
        rw [turn, Dict.get?_update_dict, alike first List.mem_cons_self k]
      rw [List.foldl_cons, ih _ fun other mem => alike other (List.mem_cons_of_mem _ mem), step,
        if_neg (List.cons_ne_nil _ _)]
      split
      · rfl
      · rw [← Option.or_assoc, Option.or_self]

theorem collect_length (fans : List (Dict String ν)) : (collect fans).length = fans.length := by
  rw [collect, List.length_replicate, foldl_fanList, Nat.zero_add]

/-- Two fans that the list tells by their own attributes are alike, as both entries are one
object. -/
theorem alike_of_forall₂
    (told : List.Forall₂ Dict.Same (collect fans) (fans.map restrict)) : Alike fans := by
  have entry : ∀ fan ∈ fans, (fans.foldl turn ⟨.empty, 0⟩).fans.Same (restrict fan) := by
    intro fan mem
    obtain ⟨i, bound, rfl⟩ := List.mem_iff_getElem.mp mem
    have same := told.get (i := i) (by rwa [collect_length]) (by rwa [List.length_map])
    simpa [collect] using same
  exact fun fan mem other mem' => (entry fan mem).symm.trans (entry other mem')

theorem forall₂_of_alike (alike : Alike fans) :
    List.Forall₂ Dict.Same (collect fans) (fans.map restrict) := by
  refine List.forall₂_iff_get.mpr ⟨by rw [collect_length, List.length_map], ?_⟩
  intro i bound bound' k
  rw [List.length_map] at bound'
  have mem : fans[i] ∈ fans := List.getElem_mem bound'
  have final := foldl_fans ⟨.empty, 0⟩ (fun other mem' => alike other mem' _ mem) k
  rw [if_neg (List.ne_nil_of_mem mem), Dict.get?_empty, Option.or_none] at final
  simpa [collect] using final

/-- The lists tell every fan by its own attributes if and only if the fans do not differ in any
of them; the two lists are always the same. -/
theorem fans_told_iff (fanModule : FanModule ν) :
    Told fanModule ↔ Alike (fanModule.fan.getD []) := by
  have copies : (parseFanModuleInfo fanModule).get? "fans" =
      some (.fans (getFanAttributes fanModule)) := Dict.get?_set_self _ _ _
  constructor
  · exact fun told => alike_of_forall₂ told.1
  · exact fun alike => ⟨forall₂_of_alike alike, copies⟩

namespace Example

/-- Two fans of different names. -/
def twoFans : FanModule String where
  fan := some [Dict.empty.set "name" "Fan 0", Dict.empty.set "name" "Fan 1"]
  items := .empty

/-- Both entries name the second fan. -/
theorem fans_mistold : ¬ Told twoFans := by
  rintro ⟨told, -⟩
  have first := (List.forall₂_cons.mp told).1 "name"
  exact absurd first (by decide)

end Example

end Fans

end Realstor

end Sspl

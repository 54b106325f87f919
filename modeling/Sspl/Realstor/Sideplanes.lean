import Sspl.Foundation.Latest
import Sspl.Iem.Message
import Sspl.Realstor.Polls

/-!
# Sideplane expanders at fault

Of a sideplane expander at fault the sensor looks at the recommendation for its first unhealthy
component. The text that asks to check the seating of the modules makes it missing, and no
recommendation makes it at fault. With any other text it is neither recorded nor alerted, and
a sideplane without unhealthy components is judged by the recommendation that an earlier one
of the poll has left.
-/

namespace Sspl

namespace Realstor

open Iem (Text)

/-- The sensor reads its FRUs from other data. -/
def FruSensor.comap {ν R R' E L : Type} [DecidableEq ν] (S : FruSensor ν R E L) (read : R' → R) :
    FruSensor ν R' E L where
  durableId fru := S.durableId (read fru)
  start := S.start
  inspect fru := S.inspect (read fru)
  resumes := S.resumes
  frame := S.frame
  quiet := S.quiet
  alerted := S.alerted

def Health.ofText (text : Text) : Health :=
  if text = "ok".toList then .ok
  else if text = "fault".toList then .fault
  else if text = "degraded".toList then .degraded
  else .other

namespace Sideplanes

open Polls

/-- A sideplane expander, as the enclosure tells it. -/
structure Expander where
  durableId : Text
  health : Text
  /-- The `health-recommendation` of each unhealthy component. -/
  recommendations : List Text

/-- `missing_health`. -/
def missingHealth : String :=
  "Check that all I/O modules and power supplies in the enclosure are fully seated in their " ++
    "slots and that their latches are locked"

def recommendation (text : Text) : Recommendation :=
  if text = [] then .empty
  else if missingHealth.toList <:+: text then .reseat
  else .other

variable (lower : Text → Text)

def Expander.reading (expander : Expander) : SideplaneReading Text where
  durableId := lower expander.durableId
  health := .ofText (lower expander.health)
  unhealthyComponents := expander.recommendations.map fun text => some (recommendation text)

def sensor : FruSensor Text Expander FruAlert (Option Recommendation) :=
  sideplaneSensor.comap (Expander.reading lower)

/-- The alert type by the data of the sideplane alone. -/
def Expander.alertType (expander : Expander) : FruAlert :=
  if expander.recommendations.head?.map recommendation = some .reseat then .missing else .fault

/-- The health of a sideplane in its latest reading. -/
def latestHealth (history : List Expander) (id : Text) : Option Health :=
  latest (fun expander => (expander.reading lower).durableId)
    (fun expander => some (expander.reading lower).health) history id

/-- The sideplane is at fault, and was not in its reading before. -/
def Enters (history : List Expander) (expander : Expander) : Prop :=
  (expander.reading lower).health = .fault ∧
    latestHealth lower history (expander.reading lower).durableId ≠ some .fault

/-- The map has every sideplane at fault and none that is well. -/
def Recorded (history : List Expander) (memory : Memory Text FruAlert) : Prop :=
  ∀ id, (latestHealth lower history id = some .fault → memory.lookup id ≠ none) ∧
    (latestHealth lower history id = some .ok → memory.lookup id = none)

/-- A sideplane that enters the fault is alerted, and the type of its alert is its own. -/
def duty : Duty Text Expander FruAlert where
  recorded := Recorded lower
  raises history expander alerts :=
    (Enters lower history expander → alerts = [expander.alertType]) ∧
      ∀ alert ∈ alerts, alert = .missing ∨ alert = .fault → alert = expander.alertType

/-- A sideplane that enters the fault is not recorded any more; its recommendation is empty or
asks to check the seating, and without one there is none left from an earlier sideplane. -/
def clean : Condition Text Expander FruAlert (Option Recommendation) :=
  fun history expander left memory =>
    Enters lower history expander → memory.lookup (expander.reading lower).durableId = none ∧
      match expander.recommendations with
      | [] => left = none ∨ left = some .empty
      | text :: _ => recommendation text ≠ .other

/-- `health_recommendation` in the turn of the sideplane. -/
def Expander.found (expander : Expander) (left : Option Recommendation) : Option Recommendation :=
  match expander.recommendations with
  | [] => left
  | text :: _ => some (recommendation text)

section Turns

variable {lower} {history : List Expander} {expander : Expander}
  {left : Option Recommendation} {memory memory' : Memory Text FruAlert}

theorem inspect_eq (expander : Expander) (left : Option Recommendation)
    (memory : Memory Text FruAlert) :
    (sensor lower).inspect expander left memory =
      .ok (Sideplane.compare (expander.reading lower) (expander.found left) memory) := by
  obtain ⟨durableId, health, recommendations⟩ := expander
  cases recommendations <;> rfl

theorem raisedBy_eq (expander : Expander) (left : Option Recommendation)
    (memory : Memory Text FruAlert) :
    raisedBy (sensor lower) expander left memory =
      (Sideplane.compare (expander.reading lower) (expander.found left) memory).sends := by
  rw [raisedBy, inspect_eq]

theorem compare_quiet (known : ¬ ((expander.reading lower).health = .fault ∧
      memory.lookup (expander.reading lower).durableId = none))
    (settled : ¬ ((expander.reading lower).health = .ok ∧
      memory.lookup (expander.reading lower).durableId ≠ none)) (found : Option Recommendation) :
    Sideplane.compare (expander.reading lower) found memory = unchanged memory found := by
  rw [Sideplane.compare]
  split
  · rename_i health none
    exact absurd ⟨health, none⟩ known
  · rename_i previous health some
    exact absurd ⟨health, by rw [some]; simp⟩ settled
  · rfl

/-- A sideplane at fault that is not recorded and has no other recommendation. -/
theorem compare_fault {found : Option Recommendation}
    (health : (expander.reading lower).health = .fault)
    (new : memory.lookup (expander.reading lower).durableId = none) (known : found ≠ some .other) :
    Sideplane.compare (expander.reading lower) found memory =
      ⟨memory.insert (expander.reading lower).durableId
        (if found = some .reseat then .missing else .fault),
        [if found = some .reseat then .missing else .fault], true, found⟩ := by
  simp only [Sideplane.compare, health, new]
  rcases found with _ | _ | _ | _
  · rfl
  · rfl
  · rfl
  · exact absurd rfl known

theorem compare_other (health : (expander.reading lower).health = .fault)
    (new : memory.lookup (expander.reading lower).durableId = none) :
    Sideplane.compare (expander.reading lower) (some .other) memory =
      unchanged memory (some .other) := by
  simp only [Sideplane.compare, health, new]
  rfl

theorem compare_ok {previous : FruAlert} (health : (expander.reading lower).health = .ok)
    (known : memory.lookup (expander.reading lower).durableId = some previous)
    (found : Option Recommendation) :
    Sideplane.compare (expander.reading lower) found memory =
      ⟨memory.erase (expander.reading lower).durableId, [recoveryAlert previous], true, found⟩ := by
  simp only [Sideplane.compare, health, known]

theorem latestHealth_concat_self :
    latestHealth lower (history ++ [expander]) (expander.reading lower).durableId =
      some (expander.reading lower).health := by
  rw [latestHealth, latest_concat, if_pos rfl]
  rfl

/-- A turn that leaves the other entries alone has only its own to see to. -/
theorem Recorded.concat (recorded : Recorded lower history memory)
    (frame : ∀ g, g ≠ (expander.reading lower).durableId → memory'.lookup g = memory.lookup g)
    (fault : (expander.reading lower).health = .fault →
      memory'.lookup (expander.reading lower).durableId ≠ none)
    (ok : (expander.reading lower).health = .ok →
      memory'.lookup (expander.reading lower).durableId = none) :
    Recorded lower (history ++ [expander]) memory' := by
  intro id
  by_cases same : (expander.reading lower).durableId = id
  · subst same
    rw [latestHealth_concat_self]
    exact ⟨fun health => fault (Option.some.inj health), fun health => ok (Option.some.inj health)⟩
  · have before :
        latestHealth lower (history ++ [expander]) id = latestHealth lower history id := by
      rw [latestHealth, latest_concat, if_neg same]
      rfl
    rw [before, frame id (Ne.symm same)]
    exact recorded id

theorem alertType_of_found
    (quiet : expander.recommendations = [] → left = none ∨ left = some .empty) :
    expander.alertType = if expander.found left = some .reseat then .missing else .fault := by
  rw [Expander.alertType, Expander.found]
  cases recommendations : expander.recommendations with
  | nil => obtain rfl | rfl := quiet recommendations <;> rfl
  | cons text rest => rfl

theorem clean_entering (meets : clean lower history expander left memory)
    (enters : Enters lower history expander) :
    memory.lookup (expander.reading lower).durableId = none ∧ expander.found left ≠ some .other ∧
      (expander.recommendations = [] → left = none ∨ left = some .empty) := by
  obtain ⟨new, told⟩ := meets enters
  refine ⟨new, ?_, ?_⟩
  · rw [Expander.found]
    cases recommendations : expander.recommendations with
    | nil =>
        rw [recommendations] at told
        obtain rfl | rfl := told <;> simp
    | cons text rest =>
        rw [recommendations] at told
        exact fun other => told (Option.some.inj other)
  · intro none
    rwa [none] at told

theorem turn_right (recorded : Recorded lower history memory)
    (meets : clean lower history expander left memory) :
    Recorded lower (history ++ [expander])
        (Sideplane.compare (expander.reading lower) (expander.found left) memory).memory ∧
      (duty lower).raises history expander
        (Sideplane.compare (expander.reading lower) (expander.found left) memory).sends := by
  have frame := (Sideplane.compare_turn (expander.reading lower) (expander.found left) memory).frame
  by_cases enters : Enters lower history expander
  · obtain ⟨new, known, quiet⟩ := clean_entering meets enters
    rw [compare_fault enters.1 new known, ← alertType_of_found quiet] at frame ⊢
    refine ⟨recorded.concat frame (fun _ => ?_) (fun well => ?_), fun _ => rfl, ?_⟩
    · rw [AList.lookup_insert]
      simp
    · cases enters.1.symm.trans well
    · intro alert mem _
      exact List.mem_singleton.mp mem
  · have fault : (expander.reading lower).health = .fault →
        memory.lookup (expander.reading lower).durableId ≠ none := fun health =>
      (recorded _).1 (not_not.mp fun other => enters ⟨health, other⟩)
    cases settled : memory.lookup (expander.reading lower).durableId with
    | none =>
        have quiet := compare_quiet (fun both => fault both.1 both.2)
          (fun both => both.2 settled) (expander.found left)
        rw [quiet]
        exact ⟨recorded.concat (fun _ _ => rfl) fault (fun _ => settled),
          fun now => absurd now enters, fun _ mem => absurd mem List.not_mem_nil⟩
    | some previous =>
        by_cases well : (expander.reading lower).health = .ok
        · rw [compare_ok well settled] at frame ⊢
          refine ⟨recorded.concat frame (fun health => ?_) (fun _ => AList.lookup_erase _ _),
            fun now => absurd now enters, ?_⟩
          · cases well.symm.trans health
          · intro alert mem either
            rw [List.mem_singleton.mp mem, recoveryAlert] at either
            split at either <;> simp at either
        · have quiet := compare_quiet (fun both => fault both.1 both.2)
            (fun both => well both.1) (expander.found left)
          rw [quiet]
          exact ⟨recorded.concat (fun _ _ => rfl) fault (fun health => absurd health well),
            fun now => absurd now enters, fun _ mem => absurd mem List.not_mem_nil⟩

theorem clean_of_raises
    (raises : Enters lower history expander →
      (Sideplane.compare (expander.reading lower) (expander.found left) memory).sends =
        [expander.alertType]) : clean lower history expander left memory := by
  intro enters
  have alerts := raises enters
  have new : memory.lookup (expander.reading lower).durableId = none := by
    by_contra known
    rw [compare_quiet (fun both => known both.2) (fun both => ?_)] at alerts
    · cases alerts
    · cases enters.1.symm.trans both.1
  have told : expander.found left ≠ some .other := by
    intro other
    rw [other, compare_other enters.1 new] at alerts
    cases alerts
  rw [compare_fault enters.1 new told] at alerts
  refine ⟨new, ?_⟩
  cases recommendations : expander.recommendations with
  | nil =>
      rw [Expander.found, recommendations] at told alerts
      rw [Expander.alertType, recommendations] at alerts
      rcases left with _ | _ | _ | _
      · exact .inl rfl
      · exact .inr rfl
      · cases alerts
      · exact absurd rfl told
  | cons text rest =>
      rw [Expander.found, recommendations] at told
      exact fun other => told (congrArg some other)

end Turns

theorem discharged : Discharged (sensor lower) (duty lower) (clean lower) (Recorded lower) where
  initial id := ⟨fun never => (by cases never), fun _ => rfl⟩
  recorded known := known
  turn known meets := ⟨_, inspect_eq _ _ _, turn_right known meets⟩
  needed := by
    intro history expander left memory known raises
    refine clean_of_raises fun enters => ?_
    rw [← raisedBy_eq]
    exact raises.1 enters

/-- After every poll the sideplanes at fault are recorded, each alerted by its own data when it
entered the fault, and those that are well are not recorded, if and only if every turn meets
the condition. -/
theorem sideplanes_seen_iff (polls : List (List Expander)) :
    (duty lower).Fulfilled (sensor lower) polls ↔
      ∃ s, (system (sensor lower)).Runs (Clean (sensor lower) (clean lower)) .empty polls s :=
  (discharged lower).fulfilled_iff polls

namespace Example

/-- A sideplane at fault with a recommendation that is not about the seating. -/
def unnoticed : Expander := ⟨['1'], "fault".toList, [['x']]⟩

theorem recommendation_other : recommendation ['x'] = .other := by decide +kernel

/-- A sideplane at fault whose first component has another recommendation is not recorded. -/
theorem sideplane_unnoticed : ¬ (duty id).Fulfilled (sensor id) [[unnoticed]] := by
  intro fulfilled
  have kept := (fulfilled_iff_always _).mp fulfilled
  have run : (system (sensor id)).FreeRuns .empty [[unnoticed]]
      (scan (sensor id) none .empty [unnoticed]) := .cons trivial rfl (.nil _)
  have quiet : scan (sensor id) none .empty [unnoticed] = Log.add .empty ∅ unnoticed [] := by
    have found : unnoticed.found none = some .other := congrArg some recommendation_other
    rw [scan, inspect_eq, found, compare_other rfl rfl]
    rfl
  rw [quiet] at run
  exact ((kept _ [] _ rfl run).1 ['1']).1 (by decide) rfl

end Example

end Sideplanes

end Realstor

end Sspl

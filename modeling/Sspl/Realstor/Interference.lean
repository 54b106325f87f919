import Sspl.Realstor.Persistence

/-!
# The alerts of one FRU and the other FRUs

When every change is acknowledged, each turn of the loop over a poll should come to what
it would be if its FRU were the only one the sensor has ever seen. `alone` says what that
is, and `settled` what a state comes to for one durable-id when the current poll is
finished that way. A turn that agrees with `alone` leaves `settled` as it is, so two runs
whose turns all agree end with the same alerts and the same entry for the durable-id.

Every turn of the PSU sensor agrees. In the controller sensor a controller that becomes
degraded while another one is in the map raises an exception, and in the sideplane sensor
`health_recommendation` is kept for the next expander.
-/

namespace Sspl

namespace Realstor

namespace Interference

open Persistence

variable {ν R E L : Type} [DecidableEq ν]

/-- The map with the entry of one FRU only. -/
def only (id : ν) : Option E → Memory ν E
  | some entry => AList.singleton id entry
  | none => ∅

omit [DecidableEq ν] in
theorem only_none (id : ν) : only id (none : Option E) = ∅ := rfl

theorem lookup_singleton (id : ν) (entry : E) :
    (AList.singleton id entry : Memory ν E).lookup id = some entry := by
  rw [← AList.insert_empty, AList.lookup_insert]

@[simp] theorem lookup_only (id : ν) (entry : Option E) :
    (only id entry).lookup id = entry := by
  cases entry with
  | none => rfl
  | some entry => exact lookup_singleton id entry

variable (S : FruSensor ν R E L)

/-- The alerts for a FRU and its entry after a turn in which it is the only FRU. -/
def alone (fru : R) (entry : Option E) : List FruAlert × Option E :=
  match S.inspect fru S.start (only (S.durableId fru) entry) with
  | .ok turn => (turn.sends, turn.memory.lookup (S.durableId fru))
  | .error _ => ([], entry)

/-- The turn comes to the same as without the other FRUs, and the loop goes on. -/
def Agrees (fru : R) (locals : L) (memory : Memory ν E) : Prop :=
  match S.inspect fru locals memory with
  | .ok turn =>
    (turn.sends, turn.memory.lookup (S.durableId fru)) =
      alone S fru (memory.lookup (S.durableId fru))
  | .error _ =>
    S.resumes = true ∧
      alone S fru (memory.lookup (S.durableId fru)) = ([], memory.lookup (S.durableId fru))

/-- Every change is acknowledged, and the turns meet a condition. -/
def Acked (clean : R → L → Memory ν E → Prop) (s : State ν R E L) : Action R → Prop
  | .timeOut => False
  | .inspect =>
    match s.stage with
    | .scanning locals (fru :: _) => clean fru locals s.memory
    | _ => True
  | _ => True

/-- The readings of the durable-id in the polls of a run. -/
def readings (d : ν) : List (Action R) → List R
  | [] => []
  | .poll frus :: rest => frus.filter (S.durableId · = d) ++ readings d rest
  | _ :: rest => readings d rest

/-- The types of the alerts raised for the durable-id. -/
def alerts (d : ν) (s : State ν R E L) : List FruAlert :=
  (s.messages.filter (·.durableId = d)).map Message.alertType

/-- In any two runs that meet the condition and read the same of a durable-id, from any
stores that have the same entry for it, its alerts and its entry are the same between the
polls. -/
def NonInterfering (clean : R → L → Memory ν E → Prop) : Prop :=
  ∀ (d : ν) stored₁ stored₂ actions₁ actions₂ s₁ s₂,
    (system S).Runs (Acked clean) (start stored₁) actions₁ s₁ →
    (system S).Runs (Acked clean) (start stored₂) actions₂ s₂ →
    s₁.stage = .idle → s₂.stage = .idle → stored₁.lookup d = stored₂.lookup d →
    readings S d actions₁ = readings S d actions₂ →
      alerts d s₁ = alerts d s₂ ∧ s₁.memory.lookup d = s₂.memory.lookup d ∧
        s₁.persisted.lookup d = s₂.persisted.lookup d

/-- The alerts of the turn under way that are still to send. -/
def unsent (d : ν) : Stage ν R E L → List FruAlert
  | .sending fru _ _ todo _ => if S.durableId fru = d then todo else []
  | .cleared fru _ _ alert todo _ => if S.durableId fru = d then alert :: todo else []
  | _ => []

/-- The FRUs of the poll whose turn is still to come. -/
def pending : Stage ν R E L → List R
  | .idle => []
  | .scanning _ rest => rest
  | .sending _ _ _ _ rest => rest
  | .cleared _ _ _ _ _ rest => rest
  | .waiting _ _ _ rest => rest

/-- One reading of the durable-id, handled alone. -/
def settle (known : List FruAlert × Option E) (fru : R) : List FruAlert × Option E :=
  (known.1 ++ (alone S fru known.2).1, (alone S fru known.2).2)

def settled (d : ν) (s : State ν R E L) : List FruAlert × Option E :=
  ((pending s.stage).filter (S.durableId · = d)).foldl (settle S)
    (alerts d s ++ unsent S d s.stage, s.memory.lookup d)

variable {S} {s t : State ν R E L} {a : Action R} {d : ν}

theorem settled_scanning {locals : L} {rest : List R} (stage : s.stage = .scanning locals rest) :
    settled S d s =
      (rest.filter (S.durableId · = d)).foldl (settle S) (alerts d s, s.memory.lookup d) := by
  simp [settled, stage, pending, unsent]

theorem settled_idle (stage : s.stage = .idle) :
    settled S d s = (alerts d s, s.memory.lookup d) := by
  simp [settled, stage, pending, unsent]

theorem settled_step {clean : R → L → Memory ν E → Prop}
    (agrees : ∀ fru locals memory, clean fru locals memory → Agrees S fru locals memory)
    (acked : Acked clean s a) (step : next S s a = some t) :
    settled S d t = (readings S d [a]).foldl (settle S) (settled S d s) := by
  cases next_cases step with
  | poll frus stage =>
      rw [settled_idle stage, settled_scanning rfl]
      simp [readings, alerts]
  | finish locals stage =>
      rw [settled_scanning stage, settled_idle rfl]
      rfl
  | raised fru locals rest err stage inspected =>
      simp only [Acked, stage] at acked
      have agree := agrees _ _ _ acked
      simp only [Agrees, inspected] at agree
      obtain ⟨resumes, same⟩ := agree
      simp only [resumes, if_true]
      rw [settled_scanning stage, settled_scanning rfl]
      by_cases own : S.durableId fru = d
      · subst own
        simp [readings, settle, same, alerts]
      · simp [readings, own, alerts]
  | quiet fru locals rest turn stage inspected same =>
      simp only [Acked, stage] at acked
      have agree := agrees _ _ _ acked
      simp only [Agrees, inspected] at agree
      obtain ⟨memory, sends⟩ := S.quiet inspected same
      rw [memory, sends] at agree
      rw [settled_scanning stage, settled_scanning rfl]
      by_cases own : S.durableId fru = d
      · subst own
        simp [readings, settle, ← agree, alerts]
      · simp [readings, own, alerts]
  | changed fru locals rest turn stage inspected changed =>
      simp only [Acked, stage] at acked
      have agree := agrees _ _ _ acked
      simp only [Agrees, inspected] at agree
      rw [settled_scanning stage]
      by_cases own : S.durableId fru = d
      · subst own
        simp [readings, settled, pending, unsent, settle, ← agree, alerts]
      · simp [readings, settled, pending, unsent, own, alerts,
          S.frame inspected d (Ne.symm own)]
  | clear fru locals turn alert todo rest stage =>
      simp [settled, stage, pending, unsent, readings, alerts]
  | put fru locals turn alert todo rest stage =>
      by_cases own : S.durableId fru = d <;> by_cases last : todo = [] <;>
        simp [settled, stage, pending, unsent, readings, alerts, own, last]
  | wake fru locals turn rest stage set =>
      simp [settled, stage, pending, unsent, readings, alerts]
  | timeOut fru locals turn rest stage => exact acked.elim
  | deliver number => rfl
  | acknowledge number delivered => rfl

theorem readings_cons (d : ν) (a : Action R) (rest : List (Action R)) :
    readings S d (a :: rest) = readings S d [a] ++ readings S d rest := by
  cases a <;> simp [readings]

theorem settled_run {clean : R → L → Memory ν E → Prop}
    (agrees : ∀ fru locals memory, clean fru locals memory → Agrees S fru locals memory)
    {actions : List (Action R)} (run : (system S).Runs (Acked clean) s actions t) :
    settled S d t = (readings S d actions).foldl (settle S) (settled S d s) := by
  induction run with
  | nil => rfl
  | cons acked step _ ih =>
      rw [readings_cons, List.foldl_append, ← settled_step agrees acked step]
      exact ih

/-- Between the polls the map is the stored one. -/
theorem memory_persisted {G : State ν R E L → Action R → Prop} {stored : Memory ν E}
    {actions : List (Action R)} (run : (system S).Runs G (start stored) actions s)
    (idle : s.stage = .idle) : s.memory = s.persisted := by
  have consistent : Consistent S s :=
    run.invariant (fun _ _ _ known _ step => known.step step) (start_consistent stored)
  simpa only [Consistent, idle] using consistent

theorem nonInterfering_of_agrees {clean : R → L → Memory ν E → Prop}
    (agrees : ∀ fru locals memory, clean fru locals memory → Agrees S fru locals memory) :
    NonInterfering S clean := by
  intro d stored₁ stored₂ actions₁ actions₂ s₁ s₂ run₁ run₂ idle₁ idle₂ stored same
  have settled₁ := settled_run (d := d) agrees run₁
  have settled₂ := settled_run (d := d) agrees run₂
  have first : settled S d (start stored₁) = settled S d (start stored₂) := by
    rw [settled_idle rfl, settled_idle rfl]
    exact congrArg (Prod.mk []) stored
  rw [settled_idle idle₁, first, same, ← settled₂, settled_idle idle₂, Prod.mk.injEq] at settled₁
  refine ⟨settled₁.1, settled₁.2, ?_⟩
  rw [← memory_persisted run₁ idle₁, ← memory_persisted run₂ idle₂]
  exact settled₁.2

theorem inspectHealthy_agrees {locals start : L} {id : ν} (memory : Memory ν FruEntry) :
    (inspectHealthy id locals memory).sends =
        (inspectHealthy id start (only id (memory.lookup id))).sends ∧
      (inspectHealthy id locals memory).memory.lookup id =
        (inspectHealthy id start (only id (memory.lookup id))).memory.lookup id := by
  cases found : memory.lookup id <;> simp [inspectHealthy, found, unchanged]

theorem psu_agrees (psu : PsuReading ν) (locals : Unit) (memory : Memory ν FruEntry) :
    Agrees psuSensor psu locals memory := by
  simp only [Agrees, alone, psuSensor, Psu.inspect, lookup_only]
  cases psu.health with
  | fault =>
    by_cases known : (memory.lookup psu.durableId).map FruEntry.alertType =
        some (faultAlert psu.notInstalled)
    · simp only [if_pos known, unchanged, lookup_only]
    · simp only [if_neg known, AList.lookup_insert]
  | degraded =>
    by_cases new : memory.lookup psu.durableId = none
    · simp only [if_pos new, AList.lookup_insert]
    · simp only [if_neg new, unchanged, lookup_only]
  | ok => simpa using inspectHealthy_agrees memory
  | other => simp [unchanged]

theorem prevAlertType_of_known {id : ν} {entry : FruEntry} {memory : Memory ν FruEntry}
    (known : memory.lookup id = some entry) (previous : Option FruAlert) :
    Controller.prevAlertType id previous memory = .ok (some entry.alertType) := by
  have entries : memory.entries ≠ [] := by
    intro empty
    simp [AList.lookup, empty] at known
  simp only [Controller.prevAlertType, if_neg entries, known]

theorem prevAlertType_of_other {id : ν} {memory : Memory ν FruEntry}
    (new : memory.lookup id = none) (entries : memory.entries ≠ []) (previous : Option FruAlert) :
    Controller.prevAlertType id previous memory = .error .attributeError := by
  simp only [Controller.prevAlertType, if_neg entries, new]

theorem prevAlertType_only (id : ν) (entry : FruEntry) :
    Controller.prevAlertType id none (only id (some entry)) = .ok (some entry.alertType) :=
  prevAlertType_of_known (lookup_only id (some entry)) none

/-- A controller that becomes degraded finds an empty map, and no alert for a missing one
before it in the poll. -/
def Controller.Clean (controller : ControllerReading ν) (previous : Option FruAlert)
    (memory : Memory ν FruEntry) : Prop :=
  controller.health = .degraded → memory.lookup controller.durableId = none →
    memory.entries = [] ∧ previous ≠ some .missing

theorem controller_agrees_iff (controller : ControllerReading ν) (previous : Option FruAlert)
    (memory : Memory ν FruEntry) :
    Agrees controllerSensor controller previous memory ↔
      Controller.Clean controller previous memory := by
  simp only [Agrees, alone, controllerSensor, Controller.inspect, lookup_only, Controller.Clean]
  cases controller.health with
  | fault =>
    by_cases new : Controller.comesFrom .degraded (memory.lookup controller.durableId)
    · simp [new]
    · simp [new, unchanged]
  | degraded =>
    cases known : memory.lookup controller.durableId with
    | some entry =>
      by_cases new : Controller.comesFrom .fault (some entry)
      · simp [new, prevAlertType_of_known known, prevAlertType_only]
      · simp [new, unchanged, known]
    | none =>
      have new : Controller.comesFrom .fault none := .inr rfl
      by_cases entries : memory.entries = []
      · by_cases leaked : previous = some .missing <;>
          simp [new, Controller.prevAlertType, entries, leaked, only_none, lookup_singleton]
      · simp [new, prevAlertType_of_other known entries, entries]
  | ok => simpa using inspectHealthy_agrees memory
  | other => simp [unchanged]

theorem compare_agrees (expander : SideplaneReading ν) (found : Option Recommendation)
    (memory : Memory ν FruAlert) :
    (Sideplane.compare expander found memory).sends =
        (Sideplane.compare expander found
          (only expander.durableId (memory.lookup expander.durableId))).sends ∧
      (Sideplane.compare expander found memory).memory.lookup expander.durableId =
        (Sideplane.compare expander found (only expander.durableId
          (memory.lookup expander.durableId))).memory.lookup expander.durableId := by
  simp only [Sideplane.compare, lookup_only]
  split
  · split
    · split <;> simp [unchanged, *]
    · simp
  · simp
  · simp [unchanged]

/-- The recommendation matters to a faulty sideplane that is not in the map. -/
theorem compare_recommendation {expander : SideplaneReading ν} {memory : Memory ν FruAlert}
    (known : expander.health = .fault → memory.lookup expander.durableId ≠ none)
    (found other : Option Recommendation) :
    (Sideplane.compare expander found memory).sends =
        (Sideplane.compare expander other memory).sends ∧
      (Sideplane.compare expander found memory).memory =
        (Sideplane.compare expander other memory).memory := by
  unfold Sideplane.compare
  split
  · rename_i health new
    exact absurd new (known health)
  · simp
  · simp [unchanged]

/-- A faulty sideplane without unhealthy components follows no recommendation of another. -/
def Sideplane.Clean (expander : SideplaneReading ν) (local_ : Option Recommendation)
    (memory : Memory ν FruAlert) : Prop :=
  expander.health = .fault → memory.lookup expander.durableId = none →
    expander.unhealthyComponents = [] → local_ = none ∨ local_ = some .empty

theorem sideplane_agrees_iff (expander : SideplaneReading ν) (local_ : Option Recommendation)
    (memory : Memory ν FruAlert) :
    Agrees sideplaneSensor expander local_ memory ↔
      Sideplane.Clean expander local_ memory := by
  simp only [Agrees, alone, sideplaneSensor, Sideplane.inspect, Sideplane.Clean]
  cases expander.unhealthyComponents with
  | cons component rest =>
    cases component with
    | none => simp [Sideplane.recommendation]
    | some text => 
      simpa [Sideplane.recommendation] using compare_agrees expander (some text) memory
  | nil =>
    by_cases new : expander.health = .fault ∧ memory.lookup expander.durableId = none
    · obtain ⟨health, new⟩ := new
      cases local_ with
      | none => simp [Sideplane.recommendation, Sideplane.compare, health, new]
      | some text =>
        cases text <;>
          simp [Sideplane.recommendation, Sideplane.compare, health, new, unchanged]
    · have known : expander.health = .fault → memory.lookup expander.durableId ≠ none :=
        fun health none => new ⟨health, none⟩
      have same := compare_recommendation known local_ none
      have single := compare_agrees expander none memory
      simp only [Sideplane.recommendation]
      constructor
      · intro _ health none
        exact absurd none (known health)
      · intro _
        exact Prod.ext (same.1.trans single.1) ((congrArg _ same.2).trans single.2)

/-- Whatever other FRUs there are in the polls, the alerts and the entry of a FRU are the same: for
power supplies always, for controllers and sideplanes as long as no turn takes over what an earlier
turn has left in a variable. -/
theorem alerts_do_not_interfere :
    NonInterfering (psuSensor : FruSensor ν _ _ _) (fun _ _ _ => True) ∧
      NonInterfering (controllerSensor : FruSensor ν _ _ _) Controller.Clean ∧
      NonInterfering (sideplaneSensor : FruSensor ν _ _ _) Sideplane.Clean :=
  ⟨nonInterfering_of_agrees fun psu locals memory _ => psu_agrees psu locals memory,
    nonInterfering_of_agrees fun _ _ _ => (controller_agrees_iff _ _ _).mpr,
    nonInterfering_of_agrees fun _ _ _ => (sideplane_agrees_iff _ _ _).mpr⟩

/-- A run without time-outs has every change acknowledged. -/
theorem acked_of_no_timeOut {actions : List (Action R)}
    (run : (system S).FreeRuns s actions t) (none : .timeOut ∉ actions) :
    (system S).Runs (Acked fun _ _ _ => True) s actions t := by
  refine run.strengthen fun done a rest m split _ => ?_
  cases a with
  | timeOut => exact absurd (by simp [split]) none
  | inspect =>
      simp only [Acked]
      split <;> trivial
  | _ => trivial

namespace Example

/-- The one alert of a turn is sent, published and acknowledged. -/
def alerted (number : Nat) : List (Action R) :=
  [.inspect, .clear, .put, .deliver number, .acknowledge number, .wake]

/-- The first FRU of the poll has an alert, and the next turn ends the poll. -/
def polled (frus : List R) : List (Action R) :=
  .poll frus :: alerted 0 ++ [Action.inspect]

/-- The alerts for the second controller while the first is degraded and recovers. -/
theorem alerts_do_not_interfere_recovery :
    ∃ s t : State Nat (ControllerReading Nat) FruEntry (Option FruAlert),
      alerts 2 s = alerts 2 t ∧ alerts 2 t = [.fault] ∧ alerts 1 s = [.fault, .faultResolved] := by
  have together : ∃ s, (system controllerSensor).Runs (Acked Controller.Clean)
      (start (∅ : Memory Nat FruEntry))
      (polled [⟨1, .degraded, false⟩] ++
        .poll [⟨2, .fault, false⟩, ⟨1, .ok, false⟩] ::
          alerted 1 ++ alerted 2 ++ [Action.inspect]) s ∧
      s.stage = .idle ∧ alerts 1 s = [.fault, .faultResolved] :=
    ⟨_, .cons trivial rfl <| .cons (fun _ _ => ⟨rfl, by decide⟩) rfl <| .cons trivial rfl <|
      .cons trivial rfl <| .cons trivial rfl <| .cons trivial rfl <| .cons trivial rfl <|
      .cons trivial rfl <| .cons trivial rfl <| .cons (fun health => by cases health) rfl <|
      .cons trivial rfl <| .cons trivial rfl <| .cons trivial rfl <| .cons trivial rfl <|
      .cons trivial rfl <| .cons (fun health => by cases health) rfl <| .cons trivial rfl <|
      .cons trivial rfl <| .cons trivial rfl <| .cons trivial rfl <| .cons trivial rfl <|
      .cons trivial rfl <| .nil _, rfl, by decide⟩
  have apart : ∃ s, (system controllerSensor).Runs (Acked Controller.Clean)
      (start (∅ : Memory Nat FruEntry)) (polled [⟨2, .fault, false⟩]) s ∧
      s.stage = .idle ∧ alerts 2 s = [.fault] :=
    ⟨_, .cons trivial rfl <| .cons (fun health => by cases health) rfl <| .cons trivial rfl <|
      .cons trivial rfl <| .cons trivial rfl <| .cons trivial rfl <| .cons trivial rfl <|
      .cons trivial rfl <| .nil _, rfl, by decide⟩
  obtain ⟨s, run, idle, first⟩ := together
  obtain ⟨t, single, done, second⟩ := apart
  exact ⟨s, t, (alerts_do_not_interfere.2.1 2 _ _ _ _ s t run single idle done rfl
    (by decide)).1, second, first⟩

/-- Two degraded controllers: the second gets no alert. -/
theorem controllers_interfere :
    ¬ NonInterfering (controllerSensor : FruSensor Nat _ _ _) (fun _ _ _ => True) := by
  intro same
  have together : ∃ s, (system controllerSensor).FreeRuns (start (∅ : Memory Nat FruEntry))
      (polled [⟨1, .degraded, false⟩, ⟨2, .degraded, false⟩]) s ∧
      s.stage = .idle ∧ alerts 2 s = [] :=
    ⟨_, (Transition.System.run_eq_some_iff _).mp rfl, rfl, by decide⟩
  have apart : ∃ s, (system controllerSensor).FreeRuns (start (∅ : Memory Nat FruEntry))
      (polled [⟨2, .degraded, false⟩]) s ∧ s.stage = .idle ∧ alerts 2 s = [.fault] :=
    ⟨_, (Transition.System.run_eq_some_iff _).mp rfl, rfl, by decide⟩
  obtain ⟨s, run, idle, first⟩ := together
  obtain ⟨t, single, done, second⟩ := apart
  have equal := (same 2 _ _ _ _ s t (acked_of_no_timeOut run (by decide))
    (acked_of_no_timeOut single (by decide)) idle done rfl (by decide)).1
  rw [first, second] at equal
  cases equal

/-- A faulty sideplane follows the recommendation for the one before it. -/
theorem sideplanes_interfere :
    ¬ NonInterfering (sideplaneSensor : FruSensor Nat _ _ _) (fun _ _ _ => True) := by
  intro same
  have together : ∃ s, (system sideplaneSensor).FreeRuns (start (∅ : Memory Nat FruAlert))
      (.poll [⟨1, .fault, [some .reseat]⟩, ⟨2, .fault, []⟩] :: alerted 0 ++ alerted 1 ++
        [Action.inspect]) s ∧
      s.stage = .idle ∧ alerts 2 s = [.missing] :=
    ⟨_, (Transition.System.run_eq_some_iff _).mp rfl, rfl, by decide⟩
  have apart : ∃ s, (system sideplaneSensor).FreeRuns (start (∅ : Memory Nat FruAlert))
      (polled [⟨2, .fault, []⟩]) s ∧ s.stage = .idle ∧ alerts 2 s = [.fault] :=
    ⟨_, (Transition.System.run_eq_some_iff _).mp rfl, rfl, by decide⟩
  obtain ⟨s, run, idle, first⟩ := together
  obtain ⟨t, single, done, second⟩ := apart
  have equal := (same 2 _ _ _ _ s t (acked_of_no_timeOut run (by decide))
    (acked_of_no_timeOut single (by decide)) idle done rfl (by decide)).1
  rw [first, second] at equal
  cases equal

/-- The alerts of a FRU depend on the other FRUs of the controller and of the sideplane
sensor. -/
theorem alerts_interfere :
    ¬ (NonInterfering (controllerSensor : FruSensor Nat _ _ _) (fun _ _ _ => True) ∨
      NonInterfering (sideplaneSensor : FruSensor Nat _ _ _) (fun _ _ _ => True)) := by
  rintro (same | same)
  · exact controllers_interfere same
  · exact sideplanes_interfere same

end Example

end Interference

end Realstor

end Sspl

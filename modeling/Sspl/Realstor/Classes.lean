import Sspl.Foundation.Latest
import Sspl.Realstor.Interference
import Sspl.Realstor.Polls

/-!
# The fault classes of power supplies and controllers

A FRU is in one of three classes, missing, at fault or well, by the latest of its readings
whose health is fault, degraded or ok. The map of a sensor should hold the class of every
durable-id, and a change of class should raise the alert of the new class.

The PSU sensor does so except when a missing power supply turns degraded, which its check of
the map takes for nothing new. The controller sensor looks at the health it has recorded and
not at the alert type: it overlooks a controller at fault that turns out to be missing, or
the other way round.
-/

namespace Sspl

namespace Realstor

namespace Classes

open Polls
open Interference (prevAlertType_of_known prevAlertType_of_other)

variable {ν R E L γ : Type}

/-- How readings and entries of the map are classified; a FRU that is well has no class. -/
structure Classification (ν R E γ : Type) where
  durableId : R → ν
  /-- What the reading says of the class, if its health says anything. -/
  classOf : R → Option (Option γ)
  ofEntry : E → γ
  /-- The sensor writes such entries only. -/
  Written : E → Prop
  /-- The alert for a change from one class to another. -/
  alert : Option γ → Option γ → FruAlert

variable [DecidableEq ν]

namespace Classification

variable (C : Classification ν R E γ)

/-- The class of a FRU by the history of the readings. -/
def known (history : List R) (id : ν) : Option γ :=
  (latest C.durableId C.classOf history id).join

/-- The class of the FRU of a reading, which it keeps if the reading does not tell it. -/
def next (history : List R) (fru : R) : Option γ :=
  (C.classOf fru).getD (C.known history (C.durableId fru))

def Recorded (history : List R) (memory : Memory ν E) : Prop :=
  ∀ id, (memory.lookup id).map C.ofEntry = C.known history id

/-- The alerts for a change of the class. -/
def Announces (history : List R) (fru : R) (alerts : List FruAlert) : Prop :=
  C.known history (C.durableId fru) ≠ C.next history fru →
    alerts = [C.alert (C.known history (C.durableId fru)) (C.next history fru)]

/-- The map holds the class of every durable-id, and a change of class raises its alert. -/
def changes : Duty ν R E := ⟨C.Recorded, C.Announces⟩

/-- The map holds the class of every durable-id, and only a change of class raises an alert. -/
def onlyChanges : Duty ν R E where
  recorded := C.Recorded
  raises history fru alerts := C.Announces history fru alerts ∧
    (C.known history (C.durableId fru) = C.next history fru → alerts = [])

/-- What is known of the map after a history. -/
structure Holds (history : List R) (memory : Memory ν E) : Prop where
  recorded : C.Recorded history memory
  written : ∀ id entry, memory.lookup id = some entry → C.Written entry

/-- The class in the map before a turn. -/
def old (fru : R) (memory : Memory ν E) : Option γ :=
  (memory.lookup (C.durableId fru)).map C.ofEntry

/-- The class in the map after a turn, as it should be. -/
def new (fru : R) (memory : Memory ν E) : Option γ := (C.classOf fru).getD (C.old fru memory)

/-- The turn records the class of its FRU. -/
structure Books (fru : R) (memory : Memory ν E) (turn : Inspection ν E L) : Prop where
  own : (turn.memory.lookup (C.durableId fru)).map C.ofEntry = C.new fru memory
  written : ∀ entry, turn.memory.lookup (C.durableId fru) = some entry → C.Written entry

variable {C} {history : List R} {fru : R} {memory : Memory ν E} {turn : Inspection ν E L}

@[simp] theorem known_nil (id : ν) : C.known [] id = none := rfl

theorem known_concat_self : C.known (history ++ [fru]) (C.durableId fru) = C.next history fru := by
  rw [known, latest_concat_self, next, known]
  cases C.classOf fru <;> rfl

theorem known_concat_ne {id : ν} (other : C.durableId fru ≠ id) :
    C.known (history ++ [fru]) id = C.known history id := by
  rw [known, known, latest_concat_ne _ other]

namespace Holds

theorem nil : C.Holds [] ∅ := ⟨fun _ => rfl, fun _ _ found => by cases found⟩

/-- The map tells what the history says of the FRU. -/
theorem known_eq (holds : C.Holds history memory) :
    C.known history (C.durableId fru) = C.old fru memory := (holds.recorded _).symm

theorem next_eq (holds : C.Holds history memory) : C.next history fru = C.new fru memory := by
  rw [next, holds.known_eq, new]

theorem announces_iff (holds : C.Holds history memory) {alerts : List FruAlert} :
    C.Announces history fru alerts ↔
      (C.old fru memory ≠ C.new fru memory →
        alerts = [C.alert (C.old fru memory) (C.new fru memory)]) := by
  rw [Announces, holds.known_eq, holds.next_eq]

/-- A turn that leaves the other entries alone has only its own to see to. -/
theorem concat (holds : C.Holds history memory)
    (frame : ∀ g, g ≠ C.durableId fru → turn.memory.lookup g = memory.lookup g)
    (books : C.Books fru memory turn) : C.Holds (history ++ [fru]) turn.memory := by
  constructor
  · intro id
    by_cases same : C.durableId fru = id
    · subst same
      rw [known_concat_self, books.own, holds.next_eq]
    · rw [known_concat_ne same, frame id (Ne.symm same), holds.recorded id]
  · intro id entry found
    by_cases same : id = C.durableId fru
    · subst same
      exact books.written entry found
    · rw [frame id same] at found
      exact holds.written id entry found

end Holds

namespace Books

/-- A turn that changes nothing books a class that stays the same. -/
theorem unchanged {locals : L} (same : C.old fru memory = C.new fru memory)
    (written : ∀ id entry, memory.lookup id = some entry → C.Written entry) :
    C.Books fru memory (unchanged memory locals) :=
  ⟨same, written _⟩

theorem insert {entry : E} {sends : List FruAlert} {locals : L}
    (class_ : some (C.ofEntry entry) = C.new fru memory) (written : C.Written entry) :
    C.Books fru memory ⟨memory.insert (C.durableId fru) entry, sends, true, locals⟩ := by
  constructor
  · rw [AList.lookup_insert]
    exact class_
  · intro found same
    rw [AList.lookup_insert] at same
    cases same
    exact written

theorem erase {sends : List FruAlert} {locals : L} (class_ : C.new fru memory = none) :
    C.Books fru memory ⟨memory.erase (C.durableId fru), sends, true, locals⟩ := by
  constructor
  · rw [AList.lookup_erase, class_]
    rfl
  · intro entry found
    rw [AList.lookup_erase] at found
    cases found

end Books

end Classification

/-- The class of a FRU by its health. -/
def classOf (health : Health) (notInstalled : Bool) : Option (Option FruAlert) :=
  match health with
  | .fault => some (some (faultAlert notInstalled))
  | .degraded => some (some .fault)
  | .ok => some none
  | .other => none

/-- The alert for a FRU whose class has changed. -/
def alertFor (old new : Option FruAlert) : FruAlert :=
  match new with
  | some alertType => alertType
  | none => if old = some .missing then .insertion else .faultResolved

theorem alertFor_recovery (previous : FruAlert) :
    alertFor (some previous) none = recoveryAlert previous := by
  simp [alertFor, recoveryAlert]

/-- An entry that the PSU and the controller sensor write. -/
def Written (entry : FruEntry) : Prop :=
  entry.health = .fault ∧ (entry.alertType = .missing ∨ entry.alertType = .fault) ∨
    entry.health = .degraded ∧ entry.alertType = .fault

theorem written_fault (notInstalled : Bool) : Written ⟨.fault, faultAlert notInstalled⟩ := by
  cases notInstalled <;> simp [Written, faultAlert]

theorem written_degraded : Written ⟨.degraded, .fault⟩ := .inr ⟨rfl, rfl⟩

theorem Written.alertType {entry : FruEntry} (written : Written entry) :
    entry.alertType = .missing ∨ entry.alertType = .fault := by
  obtain ⟨-, either⟩ | ⟨-, fault⟩ := written
  · exact either
  · exact .inr fault

variable {memory : Memory ν FruEntry}

/-- The classes of a sensor that keeps the health and the alert type of each faulty FRU. -/
def fruClasses (durableId : R → ν) (health : R → Health) (notInstalled : R → Bool) :
    Classification ν R FruEntry FruAlert where
  durableId := durableId
  classOf fru := classOf (health fru) (notInstalled fru)
  ofEntry := FruEntry.alertType
  Written := Written
  alert := alertFor

/-- The turn books the class, and a change of class raises its alert. -/
def Right (C : Classification ν R E γ) (fru : R) (memory : Memory ν E) (turn : Inspection ν E L) :
    Prop :=
  C.Books fru memory turn ∧ (C.old fru memory ≠ C.new fru memory →
    turn.sends = [C.alert (C.old fru memory) (C.new fru memory)])

/-- Nothing is to be done for a class that stays the same. -/
theorem Right.unchanged {C : Classification ν R E γ} {fru : R} {memory : Memory ν E} {locals : L}
    (same : C.old fru memory = C.new fru memory)
    (written : ∀ id entry, memory.lookup id = some entry → C.Written entry) :
    Right C fru memory (unchanged memory locals) :=
  ⟨.unchanged same written, fun changed => absurd same changed⟩

/-- The healthy case of the two sensors. -/
theorem inspectHealthy_right {durableId : R → ν} {health : R → Health} {notInstalled : R → Bool}
    {fru : R} (locals : L) (ok : health fru = .ok)
    (written : ∀ id entry, memory.lookup id = some entry → Written entry) :
    Right (fruClasses durableId health notInstalled) fru memory
      (inspectHealthy (durableId fru) locals memory) := by
  have new : (fruClasses durableId health notInstalled).new fru memory = none := by
    simp [Classification.new, fruClasses, ok, classOf]
  cases found : memory.lookup (durableId fru) with
  | none =>
      have old : (fruClasses durableId health notInstalled).old fru memory = none := by
        simp [Classification.old, fruClasses, found]
      simp only [inspectHealthy, found]
      exact .unchanged (old.trans new.symm) written
  | some entry =>
      have old : (fruClasses durableId health notInstalled).old fru memory =
          some entry.alertType := by
        simp [Classification.old, fruClasses, found]
      simp only [inspectHealthy, found]
      refine ⟨.erase new, fun _ => ?_⟩
      rw [old, new]
      exact congrArg (fun alert => [alert]) (alertFor_recovery _).symm

section Psu

def psuClasses : Classification ν (PsuReading ν) FruEntry FruAlert :=
  fruClasses PsuReading.durableId PsuReading.health PsuReading.notInstalled

/-- No power supply turns degraded while it is recorded as missing, which is the change that the
sensor passes over. -/
def psuClean : Condition ν (PsuReading ν) FruEntry Unit := fun _ psu _ memory =>
  psu.health = .degraded → (memory.lookup psu.durableId).map FruEntry.alertType ≠ some .missing

variable {psu : PsuReading ν} {history : List (PsuReading ν)}

theorem psu_old (psu : PsuReading ν) (memory : Memory ν FruEntry) :
    psuClasses.old psu memory = (memory.lookup psu.durableId).map FruEntry.alertType := rfl

theorem psu_new (psu : PsuReading ν) (memory : Memory ν FruEntry) :
    psuClasses.new psu memory = (classOf psu.health psu.notInstalled).getD
      ((memory.lookup psu.durableId).map FruEntry.alertType) := rfl

theorem psu_right (written : ∀ id entry, memory.lookup id = some entry → Written entry)
    (clean : psuClean history psu () memory) :
    Right psuClasses psu memory (Psu.inspect psu memory) := by
  have new := psu_new psu memory
  rw [Psu.inspect]
  cases health : psu.health with
  | fault =>
      simp only [health, classOf, Option.getD_some] at new ⊢
      split
      · rename_i same
        exact .unchanged ((psu_old psu memory).trans (same.trans new.symm)) written
      · exact ⟨.insert new.symm (written_fault _), fun _ => by rw [new]; rfl⟩
  | degraded =>
      simp only [health, classOf, Option.getD_some] at new ⊢
      split
      · exact ⟨.insert new.symm written_degraded, fun _ => by rw [new]; rfl⟩
      · rename_i known
        obtain ⟨entry, found⟩ := Option.ne_none_iff_exists'.mp known
        have fault : entry.alertType = .fault := by
          refine (written _ _ found).alertType.resolve_left fun missing => clean health ?_
          rw [found, Option.map_some, missing]
        have same : psuClasses.old psu memory = psuClasses.new psu memory := by
          rw [psu_old, new, found, Option.map_some, fault]
        exact .unchanged same written
  | ok => exact inspectHealthy_right () health written
  | other =>
      have same : psuClasses.old psu memory = psuClasses.new psu memory := by
        rw [new, health]
        rfl
      exact .unchanged same written

theorem psu_discharged : Discharged (psuSensor : FruSensor ν _ _ _) psuClasses.changes psuClean
    psuClasses.Holds where
  initial := .nil
  recorded holds := holds.recorded
  turn := by
    intro history psu _ memory holds clean
    obtain ⟨books, alerts⟩ := psu_right holds.written clean
    exact ⟨_, rfl, holds.concat (Psu.inspect_turn psu memory).frame books,
      holds.announces_iff.mpr alerts⟩
  needed := by
    intro history psu _ memory holds raised health missing
    have alerts := holds.announces_iff.mp raised
    have changed : psuClasses.old psu memory ≠ psuClasses.new psu memory := by
      have old : psuClasses.old psu memory = some .missing := missing
      have new : psuClasses.new psu memory = some .fault := by
        simp [Classification.new, psuClasses, fruClasses, health, classOf]
      rw [old, new]
      simp
    have known : memory.lookup psu.durableId ≠ none := by
      intro none
      rw [none] at missing
      cases missing
    have quiet : raisedBy psuSensor psu () memory = [] := by
      simp [raisedBy, psuSensor, Psu.inspect, health, known, unchanged]
    rw [quiet] at alerts
    cases alerts changed

end Psu

section Controller

def controllerClasses : Classification ν (ControllerReading ν) FruEntry FruAlert :=
  fruClasses ControllerReading.durableId ControllerReading.health ControllerReading.notInstalled

/-- No controller recorded as missing turns degraded, and none recorded with health fault goes
from missing to fault or back; a controller that turns degraded and is not in the map finds
the map empty, and no alert for a missing one before it in the poll. -/
def controllerClean : Condition ν (ControllerReading ν) FruEntry (Option FruAlert) :=
  fun _ controller previous memory =>
    (controller.health = .fault → ∀ entry, memory.lookup controller.durableId = some entry →
      entry.health = .fault → entry.alertType = faultAlert controller.notInstalled) ∧
    (controller.health = .degraded →
      (memory.lookup controller.durableId).map FruEntry.alertType ≠ some .missing ∧
        (memory.lookup controller.durableId = none →
          memory.entries = [] ∧ previous ≠ some .missing))

variable {controller : ControllerReading ν} {history : List (ControllerReading ν)}
  {previous : Option FruAlert}

/-- What the turn of a degraded controller does, by what the map has of it. -/
theorem inspect_degraded (health : controller.health = .degraded)
    (new : Controller.comesFrom .fault (memory.lookup controller.durableId))
    {found : Option FruAlert}
    (looked : Controller.prevAlertType controller.durableId previous memory = .ok found) :
    Controller.inspect controller previous memory =
      .ok ⟨memory.insert controller.durableId ⟨.degraded, .fault⟩,
        (if found = some .missing then [.insertion] else []) ++ [.fault], true, found⟩ := by
  simp only [Controller.inspect, health, if_pos new, looked]
  rfl

theorem controller_old (controller : ControllerReading ν) (memory : Memory ν FruEntry) :
    controllerClasses.old controller memory =
      (memory.lookup controller.durableId).map FruEntry.alertType := rfl

theorem controller_new (controller : ControllerReading ν) (memory : Memory ν FruEntry) :
    controllerClasses.new controller memory =
      (classOf controller.health controller.notInstalled).getD
        ((memory.lookup controller.durableId).map FruEntry.alertType) := rfl

theorem controller_fault_right
    (written : ∀ id entry, memory.lookup id = some entry → Written entry)
    (health : controller.health = .fault)
    (steady : ∀ entry, memory.lookup controller.durableId = some entry →
      entry.health = .fault → entry.alertType = faultAlert controller.notInstalled) :
    ∃ turn, Controller.inspect controller previous memory = .ok turn ∧
      Right controllerClasses controller memory turn := by
  have new := controller_new controller memory
  simp only [health, classOf, Option.getD_some] at new
  simp only [Controller.inspect, health]
  split
  · exact ⟨_, rfl, .insert new.symm (written_fault _), fun _ => by rw [new]; rfl⟩
  · rename_i known
    obtain ⟨entry, found⟩ : ∃ entry, memory.lookup controller.durableId = some entry :=
      Option.ne_none_iff_exists'.mp fun none => known (.inr none)
    have fault : entry.health = .fault := by
      obtain ⟨fault, -⟩ | ⟨degraded, -⟩ := written _ _ found
      · exact fault
      · exact absurd (.inl (by rw [found, Option.map_some, degraded])) known
    refine ⟨_, rfl, .unchanged ?_ written⟩
    rw [controller_old, new, found, Option.map_some, steady entry found fault]

theorem controller_degraded_right
    (written : ∀ id entry, memory.lookup id = some entry → Written entry)
    (health : controller.health = .degraded)
    (present : (memory.lookup controller.durableId).map FruEntry.alertType ≠ some .missing)
    (fresh : memory.lookup controller.durableId = none →
      memory.entries = [] ∧ previous ≠ some .missing) :
    ∃ turn, Controller.inspect controller previous memory = .ok turn ∧
      Right controllerClasses controller memory turn := by
  have new := controller_new controller memory
  simp only [health, classOf, Option.getD_some] at new
  cases found : memory.lookup controller.durableId with
  | none =>
      obtain ⟨empty, previous⟩ := fresh found
      refine ⟨_, inspect_degraded health (.inr found) (if_pos empty), .insert new.symm
        written_degraded, fun _ => ?_⟩
      rw [if_neg previous, new]
      rfl
  | some entry =>
      have fault : entry.alertType = .fault := by
        refine (written _ _ found).alertType.resolve_left fun missing => present ?_
        rw [found, Option.map_some, missing]
      have same : controllerClasses.old controller memory =
          controllerClasses.new controller memory := by
        rw [controller_old, new, found, Option.map_some, fault]
      by_cases faulty : Controller.comesFrom .fault (memory.lookup controller.durableId)
      · exact ⟨_, inspect_degraded health faulty (prevAlertType_of_known found previous),
          .insert new.symm written_degraded, fun changed => absurd same changed⟩
      · refine ⟨unchanged memory previous, ?_, .unchanged same written⟩
        simp only [Controller.inspect, health, if_neg faulty]

theorem controller_right (written : ∀ id entry, memory.lookup id = some entry → Written entry)
    (clean : controllerClean history controller previous memory) :
    ∃ turn, Controller.inspect controller previous memory = .ok turn ∧
      Right controllerClasses controller memory turn := by
  obtain ⟨steady, degrades⟩ := clean
  cases health : controller.health with
  | fault => exact controller_fault_right written health (steady health)
  | degraded =>
      obtain ⟨present, fresh⟩ := degrades health
      exact controller_degraded_right written health present fresh
  | ok =>
      refine ⟨_, ?_, inspectHealthy_right previous health written⟩
      simp only [Controller.inspect, health]
  | other =>
      refine ⟨unchanged memory previous, ?_, .unchanged ?_ written⟩
      · simp only [Controller.inspect, health]
      · rw [controller_new, health]
        rfl

/-- The alerts of a turn that ends. -/
theorem raisedBy_controller {turn : Inspection ν FruEntry (Option FruAlert)}
    (ran : Controller.inspect controller previous memory = .ok turn) :
    raisedBy controllerSensor controller previous memory = turn.sends := by
  simp only [raisedBy, controllerSensor, ran]

theorem controller_needed (written : ∀ id entry, memory.lookup id = some entry → Written entry)
    (announced : controllerClasses.old controller memory ≠ controllerClasses.new controller memory →
      raisedBy controllerSensor controller previous memory =
        [alertFor (controllerClasses.old controller memory)
          (controllerClasses.new controller memory)]) :
    controllerClean history controller previous memory := by
  rw [controller_old, controller_new] at announced
  constructor
  · intro health entry found fault
    by_contra other
    have known : ¬ Controller.comesFrom .degraded (memory.lookup controller.durableId) := by
      simp [Controller.comesFrom, found, fault]
    have quiet : Controller.inspect controller previous memory =
        .ok (unchanged memory previous) := by
      simp only [Controller.inspect, health, if_neg known]
    rw [raisedBy_controller quiet, health, found] at announced
    exact absurd (announced (by simpa [classOf] using other)) (by simp [unchanged])
  · intro health
    rw [health] at announced
    constructor
    · intro missing
      obtain ⟨entry, found, alertType⟩ := Option.map_eq_some_iff.mp missing
      have fault : entry.health = .fault := by
        obtain ⟨fault, -⟩ | ⟨-, other⟩ := written _ _ found
        · exact fault
        · cases other.symm.trans alertType
      have faulty : Controller.comesFrom .fault (memory.lookup controller.durableId) :=
        .inl (by rw [found, Option.map_some, fault])
      rw [raisedBy_controller (inspect_degraded health faulty
        (prevAlertType_of_known found previous)), missing, alertType] at announced
      exact absurd (announced (by simp [classOf])) (by simp [classOf, alertFor])
    · intro none
      rw [none] at announced
      have alerts := announced (by simp [classOf])
      have entries : memory.entries = [] := by
        by_contra entries
        have ended : Controller.inspect controller previous memory = .error .attributeError := by
          simp only [Controller.inspect, health, none, Controller.comesFrom, or_true, if_true,
            prevAlertType_of_other none entries]
          rfl
        simp only [raisedBy, controllerSensor, ended] at alerts
        cases alerts
      refine ⟨entries, fun leaked => ?_⟩
      rw [raisedBy_controller (inspect_degraded health (.inr none) (if_pos entries)), leaked]
        at alerts
      cases alerts

theorem controller_discharged : Discharged (controllerSensor : FruSensor ν _ _ _)
    controllerClasses.changes controllerClean controllerClasses.Holds where
  initial := .nil
  recorded holds := holds.recorded
  turn := by
    intro history controller previous memory holds clean
    obtain ⟨turn, ran, books, alerts⟩ := controller_right holds.written clean
    exact ⟨turn, ran, holds.concat (Controller.inspect_turn ran).frame books,
      holds.announces_iff.mpr alerts⟩
  needed := by
    intro history controller previous memory holds raised
    exact controller_needed holds.written (holds.announces_iff.mp raised)

end Controller

/-- After every poll the recorded alert types are the classes of the latest readings, and every
change of class raises exactly the alert of the new one, if and only if every turn meets the
condition of its sensor. -/
theorem classes_recorded_iff :
    (∀ polls : List (List (PsuReading ν)),
      psuClasses.changes.Fulfilled psuSensor polls ↔
        ∃ s, (system psuSensor).Runs (Clean psuSensor psuClean) .empty polls s) ∧
    ∀ polls : List (List (ControllerReading ν)),
      controllerClasses.changes.Fulfilled controllerSensor polls ↔
        ∃ s, (system controllerSensor).Runs (Clean controllerSensor controllerClean) .empty
          polls s :=
  ⟨psu_discharged.fulfilled_iff, controller_discharged.fulfilled_iff⟩

namespace Example

/-- A missing power supply that comes back degraded stays recorded as missing. -/
theorem psu_class_missed : ¬ psuClasses.changes.Fulfilled psuSensor
    [[⟨1, .fault, true⟩], [(⟨1, .degraded, false⟩ : PsuReading Nat)]] := by
  have reached : ∃ s, (system psuSensor).FreeRuns .empty
      [[⟨1, .fault, true⟩], [(⟨1, .degraded, false⟩ : PsuReading Nat)]] s ∧
      (s.memory.lookup 1).map FruEntry.alertType ≠ psuClasses.known s.history 1 :=
    ⟨_, (Transition.System.run_eq_some_iff _).mp rfl, by decide⟩
  obtain ⟨s, run, missed⟩ := reached
  intro fulfilled
  have kept := (fulfilled_iff_always _).mp fulfilled
  exact missed ((kept _ [] s rfl run).1 1)

/-- A controller at fault that is removed stays recorded as at fault. -/
theorem controller_class_missed : ¬ controllerClasses.changes.Fulfilled controllerSensor
    [[⟨1, .fault, false⟩], [(⟨1, .fault, true⟩ : ControllerReading Nat)]] := by
  have reached : ∃ s, (system controllerSensor).FreeRuns .empty
      [[⟨1, .fault, false⟩], [(⟨1, .fault, true⟩ : ControllerReading Nat)]] s ∧
      (s.memory.lookup 1).map FruEntry.alertType ≠ controllerClasses.known s.history 1 :=
    ⟨_, (Transition.System.run_eq_some_iff _).mp rfl, by decide⟩
  obtain ⟨s, run, missed⟩ := reached
  intro fulfilled
  have kept := (fulfilled_iff_always _).mp fulfilled
  exact missed ((kept _ [] s rfl run).1 1)

/-- Neither sensor records the class of every FRU. -/
theorem classes_missed :
    ¬ ((∀ polls : List (List (PsuReading Nat)),
        psuClasses.changes.Fulfilled psuSensor polls) ∨
      ∀ polls : List (List (ControllerReading Nat)),
        controllerClasses.changes.Fulfilled controllerSensor polls) := by
  rintro (kept | kept)
  · exact psu_class_missed (kept _)
  · exact controller_class_missed (kept _)

end Example

end Classes

end Realstor

end Sspl

import Sspl.Foundation.Acyclic
import Sspl.Sensor.Bootstrap

/-!
# The check of the sensors' dependencies

`verify_sensor_dependency_graph` adds to the dependees of a sensor what these depend on and
repeats this as long as a set grows; a sensor in its own set is on a cycle. The set that has
grown is not assigned to the sensor, however, but to the dependee that the inner loop came to
last, which is then in its own set. So the check refuses every graph in which a set grows at
all: what it lets pass are the graphs whose dependencies are transitive.

Python walks through a set in an order of its own, which the results do not depend on.
-/

namespace Sspl

namespace Bootstrap

/-- The orders in which the sets of names are walked through: that of the sensors, which is also
the order of the items of `reachable`, and the order of the set of a sensor in each pass. -/
structure SetOrder (sensors : Finset String) where
  sensorModules : List String
  deps : Nat → String → Finset String → List String
  mem_sensorModules : ∀ m, m ∈ sensorModules ↔ m ∈ sensors
  mem_deps : ∀ pass m s, s ⊆ sensors → ∀ d, d ∈ deps pass m s ↔ d ∈ s

/-- The exception of the check, with the names in its text, and those of its statements. -/
inductive GraphError where
  | cycleDetected (first last : String)
  | raised (error : PyErr)
  deriving DecidableEq

/-- The variables of the loop; `d` is bound by the inner loop and stays bound after it. -/
structure Search where
  reachable : String → Option (Finset String)
  progress : Bool
  d : Option String

/-- The body of the inner loop. -/
def widen (reachable : String → Option (Finset String)) (acc : Finset String × Option String)
    (d : String) : Except GraphError (Finset String × Option String) :=
  match reachable d with
  | none => .error (.raised .keyError)
  | some further => .ok (acc.1 ∪ further, some d)

/-- The last statement of the outer loop, when the inner one has left `newDeps` and `d`. -/
def grow (s : Search) (deps newDeps : Finset String) (d : Option String) :
    Except GraphError Search :=
  if deps ⊂ newDeps then
    match d with
    | none => .error (.raised .nameError)
    | some d => .ok { reachable := Function.update s.reachable d (some newDeps),
                      progress := true, d := some d }
  else .ok { s with d := d }

/-- What is done for one item of `reachable`. -/
def visit {sensors : Finset String} (order : SetOrder sensors) (pass : Nat) (s : Search)
    (m : String) : Except GraphError Search :=
  match s.reachable m with
  | none => .error (.raised .keyError)
  | some deps =>
    if m ∈ deps then .error (.cycleDetected m m)
    else do
      let (newDeps, d) ← (order.deps pass m deps).foldlM (widen s.reachable) (deps, s.d)
      grow s deps newDeps d

/-- The `while` loop, from its pass number `pass` on. -/
def search {sensors : Finset String} (order : SetOrder sensors) :
    Nat → Nat → Search → Option (Except GraphError Unit)
  | 0, _, _ => none
  | fuel + 1, pass, s =>
    if s.progress then
      match order.sensorModules.foldlM (visit order pass) { s with progress := false } with
      | .error e => some (.error e)
      | .ok s' => search order fuel (pass + 1) s'
    else some (.ok ())

/-- `reachable` before the loop. -/
def initialReachable (stm : ModuleMap) (m : String) : Option (Finset String) :=
  if m ∈ stm.graph.sensors then some (getSensorThreadDeps m stm).toFinset else none

/-- The check, `none` if `fuel` rounds of the loop are not enough. -/
def verifySensorDependencyGraph (stm : ModuleMap) (order : SetOrder stm.graph.sensors)
    (fuel : Nat) : Option (Except GraphError Unit) :=
  search order fuel 0 { reachable := initialReachable stm, progress := true, d := none }

/-- One sensor waits for another. -/
def DependsOn (stm : ModuleMap) (m d : String) : Prop := d ∈ stm.graph.deps m

/-- The check ends, whatever the order of the sets; it returns if the graph has no cycle and raises
if it has one. -/
def Decides (stm : ModuleMap) (order : SetOrder stm.graph.sensors) : Prop :=
  ∃ outcome, (∃ fuel, verifySensorDependencyGraph stm order fuel = some outcome) ∧
    (outcome = .ok () ↔ Acyclic (DependsOn stm))

/-- The exception is that of the check itself. -/
def Refused {α : Type} (outcome : Except GraphError α) : Prop :=
  ∃ m, outcome = .error (.cycleDetected m m)

/-- Every sensor has a set, and its members have one too. -/
def Closed (sensors : Finset String) (reachable : String → Option (Finset String)) : Prop :=
  ∀ m ∈ sensors, ∃ deps, reachable m = some deps ∧ deps ⊆ sensors

/-- The set of `m` has all that is in the sets of its members. -/
def Saturated (reachable : String → Option (Finset String)) (m : String) : Prop :=
  ∀ deps, reachable m = some deps → m ∉ deps ∧
    ∀ d ∈ deps, ∀ further, reachable d = some further → further ⊆ deps

/-- A sensor is in its own set. -/
def SelfReaching (sensors : Finset String) (reachable : String → Option (Finset String)) : Prop :=
  ∃ d ∈ sensors, ∃ deps, reachable d = some deps ∧ d ∈ deps

section Search

variable {sensors : Finset String} {order : SetOrder sensors} {pass : Nat}

/-- The inner loop joins the sets of the members and leaves `d` at the last of them. -/
theorem foldlM_widen {reachable : String → Option (Finset String)} {ds : List String}
    (acc : Finset String × Option String)
    (known : ∀ d ∈ ds, ∃ further, reachable d = some further) :
    ∃ result, ds.foldlM (widen reachable) acc = .ok result ∧
      (∀ x, x ∈ result.1 ↔
        x ∈ acc.1 ∨ ∃ d ∈ ds, ∃ further, reachable d = some further ∧ x ∈ further) ∧
      (ds = [] ∧ result.2 = acc.2 ∨ ∃ d ∈ ds, result.2 = some d) := by
  induction ds generalizing acc with
  | nil => exact ⟨acc, rfl, by simp, .inl ⟨rfl, rfl⟩⟩
  | cons d rest ih =>
      obtain ⟨further, found⟩ := known d (.head _)
      obtain ⟨result, loop, mem, last⟩ :=
        ih (acc.1 ∪ further, some d) (fun x h => known x (.tail _ h))
      refine ⟨result, ?_, ?_, .inr ?_⟩
      · have head : widen reachable acc d = .ok (acc.1 ∪ further, some d) := by
          rw [widen, found]
        rw [List.foldlM_cons, head]
        exact loop
      · intro x
        rw [mem x]
        simp [found, or_assoc]
      · obtain ⟨-, same⟩ | ⟨x, later, bound⟩ := last
        · exact ⟨d, .head _, same⟩
        · exact ⟨x, .tail _ later, bound⟩

/-- What the inner loop leaves for the item `m` with the set `deps`. -/
structure Widened (s : Search) (deps newDeps : Finset String) (d : Option String) : Prop where
  mem : ∀ y, y ∈ newDeps ↔
    y ∈ deps ∨ ∃ x ∈ deps, ∃ further, s.reachable x = some further ∧ y ∈ further
  last : deps = ∅ ∨ ∃ x ∈ deps, d = some x

variable {s : Search} {m : String} {deps newDeps : Finset String} {d : Option String}

theorem exists_widened (closed : Closed sensors s.reachable) (found : s.reachable m = some deps)
    (inside : deps ⊆ sensors) (own : m ∉ deps) :
    ∃ newDeps d, Widened s deps newDeps d ∧ visit order pass s m = grow s deps newDeps d := by
  have members := order.mem_deps pass m deps inside
  obtain ⟨⟨newDeps, d⟩, loop, mem, last⟩ := @foldlM_widen s.reachable
    (order.deps pass m deps) (deps, s.d) (fun d h => by
      obtain ⟨further, known, -⟩ := closed d (inside ((members d).mp h))
      exact ⟨further, known⟩)
  refine ⟨newDeps, d, ⟨fun y => ?_, ?_⟩, ?_⟩
  · simp only [members] at mem
    exact mem y
  · obtain ⟨none_, -⟩ | ⟨x, member, bound⟩ := last
    · refine .inl (Finset.eq_empty_of_forall_notMem fun x h => ?_)
      have listed := (members x).mpr h
      rw [none_] at listed
      cases listed
    · exact .inr ⟨x, (members x).mp member, bound⟩
  · rw [visit, found]
    simp only [own, if_false]
    rw [loop]
    rfl

theorem Widened.subset (h : Widened s deps newDeps d) : deps ⊆ newDeps :=
  fun x member => (h.mem x).mpr (.inl member)

/-- Nothing is new exactly if the set has all that is in the sets of its members. -/
theorem Widened.saturated_iff (h : Widened s deps newDeps d) (found : s.reachable m = some deps)
    (own : m ∉ deps) : Saturated s.reachable m ↔ newDeps ⊆ deps := by
  constructor
  · intro saturated y new
    obtain old | ⟨x, member, further, known, reached⟩ := (h.mem y).mp new
    · exact old
    · exact (saturated deps found).2 x member further known reached
  · intro stays deps' found'
    cases found.symm.trans found'
    refine ⟨own, fun x member further known y reached => ?_⟩
    exact stays ((h.mem y).mpr (.inr ⟨x, member, further, known, reached⟩))

theorem Widened.inside (h : Widened s deps newDeps d) (closed : Closed sensors s.reachable)
    (inside : deps ⊆ sensors) : newDeps ⊆ sensors := by
  intro y new
  obtain old | ⟨x, member, further, known, reached⟩ := (h.mem y).mp new
  · exact inside old
  · obtain ⟨further', known', inside'⟩ := closed x (inside member)
    cases known.symm.trans known'
    exact inside' reached

/-- Where something is new the loop has bound `d`. -/
theorem Widened.bound (h : Widened s deps newDeps d) (grows : ¬ newDeps ⊆ deps) :
    ∃ x ∈ deps, d = some x := by
  refine h.last.resolve_left fun empty => grows fun y new => ?_
  obtain old | ⟨x, member, -⟩ := (h.mem y).mp new
  · exact old
  · rw [empty] at member
    cases member

/-- What one item does: it is refused, or nothing grows, or a set is assigned to one of the
members, which is in it. -/
theorem visit_cases (closed : Closed sensors s.reachable) (sensor : m ∈ sensors) :
    (¬ Saturated s.reachable m ∧ SelfReaching sensors s.reachable ∧
      Refused (visit order pass s m)) ∨
    (Saturated s.reachable m ∧ ∃ d, visit order pass s m = .ok { s with d := d }) ∨
    (¬ Saturated s.reachable m ∧ (∀ deps, s.reachable m = some deps → m ∉ deps) ∧
      ∃ d newDeps, d ∈ newDeps ∧ newDeps ⊆ sensors ∧ visit order pass s m = .ok
        { reachable := Function.update s.reachable d (some newDeps), progress := true,
          d := some d }) := by
  obtain ⟨deps, found, inside⟩ := closed m sensor
  by_cases own : m ∈ deps
  · refine .inl
      ⟨fun saturated => (saturated deps found).1 own, ⟨m, sensor, deps, found, own⟩, m, ?_⟩
    rw [visit, found]
    exact if_pos own
  obtain ⟨newDeps, d, widened, body⟩ : ∃ newDeps d, Widened s deps newDeps d ∧
      visit order pass s m = grow s deps newDeps d := exists_widened closed found inside own
  have saturated := widened.saturated_iff found own
  by_cases stays : newDeps ⊆ deps
  · refine .inr (.inl ⟨saturated.mpr stays, d, ?_⟩)
    rw [body]
    exact if_neg (fun h => h.2 stays)
  · obtain ⟨x, member, rfl⟩ := widened.bound stays
    refine .inr (.inr ⟨mt saturated.mp stays, fun deps' found' => ?_, x, newDeps,
      widened.subset member, widened.inside closed inside, ?_⟩)
    · cases found.symm.trans found'
      exact own
    · rw [body, grow, if_pos ⟨widened.subset, stays⟩]

theorem Closed.update {reachable : String → Option (Finset String)} {d : String}
    {newDeps : Finset String} (closed : Closed sensors reachable) (inside : newDeps ⊆ sensors) :
    Closed sensors (Function.update reachable d (some newDeps)) := by
  intro m sensor
  by_cases same : m = d
  · rw [same, Function.update_self]
    exact ⟨newDeps, rfl, inside⟩
  · rw [Function.update_of_ne same]
    exact closed m sensor

/-- A sensor that is in its own set stays in it, whatever is assigned. -/
theorem own_update {reachable : String → Option (Finset String)} {x d : String}
    {deps newDeps : Finset String} (found : reachable x = some deps) (own : x ∈ deps)
    (member : d ∈ newDeps) :
    ∃ deps, Function.update reachable d (some newDeps) x = some deps ∧ x ∈ deps := by
  by_cases same : x = d
  · rw [same, Function.update_self]
    exact ⟨newDeps, rfl, member⟩
  · rw [Function.update_of_ne same]
    exact ⟨deps, found, own⟩

/-- A pass that comes to a sensor in its own set raises. -/
theorem pass_refused {ms : List String} {s : Search} (known : ∀ m ∈ ms, m ∈ sensors)
    (closed : Closed sensors s.reachable)
    (own : ∃ x ∈ ms, ∃ deps, s.reachable x = some deps ∧ x ∈ deps) :
    Refused (ms.foldlM (visit order pass) s) := by
  induction ms generalizing s with
  | nil =>
      obtain ⟨x, mem, -⟩ := own
      cases mem
  | cons m rest ih =>
      have rest_known : ∀ x ∈ rest, x ∈ sensors := fun x h => known x (.tail _ h)
      obtain ⟨x, mem, deps, found, inside⟩ := own
      rw [List.foldlM_cons]
      obtain ⟨-, -, x, refused⟩ | ⟨saturated, d, quiet⟩ |
          ⟨-, other, d, newDeps, member, bound, grown⟩ :=
        @visit_cases _ order pass _ _ closed (known m (.head _))
      · exact ⟨x, by rw [refused]; rfl⟩
      · obtain rfl | later := List.mem_cons.mp mem
        · exact absurd inside (saturated deps found).1
        · rw [quiet]
          exact ih rest_known closed ⟨x, later, deps, found, inside⟩
      · obtain rfl | later := List.mem_cons.mp mem
        · exact absurd inside (other deps found)
        · rw [grown]
          exact ih rest_known (closed.update bound) ⟨x, later, own_update found inside member⟩

/-- Where every set is saturated, a pass changes nothing. -/
theorem pass_quiet {ms : List String} {s : Search} (known : ∀ m ∈ ms, m ∈ sensors)
    (closed : Closed sensors s.reachable) (saturated : ∀ m ∈ ms, Saturated s.reachable m) :
    ∃ d, ms.foldlM (visit order pass) s = .ok { s with d := d } := by
  induction ms generalizing s with
  | nil => exact ⟨s.d, rfl⟩
  | cons m rest ih =>
      rw [List.foldlM_cons]
      obtain ⟨not, -⟩ | ⟨-, d, quiet⟩ | ⟨not, -⟩ :=
        @visit_cases _ order pass _ _ closed (known m (.head _))
      · exact absurd (saturated m (.head _)) not
      · rw [quiet]
        exact ih (fun x h => known x (.tail _ h)) closed (fun x h => saturated x (.tail _ h))
      · exact absurd (saturated m (.head _)) not

/-- Another pass is due, and in it a sensor is in its own set. -/
def Spoiled (sensors : Finset String) (s : Search) : Prop :=
  s.progress = true ∧ Closed sensors s.reachable ∧ SelfReaching sensors s.reachable

theorem pass_spoiled {ms : List String} {s : Search} (known : ∀ m ∈ ms, m ∈ sensors)
    (spoiled : Spoiled sensors s) :
    Refused (ms.foldlM (visit order pass) s) ∨
      ∃ s', ms.foldlM (visit order pass) s = .ok s' ∧ Spoiled sensors s' := by
  induction ms generalizing s with
  | nil => exact .inr ⟨s, rfl, spoiled⟩
  | cons m rest ih =>
      have rest_known : ∀ x ∈ rest, x ∈ sensors := fun x h => known x (.tail _ h)
      obtain ⟨due, closed, x, sensor, deps, found, own⟩ := spoiled
      rw [List.foldlM_cons]
      obtain ⟨-, -, x, refused⟩ | ⟨-, d, quiet⟩ | ⟨-, -, d, newDeps, member, bound, grown⟩ :=
        @visit_cases _ order pass _ _ closed (known m (.head _))
      · exact .inl ⟨x, by rw [refused]; rfl⟩
      · rw [quiet]
        exact ih rest_known ⟨due, closed, x, sensor, deps, found, own⟩
      · rw [grown]
        exact ih rest_known
          ⟨rfl, closed.update bound, x, sensor, own_update found own member⟩

/-- A pass that comes to a set that is not saturated raises or leaves a sensor in its own set. -/
theorem pass_unsaturated {ms : List String} {s : Search} (known : ∀ m ∈ ms, m ∈ sensors)
    (closed : Closed sensors s.reachable) (unsaturated : ∃ m ∈ ms, ¬ Saturated s.reachable m) :
    Refused (ms.foldlM (visit order pass) s) ∨
      ∃ s', ms.foldlM (visit order pass) s = .ok s' ∧ Spoiled sensors s' := by
  induction ms generalizing s with
  | nil =>
      obtain ⟨x, mem, -⟩ := unsaturated
      cases mem
  | cons m rest ih =>
      have rest_known : ∀ x ∈ rest, x ∈ sensors := fun x h => known x (.tail _ h)
      obtain ⟨x, mem, not⟩ := unsaturated
      rw [List.foldlM_cons]
      obtain ⟨-, -, x, refused⟩ | ⟨saturated, d, quiet⟩ |
          ⟨-, -, d, newDeps, member, bound, grown⟩ :=
        @visit_cases _ order pass _ _ closed (known m (.head _))
      · exact .inl ⟨x, by rw [refused]; rfl⟩
      · obtain rfl | later := List.mem_cons.mp mem
        · exact absurd saturated not
        · rw [quiet]
          exact ih rest_known closed ⟨x, later, not⟩
      · rw [grown]
        apply pass_spoiled rest_known
        refine ⟨rfl, closed.update bound, d, bound member, newDeps, ?_, member⟩
        exact Function.update_self ..

theorem search_succ (fuel : Nat) {s : Search} (due : s.progress = true) :
    search order (fuel + 1) pass s =
      match order.sensorModules.foldlM (visit order pass) { s with progress := false } with
      | .error e => some (.error e)
      | .ok s' => search order fuel (pass + 1) s' := by
  rw [search, if_pos due]

/-- With a sensor in its own set the loop ends in the pass that is due. -/
theorem search_spoiled (fuel : Nat) {s : Search} (spoiled : Spoiled sensors s) :
    ∃ m, search order (fuel + 1) pass s = some (.error (.cycleDetected m m)) := by
  obtain ⟨due, closed, x, sensor, own⟩ := spoiled
  obtain ⟨m, refused⟩ := @pass_refused _ order pass order.sensorModules
    { s with progress := false } (fun m h => (order.mem_sensorModules m).mp h) closed
    ⟨x, (order.mem_sensorModules x).mpr sensor, own⟩
  refine ⟨m, ?_⟩
  rw [search_succ fuel due, refused]

/-- The loop returns after one pass if all sets are saturated, and raises in the first or second
pass otherwise. -/
theorem search_outcome (fuel : Nat) {s : Search} (due : s.progress = true)
    (closed : Closed sensors s.reachable) :
    ((∀ m ∈ sensors, Saturated s.reachable m) ∧ search order (fuel + 2) pass s = some (.ok ())) ∨
    ((∃ m ∈ sensors, ¬ Saturated s.reachable m) ∧
      ∃ m, search order (fuel + 2) pass s = some (.error (.cycleDetected m m))) := by
  have known : ∀ m ∈ order.sensorModules, m ∈ sensors :=
    fun m h => (order.mem_sensorModules m).mp h
  by_cases saturated : ∀ m ∈ sensors, Saturated s.reachable m
  · obtain ⟨d, quiet⟩ := @pass_quiet _ order pass order.sensorModules
      { s with progress := false } known closed (fun m h => saturated m (known m h))
    refine .inl ⟨saturated, ?_⟩
    rw [search_succ (fuel + 1) due, quiet]
    rfl
  · push Not at saturated
    obtain ⟨x, sensor, not⟩ := saturated
    refine .inr ⟨⟨x, sensor, not⟩, ?_⟩
    rw [search_succ (fuel + 1) due]
    obtain ⟨m, refused⟩ | ⟨s', ended, spoiled⟩ := @pass_unsaturated _ order pass
      order.sensorModules { s with progress := false } known closed
      ⟨x, (order.mem_sensorModules x).mpr sensor, not⟩
    · exact ⟨m, by rw [refused]⟩
    · rw [ended]
      exact search_spoiled fuel spoiled

end Search

section Verify

variable {stm : ModuleMap} {order : SetOrder stm.graph.sensors}

theorem initialReachable_of_sensor {m : String} (sensor : m ∈ stm.graph.sensors) :
    initialReachable stm m = some (stm.graph.deps m) := by
  rw [initialReachable, if_pos sensor]
  refine congrArg some (Eq.symm ?_)
  exact if_pos (List.mem_toFinset.mp sensor)

theorem closed_initialReachable (stm : ModuleMap) :
    Closed stm.graph.sensors (initialReachable stm) := by
  intro m sensor
  refine ⟨stm.graph.deps m, initialReachable_of_sensor sensor, ?_⟩
  intro d dep
  exact (stm.graph.closed m d dep).2

/-- The sets are saturated from the beginning when the dependencies are transitive and no sensor
declares itself. -/
theorem saturated_iff : (∀ m ∈ stm.graph.sensors, Saturated (initialReachable stm) m) ↔
    (∀ m, ¬ DependsOn stm m m) ∧ IsTrans String (DependsOn stm) := by
  constructor
  · intro saturated
    constructor
    · intro m own
      have sensor := (stm.graph.closed m m own).1
      exact (saturated m sensor _ (initialReachable_of_sensor sensor)).1 own
    · constructor
      intro m d e first second
      have sensors := stm.graph.closed m d first
      exact (saturated m sensors.1 _ (initialReachable_of_sensor sensors.1)).2 d first _
        (initialReachable_of_sensor sensors.2) second
  · rintro ⟨irreflexive, transitive⟩ m sensor deps found
    cases (initialReachable_of_sensor sensor).symm.trans found
    refine ⟨irreflexive m, ?_⟩
    intro d dep further known e member
    cases (initialReachable_of_sensor (stm.graph.closed m d dep).2).symm.trans known
    exact transitive.trans m d e dep member

/-- A transitive graph has a cycle only if a sensor declares itself. -/
theorem saturated_iff_acyclic : (∀ m ∈ stm.graph.sensors, Saturated (initialReachable stm) m) ↔
    Acyclic (DependsOn stm) ∧ IsTrans String (DependsOn stm) := by
  rw [saturated_iff]
  constructor
  · rintro ⟨irreflexive, transitive⟩
    refine ⟨?_, transitive⟩
    intro m loop
    rw [Relation.transGen_eq_self] at loop
    exact irreflexive m loop
  · rintro ⟨acyclic, transitive⟩
    exact ⟨fun m own => acyclic m (.single own), transitive⟩

/-- More fuel does not change the outcome. -/
theorem search_mono {sensors : Finset String} {order : SetOrder sensors} {fuel pass : Nat}
    {s : Search} {outcome : Except GraphError Unit} (more : Nat)
    (ended : search order fuel pass s = some outcome) :
    search order (fuel + more) pass s = some outcome := by
  induction fuel generalizing pass s with
  | zero => cases ended
  | succ fuel ih =>
      rw [search] at ended
      rw [Nat.add_right_comm, search]
      split at ended
      · rw [if_pos ‹_›]
        split at ended
        · exact ended
        · exact ih ended
      · rw [if_neg ‹_›]
        exact ended

/-- The check always ends: it returns if the graph is acyclic and transitive, and otherwise
raises its own exception. -/
theorem verifySensorDependencyGraph_outcome (stm : ModuleMap) (order : SetOrder stm.graph.sensors) :
    ∃ outcome, verifySensorDependencyGraph stm order 2 = some outcome ∧
      (outcome = .ok () ∧ Acyclic (DependsOn stm) ∧ IsTrans String (DependsOn stm) ∨
        Refused outcome ∧ ¬ (Acyclic (DependsOn stm) ∧ IsTrans String (DependsOn stm))) := by
  obtain ⟨saturated, ended⟩ | ⟨⟨x, sensor, not⟩, m, ended⟩ :=
    @search_outcome _ order 0 0 ⟨initialReachable stm, true, none⟩ rfl
      (closed_initialReachable stm)
  · exact ⟨_, ended, .inl ⟨rfl, saturated_iff_acyclic.mp saturated⟩⟩
  · refine ⟨_, ended, .inr ⟨⟨m, rfl⟩, ?_⟩⟩
    intro good
    exact not (saturated_iff_acyclic.mpr good x sensor)

theorem decides_iff_outcome {outcome : Except GraphError Unit}
    (ended : verifySensorDependencyGraph stm order 2 = some outcome) :
    Decides stm order ↔ (outcome = .ok () ↔ Acyclic (DependsOn stm)) := by
  constructor
  · rintro ⟨outcome', ⟨fuel, ended'⟩, decides⟩
    have later := search_mono 2 ended'
    rw [Nat.add_comm] at later
    cases (search_mono fuel ended).symm.trans later
    exact decides
  · intro decides
    exact ⟨outcome, ⟨2, ended⟩, decides⟩

end Verify

/-- The check decides whether there is a cycle exactly where there is one or the dependencies are
transitive: it takes every other acyclic graph for a cyclic one. -/
theorem verifySensorDependencyGraph_decides_iff (stm : ModuleMap)
    (order : SetOrder stm.graph.sensors) : Decides stm order ↔
      (¬ Acyclic (DependsOn stm) ∨ IsTrans String (DependsOn stm)) := by
  obtain ⟨outcome, ended, ⟨ok, acyclic, transitive⟩ | ⟨⟨m, refused⟩, not⟩⟩ :=
    verifySensorDependencyGraph_outcome stm order
  · rw [decides_iff_outcome ended]
    exact ⟨fun _ => .inr transitive, fun _ => ⟨fun _ => acyclic, fun _ => ok⟩⟩
  · rw [decides_iff_outcome ended, refused]
    constructor
    · intro decides
      exact .inl (fun acyclic => by cases decides.mpr acyclic)
    · rintro (cyclic | transitive)
      · exact iff_of_false (by simp) cyclic
      · exact iff_of_false (by simp) (fun acyclic => not ⟨acyclic, transitive⟩)

/-- Three sensors of which each waits for the next. -/
def chain : ModuleMap where
  items := [("A", ⟨true, some ⟨[], [], some ["B"]⟩⟩), ("B", ⟨true, some ⟨[], [], some ["C"]⟩⟩),
    ("C", ⟨true, none⟩)]
  distinct := by decide

def chainOrder : SetOrder chain.graph.sensors where
  sensorModules := chain.sensorNames
  deps _ _ s := chain.sensorNames.filter (· ∈ s)
  mem_sensorModules m := List.mem_toFinset.symm
  mem_deps _ _ s inside d := by
    rw [List.mem_filter, decide_eq_true_iff]
    exact ⟨fun h => h.2, fun h => ⟨List.mem_toFinset.mp (inside h), h⟩⟩

/-- Of three sensors, each depends on the next one: no cycle, and one is reported. -/
theorem chain_not_decided : ¬ Decides chain chainOrder := by
  have refused : verifySensorDependencyGraph chain chainOrder 2 =
      some (.error (.cycleDetected "B" "B")) := by decide +kernel
  rw [decides_iff_outcome refused]
  intro decides
  have acyclic : Acyclic (DependsOn chain) := by
    apply Acyclic.of_rank (fun m => if m = "A" then 0 else if m = "B" then 1 else 2)
    intro m d dep
    obtain ⟨sensor, -⟩ := chain.graph.closed m d dep
    have all : ∀ m ∈ chain.graph.sensors, ∀ d ∈ chain.graph.deps m,
        (if m = "A" then 0 else if m = "B" then 1 else 2) <
          (if d = "A" then 0 else if d = "B" then 1 else 2) := by decide +kernel
    exact all m sensor d dep
  cases decides.mpr acyclic

end Bootstrap

end Sspl

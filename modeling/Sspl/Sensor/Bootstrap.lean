import Sspl.Python.Value
import Sspl.Sensor.Outcome

/-!
# The modules that are skipped and the controller that waits

`main` checks the declared dependencies of all modules, prepares the sensors among
them and starts those modules whose dependencies are there. `ThreadController.run`
goes on when no `SensorThread` of its module map is `WAITING`. The map it is given
contains the skipped modules as well, and a skipped sensor leaves `WAITING` only
when one of its dependees tells it that it does not run.

The module map is the dictionary in its order of insertion. `main` goes on to start
the modules when `verify_sensor_dependency_graph` has returned.
-/

namespace Sspl

open DependencyState InitState SensorThreadState

/-- What `dependencies()` returns for a module; `plugins` and `rpms` default to the empty list, and
without `init` there is nothing to wait for. -/
structure Dependencies where
  plugins : List String
  rpms : List String
  init : Option (List String)

structure Module where
  /-- The module is a `SensorThread`. -/
  sensor : Bool
  /-- The module has the attribute `dependencies`. -/
  dependencies : Option Dependencies

/-- The modules that were loaded, in the order of the dictionary, under distinct names. -/
structure ModuleMap where
  items : List (String × Module)
  distinct : (items.map (fun p => p.1)).Nodup

namespace ModuleMap

def find (modules : ModuleMap) (name : String) : Option Module := modules.items.lookup name

def sensorNames (modules : ModuleMap) : List String :=
  (modules.items.filter (fun p => p.2.sensor)).map (fun p => p.1)

end ModuleMap

namespace Bootstrap

/-- How names are stripped, and what the package manager says of an rpm. -/
structure Conf where
  /-- The characters that `strip` removes. -/
  space : Char → Bool
  /-- The call of `rpm -q`, up to the end of the child process. -/
  query : String → Except PyErr Unit

def isBlank (conf : Conf) (name : String) : Bool := name.toList.all conf.space

/-- The return code is taken from a variable that is bound nowhere. -/
def isPackageInstalled (conf : Conf) (rpmName : String) : Except PyErr Bool := do
  if isBlank conf rpmName then throw .typeError
  conf.query rpmName
  throw .nameError

def areRpmDependenciesLoaded (conf : Conf) (pluginName : String) (rpmDeps : List String) :
    Except PyErr Bool := do
  if isBlank conf pluginName then throw .typeError
  if rpmDeps.length = 0 then return true
  for rpm in rpmDeps do
    let _ ← isPackageInstalled conf rpm
  return false

def areExternalDependenciesAvailable (conf : Conf) (pluginName : String) (rpmDeps : List String) :
    Except PyErr Bool := do
  if isBlank conf pluginName then throw .typeError
  areRpmDependenciesLoaded conf pluginName rpmDeps

def areInternalDependenciesLoaded (conf : Conf) (pluginName : String) (internalDeps : List String)
    (loadedModuleList : ModuleMap) : Except PyErr Bool := do
  if isBlank conf pluginName then throw .typeError
  if loadedModuleList.items.isEmpty then throw .typeError
  return internalDeps.all (fun plugin => (loadedModuleList.find plugin).isSome)

/-- The iteration of `check_dependencies` for one module. -/
def checkModule (conf : Conf) (modules : ModuleMap) (broken : Finset String) (name : String)
    (module : Module) : Except PyErr (Finset String) :=
  match module.dependencies with
  | none => return broken
  | some dependencies => do
    let internal ← areInternalDependenciesLoaded conf name dependencies.plugins modules
    let broken := if internal then broken else insert name broken
    let external ← areExternalDependenciesAvailable conf name dependencies.rpms
    return if external then broken else insert name broken

/-- The names of the modules with missing dependencies. -/
def checkDependencies (conf : Conf) (modules : ModuleMap) : Except PyErr (Finset String) :=
  modules.items.foldlM (fun broken p => checkModule conf modules broken p.1 p.2) ∅

def getSensorThreadDeps (name : String) (modules : ModuleMap) : List String :=
  match (modules.find name).bind (fun module => module.dependencies) with
  | none => []
  | some dependencies =>
    (dependencies.init.getD []).filter (fun n => (modules.find n).any (fun m => m.sensor))

/-- A dependee is a `SensorThread` of the map. -/
theorem sensor_of_dep {name n : String} {modules : ModuleMap}
    (dep : n ∈ getSensorThreadDeps name modules) :
    ∃ module, modules.find n = some module ∧ module.sensor := by
  rw [getSensorThreadDeps] at dep
  split at dep
  · simp at dep
  · simpa [Option.any_eq_true] using (List.mem_filter.mp dep).2

end Bootstrap

namespace ModuleMap

variable (modules : ModuleMap)

theorem mem_of_find {name : String} {module : Module} (found : modules.find name = some module) :
    (name, module) ∈ modules.items := by
  obtain ⟨before, after, split, -⟩ := List.lookup_eq_some_iff.mp found
  rw [split]
  exact List.mem_append_right _ (.head _)

/-- A name stands for one module. -/
theorem unique {name : String} {module module' : Module} (mem : (name, module) ∈ modules.items)
    (mem' : (name, module') ∈ modules.items) : module = module' :=
  congrArg Prod.snd (List.inj_on_of_nodup_map modules.distinct mem mem' rfl)

theorem mem_sensorNames {name : String} :
    name ∈ modules.sensorNames ↔ ∃ module, (name, module) ∈ modules.items ∧ module.sensor := by
  simp [sensorNames]

/-- The sensors of the map and what `main` prepares them with. -/
def graph : SensorGraph String where
  sensors := modules.sensorNames.toFinset
  deps name := if name ∈ modules.sensorNames
    then (Bootstrap.getSensorThreadDeps name modules).toFinset else ∅
  closed := by
    intro s d dep
    split at dep
    · rename_i sensor
      refine ⟨List.mem_toFinset.mpr sensor, ?_⟩
      obtain ⟨module, found, isSensor⟩ := Bootstrap.sensor_of_dep (List.mem_toFinset.mp dep)
      exact List.mem_toFinset.mpr (modules.mem_sensorNames.mpr
        ⟨module, modules.mem_of_find found, isSensor⟩)
    · simp at dep

end ModuleMap

namespace Bootstrap

/-- The loop of `main` over `prepare`. -/
def prepared (modules : ModuleMap) : Start.State String :=
  Start.prepareAll modules.graph modules.sensorNames

/-- The steps in the threads of the modules that `main` starts, with the events they
cause. -/
def ByStarted (broken : Finset String) (_ : Start.State String) : Start.Action String → Prop
  | .startThread s | .initializeEnds s _ | .conclude s | .checkAndRun s => s ∉ broken
  | .event _ _ => True

end Bootstrap

/-- What `ThreadController.run` reads and writes. -/
structure ThreadController (R : Type) where
  threadsInitialized : Bool
  /-- The start-up message was sent. -/
  announced : Bool
  queue : List R
  processed : List R

namespace ThreadController

variable {R : Type}

/-- The loop over the module map. -/
def continueWaiting (modules : ModuleMap) (σ : Start.State String) : Bool :=
  modules.items.any (fun p => p.2.sensor && decide ((σ p.1).thread.status = waiting))

/-- The `try` block: the first request is waited for, and an exception of
`_process_msg` leaves the rest in the queue. -/
def processRequests (process : R → Except PyErr Unit) : List R → List R → List R × List R
  | processed, [] => (processed, [])
  | processed, request :: queue =>
    match process request with
    | .ok () => processRequests process (processed ++ [request]) queue
    | .error _ => (processed ++ [request], queue)

/-- One call of `run`; `enabled` says that the product is one of `enabled_products`. -/
def run (process : R → Except PyErr Unit) (enabled : Bool) (modules : ModuleMap)
    (σ : Start.State String) (c : ThreadController R) : ThreadController R :=
  if enabled && !c.threadsInitialized && continueWaiting modules σ then c
  else
    let c := if enabled && !c.threadsInitialized
      then { c with announced := true, threadsInitialized := true } else c
    let (processed, queue) := processRequests process c.processed c.queue
    { c with processed := processed, queue := queue }

end ThreadController

/-- The module declares a plugin that is not in the map. -/
def Module.Incomplete (module : Module) (modules : ModuleMap) : Prop :=
  ∃ dependencies, module.dependencies = some dependencies ∧
    ∃ plugin ∈ dependencies.plugins, modules.find plugin = none

namespace Bootstrap

variable {conf : Conf} {modules : ModuleMap} {broken : Finset String} {name : String}

/-- A module that declares no sensors to wait for depends on none. -/
theorem getSensorThreadDeps_eq_nil (h : ∀ module dependencies, (name, module) ∈ modules.items →
    module.dependencies = some dependencies → dependencies.init = none) :
    getSensorThreadDeps name modules = [] := by
  rw [getSensorThreadDeps]
  split
  · rfl
  · rename_i dependencies declared
    obtain ⟨module, found, declared⟩ := Option.bind_eq_some_iff.mp declared
    rw [h module dependencies (modules.mem_of_find found) declared]
    rfl

theorem isPackageInstalled_ne_ok (conf : Conf) (rpm : String) (installed : Bool) :
    isPackageInstalled conf rpm ≠ .ok installed := by
  rw [isPackageInstalled]
  cases isBlank conf rpm <;> cases conf.query rpm <;> nofun

/-- The check for packages succeeds only without packages to check. -/
theorem areExternalDependenciesAvailable_eq_ok {rpms : List String} {available : Bool}
    (h : areExternalDependenciesAvailable conf name rpms = .ok available) :
    available = true ∧ rpms = [] := by
  rw [areExternalDependenciesAvailable] at h
  cases blank : isBlank conf name with
  | true =>
      rw [blank] at h
      cases h
  | false =>
      simp only [blank, Bool.false_eq_true, if_false] at h
      rw [areRpmDependenciesLoaded] at h
      simp only [blank, Bool.false_eq_true, if_false] at h
      cases rpms with
      | nil =>
          cases h
          exact ⟨rfl, rfl⟩
      | cons rpm rest =>
          rw [if_neg (by simp), List.forIn_cons, bind_assoc, bind_assoc] at h
          obtain ⟨installed, found, -⟩ := bind_eq_ok.mp h
          exact absurd found (isPackageInstalled_ne_ok conf rpm installed)

theorem areInternalDependenciesLoaded_eq_ok {plugins : List String} {loaded : Bool}
    (h : areInternalDependenciesLoaded conf name plugins modules = .ok loaded) :
    loaded = plugins.all (fun plugin => (modules.find plugin).isSome) := by
  rw [areInternalDependenciesLoaded] at h
  cases blank : isBlank conf name <;> cases none : modules.items.isEmpty <;>
    rw [blank, none] at h <;> cases h
  rfl

/-- The iteration adds exactly the modules with a missing plugin. -/
theorem checkModule_eq_ok {module : Module} {broken' : Finset String}
    (h : checkModule conf modules broken name module = .ok broken') (n : String) :
    n ∈ broken' ↔ n ∈ broken ∨ n = name ∧ module.Incomplete modules := by
  rw [checkModule] at h
  split at h
  · rename_i none
    cases h
    simp [Module.Incomplete, none]
  · rename_i dependencies declared
    obtain ⟨internal, loaded, h⟩ := bind_eq_ok.mp h
    obtain ⟨external, available, h⟩ := bind_eq_ok.mp h
    obtain ⟨rfl, -⟩ := areExternalDependenciesAvailable_eq_ok available
    have incomplete : module.Incomplete modules ↔ internal = false := by
      rw [areInternalDependenciesLoaded_eq_ok loaded, List.all_eq_false]
      simp [Module.Incomplete, declared]
    rw [incomplete]
    cases internal <;> cases h <;> simp [or_comm]

theorem mem_broken_iff (check : checkDependencies conf modules = .ok broken) (n : String) :
    n ∈ broken ↔ ∃ module, (n, module) ∈ modules.items ∧ module.Incomplete modules := by
  have fold : ∀ (items : List (String × Module)) (before after : Finset String),
      items.foldlM (fun broken p => checkModule conf modules broken p.1 p.2) before = .ok after →
        (n ∈ after ↔ n ∈ before ∨ ∃ module, (n, module) ∈ items ∧ module.Incomplete modules) := by
    intro items
    induction items with
    | nil =>
        rintro before _ ⟨⟩
        simp
    | cons p rest ih =>
        intro before after h
        rw [List.foldlM_cons] at h
        obtain ⟨middle, first, others⟩ := bind_eq_ok.mp h
        rw [ih _ _ others, checkModule_eq_ok first, or_assoc]
        refine or_congr_right ?_
        constructor
        · rintro (⟨rfl, incomplete⟩ | ⟨module, mem, incomplete⟩)
          · exact ⟨p.2, .head _, incomplete⟩
          · exact ⟨module, .tail _ mem, incomplete⟩
        · rintro ⟨module, mem, incomplete⟩
          obtain rfl | mem := List.mem_cons.mp mem
          · exact .inl ⟨rfl, incomplete⟩
          · exact .inr ⟨module, mem, incomplete⟩
  rw [fold _ _ _ check]
  simp

end Bootstrap

namespace Sensor

variable {ν : Type} {x : Sensor ν}

/-- A sensor that is not started: it has failed when a dependee has told it that it
does not run, and is waiting otherwise. -/
structure Skipped (x : Sensor ν) : Prop where
  initStatus : x.thread.initStatus = initializing
  inTime : x.thread.hasTimedOut = false
  deps : x.thread.depsStatus = depsFailed → 0 < x.thread.numFailedDependees
  status : x.thread.status = waiting ∧ x.thread.numFailedDependees = 0 ∨
    x.thread.status = failed ∧ 0 < x.thread.numFailedDependees

theorem Skipped.left_iff (h : x.Skipped) :
    x.thread.status ≠ waiting ↔ 0 < x.thread.numFailedDependees := by
  obtain ⟨waits, none⟩ | ⟨left, some⟩ := h.status
  · simp [waits, none]
  · simp [left, some, failed, waiting]

variable [DecidableEq ν]

theorem Skipped.told (h : x.Skipped) (d : ν) : (x.told d).Skipped :=
  ⟨h.initStatus, h.inTime, h.deps, h.status⟩

/-- It cannot succeed, and fails exactly when a dependee has failed. -/
theorem Skipped.conclude (initStatus : x.thread.initStatus = initializing)
    (inTime : x.thread.hasTimedOut = false)
    (deps : x.thread.depsStatus = depsFailed → 0 < x.thread.numFailedDependees)
    (status : x.thread.status = waiting ∨
      x.thread.status = failed ∧ 0 < x.thread.numFailedDependees) : x.conclude.Skipped := by
  obtain still | ⟨left, some⟩ := status
  · have outcome : x.thread.depsOutcome = depsFailed ↔ 0 < x.thread.numFailedDependees := by
      constructor
      · intro isFailed
        by_contra none
        have none : x.thread.numFailedDependees = 0 := by omega
        rw [SensorThread.depsOutcome, if_neg (not_not.mpr none)] at isFailed
        split at isFailed
        · cases isFailed
        · have := deps isFailed
          omega
      · exact fun some => SensorThread.depsOutcome_of_failed (by omega)
    obtain ⟨run, notFailed, -⟩ | ⟨run, isFailed⟩ | ⟨run, -, succeeded⟩ := conclude_cases still
    · rw [run]
      have none : x.thread.numFailedDependees = 0 := by
        by_contra some
        exact notFailed (outcome.mpr (by omega))
      exact ⟨initStatus, inTime, outcome.mp, .inl ⟨still, none⟩⟩
    · rw [run]
      obtain isFailed | raised | late := isFailed
      · exact ⟨initStatus, inTime, outcome.mp, .inr ⟨rfl, outcome.mp isFailed⟩⟩
      · rw [initStatus] at raised
        cases raised
      · rw [inTime] at late
        cases late
    · rw [initStatus] at succeeded
      cases succeeded
  · have notWaiting : x.thread.status ≠ waiting := by simp [left, failed, waiting]
    rw [conclude_of_left notWaiting]
    exact ⟨initStatus, inTime, deps, .inr ⟨left, some⟩⟩

theorem Skipped.event (h : x.Skipped) (s : ν) (value : Bool) : (x.event s value).Skipped := by
  have more : x.thread.numFailedDependees ≤ (x.receive s value).thread.numFailedDependees := by
    cases value <;> simp [receive, SensorThread.noteEvent]
  refine Skipped.conclude (x := x.receive s value) h.initStatus h.inTime
    (fun isFailed => (h.deps isFailed).trans_le more) ?_
  exact h.status.imp And.left (And.imp_right fun some => some.trans_le more)

end Sensor

namespace Bootstrap

variable {conf : Conf} {modules : ModuleMap} {broken : Finset String} {name : String}
  {σ τ : Start.State String}

/-- The threads of other modules reach a skipped sensor only by an event. -/
theorem skipped_next (mem : name ∈ broken) (h : (σ name).Skipped) {a : Start.Action String}
    (started : ByStarted broken σ a) (step : (Start.system modules.graph).next σ a = some τ) :
    (τ name).Skipped := by
  have other : ∀ s y, s ∉ broken → (Function.update σ s y name).Skipped := by
    intro s y absent
    rw [Function.update_of_ne (fun same : name = s => absent (same ▸ mem))]
    exact h
  cases a with
  | startThread s | initializeEnds s returns | conclude s | checkAndRun s =>
      obtain ⟨-, rfl⟩ := Option.ite_some_none_eq_some.mp step
      exact other s _ started
  | event s d =>
      obtain ⟨-, rfl⟩ := Option.ite_some_none_eq_some.mp step
      have told : (Function.update σ s ((σ s).told d) name).Skipped := by
        by_cases here : name = s
        · subst here
          rw [Function.update_self]
          exact h.told d
        · rw [Function.update_of_ne here]
          exact h
      by_cases here : name = d
      · subst here
        rw [Function.update_self]
        exact told.event _ _
      · rw [Function.update_of_ne here]
        exact told

theorem skipped_prepared (modules : ModuleMap) (name : String) :
    (prepared modules name).Skipped := by
  rw [prepared, Start.prepareAll_eq]
  exact ⟨rfl, rfl, nofun, .inl ⟨rfl, rfl⟩⟩

/-- A skipped sensor has left `WAITING` exactly when a dependee has failed. -/
theorem skipped_left_iff {actions : List (Start.Action String)} (mem : name ∈ broken)
    (run : (Start.system modules.graph).Runs (ByStarted broken) (prepared modules) actions τ) :
    (τ name).thread.status ≠ waiting ↔ 0 < (τ name).thread.numFailedDependees :=
  (run.invariant (I := fun σ : Start.State String => (σ name).Skipped)
    (fun _ _ _ h started step => skipped_next mem h started step)
    (skipped_prepared modules name)).left_iff

/-- No `SensorThread` that `ThreadController.run` inspects is still `WAITING`, so that the gate of
the controller opens. -/
def Opens (modules : ModuleMap) (σ : Start.State String) : Prop :=
  ∀ name module, (name, module) ∈ modules.items → module.sensor →
    (σ name).thread.status ≠ waiting

/-- The next `run` announces the start-up, and processes the request that it reads first. -/
def GoesOn (modules : ModuleMap) (σ : Start.State String) : Prop :=
  ∀ (process : String → Except PyErr Unit) (c : ThreadController String),
    c.threadsInitialized = false →
      (c.run process true modules σ).announced = true ∧
        ∀ request ∈ c.queue.head?, request ∈ (c.run process true modules σ).processed

end Bootstrap

namespace ThreadController

variable {R : Type} {modules : ModuleMap} {σ : Start.State String}

theorem prefix_processRequests (process : R → Except PyErr Unit) (processed queue : List R) :
    processed <+: (processRequests process processed queue).1 := by
  induction queue generalizing processed with
  | nil => exact List.prefix_rfl
  | cons request queue ih =>
      rw [processRequests]
      cases process request with
      | ok _ => exact (List.prefix_append _ _).trans (ih _)
      | error _ => exact List.prefix_append _ _

theorem mem_processRequests (process : R → Except PyErr Unit) (processed : List R) (request : R)
    (queue : List R) : request ∈ (processRequests process processed (request :: queue)).1 := by
  have last : request ∈ processed ++ [request] := by simp
  rw [processRequests]
  cases process request with
  | ok _ => exact (prefix_processRequests process _ queue).subset last
  | error _ => exact last

theorem continueWaiting_eq_false :
    continueWaiting modules σ = false ↔ Bootstrap.Opens modules σ := by
  simp [continueWaiting, Bootstrap.Opens]

theorem opens_iff_goesOn : Bootstrap.Opens modules σ ↔ Bootstrap.GoesOn modules σ := by
  rw [← continueWaiting_eq_false]
  constructor
  · intro opened process c fresh
    simp only [run, opened, fresh, Bool.not_false, Bool.and_self, Bool.and_false,
      Bool.false_eq_true, if_true, if_false, true_and]
    intro request head
    obtain ⟨rest, split⟩ := List.head?_eq_some_iff.mp head
    rw [split]
    exact mem_processRequests process c.processed request rest
  · intro goesOn
    by_contra closed
    have closed : continueWaiting modules σ = true := by simpa using closed
    have announced := (goesOn (fun _ => .ok ()) ⟨false, false, [], []⟩ rfl).1
    simp [run, closed] at announced

end ThreadController

namespace Bootstrap

/-- With all started sensors concluded, the controller goes on exactly when every
sensor with a missing plugin was told of the failure of one of its dependees. -/
theorem gate_opens_iff (conf : Conf) (modules : ModuleMap) {broken : Finset String}
    {τ : Start.State String} {actions : List (Start.Action String)}
    (check : checkDependencies conf modules = .ok broken)
    (run : (Start.system modules.graph).Runs (ByStarted broken) (prepared modules) actions τ)
    (concluded : ∀ name module, (name, module) ∈ modules.items → module.sensor →
      name ∉ broken → (τ name).thread.status = running ∨ (τ name).thread.status = failed) :
    (Opens modules τ ↔ ∀ name module, (name, module) ∈ modules.items → module.sensor →
        module.Incomplete modules → 0 < (τ name).thread.numFailedDependees) ∧
      (GoesOn modules τ ↔ Opens modules τ) := by
  refine ⟨⟨fun opens name module mem sensor incomplete => ?_,
    fun told name module mem sensor => ?_⟩, ThreadController.opens_iff_goesOn.symm⟩
  · have skipped := (mem_broken_iff check name).mpr ⟨module, mem, incomplete⟩
    exact (skipped_left_iff skipped run).mp (opens name module mem sensor)
  · by_cases skipped : name ∈ broken
    · obtain ⟨module', mem', incomplete⟩ := (mem_broken_iff check name).mp skipped
      have same := modules.unique mem mem'
      exact (skipped_left_iff skipped run).mpr (told name module mem sensor (same ▸ incomplete))
    · obtain runs | fails := concluded name module mem sensor skipped
      · simp [runs, running, waiting]
      · simp [fails, failed, waiting]

section FanSensor

def sampleConf : Conf := ⟨fun c => c = ' ', fun _ => .ok ()⟩

/-- The fan sensor declares the plugin that handles its messages. -/
def fanSensor : Module := ⟨true, some ⟨["RealStorEnclMsgHandler"], [], none⟩⟩

/-- The message handler is missing in the configuration. -/
def withoutHandler : ModuleMap := ⟨[("RealStorFanSensor", fanSensor)], by simp⟩

theorem withoutHandler_check :
    checkDependencies sampleConf withoutHandler = .ok {"RealStorFanSensor"} := by
  decide +kernel

/-- Nothing is started, and the controller waits for the sensor that was skipped. -/
theorem gate_stays_closed :
    ¬ ∀ (conf : Conf) (modules : ModuleMap) (broken : Finset String) (τ : Start.State String)
      (actions : List (Start.Action String)), Acyclic modules.graph.DependsOn →
      checkDependencies conf modules = .ok broken →
      (Start.system modules.graph).Runs (ByStarted broken) (prepared modules) actions τ →
      (∀ name module, (name, module) ∈ modules.items → module.sensor → name ∉ broken →
        (τ name).thread.status = running ∨ (τ name).thread.status = failed) →
      Opens modules τ := by
  intro always
  have acyclic : Acyclic withoutHandler.graph.DependsOn := by
    refine .of_rank (fun _ => 0) fun s d dep => ?_
    have none : getSensorThreadDeps d withoutHandler = [] := by
      refine getSensorThreadDeps_eq_nil ?_
      intro module dependencies mem declared
      cases List.mem_singleton.mp mem
      cases declared
      rfl
    simp [SensorGraph.DependsOn, ModuleMap.graph, none] at dep
  have opens := always sampleConf withoutHandler _ _ [] acyclic withoutHandler_check (.nil _) (by
    intro name module mem _ started
    cases List.mem_singleton.mp mem
    exact absurd (Finset.mem_singleton_self _) started)
  exact opens "RealStorFanSensor" fanSensor (.head _) rfl rfl

/-- The fan sensor alone with its handler. -/
def withHandler : ModuleMap :=
  ⟨[("RealStorEnclMsgHandler", ⟨false, none⟩), ("RealStorFanSensor", fanSensor)], by decide⟩

def fanStarts : List (Start.Action String) :=
  [.startThread "RealStorFanSensor", .initializeEnds "RealStorFanSensor" true,
    .conclude "RealStorFanSensor"]

def fanStarted : Start.State String :=
  ((Start.system withHandler.graph).run (prepared withHandler) fanStarts).getD
    (prepared withHandler)

/-- With the handler configured the sensor starts, and the controller goes on. -/
theorem fanStarted_opens : Opens withHandler fanStarted ∧ GoesOn withHandler fanStarted := by
  have check : checkDependencies sampleConf withHandler = .ok ∅ := by decide +kernel
  have run : (Start.system withHandler.graph).run (prepared withHandler) fanStarts =
      some fanStarted := rfl
  have started := ((Start.system withHandler.graph).run_eq_some_iff.mp run).mono
    (fun σ a _ => show ByStarted ∅ σ a by cases a <;> simp [ByStarted])
  have concluded : ∀ name module, (name, module) ∈ withHandler.items → module.sensor →
      name ∉ (∅ : Finset String) → (fanStarted name).thread.status = running ∨
        (fanStarted name).thread.status = failed := by
    intro name module mem sensor _
    obtain same | mem := List.mem_cons.mp mem
    · cases same
      cases sensor
    · cases List.mem_singleton.mp mem
      exact .inl rfl
  have opens := gate_opens_iff sampleConf withHandler check started concluded
  have isOpen : Opens withHandler fanStarted := by
    refine opens.1.mpr fun name module mem sensor incomplete => ?_
    have broken := (mem_broken_iff check name).mpr ⟨module, mem, incomplete⟩
    simp at broken
  exact ⟨isOpen, opens.2.mpr isOpen⟩

end FanSensor

end Bootstrap

end Sspl

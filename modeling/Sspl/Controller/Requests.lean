import Sspl.Foundation.Try
import Sspl.Python.Value

/-!
# What the thread controller answers

The operations of the thread controller leave their result in the field `_thread_response`, and
each of them catches its own exceptions. A stop or a start says that it was successful before it
is, and an exception puts that right. A restart is made of the others and looks at none of their
results: it was successful unless it has seen an exception itself.

What the calls of the module do is given by their turn in the request.
-/

namespace Sspl

namespace Controller

namespace Requests

/-- What `_thread_response` may be for these requests. -/
inductive Response
  | notAvailable
  | statusRunning
  | statusHalted
  | startSuccessful
  | startFailed
  | stopSuccessful
  | stopFailed
  | restartSuccessful
  | restartFailed
  deriving DecidableEq

def Response.text : Response → String
  | .notAvailable => "N/A"
  | .statusRunning => "Status: Running"
  | .statusHalted => "Status: Halted"
  | .startSuccessful => "Start Successful"
  | .startFailed => "Start Failed"
  | .stopSuccessful => "Stop Successful"
  | .stopFailed => "Stop Failed"
  | .restartSuccessful => "Restart Successful"
  | .restartFailed => "Restart Failed"

inductive ThreadRequest
  | restart
  | start
  | stop
  deriving DecidableEq

/-- A request for a module, with the outcomes of the calls that are made for it, by the number of
the call. -/
structure Env where
  /-- What the request before has left. -/
  threadResponse : Response
  moduleName : String
  ssplModules : List String
  /-- There is a debug section in the request. -/
  debugSection : Bool
  isRunning : Nat → Except PyErr Bool
  shutdown : Nat → Except PyErr PUnit
  writeInternalMsgQ : Nat → Except PyErr PUnit
  startThread : Nat → Except PyErr PUnit

/-- The response, and how often each call was made. The last two fields say that the module's
shutdown has returned and that a new thread was started for it. -/
structure State where
  threadResponse : Response
  isRunningCalls : Nat
  shutdownCalls : Nat
  writeCalls : Nat
  startCalls : Nat
  stopped : Bool
  started : Bool

abbrev Block (α : Type) := Try State PyErr α

section Methods

variable (env : Env)

def respond (response : Response) : Block PUnit :=
  .modify fun s => { s with threadResponse := response }

/-- `self._sspl_modules[module_name]`. -/
def lookUp : Block PUnit :=
  .ofExcept (if env.moduleName ∈ env.ssplModules then .ok ⟨⟩ else .error .keyError)

def isRunning : Block Bool := do
  lookUp env
  let s ← .get
  .modify fun s => { s with isRunningCalls := s.isRunningCalls + 1 }
  .ofExcept (env.isRunning s.isRunningCalls)

def statusModule : Block Bool := do
  if (← isRunning env) then respond .statusRunning else respond .statusHalted
  isRunning env

/-- The debug section goes to the queue of the module. -/
def writeDebugSection : Block PUnit := do
  if env.debugSection then
    let s ← .get
    .modify fun s => { s with writeCalls := s.writeCalls + 1 }
    .ofExcept (env.writeInternalMsgQ s.writeCalls)

def shutdown : Block PUnit := do
  lookUp env
  let s ← .get
  .modify fun s => { s with shutdownCalls := s.shutdownCalls + 1 }
  .ofExcept (env.shutdown s.shutdownCalls)
  .modify fun s => { s with stopped := true }

def startThread : Block PUnit := do
  let s ← .get
  .modify fun s => { s with startCalls := s.startCalls + 1 }
  .ofExcept (env.startThread s.startCalls)
  .modify fun s => { s with started := true }

def stopModule : Block PUnit :=
  tryCatch
    (do
      if (← statusModule env) then
        respond .stopSuccessful
        writeDebugSection env
        shutdown env)
    (fun _ => respond .stopFailed)

def startModule : Block PUnit :=
  tryCatch
    (do
      if (← statusModule env) then return
      respond .startSuccessful
      lookUp env
      writeDebugSection env
      startThread env)
    (fun _ => respond .startFailed)

/-- The loop of `_restart_module`, with the number of turns that are left. -/
def waitUntilHalted : Nat → Block PUnit
  | 0 => pure ⟨⟩
  | turns + 1 => do
    if (← statusModule env) then
      stopModule env
      waitUntilHalted turns

/-- `_restart_module` up to the start of the module. -/
def halt : Block PUnit := do
  if (← statusModule env) then stopModule env
  waitUntilHalted env 10

/-- The last statement of the `try` raises nothing, so it may stand for its `else`. -/
def restartModule : Block PUnit :=
  tryCatch
    (do
      halt env
      startModule env
      respond .restartSuccessful)
    (fun _ => respond .restartFailed)

/-- Modules that nobody outside may stop. -/
def keptModules : List String := ["EgressProcessor", "IngressProcessor", "ThreadController"]

/-- `_process_msg` for the three requests. -/
def processMsg : ThreadRequest → Block PUnit
  | .restart => restartModule env
  | .start => startModule env
  | .stop => stopModule env

def begin_ : State := ⟨env.threadResponse, 0, 0, 0, 0, false, false⟩

/-- The response to a request, if there is one, and the state after it. -/
def handle (request : ThreadRequest) : Option Response × State :=
  if request = .stop ∧ env.moduleName ∈ keptModules then (none, begin_ env)
  else
    let s := ((processMsg env request).run (begin_ env)).2
    (some s.threadResponse, s)

/-- The response tells the outcome: a success is announced only if the thread was started, or the
module stopped. -/
def Honest (request : ThreadRequest) : Prop :=
  ((handle env request).1 = some .restartSuccessful ∨
      (handle env request).1 = some .startSuccessful → (handle env request).2.started = true) ∧
    ((handle env request).1 = some .stopSuccessful → (handle env request).2.stopped = true)

/-- The calls that a start makes in this state return, and the module is not running. -/
def StartsIn (s : State) : Prop :=
  env.moduleName ∈ env.ssplModules ∧ (∃ first, env.isRunning s.isRunningCalls = .ok first) ∧
    env.isRunning (s.isRunningCalls + 1) = .ok false ∧
    (env.debugSection = true → env.writeInternalMsgQ s.writeCalls = .ok ⟨⟩) ∧
    env.startThread s.startCalls = .ok ⟨⟩

/-- A restart that gets as far as the start can start the module. All other requests, and restarts
that fail before, are free. -/
def CanStart (request : ThreadRequest) : Prop :=
  request = .restart → ∀ s, (halt env).run (begin_ env) = (.ok ⟨⟩, s) → StartsIn env s

end Methods

section Runs

variable {env : Env} {s t : State}

theorem statusModule_unknown (unknown : env.moduleName ∉ env.ssplModules) (s : State) :
    (statusModule env).run s = (.error .keyError, s) := by
  have look : (lookUp env).run s = (.error .keyError, s) := by
    rw [lookUp, if_neg unknown]
    rfl
  exact Try.run_bind_of_error (Try.run_bind_of_error look)

theorem isRunning_known (known : env.moduleName ∈ env.ssplModules) (s : State) :
    (isRunning env).run s =
      (env.isRunning s.isRunningCalls, { s with isRunningCalls := s.isRunningCalls + 1 }) := by
  have look : (lookUp env).run s = (.ok ⟨⟩, s) := by
    rw [lookUp, if_pos known]
    rfl
  exact Try.run_bind_of_ok look

theorem statusModule_known (known : env.moduleName ∈ env.ssplModules) (s : State) :
    (statusModule env).run s =
      match env.isRunning s.isRunningCalls with
      | .error e => (.error e, { s with isRunningCalls := s.isRunningCalls + 1 })
      | .ok running =>
        (env.isRunning (s.isRunningCalls + 1),
          { s with
            threadResponse := if running then .statusRunning else .statusHalted
            isRunningCalls := s.isRunningCalls + 2 }) := by
  have first := isRunning_known known s
  cases asked : env.isRunning s.isRunningCalls with
  | error e =>
      rw [asked] at first
      exact Try.run_bind_of_error first
  | ok running =>
      rw [asked] at first
      rw [statusModule, Try.run_bind_of_ok first]
      cases running <;> exact isRunning_known known _

theorem lookUp_known (known : env.moduleName ∈ env.ssplModules) (s : State) :
    (lookUp env).run s = (.ok ⟨⟩, s) := by
  rw [lookUp, if_pos known]
  rfl

theorem leaves_writeDebugSection {Q : PUnit → State → Prop} {E : PyErr → State → Prop} :
    (writeDebugSection env).Leaves Q E s ↔
      if env.debugSection = true then
        match env.writeInternalMsgQ s.writeCalls with
        | .ok _ => Q ⟨⟩ { s with writeCalls := s.writeCalls + 1 }
        | .error e => E e { s with writeCalls := s.writeCalls + 1 }
      else Q ⟨⟩ s := by
  rw [writeDebugSection, Try.leaves_ite]
  split
  · rw [Try.leaves_get_bind, Try.leaves_bind, Try.leaves_modify, Try.leaves_ofExcept]
    cases env.writeInternalMsgQ s.writeCalls <;> rfl
  · rfl

theorem leaves_startThread {Q : PUnit → State → Prop} {E : PyErr → State → Prop} :
    (startThread env).Leaves Q E s ↔
      match env.startThread s.startCalls with
      | .ok _ => Q ⟨⟩ { s with startCalls := s.startCalls + 1, started := true }
      | .error e => E e { s with startCalls := s.startCalls + 1 } := by
  rw [startThread, Try.leaves_get_bind, Try.leaves_bind, Try.leaves_modify, Try.leaves_bind,
    Try.leaves_ofExcept]
  cases env.startThread s.startCalls <;> rfl

/-- What a start leaves: a new thread exactly if it could start one, and an answer that says so
only then. -/
structure Started (env : Env) (s t : State) : Prop where
  started_iff : t.started = true ↔ StartsIn env s
  response : t.threadResponse = .statusRunning ∨ t.threadResponse = .statusHalted ∨
    t.threadResponse = .startFailed ∨ t.threadResponse = .startSuccessful ∧ t.started = true

theorem Started.of_not {t : State} (not_ : ¬ StartsIn env s) (same : t.started = false)
    (response : t.threadResponse = .statusRunning ∨ t.threadResponse = .statusHalted ∨
      t.threadResponse = .startFailed) : Started env s t := by
  constructor
  · exact iff_of_false (by simp [same]) not_
  · obtain running | halted | failed := response
    · exact .inl running
    · exact .inr (.inl halted)
    · exact .inr (.inr (.inl failed))

/-- The thread is started from a state `u` in which nothing was written or started since `s`. -/
theorem startThread_leaves {u : State} (before : u.started = false)
    (calls : u.startCalls = s.startCalls) (told : u.threadResponse = .startSuccessful)
    (starts : StartsIn env s ↔ env.startThread s.startCalls = .ok ⟨⟩) :
    (startThread env).Leaves (fun _ => Started env s)
      (fun _ v => Started env s { v with threadResponse := .startFailed }) u := by
  rw [leaves_startThread, calls]
  cases launched : env.startThread s.startCalls with
  | ok _ => exact ⟨iff_of_true rfl (starts.mpr launched), .inr (.inr (.inr ⟨told, rfl⟩))⟩
  | error e =>
      refine .of_not (fun can => ?_) before (.inr (.inr rfl))
      cases launched.symm.trans (starts.mp can)

/-- What follows in a start once the module was found not to be running. -/
theorem launch_leaves (known : env.moduleName ∈ env.ssplModules) {u : State}
    (before : u.started = false) (starts : u.startCalls = s.startCalls)
    (writes : u.writeCalls = s.writeCalls)
    (can : StartsIn env s ↔
      (env.debugSection = true → env.writeInternalMsgQ s.writeCalls = .ok ⟨⟩) ∧
        env.startThread s.startCalls = .ok ⟨⟩) :
    (do
      respond .startSuccessful
      lookUp env
      writeDebugSection env
      startThread env : Block PUnit).Leaves (fun _ => Started env s)
        (fun _ v => Started env s { v with threadResponse := .startFailed }) u := by
  rw [respond, Try.leaves_bind, Try.leaves_modify, Try.leaves_bind_of_ok (lookUp_known known _),
    Try.leaves_bind, leaves_writeDebugSection]
  split
  · rename_i debug
    dsimp only
    rw [writes]
    cases written : env.writeInternalMsgQ s.writeCalls with
    | ok _ =>
        rw [written] at can
        exact startThread_leaves before starts rfl (can.trans (and_iff_right fun _ => rfl))
    | error e =>
        refine .of_not (fun able => ?_) before (.inr (.inr rfl))
        cases written.symm.trans ((can.mp able).1 debug)
  · rename_i plain
    exact startThread_leaves before starts rfl
      (can.trans (and_iff_right fun debug => absurd debug plain))

theorem startModule_leaves (env : Env) (fresh : s.started = false) :
    (startModule env).Leaves (fun _ => Started env s) (fun _ _ => False) s := by
  rw [startModule, Try.leaves_tryCatch]
  by_cases known : env.moduleName ∈ env.ssplModules
  · have status := statusModule_known known s
    cases first : env.isRunning s.isRunningCalls with
    | error e =>
        rw [first] at status
        rw [Try.Leaves, Try.run_bind_of_error status]
        refine .of_not (fun can => ?_) fresh (.inr (.inr rfl))
        obtain ⟨-, ⟨running, returned⟩, -⟩ := can
        cases first.symm.trans returned
    | ok running =>
        rw [first] at status
        cases second : env.isRunning (s.isRunningCalls + 1) with
        | error e =>
            rw [second] at status
            rw [Try.Leaves, Try.run_bind_of_error status]
            refine .of_not (fun can => ?_) fresh (.inr (.inr rfl))
            cases second.symm.trans can.2.2.1
        | ok again =>
            rw [second] at status
            rw [Try.leaves_bind_of_ok status]
            cases again with
            | true =>
                refine .of_not (fun can => ?_) fresh ?_
                · cases second.symm.trans can.2.2.1
                · cases running
                  · exact .inr (.inl rfl)
                  · exact .inl rfl
            | false =>
                exact launch_leaves known fresh rfl rfl
                  ⟨fun can => can.2.2.2, fun can => ⟨known, ⟨running, first⟩, second, can⟩⟩
  · rw [Try.Leaves, Try.run_bind_of_error (statusModule_unknown known s)]
    exact .of_not (fun can => known can.1) fresh (.inr (.inr rfl))

theorem statusModule_leaves (s : State) :
    (statusModule env).Leaves
      (fun _ t => t.threadResponse = .statusRunning ∨ t.threadResponse = .statusHalted)
      (fun _ _ => True) s := by
  by_cases known : env.moduleName ∈ env.ssplModules
  · rw [Try.Leaves, statusModule_known known]
    cases env.isRunning s.isRunningCalls with
    | error e => trivial
    | ok running =>
        cases again : env.isRunning (s.isRunningCalls + 1) with
        | error e => trivial
        | ok _ => cases running <;> simp
  · rw [Try.Leaves, statusModule_unknown known]
    trivial

/-- What a stop answers. -/
def Stopped (t : State) : Prop :=
  (t.threadResponse = .statusRunning ∨ t.threadResponse = .statusHalted) ∨
    t.threadResponse = .stopFailed ∨ t.threadResponse = .stopSuccessful ∧ t.stopped = true

theorem leaves_shutdown {Q : PUnit → State → Prop} {E : PyErr → State → Prop}
    (raised : ∀ e t, E e t)
    (returned : ∀ t, t.threadResponse = s.threadResponse → t.stopped = true → Q ⟨⟩ t) :
    (shutdown env).Leaves Q E s := by
  rw [shutdown, lookUp, Try.leaves_bind, Try.leaves_ofExcept]
  split
  · rw [Try.leaves_get_bind, Try.leaves_bind, Try.leaves_modify, Try.leaves_bind,
      Try.leaves_ofExcept]
    split
    · exact returned _ rfl rfl
    · exact raised _ _
  · exact raised _ _

theorem stopModule_leaves (env : Env) (s : State) :
    (stopModule env).Leaves (fun _ => Stopped) (fun _ _ => False) s := by
  rw [stopModule, Try.leaves_tryCatch, Try.leaves_bind]
  apply (statusModule_leaves s).mono
  · intro running t told
    rw [Try.leaves_ite]
    split
    · rw [respond, Try.leaves_bind, Try.leaves_modify, Try.leaves_bind, leaves_writeDebugSection]
      split
      · split
        · exact leaves_shutdown (fun _ _ => .inr (.inl rfl)) fun t same stopped =>
            .inr (.inr ⟨same, stopped⟩)
        · exact .inr (.inl rfl)
      · exact leaves_shutdown (fun _ _ => .inr (.inl rfl)) fun t same stopped =>
          .inr (.inr ⟨same, stopped⟩)
    · exact .inl told
  · exact fun _ _ _ => .inr (.inl rfl)

/-- No thread is started in between. -/
def SameStart (s t : State) : Prop := t.started = s.started

instance : IsPreorder State SameStart where
  refl _ := rfl
  trans _ _ _ first second := Eq.trans second first

theorem isRunning_keeps : Try.Keeps SameStart (isRunning env) :=
  .bind (.ofExcept _) fun _ => .bind .get fun _ => .bind (.modify fun _ => rfl) fun _ =>
    .ofExcept _

theorem respond_keeps (response : Response) : Try.Keeps SameStart (respond response) :=
  .modify fun _ => rfl

theorem statusModule_keeps : Try.Keeps SameStart (statusModule env) :=
  .bind isRunning_keeps fun _ => .ite
    (fun _ => .bind (respond_keeps _) fun _ => isRunning_keeps)
    fun _ => .bind (respond_keeps _) fun _ => isRunning_keeps

theorem writeDebugSection_keeps : Try.Keeps SameStart (writeDebugSection env) :=
  .ite (fun _ => .bind .get fun _ => .bind (.modify fun _ => rfl) fun _ => .ofExcept _)
    fun _ => .pure _

theorem shutdown_keeps : Try.Keeps SameStart (shutdown env) :=
  .bind (.ofExcept _) fun _ => .bind .get fun _ => .bind (.modify fun _ => rfl) fun _ =>
    .bind (.ofExcept _) fun _ => .modify fun _ => rfl

theorem stopModule_keeps : Try.Keeps SameStart (stopModule env) := by
  apply Try.Keeps.tryCatch
  · refine .bind statusModule_keeps fun _ => .ite (fun _ => ?_) fun _ => .pure _
    exact .bind (respond_keeps _) fun _ => .bind writeDebugSection_keeps fun _ => shutdown_keeps
  · exact fun _ => respond_keeps _

theorem waitUntilHalted_keeps (turns : Nat) : Try.Keeps SameStart (waitUntilHalted env turns) := by
  induction turns with
  | zero => exact .pure _
  | succ turns ih =>
      exact .bind statusModule_keeps fun _ =>
        .ite (fun _ => .bind stopModule_keeps fun _ => ih) fun _ => .pure _

theorem halt_keeps : Try.Keeps SameStart (halt env) :=
  .bind statusModule_keeps fun _ => .ite
    (fun _ => .bind stopModule_keeps fun _ => waitUntilHalted_keeps 10)
    fun _ => waitUntilHalted_keeps 10

/-- A restart fails when halting the module raises, and otherwise calls itself successful
whatever the start has come to. -/
theorem restartModule_cases (env : Env) :
    (∃ e s, (halt env).run (begin_ env) = (.error e, s) ∧
      (restartModule env).run (begin_ env) =
        (.ok ⟨⟩, { s with threadResponse := .restartFailed })) ∨
    ∃ s t, (halt env).run (begin_ env) = (.ok ⟨⟩, s) ∧ Started env s t ∧
      (restartModule env).run (begin_ env) =
        (.ok ⟨⟩, { t with threadResponse := .restartSuccessful }) := by
  cases halted : (halt env).run (begin_ env) with
  | mk result s =>
      cases result with
      | error e =>
          refine .inl ⟨e, s, rfl, ?_⟩
          exact Try.run_tryCatch_of_error (Try.run_bind_of_error halted)
      | ok _ =>
          have fresh : s.started = false := halt_keeps.of_run halted
          have start := startModule_leaves env fresh
          rw [Try.Leaves] at start
          cases started : (startModule env).run s with
          | mk ended t =>
              rw [started] at start
              cases ended with
              | error e => exact start.elim
              | ok _ =>
                  refine .inr ⟨s, t, rfl, start, ?_⟩
                  refine Try.run_tryCatch_of_ok ?_
                  rw [Try.run_bind_of_ok halted, Try.run_bind_of_ok started]
                  rfl

theorem handle_restart :
    handle env .restart = (some ((restartModule env).run (begin_ env)).2.threadResponse,
      ((restartModule env).run (begin_ env)).2) := rfl

theorem honest_restart_iff : Honest env .restart ↔ CanStart env .restart := by
  obtain ⟨e, s, raised, answer⟩ | ⟨s, t, halted, start, answer⟩ := restartModule_cases env
  · constructor
    · intro _ _ u returned
      cases raised.symm.trans returned
    · intro _
      rw [Honest, handle_restart, answer]
      simp
  · have honest : Honest env .restart ↔ t.started = true := by
      rw [Honest, handle_restart, answer]
      simp
    rw [honest, start.started_iff]
    constructor
    · intro starts _ u returned
      cases halted.symm.trans returned
      exact starts
    · exact fun can => can rfl s halted

theorem honest_start : Honest env .start := by
  have start := startModule_leaves env (s := begin_ env) rfl
  rw [Try.Leaves] at start
  cases started : (startModule env).run (begin_ env) with
  | mk ended t =>
      rw [started] at start
      cases ended with
      | error e => exact start.elim
      | ok _ =>
          have answer : handle env .start = (some t.threadResponse, t) := by
            rw [handle, if_neg (by simp), processMsg, started]
          rw [Honest, answer]
          obtain told | told | told | ⟨told, launched⟩ := start.response
          · simp [told]
          · simp [told]
          · simp [told]
          · simp [told, launched]

theorem honest_stop : Honest env .stop := by
  by_cases kept : env.moduleName ∈ keptModules
  · have answer : handle env .stop = (none, begin_ env) := if_pos ⟨rfl, kept⟩
    rw [Honest, answer]
    simp
  · have stop := stopModule_leaves env (begin_ env)
    rw [Try.Leaves] at stop
    cases stopped : (stopModule env).run (begin_ env) with
    | mk ended t =>
        rw [stopped] at stop
        cases ended with
        | error e => exact stop.elim
        | ok _ =>
            have answer : handle env .stop = (some t.threadResponse, t) := by
              rw [handle, if_neg (by simp [kept]), processMsg, stopped]
            rw [Honest, answer]
            obtain (told | told) | told | ⟨told, down⟩ := stop
            · simp [told]
            · simp [told]
            · simp [told]
            · simp [told, down]

end Runs

/-- For every environment and every request, the response tells the outcome if and only if a
restart that gets as far as starting the module can start it: the result of that start is not
looked at. -/
theorem response_honest_iff (env : Env) (request : ThreadRequest) :
    Honest env request ↔ CanStart env request := by
  cases request with
  | restart => exact honest_restart_iff
  | start => exact iff_of_true honest_start fun restart => by cases restart
  | stop => exact iff_of_true honest_stop fun restart => by cases restart

namespace Example

/-- A module that is not running, for which no new thread can be started. -/
def env : Env where
  threadResponse := .notAvailable
  moduleName := "Mod"
  ssplModules := ["Mod"]
  debugSection := false
  isRunning _ := .ok false
  shutdown _ := .ok ⟨⟩
  writeInternalMsgQ _ := .ok ⟨⟩
  startThread _ := .error .other

/-- A start says that it has failed, and a restart that it was successful. -/
theorem restart_dishonest :
    ((handle env .start).1 = some .startFailed ∧ (handle env .restart).1 = some .restartSuccessful ∧
      (handle env .restart).2.started = false) ∧ ¬ Honest env .restart := by
  have answer : (handle env .restart).1 = some .restartSuccessful := by decide
  have unstarted : (handle env .restart).2.started = false := by decide
  refine ⟨⟨by decide, answer, unstarted⟩, fun honest => ?_⟩
  exact Bool.noConfusion (unstarted.symm.trans (honest.1 (.inl answer)))

end Example

end Requests

end Controller

end Sspl

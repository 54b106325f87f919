import Sspl.NodeController.Handler

/-!
# The states of the RAID and the Hdparm actuator

Only `RAID` and `HDPA` requests change the table of the actuator state manager. The first one
sets the state to initializing and goes on with everything that may fail, also on the handler's
own error after a RAID request on hardware; the state is set to initialized at the very end. An
actuator thus stays initializing exactly if something on the way does not succeed, and then every
later request for it is answered that it is busy.
-/

namespace Sspl

namespace NodeController

open Iem (Text strip)

/-- What a block does to the handler at most, where `own` is the actuator whose state in the table
it may change. -/
structure Quiet (own : Option Actuator) (s t : State) : Prop where
  table : ∀ actuator, own ≠ some actuator → t.table actuator = s.table actuator
  kept : ∀ actuator, s.has actuator = true → t.has actuator = true
  gem : t.has .gem = s.has .gem
  idle : (∀ output ∈ s.written, ¬ output.Busy) → ∀ output ∈ t.written, ¬ output.Busy

instance (own : Option Actuator) : IsPreorder State (Quiet own) where
  refl _ := ⟨fun _ _ => rfl, fun _ h => h, rfl, fun h => h⟩
  trans _ _ _ left right :=
    { table := fun actuator other =>
        (right.table actuator other).trans (left.table actuator other)
      kept := fun actuator there => right.kept actuator (left.kept actuator there)
      gem := right.gem.trans left.gem
      idle := fun idle => right.idle (left.idle idle) }

namespace Quiet

open Try (Keeps)

variable {own : Option Actuator} {cfg : Config} {env : Env} {request : Request}
  {actuator : Actuator}

theorem write {output : Output} (idle : ¬ output.Busy) :
    Keeps (Quiet own) (write output) := by
  apply Keeps.modify
  intro s
  refine ⟨fun _ _ => rfl, fun _ h => h, rfl, fun before => ?_⟩
  intro other mem
  rcases List.mem_append.mp mem with old | new
  · exact before other old
  · rw [List.mem_singleton.mp new]
    exact idle

theorem ack (ackMsg : Text) : Keeps (Quiet own) (ack request ackMsg) :=
  write (by decide : ¬ (0 = errnoEbusy))

theorem forward {receiver : Receiver} {sensorRequestType : String}
    {serialNumber nodeRequest : Text} :
    Keeps (Quiet own)
      (forward cfg request receiver sensorRequestType serialNumber nodeRequest) :=
  .ite (fun _ => write id) (fun _ => .throw _)

theorem queryUtility : Keeps (Quiet own) (queryUtility cfg env actuator) :=
  .ite (fun _ => .pure _) (fun _ => .throw _)

theorem instantiate (other : actuator ≠ .gem) :
    Keeps (Quiet own) (instantiate env actuator) := by
  refine .bind (.ofExcept _) fun _ => .modify fun s => ?_
  refine ⟨fun _ _ => rfl, fun created there => ?_, Function.update_of_ne other.symm _ _, id⟩
  by_cases same : created = actuator
  · rw [same]
    exact Function.update_self ..
  · exact (Function.update_of_ne same _ _).trans there

theorem performRequest {nodeRequest : Text} :
    Keeps (Quiet own) (performRequest env actuator nodeRequest) :=
  .bind (.ofExcept _) fun _ => .pure _

theorem performAndAck : Keeps (Quiet own) (performAndAck env request actuator) :=
  .bind performRequest fun _ => ack _

theorem load (other : actuator ≠ .gem) : Keeps (Quiet own) (load cfg env actuator) := by
  refine .bind .get fun s => .ite (fun _ => .pure _) fun _ => ?_
  refine .bind queryUtility fun _ => .ite (fun _ => ?_) fun _ => .pure _
  exact .bind (instantiate other) fun _ => .pure _

theorem viaUtility (other : actuator ≠ .gem) :
    Keeps (Quiet own) (viaUtility cfg env request actuator) :=
  .bind (load other) fun _ => .ite (fun _ => performAndAck) fun _ => ack _

theorem viaHpi {work : Block PUnit} (quiet : Keeps (Quiet own) work) :
    Keeps (Quiet own) (viaHpi cfg env work) := by
  refine .ite (fun _ => .pure _) fun _ => ?_
  refine .bind .get fun s => .ite (fun _ => .pure _) fun _ => ?_
  refine .bind queryUtility fun _ => .ite (fun _ => ?_) fun _ => .throw _
  exact .bind (instantiate (by decide)) fun _ => quiet

theorem reset : Keeps (Quiet own) (reset cfg env request) := by
  refine viaHpi (.bind performRequest fun _ => .ite (fun _ => ?_) fun _ => ack _)
  exact .bind performRequest fun _ => ack _

theorem bezel : Keeps (Quiet own) (bezel cfg env request) := by
  refine .bind .get fun s => .ite (fun _ => performAndAck) fun _ => ?_
  exact .ite (fun _ => .throw _) fun _ => .throw _

theorem retrieveSerialNumber {driveRequest : Text} :
    Keeps (Quiet own) (retrieveSerialNumber cfg env driveRequest) := by
  refine .tryCatch (.bind (load (by decide)) fun _ => ?_) fun _ => .pure _
  refine .ite (fun _ => .bind performRequest fun _ => ?_) fun _ => .pure _
  exact .ite (fun _ => .pure _) fun _ => .pure _

theorem smart : Keeps (Quiet own) (smart cfg env request) := by
  refine .ite (fun _ => forward) fun _ => .ite (fun _ => ?_) fun _ => ?_
  · exact .bind retrieveSerialNumber fun _ => .ite (fun _ => ack _) fun _ => .pure _
  · refine .bind (load (by decide)) fun _ => .ite (fun _ => ?_) fun _ => .throw _
    exact .bind (.ofExcept _) fun _ => .ite (fun _ => forward) fun _ => ack _

theorem forwardDrive {receiver : Receiver} {sensorRequestType : String}
    {driveRequest nodeRequest : Text} :
    Keeps (Quiet own)
      (forwardDrive cfg env request receiver sensorRequestType driveRequest nodeRequest) := by
  refine .ite (fun _ => ?_) fun _ => forward
  exact .bind retrieveSerialNumber fun _ => .ite (fun _ => ack _) fun _ => forward

theorem driveStatus {sensorRequestType : String} {driveRequest : Text} :
    Keeps (Quiet own) (driveStatus cfg env request sensorRequestType driveRequest) :=
  .ite (fun _ => forward) fun _ => forwardDrive

theorem hpiStatus : Keeps (Quiet own) (hpiStatus cfg env request) :=
  .ite (fun _ => .pure _) fun _ => .ite (fun _ => ack _) fun _ => driveStatus

theorem simulate : Keeps (Quiet own) (simulate cfg env request) := by
  unfold NodeController.simulate
  split
  · exact .ite (fun _ => forwardDrive) fun _ => forwardDrive
  · exact .throw _

theorem nodeHw : Keeps (Quiet own) (nodeHw env request) := by
  refine .tryCatch (.bind ?_ fun _ => ?_) fun _ => .pure _
  · refine .bind .get fun s => .ite (fun _ => .pure _) fun _ => ?_
    refine .bind (.ofExcept _) fun _ => .ite (fun _ => ?_) fun _ => .pure _
    exact .bind (instantiate (by decide)) fun _ => .bind (.ofExcept _) fun _ => .pure _
  · refine .ite (fun _ => ?_) fun _ => .pure _
    exact .bind (.ofExcept _) fun _ => .bind (.ofExcept _) fun _ => write id

theorem executeRaidRequest : Keeps (Quiet own) (executeRaidRequest cfg env request) :=
  .bind performAndAck fun _ => .ite (fun _ => .throw _) fun _ => .pure _

end Quiet

/-- The actuator of a component that goes by the table. -/
def tabled : Component → Option Actuator
  | .raid => some .raid
  | .hdpa => some .hdparm
  | _ => none

section

open Try (Keeps)

variable {cfg : Config} {env : Env} {request : Request} {actuator : Actuator} {s : State}

/-- How a request is carried out by an actuator that is there. -/
def execute (cfg : Config) (env : Env) (request : Request) : Actuator → Block PUnit
  | .raid => executeRaidRequest cfg env request
  | actuator => performAndAck env request actuator

theorem execute_quiet {own : Option Actuator} :
    Keeps (Quiet own) (execute cfg env request actuator) := by
  cases actuator with
  | raid => exact Quiet.executeRaidRequest
  | _ => exact Quiet.performAndAck

theorem processMsg_of_tabled (h : tabled (componentOf request.nodeRequest) = some actuator) :
    processMsg cfg env request =
      viaTable cfg env request actuator (execute cfg env request actuator) := by
  unfold processMsg
  cases component : componentOf request.nodeRequest <;> rw [component] at h <;> cases h <;> rfl

theorem processMsg_of_untabled {own : Option Actuator}
    (h : tabled (componentOf request.nodeRequest) = none) :
    Keeps (Quiet own) (processMsg cfg env request) := by
  unfold processMsg
  cases component : componentOf request.nodeRequest with
  | raid => rw [component] at h; cases h
  | hdpa => rw [component] at h; cases h
  | sspl => exact Quiet.viaUtility (by decide)
  | pdu => exact Quiet.viaUtility (by decide)
  | ipmi => exact Quiet.viaUtility (by decide)
  | led => exact Quiet.viaHpi Quiet.performAndAck
  | stop => exact Quiet.viaHpi (.bind Quiet.performRequest fun _ => Quiet.ack _)
  | star => exact Quiet.viaHpi (.bind Quiet.performRequest fun _ => Quiet.ack _)
  | rese => exact Quiet.reset
  | beze => exact Quiet.bezel
  | smar => exact Quiet.smart
  | drvm => exact Quiet.driveStatus
  | hpi => exact Quiet.hpiStatus
  | simu => exact Quiet.simulate
  | ndhw => exact Quiet.nodeHw
  | unknown => exact Quiet.ack _

/-- A block that returns, and does not raise. -/
def Returns (block : Block PUnit) (s : State) : Prop :=
  block.Leaves (fun _ _ => True) (fun _ _ => False) s

/-- On hardware the handler raises after a RAID request in any case. -/
def Hardware (cfg : Config) : Prop := cfg.setup ∈ ["hw".toList, "ssu".toList]

instance : Decidable (Hardware cfg) := inferInstanceAs (Decidable (_ ∈ _))

theorem performAndAck_leaves {Q : PUnit → State → Prop} {E : Text → State → Prop} :
    (performAndAck env request actuator).Leaves Q E s ↔
      match env.perform actuator request.nodeRequest with
      | .ok response => Q ⟨⟩ (s.write (ackResponse request (strip response) 0))
      | .error err => E err s := by
  unfold performAndAck performRequest ack write
  simp only [Try.leaves_bind, Try.leaves_ofExcept, Try.leaves_pure, Try.leaves_modify]
  cases env.perform actuator request.nodeRequest <;> exact Iff.rfl

theorem executeRaidRequest_leaves {Q : PUnit → State → Prop} {E : Text → State → Prop} :
    (executeRaidRequest cfg env request).Leaves Q E s ↔
      match env.perform .raid request.nodeRequest with
      | .ok response =>
        if Hardware cfg then
          E (noAttribute "str" "get") (s.write (ackResponse request (strip response) 0))
        else Q ⟨⟩ (s.write (ackResponse request (strip response) 0))
      | .error err => E err s := by
  unfold executeRaidRequest
  simp only [Try.leaves_bind, performAndAck_leaves, Try.leaves_ite, Try.leaves_throw,
    Try.leaves_pure, Hardware]
  exact Iff.rfl

theorem execute_returns :
    Returns (execute cfg env request actuator) s ↔
      (∃ response, env.perform actuator request.nodeRequest = .ok response) ∧
        (actuator = .raid → ¬ Hardware cfg) := by
  unfold Returns
  cases actuator with
  | raid =>
      refine executeRaidRequest_leaves.trans ?_
      cases env.perform .raid request.nodeRequest <;> simp
  | _ =>
      refine performAndAck_leaves.trans ?_
      cases env.perform _ request.nodeRequest <;> simp

/-- Everything that the first request of an actuator needs succeeds. -/
structure Completes (cfg : Config) (env : Env) (request : Request) (actuator : Actuator) :
    Prop where
  enabled : cfg.enabled = true
  registered : env.registered actuator = true
  created : env.instantiate actuator = .ok ()
  performed : ∃ response, env.perform actuator request.nodeRequest = .ok response
  software : actuator = .raid → ¬ Hardware cfg

/-- The first request for an actuator, which sets its state before and after the rest. -/
theorem viaTable_imported_leaves {Q : PUnit → State → Prop} {E : Text → State → Prop}
    (imported : s.table actuator = some .imported) :
    (viaTable cfg env request actuator (execute cfg env request actuator)).Leaves Q E s ↔
      if cfg.enabled then
        if env.registered actuator then
          match env.instantiate actuator with
          | .ok _ => (execute cfg env request actuator).Leaves
              (fun _ t => Q ⟨⟩ (t.setState actuator .initialized)) E
              ((s.setState actuator .initializing).create actuator)
          | .error err => E err (s.setState actuator .initializing)
        else Q ⟨⟩ (s.setState actuator .initializing)
      else E noQueryUtility (s.setState actuator .initializing) := by
  unfold viaTable queryUtility instantiate
  simp only [Try.leaves_bind, Try.leaves_get, imported, Try.leaves_modify, Try.leaves_ite,
    Try.leaves_ofExcept, Try.leaves_pure, Try.leaves_throw]
  cases env.instantiate actuator <;> exact Iff.rfl

/-- An actuator whose state is set to initializing gets past that state in the same request if
and only if everything succeeds. -/
theorem viaTable_of_imported (imported : s.table actuator = some .imported) :
    (viaTable cfg env request actuator (execute cfg env request actuator)).Leaves
        (fun _ t => t.table actuator ≠ some .initializing)
        (fun _ t => t.table actuator ≠ some .initializing) s ↔
      Completes cfg env request actuator := by
  have stuck : (s.setState actuator .initializing).table actuator = some .initializing :=
    Function.update_self ..
  rw [viaTable_imported_leaves imported]
  by_cases enabled : cfg.enabled = true
  swap
  · rw [if_neg enabled]
    exact ⟨fun h => absurd stuck h, fun h => absurd h.enabled enabled⟩
  by_cases registered : env.registered actuator = true
  swap
  · rw [if_pos enabled, if_neg registered]
    exact ⟨fun h => absurd stuck h, fun h => absurd h.registered registered⟩
  rw [if_pos enabled, if_pos registered]
  cases created : env.instantiate actuator with
  | error err =>
      refine ⟨fun h => absurd stuck h, fun h => ?_⟩
      cases created.symm.trans h.created
  | ok done =>
      constructor
      · intro ended
        have quiet : (execute cfg env request actuator).Leaves _ _
            ((s.setState actuator .initializing).create actuator) :=
          @execute_quiet cfg env request actuator none _
        have returned : Returns (execute cfg env request actuator)
            ((s.setState actuator .initializing).create actuator) := by
          apply (ended.and quiet).mono (fun _ _ _ => trivial)
          rintro err t ⟨moved, quiet⟩
          exact moved ((quiet.table actuator (by simp)).trans stuck)
        obtain ⟨performed, software⟩ := execute_returns.mp returned
        exact ⟨enabled, registered, created, performed, software⟩
      · intro completes
        have returned : Returns (execute cfg env request actuator)
            ((s.setState actuator .initializing).create actuator) :=
          execute_returns.mpr ⟨completes.performed, completes.software⟩
        apply returned.mono
        · intro value t _
          simp [State.setState]
        · exact fun _ _ => False.elim

/-- Unless the actuator is being initialized, no request for it is answered that it is busy. -/
theorem viaTable_quiet (free : s.table actuator ≠ some .initializing) (other : actuator ≠ .gem) :
    (viaTable cfg env request actuator (execute cfg env request actuator)).Leaves
      (fun _ => Quiet (some actuator) s) (fun _ => Quiet (some actuator) s) s := by
  have set : ∀ state, Keeps (Quiet (some actuator))
      (Try.modify (·.setState actuator state) : Block PUnit) := by
    refine fun state => .modify fun t => ⟨fun a own => ?_, fun _ h => h, rfl, id⟩
    exact Function.update_of_ne (fun same => own (congrArg some same.symm)) _ _
  unfold viaTable
  rw [Try.leaves_bind, Try.leaves_get]
  cases entry : s.table actuator with
  | none => exact Keeps.pure _ s
  | some state =>
      cases state with
      | initializing => exact absurd entry free
      | initialized => exact Keeps.ite (fun _ => execute_quiet) (fun _ => .throw _) s
      | imported =>
          have rest : Keeps (Quiet (some actuator)) (do
              Try.modify (·.setState actuator .initializing)
              if ← queryUtility cfg env actuator then
                instantiate env actuator
                execute cfg env request actuator
                Try.modify (·.setState actuator .initialized)
              else return ⟨⟩ : Block PUnit) := by
            refine .bind (set _) fun _ => .bind Quiet.queryUtility fun _ => ?_
            refine .ite (fun _ => ?_) fun _ => .pure _
            exact .bind (Quiet.instantiate other) fun _ => .bind execute_quiet fun _ => set _
          exact rest s

/-- Only a request in the state imported sets the state of the actuator. -/
theorem viaTable_table (stays : s.table actuator ≠ some .imported) :
    (viaTable cfg env request actuator (execute cfg env request actuator)).Leaves
      (fun _ t => t.table = s.table) (fun _ t => t.table = s.table) s := by
  unfold viaTable
  rw [Try.leaves_bind, Try.leaves_get]
  cases entry : s.table actuator with
  | none => rfl
  | some state =>
      cases state with
      | imported => exact absurd entry stays
      | initializing => rfl
      | initialized =>
          have quiet : Keeps (Quiet none) (if s.has actuator then execute cfg env request actuator
              else throw (noAttribute "NoneType" "name") : Block PUnit) :=
            .ite (fun _ => execute_quiet) fun _ => .throw _
          have unchanged : ∀ t, Quiet none s t → t.table = s.table := fun t h =>
            funext fun a => h.table a (by simp)
          exact (quiet s).mono (fun _ => unchanged) (fun _ => unchanged)

/-- A request for an actuator that is being initialized is answered as busy, and no more. -/
theorem viaTable_of_initializing (busy : s.table actuator = some .initializing)
    {Q : PUnit → State → Prop} {E : Text → State → Prop} :
    (viaTable cfg env request actuator (execute cfg env request actuator)).Leaves Q E s ↔
      Q ⟨⟩ (s.write (ackResponse request "BUSY".toList errnoEbusy)) := by
  unfold viaTable
  rw [Try.leaves_bind, Try.leaves_get, busy]
  exact Iff.rfl

/-- The state is set to initialized only when the actuator is there. -/
theorem viaTable_created (created : s.table actuator = some .initialized → s.has actuator = true)
    (other : actuator ≠ .gem) :
    (viaTable cfg env request actuator (execute cfg env request actuator)).Leaves
      (fun _ t => t.table actuator = some .initialized → t.has actuator = true)
      (fun _ t => t.table actuator = some .initialized → t.has actuator = true) s := by
  by_cases imported : s.table actuator = some .imported
  · have first : (s.setState actuator .initializing).table actuator ≠ some .initialized := by
      simp [State.setState]
    rw [viaTable_imported_leaves imported]
    split_ifs
    · cases env.instantiate actuator with
      | error err => exact fun h => absurd h first
      | ok done =>
          have quiet : (execute cfg env request actuator).Leaves _ _
              ((s.setState actuator .initializing).create actuator) :=
            @execute_quiet cfg env request actuator none _
          have there : ((s.setState actuator .initializing).create actuator).has actuator = true :=
            Function.update_self ..
          refine quiet.mono (fun _ t h _ => h.kept actuator there) fun err t h entry => ?_
          exact absurd ((h.table actuator (by simp)).symm.trans entry) first
    · exact fun h => absurd h first
    · exact fun h => absurd h first
  · have table := @viaTable_table cfg env request _ _ imported
    by_cases busy : s.table actuator = some .initializing
    · exact (viaTable_of_initializing busy).mpr created
    · refine (table.and (viaTable_quiet busy other)).mono ?_ ?_
      · exact fun _ t h entry => h.2.kept actuator (created (h.1 ▸ entry))
      · exact fun _ t h entry => h.2.kept actuator (created (h.1 ▸ entry))

end

/-- After a request no actuator of the table is left initializing, and none was answered as
busy. -/
structure Ready (s : Server) : Prop where
  settled : ∀ actuator ∈ [Actuator.raid, .hdparm], ∀ state,
    s.handler.table actuator = some state → state = .imported ∨ state = .initialized
  idle : ∀ entry ∈ s.log, ∀ output ∈ entry.2, ¬ output.Busy

/-- The first request for an actuator, while it is only imported, succeeds in everything that it
takes. -/
def Initializes (cfg : Config) (s : Server) (action : Env × Request) : Prop :=
  ∀ actuator, tabled (componentOf action.2.nodeRequest) = some actuator →
    s.handler.table actuator = some .imported → Completes cfg action.1 action.2 actuator

section

variable {cfg : Config} {env : Env} {request : Request} {actuator : Actuator} {s : Server}

theorem tabled_mem {component : Component} (h : tabled component = some actuator) :
    actuator ∈ [Actuator.raid, .hdparm] ∧ actuator ≠ .gem := by
  cases component <;> cases h <;> decide

theorem Ready.free (ready : Ready s) (mem : actuator ∈ [Actuator.raid, .hdparm]) :
    s.handler.table actuator ≠ some .initializing := by
  intro stuck
  rcases ready.settled actuator mem _ stuck with h | h <;> cases h

theorem settled_of_free {state : ActuatorState} (h : state ≠ .initializing) :
    state = .imported ∨ state = .initialized := by
  cases state with
  | imported => exact Or.inl rfl
  | initializing => exact absurd rfl h
  | initialized => exact Or.inr rfl

/-- What the handling of a request does to the table, and that it answers nothing as busy. -/
theorem handle_quiet (ready : Ready s) :
    Quiet (tabled (componentOf request.nodeRequest)) { s.handler with written := [] }
      (s.handle cfg env request).handler := by
  rw [Server.handle]
  apply Try.leaves_iff.mp
  cases own : tabled (componentOf request.nodeRequest) with
  | none => exact processMsg_of_untabled own _
  | some actuator =>
      rw [processMsg_of_tabled own]
      exact viaTable_quiet (ready.free (tabled_mem own).1) (tabled_mem own).2

theorem handle_ready_iff (ready : Ready s) :
    Ready (s.handle cfg env request) ↔ Initializes cfg s (env, request) := by
  have quiet := @handle_quiet cfg env request s ready
  constructor
  · intro after actuator own imported
    apply (viaTable_of_imported (s := { s.handler with written := [] }) imported).mp
    apply Try.leaves_iff.mpr
    rw [← processMsg_of_tabled own]
    exact after.free (tabled_mem own).1
  · intro initializes
    refine ⟨fun actuator mem state entry => settled_of_free ?_, fun entry mem => ?_⟩
    · rintro rfl
      by_cases own : tabled (componentOf request.nodeRequest) = some actuator
      · by_cases imported : s.handler.table actuator = some .imported
        · have moved := (viaTable_of_imported (s := { s.handler with written := [] })
            imported).mpr (initializes actuator own imported)
          rw [← processMsg_of_tabled own] at moved
          exact Try.leaves_iff.mp moved entry
        · have same := @viaTable_table cfg env request _ { s.handler with written := [] } imported
          rw [← processMsg_of_tabled own] at same
          have table : (s.handle cfg env request).handler.table = s.handler.table :=
            Try.leaves_iff.mp same
          exact ready.free mem (table ▸ entry)
      · exact ready.free mem ((quiet.table actuator own).symm.trans entry)
    · rcases List.mem_append.mp mem with old | new
      · exact ready.idle entry old
      · rw [List.mem_singleton.mp new]
        exact quiet.idle (by simp)

end

theorem exists_run (cfg : Config) (s : Server) (actions : List (Env × Request)) :
    ∃ t, (server cfg).FreeRuns s actions t := by
  induction actions generalizing s with
  | nil => exact ⟨s, .nil s⟩
  | cons action rest ih =>
      obtain ⟨t, run⟩ := ih (s.handle cfg action.1 action.2)
      exact ⟨t, .cons trivial rfl run⟩

theorem start_ready {cfg : Config} {start : Server} (init : (server cfg).init start) :
    Ready start := by
  obtain ⟨-, imported, log⟩ := init
  refine ⟨fun actuator _ state entry => Or.inl (imported actuator state entry), ?_⟩
  rw [log]
  simp

/-- The RAID and the Hdparm actuator are imported or initialized after every request of a run, and
no request is answered as busy, if and only if the first request for each of them succeeds in
everything, which for RAID it does not on hardware. -/
theorem never_stuck_iff {cfg : Config} {start : Server} (init : (server cfg).init start)
    (actions : List (Env × Request)) :
    (server cfg).Always Ready start actions ↔
      ∃ t, (server cfg).Runs (Initializes cfg) start actions t := by
  have preserved : ∀ (s : Server) action t, Ready s → Initializes cfg s action →
      (server cfg).next s action = some t → Ready t := by
    intro s action t ready initializes step
    cases step
    exact (handle_ready_iff ready).mpr initializes
  constructor
  · intro always
    obtain ⟨t, free⟩ := exists_run cfg start actions
    refine ⟨t, (free.always_iff (fun _ => id) preserved ?_ (start_ready init)).mp always⟩
    intro s action t ready step after
    cases step
    exact (handle_ready_iff ready).mp after
  · rintro ⟨t, run⟩
    exact run.always preserved (start_ready init)

namespace Example

/-- An enabled product in which everything is loaded. -/
def installed (setup : String) : Config :=
  { enabled := true
    setup := setup.toList
    hostId := "node".toList
    queued := fun _ => true }

/-- Every call succeeds. -/
def working : Env :=
  { setup := "ssu".toList
    ids := ⟨.str "1", .str "1", .str "1", .str "1"⟩
    registered := fun _ => true
    instantiate := fun _ => .ok ()
    perform := fun _ _ => .ok "Success\n".toList
    checkSerialNumber := fun _ => .ok true
    ipmiClient := .ok true
    nodeHwInitialize := .ok ()
    nodeHwPerform := .ok .null }

def loaded : Server :=
  { handler := ⟨fun _ => false, fun _ => some .imported, []⟩
    log := [] }

theorem loaded_init (cfg : Config) : (server cfg).init loaded :=
  ⟨fun _ => rfl, fun _ _ h => (Option.some.inj h).symm, rfl⟩

def assemble : Env × Request := (working, ⟨"RAID: assemble".toList, some "u1".toList⟩)

def status : Env × Request := (working, ⟨"HDPARM: -I /dev/sda".toList, some "u2".toList⟩)

theorem completes (actuator : Actuator) (request : Request) :
    Completes (installed "cortx") working request actuator :=
  ⟨rfl, rfl, rfl, ⟨_, rfl⟩, fun _ => by decide⟩

/-- In a setup without hardware the RAID actuator is imported, and every call succeeds. -/
theorem never_stuck_iff_software :
    (server (installed "cortx")).Always Ready loaded [assemble, status, assemble] :=
  (never_stuck_iff (loaded_init _) _).mpr
    ⟨_, .cons (fun _ _ _ => completes _ _) rfl (.cons (fun _ _ _ => completes _ _) rfl
      (.cons (fun _ _ _ => completes _ _) rfl (.nil _)))⟩

/-- With the default setup the second RAID request is answered as busy, although everything that
the first one needed succeeded. -/
theorem stuck_initializing :
    ¬ ∀ (cfg : Config) (start : Server) (actions : List (Env × Request)),
      (server cfg).init start → (server cfg).Always Ready start actions := by
  intro always
  have ready := always (installed "ssu") loaded [assemble, assemble] (loaded_init _) _ [] _ rfl
    (.cons trivial rfl (.single trivial rfl))
  have busy : Output.ack "RAID: assemble".toList "BUSY".toList (some "u1".toList) errnoEbusy ∈
      ((processMsg (installed "ssu") working assemble.2).run
        { (loaded.handle (installed "ssu") working assemble.2).handler with
          written := [] }).2.written := by decide +kernel
  exact ready.idle _ (List.mem_append_right _ (List.mem_singleton_self _)) _ busy rfl

end Example

end NodeController

end Sspl

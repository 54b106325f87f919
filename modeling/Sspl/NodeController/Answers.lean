import Sspl.NodeController.Actuators

/-!
# Requests and their answers

Which requests are answered or passed on exactly once, and under their own uuid. For each
component the condition is read off the branch that handles it: what has to succeed, and what
must not have happened before. Of the requests that are never answered the largest part are the
HPI requests after the first, whose work is nested under the creation of the actuator.
-/

namespace Sspl

namespace NodeController

open Iem (Text strip)

/-- One acknowledgement or one message passed on, with the uuid of the request. -/
def AnsweredOnce (request : Request) (outputs : List Output) : Prop :=
  ∃ output, outputs = [output] ∧ output.uuid = request.uuid

/-- The uuid is not a text that `normalize_kv` changes. -/
def Kept (request : Request) : Prop := request.uuid ≠ some "N/A".toList

instance (request : Request) : Decidable (Kept request) := inferInstanceAs (Decidable (_ ≠ _))

section

variable (cfg : Config) (env : Env) (request : Request) (s : State)

def Performs (actuator : Actuator) (nodeRequest : Text) : Prop :=
  ∃ response, env.perform actuator nodeRequest = .ok response

/-- The class is there and an object of it is created. -/
def Creates (actuator : Actuator) : Prop :=
  cfg.enabled = true ∧ env.registered actuator = true ∧ env.instantiate actuator = .ok ()

def Loads (actuator : Actuator) : Prop := s.has actuator = true ∨ Creates cfg env actuator

def UtilityAnswers (actuator : Actuator) : Prop :=
  Kept request ∧
    (Loads cfg env s actuator ∧ Performs env actuator request.nodeRequest ∨
      s.has actuator = false ∧ cfg.enabled = true ∧ env.registered actuator = false)

/-- It is the request that creates the actuator, and its own work `works`. -/
def HpiAnswers (works : Prop) : Prop :=
  isEnvVm env = false ∧ s.has .hpi = false ∧ Creates cfg env .hpi ∧ works ∧ Kept request

/-- The disk is powered off, and if that succeeds powered on. -/
def Resets : Prop :=
  let driveRequest := strip (request.nodeRequest.drop 13)
  ∃ response, env.perform .hpi (setPower driveRequest "POWER_OFF") = .ok response ∧
    (hasWord "Success" (strip response) = true →
      Performs env .hpi (setPower driveRequest "POWER_ON"))

def TableAnswers (actuator : Actuator) : Prop :=
  Kept request ∧
    match s.table actuator with
    | some .initialized => Performs env actuator request.nodeRequest
    | some .initializing => True
    | some .imported => Creates cfg env actuator ∧ Performs env actuator request.nodeRequest
    | none => False

/-- An error of `smartctl` that is not the empty text. -/
def SerialError (driveRequest : Text) : Prop :=
  match env.perform .smartctl (getSerial driveRequest) with
  | .ok response => hasWord "error" ((strip response).map Char.toLower) = true
  | .error err => err ≠ []

/-- Looking the serial number up ends with an error that has a text. -/
def SerialFails (driveRequest : Text) : Prop :=
  if s.has .smartctl then SerialError env driveRequest
  else if cfg.enabled then
    env.registered .smartctl = true ∧
      match env.instantiate .smartctl with
      | .ok _ => SerialError env driveRequest
      | .error err => err ≠ []
  else True

/-- A drive by its path needs an error to be answered, since the message to `DiskMonitor` is not
made for it. -/
def SmartAnswers (driveRequest : Text) : Prop :=
  if driveRequest = ['*'] then cfg.queued .diskMonitor = true
  else if isPath driveRequest then SerialFails cfg env s driveRequest ∧ Kept request
  else Loads cfg env s .smartctl ∧
    (env.checkSerialNumber driveRequest = .ok true ∧ cfg.queued .diskMonitor = true ∨
      env.checkSerialNumber driveRequest = .ok false ∧ Kept request)

def DriveAnswers (receiver : Receiver) (driveRequest : Text) : Prop :=
  isPath driveRequest = true ∧ SerialFails cfg env s driveRequest ∧ Kept request ∨
    ¬ (isPath driveRequest = true ∧ SerialFails cfg env s driveRequest) ∧
      cfg.queued receiver = true

def StatusAnswers (driveRequest : Text) : Prop :=
  if driveRequest = ['*'] then cfg.queued .diskMsgHandler = true
  else DriveAnswers cfg env request s .diskMsgHandler driveRequest

def HpiStatusAnswers : Prop :=
  isEnvVm env = false ∧
    if cfg.setup = "cortx".toList then Kept request
    else StatusAnswers cfg env request s (strip (request.nodeRequest.drop 11))

def SimulateAnswers : Prop :=
  match (strip (request.nodeRequest.drop 9)).splitOn ' ' with
  | event :: drive :: _ =>
    DriveAnswers cfg env request s
      (if event = "SMART_FAILURE".toList then .diskMonitor else .diskMsgHandler) drive
  | _ => False

/-- The response has what the schema wants, and nothing raises before. -/
def NodeHwAnswers : Prop :=
  (s.has .nodeHw = true ∨ env.ipmiClient = .ok true ∧ env.instantiate .nodeHw = .ok () ∧
    env.nodeHwInitialize = .ok ()) ∧
    (∃ response json, env.nodeHwPerform = .ok response ∧
      nodeHwAckResponseMsg env.ids response = .ok json) ∧ Kept request

/-- The condition under which a request is answered or passed on exactly once, by the component
that it names. -/
def Answerable : Prop :=
  match componentOf request.nodeRequest with
  | .sspl => UtilityAnswers cfg env request s .commandLine
  | .led => HpiAnswers cfg env request s (Performs env .hpi request.nodeRequest)
  | .beze => False
  | .pdu => UtilityAnswers cfg env request s .pdu
  | .raid => TableAnswers cfg env request s .raid
  | .ipmi => UtilityAnswers cfg env request s .ipmi
  | .stop => HpiAnswers cfg env request s
      (Performs env .hpi (setPower (strip (request.nodeRequest.drop 12)) "POWER_OFF"))
  | .star => HpiAnswers cfg env request s
      (Performs env .hpi (setPower (strip (request.nodeRequest.drop 13)) "POWER_ON"))
  | .rese => HpiAnswers cfg env request s (Resets env request)
  | .hdpa => TableAnswers cfg env request s .hdparm
  | .smar => SmartAnswers cfg env request s (strip (request.nodeRequest.drop 12))
  | .drvm => StatusAnswers cfg env request s (strip (request.nodeRequest.drop 15))
  | .hpi => HpiStatusAnswers cfg env request s
  | .simu => SimulateAnswers cfg env request s
  | .ndhw => NodeHwAnswers env request s
  | .unknown => Kept request

end

/-- Whatever the block ends with, what it leaves answers the request once. -/
def Answers (request : Request) (block : Block PUnit) (s : State) : Prop :=
  block.Leaves (fun _ t => AnsweredOnce request t.written)
    (fun _ t => AnsweredOnce request t.written) s

section

variable {cfg : Config} {env : Env} {request : Request} {actuator : Actuator} {s : State}
  {nodeRequest driveRequest : Text}

theorem answeredOnce_nil : ¬ AnsweredOnce request [] := by
  rintro ⟨output, h, -⟩
  cases h

theorem answeredOnce_write (fresh : s.written = []) {output : Output} :
    AnsweredOnce request (s.write output).written ↔ output.uuid = request.uuid := by
  rw [State.write, fresh, List.nil_append]
  constructor
  · rintro ⟨other, h, same⟩
    cases h
    exact same
  · exact fun same => ⟨output, rfl, same⟩

theorem map_normalized_iff : request.uuid.map normalized = request.uuid ↔ Kept request := by
  rw [Kept]
  cases request.uuid with
  | none => simp
  | some text =>
      rw [Option.map_some, Option.some.injEq, ne_eq, Option.some.injEq, normalized]
      split
      · rename_i same
        rw [same]
        decide
      · exact ⟨fun _ => ‹_›, fun _ => rfl⟩

theorem load_leaves {Q : Bool → State → Prop} {E : Text → State → Prop} :
    (load cfg env actuator).Leaves Q E s ↔
      if s.has actuator then Q true s
      else if cfg.enabled then
        if env.registered actuator then
          match env.instantiate actuator with
          | .ok _ => Q true (s.create actuator)
          | .error err => E err s
        else Q false s
      else E noQueryUtility s := by
  unfold load queryUtility instantiate
  simp only [Try.leaves_bind, Try.leaves_get, Try.leaves_ite, Try.leaves_pure, Try.leaves_throw,
    Try.leaves_ofExcept, Try.leaves_modify]
  cases env.instantiate actuator <;> exact Iff.rfl

theorem ne_nil_of_hasWord {word : String} {text : Text} (nonempty : word.toList ≠ [])
    (h : hasWord word text = true) : text ≠ [] := by
  rintro rfl
  unfold hasWord Iem.findFrom at h
  rw [if_neg nonempty] at h
  cases h

theorem mapError_eq_ok {α : Type} {result : Except PyErr α} {value : α} :
    (result.mapError fun _ => indexError) = .ok value ↔ result = .ok value := by
  cases result <;> simp [Except.mapError]

theorem noQueryUtility_ne_nil : noQueryUtility ≠ [] := by decide

theorem answers_bind {α : Type} {block : Block α} {rest : α → Block PUnit} :
    Answers request (block >>= rest) s ↔ block.Leaves (fun value => Answers request (rest value))
      (fun _ t => AnsweredOnce request t.written) s := Try.leaves_bind

theorem answers_get {rest : State → Block PUnit} :
    Answers request (Try.get >>= rest) s ↔ Answers request (rest s) s := Iff.rfl

theorem answers_caught {block : Block PUnit} :
    Answers request (tryCatch block fun _ => pure ⟨⟩) s ↔ Answers request block s :=
  Try.leaves_tryCatch

theorem answers_modify {update : State → State} {rest : PUnit → Block PUnit} :
    Answers request (Try.modify update >>= rest) s ↔ Answers request (rest ⟨⟩) (update s) :=
  Iff.rfl

/-- Setting the state of the actuator at the end does not change what was answered. -/
theorem answers_setState {block : Block PUnit} {state : ActuatorState} :
    Answers request (block >>= fun _ => Try.modify (·.setState actuator state)) s ↔
      Answers request block s := Try.leaves_bind

section

variable (fresh : s.written = [])

include fresh

theorem answers_pure : ¬ Answers request (pure ⟨⟩) s := by
  intro h
  have h : AnsweredOnce request s.written := h
  rw [fresh] at h
  exact answeredOnce_nil h

theorem answers_throw {err : Text} : ¬ Answers request (throw err) s :=
  answers_pure fresh

theorem answers_write {output : Output} :
    Answers request (write output) s ↔ output.uuid = request.uuid :=
  answeredOnce_write fresh

theorem answers_ack {ackMsg : Text} : Answers request (ack request ackMsg) s ↔ Kept request :=
  (answers_write fresh).trans map_normalized_iff

theorem answers_forward {receiver : Receiver} {sensorRequestType : String}
    {serialNumber : Text} :
    Answers request (forward cfg request receiver sensorRequestType serialNumber nodeRequest) s ↔
      cfg.queued receiver = true := by
  rw [forward]
  split
  · rename_i queued
    exact (answers_write fresh).trans ⟨fun _ => queued, fun _ => rfl⟩
  · rename_i missing
    exact ⟨fun h => absurd h (answers_throw fresh), fun h => absurd h missing⟩

/-- A call that raises leaves the request without an answer. -/
theorem answers_ofExcept {α : Type} {result : Except Text α} {rest : α → Block PUnit} :
    Answers request (Try.ofExcept result >>= rest) s ↔
      ∃ value, result = .ok value ∧ Answers request (rest value) s := by
  rw [answers_bind, Try.leaves_ofExcept]
  cases result with
  | ok value => simp
  | error err => simp [fresh, answeredOnce_nil]

theorem answers_performRequest {rest : Text → Block PUnit} :
    Answers request (performRequest env actuator nodeRequest >>= rest) s ↔
      ∃ response, env.perform actuator nodeRequest = .ok response ∧
        Answers request (rest (strip response)) s := by
  rw [answers_bind, performRequest, Try.leaves_bind, Try.leaves_ofExcept]
  cases env.perform actuator nodeRequest with
  | ok response => simp
  | error err => simp [fresh, answeredOnce_nil]

theorem answers_performRequest_ack {message : Text → Text} :
    Answers request
        (performRequest env actuator nodeRequest >>= fun r => ack request (message r)) s ↔
      Performs env actuator nodeRequest ∧ Kept request := by
  rw [answers_performRequest fresh]
  constructor
  · rintro ⟨response, performed, acked⟩
    exact ⟨⟨response, performed⟩, (answers_ack fresh).mp acked⟩
  · rintro ⟨⟨response, performed⟩, kept⟩
    exact ⟨response, performed, (answers_ack fresh).mpr kept⟩

theorem answers_queryUtility {rest : Bool → Block PUnit} :
    Answers request (queryUtility cfg env actuator >>= rest) s ↔
      cfg.enabled = true ∧ Answers request (rest (env.registered actuator)) s := by
  rw [answers_bind, queryUtility, Try.leaves_ite]
  split
  · rename_i enabled
    exact ⟨fun h => ⟨enabled, h⟩, And.right⟩
  · rename_i disabled
    exact ⟨fun h => absurd h (@answers_throw _ _ fresh noQueryUtility),
      fun h => absurd h.1 disabled⟩

theorem answers_instantiate {rest : PUnit → Block PUnit} :
    Answers request (instantiate env actuator >>= rest) s ↔
      env.instantiate actuator = .ok () ∧ Answers request (rest ⟨⟩) (s.create actuator) := by
  rw [answers_bind, instantiate, Try.leaves_bind, Try.leaves_ofExcept]
  cases env.instantiate actuator with
  | ok done => simp
  | error err => simp [fresh, answeredOnce_nil]

/-- A block that goes on with whether the actuator is there. -/
theorem answers_load {rest : Bool → Block PUnit} {loaded missing : Prop}
    (there : ∀ t : State, t.written = [] → (Answers request (rest true) t ↔ loaded))
    (absent : Answers request (rest false) s ↔ missing) :
    Answers request (load cfg env actuator >>= rest) s ↔
      Loads cfg env s actuator ∧ loaded ∨
        s.has actuator = false ∧ cfg.enabled = true ∧ env.registered actuator = false ∧
          missing := by
  have raised : ∀ t : State, t.written = [] → ¬ AnsweredOnce request t.written := by
    intro t unwritten
    rw [unwritten]
    exact answeredOnce_nil
  unfold Answers Loads Creates at *
  rw [Try.leaves_bind, load_leaves]
  by_cases has : s.has actuator = true
  · simp [has, there s fresh]
  by_cases enabled : cfg.enabled = true
  swap
  · simp [has, enabled, raised s fresh]
  by_cases registered : env.registered actuator = true
  swap
  · simp [has, enabled, registered, absent]
  rw [if_neg has, if_pos enabled, if_pos registered]
  cases created : env.instantiate actuator with
  | ok done => simp [has, enabled, registered, there (s.create actuator) fresh]
  | error err => simp [has, registered, raised s fresh]

theorem answers_viaUtility :
    Answers request (viaUtility cfg env request actuator) s ↔
      UtilityAnswers cfg env request s actuator := by
  rw [viaUtility, UtilityAnswers, @answers_load cfg env request actuator s fresh _
    (Performs env actuator request.nodeRequest ∧ Kept request) (Kept request)]
  · tauto
  · exact fun t unwritten => answers_performRequest_ack unwritten
  · exact answers_ack fresh

theorem answers_viaHpi {work : Block PUnit} {works : Prop}
    (worked : ∀ t : State, t.written = [] → (Answers request work t ↔ works ∧ Kept request)) :
    Answers request (viaHpi cfg env work) s ↔ HpiAnswers cfg env request s works := by
  rw [viaHpi, HpiAnswers, Creates]
  by_cases vm : isEnvVm env = true
  · simp [vm, answers_pure fresh]
  by_cases has : s.has .hpi = true
  · rw [if_neg vm, answers_get, if_pos has]
    simp [has, answers_pure fresh]
  rw [if_neg vm, answers_get, if_neg has, answers_queryUtility fresh]
  by_cases registered : env.registered .hpi = true
  · rw [if_pos registered, answers_instantiate fresh, worked (s.create .hpi) fresh]
    simp only [Bool.not_eq_true] at vm has
    tauto
  · rw [if_neg registered]
    simp [registered, answers_throw fresh]

theorem answers_reset_work :
    Answers request (do
        let driveRequest := strip (request.nodeRequest.drop 13)
        let hpiResponse ← performRequest env .hpi (setPower driveRequest "POWER_OFF")
        if hasWord "Success" hpiResponse then
          let hpiResponse ← performRequest env .hpi (setPower driveRequest "POWER_ON")
          ack request (simplified hpiResponse)
        else ack request hpiResponse) s ↔
      Resets env request ∧ Kept request := by
  rw [Resets]
  dsimp only
  rw [answers_performRequest fresh]
  constructor
  · rintro ⟨response, performed, rest⟩
    by_cases success : hasWord "Success" (strip response) = true
    · rw [if_pos success] at rest
      obtain ⟨performs, kept⟩ := (answers_performRequest_ack fresh).mp rest
      exact ⟨⟨response, performed, fun _ => performs⟩, kept⟩
    · rw [if_neg success] at rest
      exact ⟨⟨response, performed, fun h => absurd h success⟩, (answers_ack fresh).mp rest⟩
  · rintro ⟨⟨response, performed, again⟩, kept⟩
    refine ⟨response, performed, ?_⟩
    by_cases success : hasWord "Success" (strip response) = true
    · rw [if_pos success]
      exact (answers_performRequest_ack fresh).mpr ⟨again success, kept⟩
    · rw [if_neg success]
      exact (answers_ack fresh).mpr kept

/-- What follows the acknowledgement of a RAID request does not matter for the answer. -/
theorem answers_execute :
    Answers request (execute cfg env request actuator) s ↔
      Performs env actuator request.nodeRequest ∧ Kept request := by
  cases actuator with
  | raid =>
      refine executeRaidRequest_leaves.trans ?_
      cases performed : env.perform .raid request.nodeRequest with
      | ok response =>
          have acked : AnsweredOnce request
              (s.write (ackResponse request (strip response) 0)).written ↔ Kept request :=
            answers_ack fresh
          simp [Performs, performed, acked]
      | error err => simp [Performs, performed, fresh, answeredOnce_nil]
  | _ => exact answers_performRequest_ack fresh

theorem answers_viaTable (created : s.table actuator = some .initialized → s.has actuator = true) :
    Answers request (viaTable cfg env request actuator (execute cfg env request actuator)) s ↔
      TableAnswers cfg env request s actuator := by
  rw [viaTable, TableAnswers, Creates, answers_get]
  cases entry : s.table actuator with
  | none => simp [answers_pure fresh]
  | some state =>
      cases state with
      | initialized =>
          dsimp only
          rw [if_pos (created entry), answers_execute fresh]
          exact and_comm
      | initializing =>
          dsimp only
          rw [answers_write fresh, and_true]
          exact map_normalized_iff
      | imported =>
          dsimp only
          have unwritten : (s.setState actuator .initializing).written = [] := fresh
          rw [answers_modify, answers_queryUtility unwritten]
          by_cases registered : env.registered actuator = true
          · rw [if_pos registered, answers_instantiate unwritten, answers_setState,
              answers_execute (s := (s.setState actuator .initializing).create actuator) fresh]
            tauto
          · rw [if_neg registered]
            simp [registered, answers_pure unwritten]

/-- An error text tells that `smartctl` failed, whether it is returned or raised. -/
theorem readSerialNumber_leaves :
    (readSerialNumber env driveRequest).Leaves
      (fun found t => t.written = [] ∧ (found.2 ≠ [] ↔ SerialError env driveRequest))
      (fun err t => t.written = [] ∧ (err ≠ [] ↔ SerialError env driveRequest)) s := by
  unfold readSerialNumber performRequest SerialError
  simp only [Try.leaves_bind, Try.leaves_ofExcept, Try.leaves_pure, Try.leaves_ite]
  cases env.perform .smartctl (getSerial driveRequest) with
  | error err => exact ⟨fresh, Iff.rfl⟩
  | ok response =>
      dsimp only
      split
      · rename_i word
        have nonempty := @ne_nil_of_hasWord "error" _ (by decide) word
        exact ⟨fresh, fun _ => word, fun _ => by simpa using nonempty⟩
      · rename_i word
        exact ⟨fresh, fun h => absurd rfl h, fun h => absurd h word⟩

/-- Looking the serial number up never raises and writes nothing. -/
theorem retrieveSerialNumber_leaves :
    (retrieveSerialNumber cfg env driveRequest).Leaves
      (fun found t => t.written = [] ∧ (found.2 ≠ [] ↔ SerialFails cfg env s driveRequest))
      (fun _ _ => False) s := by
  rw [retrieveSerialNumber]
  simp only [Try.leaves_tryCatch, Try.leaves_bind, load_leaves, Try.leaves_pure, if_true,
    Bool.false_eq_true, if_false]
  rw [SerialFails]
  split
  · exact readSerialNumber_leaves fresh
  split
  · split
    · rename_i registered
      cases env.instantiate .smartctl with
      | error err => simp [fresh, registered]
      | ok done =>
          rw [registered]
          simp only [true_and]
          exact readSerialNumber_leaves (s := s.create .smartctl) fresh
    · rename_i missing
      simp [fresh, missing]
  · exact ⟨fresh, iff_of_true noQueryUtility_ne_nil trivial⟩

/-- An error is acknowledged; otherwise it goes on with the serial number. -/
theorem answers_retrieve {rest : Text → Block PUnit} {goesOn : Prop}
    (found : ∀ serialNumber (t : State), t.written = [] →
      (Answers request (rest serialNumber) t ↔ goesOn)) :
    Answers request (do
        let (serialNumber, error) ← retrieveSerialNumber cfg env driveRequest
        if error ≠ [] then ack request error else rest serialNumber) s ↔
      SerialFails cfg env s driveRequest ∧ Kept request ∨
        ¬ SerialFails cfg env s driveRequest ∧ goesOn := by
  rw [answers_bind]
  apply (retrieveSerialNumber_leaves fresh).iff
  · rintro ⟨serialNumber, error⟩ t ⟨unwritten, fails⟩
    dsimp only at fails ⊢
    split
    · rename_i failed
      refine (answers_ack unwritten).trans ?_
      simp [fails.mp failed]
    · rename_i succeeded
      refine (found serialNumber t unwritten).trans ?_
      have := mt fails.mpr succeeded
      simp [this]
  · exact fun _ _ => False.elim

theorem answers_checkSerialNumber :
    Answers request (do
        if ← Try.ofExcept (env.checkSerialNumber driveRequest) then
          forward cfg request .diskMonitor "disk_smart_test" driveRequest request.nodeRequest
        else ack request "Drive Not Found".toList) s ↔
      env.checkSerialNumber driveRequest = .ok true ∧ cfg.queued .diskMonitor = true ∨
        env.checkSerialNumber driveRequest = .ok false ∧ Kept request := by
  rw [answers_ofExcept fresh]
  constructor
  · rintro ⟨found, checked, rest⟩
    cases found with
    | true => exact .inl ⟨checked, (answers_forward fresh).mp rest⟩
    | false => exact .inr ⟨checked, (answers_ack fresh).mp rest⟩
  · rintro (⟨checked, queued⟩ | ⟨checked, kept⟩)
    · exact ⟨true, checked, (answers_forward fresh).mpr queued⟩
    · exact ⟨false, checked, (answers_ack fresh).mpr kept⟩

theorem answers_smart :
    Answers request (smart cfg env request) s ↔
      SmartAnswers cfg env request s (strip (request.nodeRequest.drop 12)) := by
  rw [smart, SmartAnswers]
  dsimp only
  split
  · exact answers_forward fresh
  split
  · rw [@answers_retrieve cfg env request s _ fresh (fun _ => pure ⟨⟩) False]
    · simp
    · exact fun _ _ unwritten => iff_of_false (answers_pure unwritten) id
  · refine (@answers_load cfg env request .smartctl s fresh _ _ False
      (fun _ unwritten => answers_checkSerialNumber unwritten) ?_).trans ?_
    · exact iff_of_false (answers_throw fresh) id
    · simp

theorem answers_forwardDrive {receiver : Receiver} {sensorRequestType : String} :
    Answers request
        (forwardDrive cfg env request receiver sensorRequestType driveRequest nodeRequest) s ↔
      DriveAnswers cfg env request s receiver driveRequest := by
  rw [forwardDrive, DriveAnswers]
  split
  · rename_i path
    rw [@answers_retrieve cfg env request s _ fresh (fun serialNumber =>
      forward cfg request receiver sensorRequestType serialNumber nodeRequest)
      (cfg.queued receiver = true)]
    · simp [path]
    · exact fun _ _ unwritten => answers_forward unwritten
  · rename_i name
    rw [answers_forward fresh]
    simp [name]

theorem answers_driveStatus {sensorRequestType : String} :
    Answers request (driveStatus cfg env request sensorRequestType driveRequest) s ↔
      StatusAnswers cfg env request s driveRequest := by
  rw [driveStatus, StatusAnswers]
  split
  · exact answers_forward fresh
  · exact answers_forwardDrive fresh

theorem answers_hpiStatus :
    Answers request (hpiStatus cfg env request) s ↔ HpiStatusAnswers cfg env request s := by
  rw [hpiStatus, HpiStatusAnswers]
  by_cases vm : isEnvVm env = true
  · simp [vm, answers_pure fresh]
  · rw [if_neg vm]
    simp only [Bool.not_eq_true] at vm
    simp only [vm, true_and]
    split
    · exact answers_ack fresh
    · exact answers_driveStatus fresh

theorem answers_simulate :
    Answers request (simulate cfg env request) s ↔ SimulateAnswers cfg env request s := by
  rw [simulate, SimulateAnswers]
  rcases (strip (request.nodeRequest.drop 9)).splitOn ' ' with _ | ⟨event, _ | ⟨drive, rest⟩⟩
  · exact iff_of_false (answers_throw fresh) id
  · exact iff_of_false (answers_throw fresh) id
  · dsimp only
    split <;> exact answers_forwardDrive fresh

theorem answers_bezel (missing : s.has .gem = false) :
    ¬ Answers request (bezel cfg env request) s := by
  rw [bezel, answers_get, missing]
  simp only [Bool.false_eq_true, if_false]
  split
  · exact answers_throw fresh
  · exact answers_throw fresh

theorem loadNodeHw_leaves {loads : Prop}
    (h : loads ↔ s.has .nodeHw = true ∨ env.ipmiClient = .ok true ∧
      env.instantiate .nodeHw = .ok () ∧ env.nodeHwInitialize = .ok ()) :
    (loadNodeHw env).Leaves (fun found t => t.written = [] ∧ (found = true ↔ loads))
      (fun _ t => t.written = [] ∧ ¬ loads) s := by
  unfold loadNodeHw instantiate
  simp only [Try.leaves_bind, Try.leaves_get, Try.leaves_ite, Try.leaves_pure,
    Try.leaves_ofExcept, Try.leaves_modify, h]
  split
  · rename_i has
    exact ⟨fresh, iff_of_true trivial (Or.inl has)⟩
  · rename_i has
    cases env.ipmiClient with
    | error err => simp [fresh, has]
    | ok found =>
        cases found with
        | false => simp [fresh, has]
        | true =>
            cases env.instantiate .nodeHw with
            | error err => simp [fresh, has]
            | ok done => cases env.nodeHwInitialize <;> simp [State.create, fresh, has]

/-- The call of the actuator, once it is there. -/
theorem answers_nodeHw_work :
    Answers request (do
        let response ← Try.ofExcept env.nodeHwPerform
        let json ← Try.ofExcept
          ((nodeHwAckResponseMsg env.ids response).mapError fun _ => indexError)
        write (.nodeHwAck json (request.uuid.map normalized))) s ↔
      (∃ response json, env.nodeHwPerform = .ok response ∧
        nodeHwAckResponseMsg env.ids response = .ok json) ∧ Kept request := by
  rw [answers_ofExcept fresh]
  constructor
  · rintro ⟨response, performed, rest⟩
    obtain ⟨json, acked, rest⟩ := (answers_ofExcept fresh).mp rest
    have kept := map_normalized_iff.mp ((answers_write fresh).mp rest)
    exact ⟨⟨response, json, performed, mapError_eq_ok.mp acked⟩, kept⟩
  · rintro ⟨⟨response, json, performed, acked⟩, kept⟩
    refine ⟨response, performed, (answers_ofExcept fresh).mpr ⟨json, ?_, ?_⟩⟩
    · exact mapError_eq_ok.mpr acked
    · exact (answers_write fresh).mpr (map_normalized_iff.mpr kept)

theorem answers_nodeHw :
    Answers request (nodeHw env request) s ↔ NodeHwAnswers env request s := by
  rw [nodeHw, NodeHwAnswers, answers_caught, answers_bind]
  apply (loadNodeHw_leaves fresh Iff.rfl).iff
  · rintro found t ⟨unwritten, loads⟩
    cases found with
    | false =>
        refine iff_of_false (answers_pure unwritten) fun h => ?_
        cases loads.mpr h.1
    | true =>
        rw [← loads]
        exact (answers_nodeHw_work unwritten).trans (by simp)
  · rintro err t ⟨unwritten, missing⟩
    exact iff_of_false (@answers_throw _ _ unwritten err) fun h => missing h.1

end

/-- What holds between two requests of any run: the actuator of the bezel is never there, and an
actuator that is initialized is. -/
structure Sound (s : State) : Prop where
  gem : s.has .gem = false
  created : ∀ actuator ∈ [Actuator.raid, .hdparm],
    s.table actuator = some .initialized → s.has actuator = true

/-- A request is answered or passed on exactly once if and only if it is answerable. -/
theorem answers_processMsg (fresh : s.written = []) (sound : Sound s) :
    Answers request (processMsg cfg env request) s ↔ Answerable cfg env request s := by
  rw [processMsg, Answerable]
  cases componentOf request.nodeRequest with
  | sspl => exact answers_viaUtility fresh
  | pdu => exact answers_viaUtility fresh
  | ipmi => exact answers_viaUtility fresh
  | led => exact answers_viaHpi fresh fun _ unwritten => answers_performRequest_ack unwritten
  | stop => exact answers_viaHpi fresh fun _ unwritten => answers_performRequest_ack unwritten
  | star => exact answers_viaHpi fresh fun _ unwritten => answers_performRequest_ack unwritten
  | rese => exact answers_viaHpi fresh fun _ unwritten => answers_reset_work unwritten
  | beze => exact iff_of_false (answers_bezel fresh sound.gem) id
  | raid => exact answers_viaTable fresh (sound.created .raid (by decide))
  | hdpa => exact answers_viaTable fresh (sound.created .hdparm (by decide))
  | smar => exact answers_smart fresh
  | drvm => exact answers_driveStatus fresh
  | hpi => exact answers_hpiStatus fresh
  | simu => exact answers_simulate fresh
  | ndhw => exact answers_nodeHw fresh
  | unknown => exact answers_ack fresh

end

theorem Sound.quiet {s t : State} (h : Sound s) (quiet : Quiet none s t) : Sound t := by
  refine ⟨quiet.gem.trans h.gem, fun actuator mem entry => ?_⟩
  have before := (quiet.table actuator (by simp)).symm.trans entry
  exact quiet.kept actuator (h.created actuator mem before)

theorem processMsg_sound {cfg : Config} {env : Env} {request : Request} {s : State}
    (h : Sound s) :
    (processMsg cfg env request).Leaves (fun _ => Sound) (fun _ => Sound) s := by
  cases own : tabled (componentOf request.nodeRequest) with
  | none =>
      exact (processMsg_of_untabled own s).mono (fun _ _ => h.quiet) (fun _ _ => h.quiet)
  | some owned =>
      obtain ⟨mem, other⟩ := tabled_mem own
      rw [processMsg_of_tabled own]
      by_cases busy : s.table owned = some .initializing
      · exact (viaTable_of_initializing busy).mpr ⟨h.gem, h.created⟩
      have quiet := @viaTable_quiet cfg env request owned s busy other
      have created := @viaTable_created cfg env request owned s (h.created owned mem) other
      have kept : ∀ t, Quiet (some owned) s t ∧
          (t.table owned = some .initialized → t.has owned = true) → Sound t := by
        rintro t ⟨quiet, there⟩
        refine ⟨quiet.gem.trans h.gem, fun actuator tracked entry => ?_⟩
        by_cases same : owned = actuator
        · exact same ▸ there (same ▸ entry)
        · have before := (quiet.table actuator (by simpa using same)).symm.trans entry
          exact quiet.kept actuator (h.created actuator tracked before)
      exact (quiet.and created).mono (fun _ => kept) (fun _ => kept)

theorem handle_sound {cfg : Config} {env : Env} {request : Request} {s : Server}
    (sound : Sound s.handler) : Sound (s.handle cfg env request).handler :=
  Try.leaves_iff.mp (processMsg_sound ⟨sound.gem, sound.created⟩)

/-- Every request so far was answered or passed on exactly once, with its own uuid. -/
def AllAnswered (s : Server) : Prop := ∀ entry ∈ s.log, AnsweredOnce entry.1 entry.2

theorem handle_answered_iff {cfg : Config} {env : Env} {request : Request} {s : Server}
    (sound : Sound s.handler) (answered : AllAnswered s) :
    AllAnswered (s.handle cfg env request) ↔ Answerable cfg env request s.handler := by
  have answers : AnsweredOnce request (s.handle cfg env request).handler.written ↔
      Answerable cfg env request s.handler :=
    Try.leaves_iff.symm.trans (answers_processMsg (s := { s.handler with written := [] }) rfl
      ⟨sound.gem, sound.created⟩)
  rw [← answers]
  constructor
  · exact fun all => all _ (List.mem_append_right _ (List.mem_singleton_self _))
  · intro once entry mem
    rcases List.mem_append.mp mem with old | new
    · exact answered entry old
    · rw [List.mem_singleton.mp new]
      exact once

theorem start_sound {cfg : Config} {start : Server} (init : (server cfg).init start) :
    Sound start.handler ∧ AllAnswered start := by
  obtain ⟨has, imported, log⟩ := init
  refine ⟨⟨has .gem, fun actuator _ entry => ?_⟩, ?_⟩
  · cases imported actuator _ entry
  · rw [AllAnswered]
    rw [log]
    simp

/-- Every request of a run is answered or passed on exactly once, with its own uuid, if and only
if each of them is answerable in the state in which it is handled. -/
theorem answered_once_iff {cfg : Config} {start : Server} (init : (server cfg).init start)
    (actions : List (Env × Request)) :
    (server cfg).Always AllAnswered start actions ↔
      ∃ t, (server cfg).Runs (fun s action => Answerable cfg action.1 action.2 s.handler)
        start actions t := by
  have preserved : ∀ (s : Server) (action : Env × Request) t,
      Sound s.handler ∧ AllAnswered s → Answerable cfg action.1 action.2 s.handler →
      (server cfg).next s action = some t → Sound t.handler ∧ AllAnswered t := by
    rintro s action t ⟨sound, answered⟩ answerable step
    cases step
    exact ⟨handle_sound sound, (handle_answered_iff sound answered).mpr answerable⟩
  constructor
  · intro always
    obtain ⟨t, free⟩ := exists_run cfg start actions
    refine ⟨t, (free.always_iff (fun _ => And.right) preserved ?_ (start_sound init)).mp always⟩
    rintro s action t ⟨sound, answered⟩ step after
    cases step
    exact (handle_answered_iff sound answered).mp after
  · rintro ⟨t, run⟩ done rest u split left
    exact (run.always preserved (start_sound init) done rest u split left).2

namespace Example

def ledOn : Env × Request := (working, ⟨"LED: set".toList, some "u1".toList⟩)

def smartTest : Env × Request := (working, ⟨"SMART_TEST: *".toList, some "u2".toList⟩)

theorem smartTest_answerable {s : State} :
    Answerable (installed "ssu") smartTest.1 smartTest.2 s := by
  have all : strip (smartTest.2.nodeRequest.drop 12) = ['*'] := by decide
  have answers : SmartAnswers (installed "ssu") smartTest.1 smartTest.2 s
      (strip (smartTest.2.nodeRequest.drop 12)) := by
    rw [SmartAnswers, if_pos all]
    rfl
  exact answers

/-- One LED request and the tests of all drives. -/
theorem answered_once_iff_once :
    (server (installed "ssu")).Always AllAnswered loaded [ledOn, smartTest, smartTest] := by
  refine (answered_once_iff (loaded_init _) _).mpr
    ⟨_, .cons ?_ rfl (.cons smartTest_answerable rfl (.cons smartTest_answerable rfl (.nil _)))⟩
  exact ⟨rfl, rfl, ⟨rfl, rfl, rfl⟩, ⟨_, rfl⟩, by decide⟩

/-- The second LED request gets no answer, although everything works. -/
theorem second_unanswered :
    ¬ ∀ (cfg : Config) (start : Server) (actions : List (Env × Request)),
      (server cfg).init start → (server cfg).Always AllAnswered start actions := by
  intro always
  have answered := always (installed "ssu") loaded [ledOn, ledOn] (loaded_init _) _ [] _ rfl
    (.cons trivial rfl (.single trivial rfl))
  have silent : ((processMsg (installed "ssu") working ledOn.2).run
      { (loaded.handle (installed "ssu") working ledOn.2).handler with
        written := [] }).2.written = [] := by decide +kernel
  have once := answered _ (List.mem_append_right _ (List.mem_singleton_self _))
  dsimp only at once
  exact answeredOnce_nil (silent ▸ once)

end Example

end NodeController

end Sspl

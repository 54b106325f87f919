import Sspl.Foundation.Alternation
import Sspl.Foundation.System
import Sspl.Realstor.Fru
import Sspl.Realstor.WebService

/-!
# Whether the enclosure can be reached

The enclosure sensor raises a fault when the time-out counter of the web service has grown, and
resolves it when the service answers again and the events of the enclosure can be read. The alert
that is to be sent is an attribute of the sensor. It is set before the events are read, so an
event that is not as expected leaves it behind, and the sensor that is run again sends it in the
next round, whatever that round finds.

What the time-out counter, the status of the web service and the answer to `show/events` are is
given with each round.
-/

namespace Sspl

/-- The elements, in order. -/
def Items.toList : Items → List Json
  | .nil => []
  | .cons head tail => head :: tail.toList

namespace Realstor

namespace Reachability

open WebService (Response httpOk)

/-- What is in the file; `previous_alert_type` is `None` there as a text. -/
structure Persistent where
  faultAlert : Bool
  previousAlertType : Option FruAlert
  deriving DecidableEq

/-- The attributes of the enclosure sensor, what it has stored, and the alerts it has sent. -/
structure State where
  /-- The alert that is to be sent. -/
  alertType : Option FruAlert
  previousAlertType : Option FruAlert
  faultAlert : Bool
  enclStatus : Option String
  persistentEnclData : Option Persistent
  /-- The alerts that were sent, with their descriptions. -/
  sent : List (FruAlert × Option String)
  /-- The last round did not end in an exception. -/
  running : Bool
  deriving DecidableEq

/-- What a round finds: the counter and the last status of the web service, and the answer to the
request for the events. -/
structure Reading where
  suspended : Bool
  mcTimeoutCounter : Nat
  wsResponseStatus : Option Int
  /-- The URL of the request is at the loopback address. -/
  loopback : Bool
  reply : Except PyErr (Option Response)

/-- What `check_system_status` makes of the response; one with a status from 400 to 599 counts
as none. -/
def readShown (loopback : Bool) : Option Response → Except PyErr Json
  | none => .ok .null
  | some response =>
    match response.statusCode with
    | none => .error .typeError
    | some code =>
      if 400 ≤ code ∧ code < 600 then .ok .null
      else if code ≠ httpOk then if loopback then .ok .null else .error .other
      else
        match response.content with
        | none => .error .valueError
        | some content => content.item "events"

def checkSystemStatus (r : Reading) : Except PyErr Json := do
  readShown r.loopback (← r.reply)

/-- `system_status[0:5]`. -/
def firstFive : Json → Except PyErr (List Json)
  | .list items => .ok (items.toList.take 5)
  | .str s => .ok ((s.toList.take 5).map fun c => .str (String.ofList [c]))
  | _ => .error .typeError

def enclFaultResolvedEvents : List String :=
  ["The network-port Ethernet link is down for controller A",
    "The network-port Ethernet link is down for controller B",
    "The Management Controller IP address changed",
    "The Management Controller booted up.",
    "Both controllers have shut down; no restart",
    "Storage Controller booted up (cold boot - power up).",
    "Management Controller configuration parameters were set"]

/-- The first of the events that is in the message. -/
def eventIn (msg : Json) : List String → Except PyErr (Option String)
  | [] => .ok none
  | event :: rest => do
    let found ← msg.contains event
    if found then return some event else eventIn msg rest

/-- The body of the loop over the events; the event that is found, if any. -/
def eventOf (status : Json) : Except PyErr (Option String) := do
  let severity ← status.item "severity"
  if severity = .str "INFORMATIONAL" then
    let msg ← status.item "message"
    eventIn msg enclFaultResolvedEvents
  else return none

def unreachable : String :=
  "Storage Enclosure unreachable,Possible causes : Enclosure / Storage Controller /" ++
    "Management Controller rebooting,Network port blocked by firewall,Network outage or " ++
    "Power outage."

def State.fault (s : State) : State :=
  { s with alertType := some .fault, enclStatus := some unreachable, faultAlert := true }

/-- `send_json_msg`, and then there is nothing to send. The message and the file that is written
after it are one step: a restart comes before both or after both. -/
def State.send (s : State) (alertType : FruAlert) : State :=
  { s with
    alertType := none
    previousAlertType := some alertType
    sent := s.sent ++ [(alertType, s.enclStatus)]
    persistentEnclData := some ⟨s.faultAlert, some alertType⟩ }

def State.sendPending (s : State) : State :=
  match s.alertType with
  | none => s
  | some alertType => s.send alertType

def State.describe (s : State) (description : Option String) : State :=
  { s with enclStatus := description }

def readEvent (status : Json) : Try State PyErr PUnit := do
  let event ← Try.ofExcept (eventOf status)
  Try.modify fun s => s.describe (event.or s.enclStatus)

/-- The branch in which the enclosure answers again. -/
def resolve (r : Reading) : Try State PyErr PUnit := do
  let status ← Try.ofExcept (checkSystemStatus r)
  if status = .null then return ()
  else do
    Try.modify fun s => { s with alertType := some .faultResolved }
    let events ← Try.ofExcept (firstFive status)
    events.forM readEvent
    Try.modify fun s => { s with faultAlert := false }

/-- The round takes the branch that resolves a fault. -/
def Answers (r : Reading) : Prop :=
  r.mcTimeoutCounter = 0 ∧ r.wsResponseStatus = some httpOk

instance : DecidablePred Answers := fun _ => inferInstanceAs (Decidable (_ ∧ _))

def look (r : Reading) : Try State PyErr PUnit := do
  let s ← Try.get
  if 10 < r.mcTimeoutCounter ∧ s.faultAlert = false then Try.modify State.fault
  else if Answers r ∧ s.previousAlertType ≠ some .faultResolved ∧ s.faultAlert = true then resolve r
  else return ()

def round (r : Reading) : Try State PyErr PUnit :=
  if r.suspended then return ()
  else do
    look r
    Try.modify State.sendPending

/-- `initialize`. -/
def State.initialized (s : State) : State :=
  match s.persistentEnclData with
  | some data =>
    { s with faultAlert := data.faultAlert, previousAlertType := data.previousAlertType }
  | none => { s with persistentEnclData := some ⟨s.faultAlert, s.previousAlertType⟩ }

/-- A new sensor, before `initialize`, with what is in the file and what was sent before. -/
def fresh (data : Option Persistent) (sent : List (FruAlert × Option String)) : State :=
  ⟨none, none, false, none, data, sent, true⟩

def start : State := (fresh none []).initialized

/-- A round of the sensor, its restart by the thread controller after an exception, and a restart
of the daemon. -/
inductive Action
  | round (r : Reading)
  /-- The thread starts the sensor again after an exception. -/
  | rerun
  | restart

/-- What a round leaves, which an exception ended or not. -/
def State.after : Except PyErr PUnit × State → State
  | (.ok _, t) => t
  | (.error _, t) => { t with running := false }

def next (s : State) : Action → Option State
  | .round r => if s.running then some (.after ((round r).run s)) else none
  | .rerun => if s.running then none else some { s.initialized with running := true }
  | .restart => some (fresh s.persistentEnclData s.sent).initialized

/-- The rounds of the sensor over all processes of the daemon. -/
def system : Transition.System State Action where
  init s := s = start
  next := next

def State.alerts (s : State) : List FruAlert := s.sent.map Prod.fst

/-- An event that the loop can read. -/
def Readable (status : Json) : Prop :=
  ∃ fields severity message, status = .dict fields ∧ fields.lookup "severity" = some severity ∧
    fields.lookup "message" = some (.str message)

/-- The enclosure answers, and what it shows are events. -/
structure Recovers (r : Reading) (fields : Fields) (events : Items) : Prop where
  active : r.suspended = false
  answers : Answers r
  reply : r.reply = .ok (some ⟨some httpOk, some (.dict fields)⟩)
  shown : fields.lookup "events" = some (.list events)
  readable : ∀ status ∈ events.toList.take 5, Readable status

/-- The alerts alternate, the flag says which of them was the last, and the next one can be sent:
no round is kept from it by what another has left. -/
structure Sound (s : State) : Prop where
  alternating : Alternating .fault .faultResolved s.alerts
  flag : s.faultAlert = true ↔ s.alerts.getLast? = some .fault
  nextFault : ∀ r, r.suspended = false → 10 < r.mcTimeoutCounter →
    s.alerts.getLast? ≠ some .fault → ((round r).run s).2.alerts = s.alerts ++ [.fault]
  nextResolution : ∀ r fields events, Recovers r fields events →
    s.alerts.getLast? = some .fault → ((round r).run s).2.alerts = s.alerts ++ [.faultResolved]

/-- The response has no events in it: there is none, or it has an HTTP error at the loopback
address, or its events are `null`. -/
inductive Empty (loopback : Bool) : Option Response → Prop
  | failed : Empty loopback none
  | refused (code : Int) (content : Option Json) (error : 400 ≤ code ∧ code < 600) :
      Empty loopback (some ⟨some code, content⟩)
  | disregarded (code : Int) (content : Option Json) (error : code ≠ httpOk)
      (own : loopback = true) : Empty loopback (some ⟨some code, content⟩)
  | null (fields : Fields) (shown : fields.lookup "events" = some .null) :
      Empty loopback (some ⟨some httpOk, some (.dict fields)⟩)

def NoEvents (r : Reading) : Prop := ∃ response, r.reply = .ok response ∧ Empty r.loopback response

/-- A round does not send what an earlier one has left behind: nothing is left, or it is
suspended, or it asks for the events and gets an answer. -/
def Cleared (s : State) : Action → Prop
  | .round r => s.alertType = none ∨ r.suspended = true ∨ Answers r ∧ ¬ NoEvents r
  | _ => True

section Rounds

variable {s t : State} {r : Reading} {err : PyErr} {fields : Fields} {events : Items}

theorem item_eq_null {key : String} {content : Json} (h : content.item key = .ok .null) :
    ∃ fields, content = .dict fields ∧ fields.lookup key = some .null := by
  cases content with
  | dict fields =>
      cases looked : fields.lookup key with
      | none =>
          rw [Json.item, looked] at h
          cases h
      | some value =>
          rw [Json.item, looked] at h
          cases h
          exact ⟨fields, rfl, looked⟩
  | _ => cases h

theorem Empty.of_readShown {loopback : Bool} {response : Option Response}
    (h : readShown loopback response = .ok .null) : Empty loopback response := by
  cases response with
  | none => exact .failed
  | some response =>
      obtain ⟨statusCode, content⟩ := response
      cases statusCode with
      | none => cases h
      | some code =>
          rw [readShown] at h
          dsimp only at h
          by_cases error : 400 ≤ code ∧ code < 600
          · exact .refused code content error
          · rw [if_neg error] at h
            by_cases bad : code ≠ httpOk
            · rw [if_pos bad] at h
              cases loopback with
              | true => exact .disregarded code content bad rfl
              | false => cases h
            · obtain rfl := not_not.mp bad
              rw [if_neg bad] at h
              cases content with
              | none => cases h
              | some content =>
                  obtain ⟨fields, rfl, shown⟩ := item_eq_null h
                  exact .null fields shown

theorem Empty.readShown {loopback : Bool} {response : Option Response}
    (h : Empty loopback response) : readShown loopback response = .ok .null := by
  cases h with
  | failed => rfl
  | refused code content error => exact if_pos error
  | disregarded code content error own =>
      subst own
      rw [Reachability.readShown]
      dsimp only
      rw [if_pos error]
      exact ite_self _
  | null fields shown =>
      rw [Reachability.readShown]
      dsimp only
      rw [if_neg (by decide), if_neg (by decide), Json.item, shown]

theorem checkSystemStatus_null_iff : checkSystemStatus r = .ok .null ↔ NoEvents r := by
  rw [checkSystemStatus, bind_eq_ok]
  constructor
  · rintro ⟨response, reply, read⟩
    exact ⟨response, reply, .of_readShown read⟩
  · rintro ⟨response, reply, empty⟩
    exact ⟨response, reply, empty.readShown⟩

theorem run_readEvents (events : List Json) (s : State) :
    ∃ result description, (events.forM readEvent).run s = (result, s.describe description) := by
  induction events generalizing s with
  | nil => exact ⟨.ok ⟨⟩, s.enclStatus, rfl⟩
  | cons status rest ih =>
      cases read : eventOf status with
      | error err =>
          refine ⟨.error err, s.enclStatus, Try.run_bind_of_error ?_⟩
          rw [readEvent, read]
          rfl
      | ok event =>
          obtain ⟨result, last, run⟩ := ih (s.describe (event.or s.enclStatus))
          have head : (readEvent status).run s = (.ok ⟨⟩, s.describe (event.or s.enclStatus)) := by
            rw [readEvent, read]
            rfl
          exact ⟨result, last, (Try.run_bind_of_ok head).trans run⟩

/-- The attributes with which a fault is resolved, before the alert is sent. -/
def State.resolved (s : State) (description : Option String) : State :=
  { s with alertType := some .faultResolved, enclStatus := description, faultAlert := false }

/-- What a round ends in. -/
inductive Turn (s : State) (r : Reading) : Except PyErr PUnit × State → Prop
  | suspended (idle : r.suspended = true) : Turn s r (.ok ⟨⟩, s)
  | fault (active : r.suspended = false) (late : 10 < r.mcTimeoutCounter)
      (clear : s.faultAlert = false) : Turn s r (.ok ⟨⟩, s.fault.sendPending)
  | passed (active : r.suspended = false) (noFault : 10 < r.mcTimeoutCounter → s.faultAlert = true)
      (noEvents : Answers r → s.previousAlertType ≠ some .faultResolved → s.faultAlert = true →
        NoEvents r) : Turn s r (.ok ⟨⟩, s.sendPending)
  | failed (err : PyErr) (answers : Answers r) (asked : ¬ NoEvents r) : Turn s r (.error err, s)
  | unread (err : PyErr) (description : Option String) (held : s.faultAlert = true)
      (answers : Answers r) (asked : ¬ NoEvents r) :
      Turn s r (.error err, { s with alertType := some .faultResolved, enclStatus := description })
  | resolved (description : Option String) (held : s.faultAlert = true) (answers : Answers r)
      (asked : ¬ NoEvents r) : Turn s r (.ok ⟨⟩, (s.resolved description).sendPending)

theorem run_resolve_of_ok {status : Json} (checked : checkSystemStatus r = .ok status) :
    (resolve r).run s = (if status = .null then pure ⟨⟩ else do
      Try.modify fun s => { s with alertType := some .faultResolved }
      let events ← Try.ofExcept (firstFive status)
      events.forM readEvent
      Try.modify fun s => { s with faultAlert := false } : Try State PyErr PUnit).run s := by
  rw [resolve, checked, Try.run_ofExcept_bind_ok]

/-- The branch ends without an exception, and the alert is to be sent. -/
theorem run_resolve_of_read {status : Json} {events : List Json} {description : Option String}
    (checked : checkSystemStatus r = .ok status) (shown : status ≠ .null)
    (sliced : firstFive status = .ok events)
    (read : (events.forM readEvent).run { s with alertType := some .faultResolved } =
      (.ok ⟨⟩, { s with alertType := some .faultResolved, enclStatus := description })) :
    (resolve r).run s = (.ok ⟨⟩, s.resolved description) := by
  rw [run_resolve_of_ok checked, if_neg shown, Try.run_bind_of_ok (Try.run_modify _ s), sliced,
    Try.run_ofExcept_bind_ok, Try.run_bind_of_ok read]
  rfl

theorem round_of_active (active : r.suspended = false) :
    round r = look r >>= fun _ => Try.modify State.sendPending := by
  rw [round, active]
  rfl

theorem run_look_of_late (late : 10 < r.mcTimeoutCounter) (clear : s.faultAlert = false) :
    (look r).run s = (.ok ⟨⟩, s.fault) := by
  rw [look, Try.run_bind_of_ok (Try.run_get s), if_pos ⟨late, clear⟩]
  rfl

theorem run_look_of_resolving (answers : Answers r)
    (open_ : s.previousAlertType ≠ some .faultResolved) (held : s.faultAlert = true) :
    (look r).run s = (resolve r).run s := by
  have zero := answers.1
  rw [look, Try.run_bind_of_ok (Try.run_get s), if_neg (by omega),
    if_pos ⟨answers, open_, held⟩]

theorem run_look_of_passed (noFault : ¬ (10 < r.mcTimeoutCounter ∧ s.faultAlert = false))
    (passed : ¬ (Answers r ∧ s.previousAlertType ≠ some .faultResolved ∧ s.faultAlert = true)) :
    (look r).run s = (.ok ⟨⟩, s) := by
  rw [look, Try.run_bind_of_ok (Try.run_get s), if_neg noFault, if_neg passed]
  rfl

/-- What follows the look at the enclosure in a round. -/
theorem run_round_of_ok (active : r.suspended = false) (looked : (look r).run s = (.ok ⟨⟩, t)) :
    (round r).run s = (.ok ⟨⟩, t.sendPending) := by
  rw [round_of_active active, Try.run_bind_of_ok looked]
  rfl

theorem run_round_of_error (active : r.suspended = false)
    (looked : (look r).run s = (.error err, t)) : (round r).run s = (.error err, t) := by
  rw [round_of_active active, Try.run_bind_of_error looked]

theorem turn_of_resolving (active : r.suspended = false) (answers : Answers r)
    (open_ : s.previousAlertType ≠ some .faultResolved) (held : s.faultAlert = true) :
    Turn s r ((round r).run s) := by
  have looked := run_look_of_resolving answers open_ held
  cases checked : checkSystemStatus r with
  | error err =>
      have asked : ¬ NoEvents r := by
        rw [← checkSystemStatus_null_iff, checked]
        exact fun same => by cases same
      rw [resolve, checked, Try.run_ofExcept_bind_error] at looked
      rw [run_round_of_error active looked]
      exact .failed err answers asked
  | ok status =>
      by_cases shown : status = .null
      · subst shown
        rw [run_resolve_of_ok checked, if_pos rfl, Try.run_pure] at looked
        rw [run_round_of_ok active looked]
        refine .passed active (fun _ => held) fun _ _ _ => checkSystemStatus_null_iff.mp checked
      · have asked : ¬ NoEvents r := by
          rw [← checkSystemStatus_null_iff, checked, Except.ok.injEq]
          exact shown
        cases sliced : firstFive status with
        | error err =>
            rw [run_resolve_of_ok checked, if_neg shown, Try.run_bind_of_ok (Try.run_modify _ s),
              sliced, Try.run_ofExcept_bind_error] at looked
            rw [run_round_of_error active looked]
            exact .unread err s.enclStatus held answers asked
        | ok events =>
            obtain ⟨result, description, read⟩ :=
              run_readEvents events { s with alertType := some .faultResolved }
            cases result with
            | ok value =>
                rw [run_resolve_of_read checked shown sliced read] at looked
                rw [run_round_of_ok active looked]
                exact .resolved description held answers asked
            | error err =>
                rw [run_resolve_of_ok checked, if_neg shown,
                  Try.run_bind_of_ok (Try.run_modify _ s), sliced, Try.run_ofExcept_bind_ok,
                  Try.run_bind_of_error read] at looked
                rw [run_round_of_error active looked]
                exact .unread err description held answers asked

theorem turn (s : State) (r : Reading) : Turn s r ((round r).run s) := by
  by_cases active : r.suspended = false
  · by_cases late : 10 < r.mcTimeoutCounter ∧ s.faultAlert = false
    · rw [run_round_of_ok active (run_look_of_late late.1 late.2)]
      exact .fault active late.1 late.2
    · by_cases resolving : Answers r ∧ s.previousAlertType ≠ some .faultResolved ∧
          s.faultAlert = true
      · exact turn_of_resolving active resolving.1 resolving.2.1 resolving.2.2
      · rw [run_round_of_ok active (run_look_of_passed late resolving)]
        refine .passed active (fun counted => ?_) fun answers open_ held => ?_
        · by_contra clear
          exact late ⟨counted, Bool.not_eq_true _ ▸ clear⟩
        · exact absurd ⟨answers, open_, held⟩ resolving
  · have idle : r.suspended = true := by simpa using active
    have run : (round r).run s = (.ok ⟨⟩, s) := by
      rw [round, idle]
      rfl
    rw [run]
    exact .suspended idle

/-- The three attributes and the file say what the last alert was; only the alert that resolves
a fault is left behind. -/
structure Kept (s : State) : Prop where
  alternating : Alternating .fault .faultResolved s.alerts
  flag : s.faultAlert = true ↔ s.alerts.getLast? = some .fault
  previous : s.previousAlertType = s.alerts.getLast?
  persistent : s.persistentEnclData = some ⟨s.faultAlert, s.previousAlertType⟩
  pending : ∀ alertType, s.alertType = some alertType →
    alertType = .faultResolved ∧ s.faultAlert = true

theorem alerts_send (s : State) (alertType : FruAlert) :
    (s.send alertType).alerts = s.alerts ++ [alertType] := by
  rw [State.alerts, State.send, List.map_append]
  rfl

theorem start_kept : Kept start :=
  ⟨trivial, by decide, rfl, rfl, fun _ pending => by cases pending⟩

theorem sendPending_of_none (nothing : s.alertType = none) : s.sendPending = s := by
  rw [State.sendPending, nothing]

theorem Kept.pending_cases (h : Kept s) :
    s.alertType = none ∨ s.alertType = some .faultResolved ∧ s.faultAlert = true := by
  cases pending : s.alertType with
  | none => exact .inl rfl
  | some alertType =>
      obtain ⟨rfl, held⟩ := h.pending alertType pending
      exact .inr ⟨rfl, held⟩

theorem Kept.fault (h : Kept s) (clear : s.faultAlert = false) : Kept s.fault.sendPending := by
  have last : s.alerts.getLast? ≠ some .fault := by
    rw [Ne, ← h.flag, clear]
    exact Bool.false_ne_true
  have alerts : s.fault.sendPending.alerts = s.alerts ++ [.fault] := alerts_send s.fault .fault
  constructor
  · rw [alerts]
    exact Alternating.concat.mpr ⟨h.alternating, (h.alternating.due_first last).symm⟩
  · rw [alerts, List.getLast?_concat]
    exact iff_of_true rfl rfl
  · rw [alerts, List.getLast?_concat]
    rfl
  · rfl
  · intro _ pending
    cases pending

theorem Kept.resolved (h : Kept s) (held : s.faultAlert = true) (description : Option String) :
    Kept (s.resolved description).sendPending := by
  have last := h.flag.mp held
  have alerts : (s.resolved description).sendPending.alerts = s.alerts ++ [.faultResolved] :=
    alerts_send (s.resolved description) .faultResolved
  constructor
  · rw [alerts]
    exact Alternating.concat.mpr
      ⟨h.alternating, (h.alternating.due_second (by decide) last).symm⟩
  · rw [alerts, List.getLast?_concat]
    exact iff_of_false Bool.false_ne_true (by decide)
  · rw [alerts, List.getLast?_concat]
    rfl
  · rfl
  · intro _ pending
    cases pending

theorem Kept.initialized (h : Kept s) : s.initialized = s := by
  rw [State.initialized, h.persistent]
  dsimp only
  rw [← h.persistent]

theorem Kept.restart (h : Kept s) : Kept (fresh s.persistentEnclData s.sent).initialized := by
  rw [h.persistent]
  exact ⟨h.alternating, h.flag, h.previous, rfl, fun _ pending => by cases pending⟩

theorem Kept.setRunning (h : Kept s) (running : Bool) : Kept { s with running } :=
  ⟨h.alternating, h.flag, h.previous, h.persistent, h.pending⟩

/-- The alert is left behind. -/
theorem Kept.unread (h : Kept s) (held : s.faultAlert = true) (description : Option String) :
    Kept { s with alertType := some .faultResolved, enclStatus := description } := by
  refine ⟨h.alternating, h.flag, h.previous, h.persistent, ?_⟩
  intro _ pending
  cases pending
  exact ⟨rfl, held⟩

theorem Kept.passed (h : Kept s) (active : r.suspended = false) (cleared : Cleared s (.round r))
    (noEvents : Answers r → s.previousAlertType ≠ some .faultResolved → s.faultAlert = true →
      NoEvents r) : s.sendPending = s := by
  obtain nothing | idle | ⟨answers, asked⟩ := cleared
  · exact sendPending_of_none nothing
  · cases active.symm.trans idle
  · obtain nothing | ⟨-, held⟩ := h.pending_cases
    · exact sendPending_of_none nothing
    · refine absurd (noEvents answers ?_ held) asked
      rw [h.previous, h.flag.mp held]
      decide

theorem Kept.step {a : Action} (h : Kept s) (cleared : Cleared s a) (step : next s a = some t) :
    Kept t := by
  cases a with
  | round r =>
      obtain ⟨-, ended⟩ := Option.ite_none_right_eq_some.mp step
      cases ended
      have turned := turn s r
      generalize (round r).run s = ending at turned
      cases turned with
      | suspended idle => exact h
      | fault active late clear => exact h.fault clear
      | passed active noFault noEvents =>
          rw [State.after, h.passed active cleared noEvents]
          exact h
      | failed err answers asked => exact h.setRunning false
      | unread err description held answers asked =>
          exact (h.unread held description).setRunning false
      | resolved description held answers asked => exact h.resolved held description
  | rerun =>
      obtain ⟨-, ended⟩ := Option.ite_none_left_eq_some.mp step
      cases ended
      rw [h.initialized]
      exact h.setRunning true
  | restart =>
      cases step
      exact h.restart

/-- A round that sends what was left behind makes the flag and the last alert differ. -/
theorem Kept.cleared {a : Action} (h : Kept s) (step : next s a = some t) (sound : Sound t) :
    Cleared s a := by
  cases a with
  | round r =>
      obtain nothing | ⟨pending, held⟩ := h.pending_cases
      · exact .inl nothing
      · obtain ⟨-, ended⟩ := Option.ite_none_right_eq_some.mp step
        cases ended
        have turned := turn s r
        generalize (round r).run s = ending at turned sound
        cases turned with
        | suspended idle => exact .inr (.inl idle)
        | fault active late clear => cases held.symm.trans clear
        | passed active noFault noEvents =>
            have sent : s.sendPending = s.send .faultResolved := by rw [State.sendPending, pending]
            have last := sound.flag.mp (by rw [State.after, sent]; exact held)
            rw [State.after, sent, alerts_send, List.getLast?_concat] at last
            cases last
        | failed err answers asked => exact .inr (.inr ⟨answers, asked⟩)
        | unread err description held answers asked => exact .inr (.inr ⟨answers, asked⟩)
        | resolved description held answers asked => exact .inr (.inr ⟨answers, asked⟩)
  | rerun => trivial
  | restart => trivial

theorem eventIn_str (msg : String) (names : List String) :
    ∃ event, eventIn (.str msg) names = .ok event := by
  induction names with
  | nil => exact ⟨none, rfl⟩
  | cons name rest ih =>
      obtain ⟨event, found⟩ := ih
      by_cases within : name.toList <:+: msg.toList
      · refine ⟨some name, ?_⟩
        simp [eventIn, Json.contains, within, bind, Except.bind, pure, Except.pure]
      · exact ⟨event, by simp [eventIn, Json.contains, within, bind, Except.bind, found]⟩

theorem Readable.eventOf {status : Json} (h : Readable status) :
    ∃ event, eventOf status = .ok event := by
  obtain ⟨fields, severity, message, rfl, shown, told⟩ := h
  obtain ⟨event, found⟩ := eventIn_str message enclFaultResolvedEvents
  have severityItem : (Json.dict fields).item "severity" = .ok severity := by
    rw [Json.item, shown]
  have messageItem : (Json.dict fields).item "message" = .ok (.str message) := by
    rw [Json.item, told]
  rw [Reachability.eventOf, severityItem]
  by_cases informational : severity = .str "INFORMATIONAL"
  · refine ⟨event, ?_⟩
    simp only [informational, messageItem, bind, Except.bind, if_pos, found]
  · refine ⟨none, ?_⟩
    simp only [informational, bind, Except.bind, if_false]
    rfl

theorem run_readEvents_of_readable {events : List Json} (s : State)
    (readable : ∀ status ∈ events, Readable status) :
    ∃ description, (events.forM readEvent).run s = (.ok ⟨⟩, s.describe description) := by
  induction events generalizing s with
  | nil => exact ⟨s.enclStatus, rfl⟩
  | cons status rest ih =>
      obtain ⟨first, others⟩ := List.forall_mem_cons.mp readable
      obtain ⟨event, read⟩ := first.eventOf
      obtain ⟨last, run⟩ := ih (s.describe (event.or s.enclStatus)) others
      have head : (readEvent status).run s = (.ok ⟨⟩, s.describe (event.or s.enclStatus)) := by
        rw [readEvent, read]
        rfl
      exact ⟨last, (Try.run_bind_of_ok head).trans run⟩

theorem Recovers.checked (recovers : Recovers r fields events) :
    checkSystemStatus r = .ok (.list events) := by
  rw [checkSystemStatus, recovers.reply]
  have read : readShown r.loopback (some ⟨some httpOk, some (.dict fields)⟩) =
      (Json.dict fields).item "events" := rfl
  refine read.trans ?_
  rw [Json.item, recovers.shown]

theorem Kept.sound (h : Kept s) : Sound s := by
  refine ⟨h.alternating, h.flag, ?_, ?_⟩
  · intro r active late last
    have clear : s.faultAlert = false := by
      by_contra held
      exact last (h.flag.mp (Bool.not_eq_false _ ▸ held))
    rw [run_round_of_ok active (run_look_of_late late clear)]
    exact alerts_send s.fault .fault
  · intro r fields events recovers last
    have held := h.flag.mpr last
    have open_ : s.previousAlertType ≠ some .faultResolved := by
      rw [h.previous, last]
      decide
    obtain ⟨description, read⟩ := run_readEvents_of_readable
      { s with alertType := some .faultResolved } recovers.readable
    have resolved := run_resolve_of_read recovers.checked Json.noConfusion rfl read
    rw [run_round_of_ok recovers.active
      ((run_look_of_resolving recovers.answers open_ held).trans resolved)]
    exact alerts_send (s.resolved description) .faultResolved

/-- The alerts on the reachability of the enclosure alternate and none is blocked exactly in the
runs in which no round sends what an earlier round has left behind, when an exception ended it
before its end. -/
theorem reachability_alternates_iff {actions : List Action}
    (run : system.FreeRuns start actions t) :
    system.Always Sound start actions ↔ system.Runs Cleared start actions t :=
  run.always_iff (I := Kept) (fun _ h => h.sound) (fun _ _ _ h cleared step => h.step cleared step)
    (fun _ _ _ h step sound => h.cleared step sound) start_kept

end Rounds

namespace Example

/-- The counter has grown to 11. -/
def silent : Reading := ⟨false, 11, none, false, .ok none⟩

def shows (event : Json) : Reading :=
  ⟨false, 0, some httpOk, false, .ok (some ⟨some httpOk,
    some (.dict (.cons "events" (.list (.cons event .nil)) .nil))⟩)⟩

/-- An event without a message. -/
def bare : Json := .dict (.cons "severity" (.str "INFORMATIONAL") .nil)

def booted : Json :=
  .dict (.cons "severity" (.str "INFORMATIONAL")
    (.cons "message" (.str "The Management Controller booted up.") .nil))

/-- The request before this round was refused. -/
def refused : Reading := ⟨false, 0, some 500, false, .ok none⟩

def resolution : List Action := [.round silent, .round (shows booted)]

def leftover : List Action := [.round silent, .round (shows bare), .rerun, .round refused]

def afterResolution : State :=
  ⟨none, some .faultResolved, false, some "The Management Controller booted up.",
    some ⟨false, some .faultResolved⟩, [(.fault, some unreachable),
      (.faultResolved, some "The Management Controller booted up.")], true⟩

/-- The enclosure goes and comes back. -/
theorem resolution_alternates : system.Always Sound start resolution :=
  (reachability_alternates_iff (system.run_eq_some_iff.mp
    (show system.run start resolution = some afterResolution by decide +kernel))).mpr
    (.cons (.inl rfl) rfl (.cons (.inl rfl) rfl (.nil _)))

/-- The fault counts as resolved, with the flag still set. -/
def afterLeftover : State :=
  ⟨none, some .faultResolved, true, some unreachable, some ⟨true, some .faultResolved⟩,
    [(.fault, some unreachable), (.faultResolved, some unreachable)], true⟩

/-- The resolution is made from an event without a message, which ends its round before it is sent.
A later round without an answer sends it, and the flag of the open fault stays. -/
theorem leftover_alert_blocks : ¬ ∀ actions t, system.FreeRuns start actions t →
    system.Always Sound start actions := by
  intro all
  have run : system.FreeRuns start leftover afterLeftover :=
    system.run_eq_some_iff.mp (by decide +kernel)
  have sound := all leftover _ run leftover [] _ (List.append_nil _).symm run
  exact absurd (sound.flag.mp rfl) (by decide)

end Example

end Reachability

end Realstor

end Sspl

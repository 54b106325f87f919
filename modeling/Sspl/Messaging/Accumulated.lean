import Sspl.Foundation.System
import Sspl.Foundation.Try
import Sspl.Store.Fifo

/-!
# Draining the accumulated messages

`EgressAccumulatedMsgsProcessor.run` goes through the store queue in a loop: it
takes the head message, sends it, and deletes it once it was sent. A message that
is not sent is either left for the next run of the thread, when an exception
leaves the loop, or looked at again at once. The second happens to an event of
the IEM framework that cannot be raised, to an actuator response that has
expired, and to every message as long as no producer can be created.

`JSON` parsing of a queued message is the parameter `loads`.
-/

namespace Sspl

namespace Accumulated

/-- The limits of the queue, and how a message is parsed again when it is sent. -/
structure Conf (M : Type) where
  queue : QueueConf M
  loads : M → Except PyErr Json

/-- What comes from outside during one iteration. -/
structure Env where
  /-- `int(time.time())`. -/
  now : Int
  raiseIemEvent : Except PyErr Unit
  send : Except PyErr Unit
  /-- The constructor of `MessageProducer` returns. -/
  create : Bool

/-- The store queue and what the draining thread has published and raised, as IEMs, so far. -/
structure State (M : Type) where
  store : Store M
  producer : Bool
  published : List M
  iems : List M

/-- `MSG_TIMEOUT`. -/
def msgTimeout : Int := 300

variable {M : Type}

abbrev Py (M : Type) := Try (State M) PyErr

/-- A call on the store queue. -/
def onQueue {α : Type} (call : Atomic.Call (Store M) α) : Py M α := fun s =>
  (.ok (call.run s.store).1, { s with store := (call.run s.store).2 })

def hasProducer : Py M Bool := fun s => (.ok s.producer, s)

def createMsgProducerObj (created : Bool) : Py M Unit :=
  Try.modify (fun s => { s with producer := created })

def send (outcome : Except PyErr Unit) (item : M) : Py M Unit := fun s =>
  match outcome with
  | .ok () => (.ok (), { s with published := s.published ++ [item] })
  | .error err => (.error err, s)

/-- `Iem.raise_iem_event` with the fields of the section, given its outcome. -/
def raiseIemEvent (outcome : Except PyErr Unit) (iem : Json) (item : M) : Py M Unit := do
  let _ ← Try.ofExcept (iem.item "module")
  let _ ← Try.ofExcept (iem.item "event_code")
  let _ ← Try.ofExcept (iem.item "severity")
  let _ ← Try.ofExcept (iem.item "description")
  Try.ofExcept outcome
  Try.modify (fun s => { s with iems := s.iems ++ [item] })

/-- The message is an actuator response older than the time-out. -/
def expired (now : Int) (dictMsg : Json) : Except PyErr Bool := do
  let message ← dictMsg.item "message"
  if ← message.contains "actuator_response_type" then
    let info ← (← message.item "actuator_response_type").item "info"
    let eventTime ← (← info.item "event_time").toInt
    return decide (msgTimeout < now - eventTime)
  else return false

/-- What becomes of a message that was looked at and caused no exception. -/
inductive Handling
  | sent
  | again
  deriving DecidableEq

def handleIem (env : Env) (iem : Json) (item : M) : Py M Handling := do
  try
    raiseIemEvent env.raiseIemEvent iem item
    pure .sent
  catch _ => pure .again

def handleMessage (env : Env) (dictMsg : Json) (item : M) : Py M Handling := do
  if ← Try.ofExcept (expired env.now dictMsg) then pure .again
  else
    let message ← Try.ofExcept (dictMsg.item "message")
    let _ ← Try.ofExcept (message.contains "sensor_response_type")
    if ← hasProducer then
      send env.send item
      pure .sent
    else
      createMsgProducerObj env.create
      pure .again

/-- The statements between `get` and `delete`; `json.loads(None)` raises. -/
def handle (conf : Conf M) (env : Env) : Option M → Py M Handling
  | none => throw .typeError
  | some item => do
    let dictMsg ← Try.ofExcept (conf.loads item)
    let iem ← Try.ofExcept (dictMsg.get "iem")
    if iem.truthy then handleIem env iem item
    else handleMessage env dictMsg item

/-- One evaluation of the loop condition, and the loop body when it holds. The
result says whether the loop goes on; an exception leaves it. -/
def iteration (conf : Conf M) (env : Env) : Py M Bool := do
  if ← onQueue StoreQueue.isEmpty then pure false
  else
    let item ← onQueue StoreQueue.get
    match ← handle conf env item with
    | .sent =>
      onQueue (StoreQueue.delete conf.queue)
      pure true
    | .again => pure true

def iemKeys : List String := ["module", "event_code", "severity", "description"]

/-- The head message is looked at again at once: it is an event that cannot be
raised, a response that has expired, or a message that could be sent if there
were a producer. -/
def Stuck (conf : Conf M) (env : Env) (producer : Bool) (item : M) : Prop :=
  ∃ dictMsg iem, conf.loads item = .ok dictMsg ∧ dictMsg.get "iem" = .ok iem ∧
    if iem.truthy then
      ¬ ((∀ key ∈ iemKeys, ∃ value, iem.item key = .ok value) ∧ env.raiseIemEvent = .ok ())
    else
      expired env.now dictMsg = .ok true ∨
        expired env.now dictMsg = .ok false ∧ producer = false ∧
          ∃ message known, dictMsg.item "message" = .ok message ∧
            message.contains "sensor_response_type" = .ok known

/-- The iteration has ended the loop, or it has removed the head of the queue and nothing else. -/
def Progress (conf : Conf M) (env : Env) (s : State M) (items : List M) : Prop :=
  ((iteration conf env).run s).1 ≠ .ok true ∨
    ∃ item rest, items = item :: rest ∧ Represents ((iteration conf env).run s).2.store rest

section

variable {conf : Conf M} {env : Env} {s : State M} {item : M} {items rest : List M}

/-- Raising an event ends well when the section is complete and the framework takes it. -/
theorem raiseIemEvent_run (outcome : Except PyErr Unit) (iem : Json) (item : M) (s : State M) :
    ((raiseIemEvent outcome iem item).run s).2.store = s.store ∧
      (((raiseIemEvent outcome iem item).run s).1 = .ok () ↔
        (∀ key ∈ iemKeys, ∃ value, iem.item key = .ok value) ∧ outcome = .ok ()) := by
  rw [raiseIemEvent]
  cases module : iem.item "module" with
  | error err => simp [iemKeys, module]
  | ok _ =>
      cases code : iem.item "event_code" with
      | error err => simp [iemKeys, module, code]
      | ok _ =>
          cases severity : iem.item "severity" with
          | error err => simp [iemKeys, module, code, severity]
          | ok _ =>
              cases description : iem.item "description" with
              | error err => simp [iemKeys, module, code, severity, description]
              | ok _ =>
                  cases outcome <;> simp [iemKeys, module, code, severity, description]

/-- A failure to raise the event is caught, and the loop looks at it again. -/
theorem handleIem_run (env : Env) (iem : Json) (item : M) (s : State M) :
    ((handleIem env iem item).run s).2.store = s.store ∧
      (((handleIem env iem item).run s).1 = .ok .again ↔
        ¬ ((∀ key ∈ iemKeys, ∃ value, iem.item key = .ok value) ∧ env.raiseIemEvent = .ok ())) ∧
      (((handleIem env iem item).run s).1 = .ok .sent ∨
        ((handleIem env iem item).run s).1 = .ok .again) := by
  obtain ⟨store, answer⟩ := raiseIemEvent_run env.raiseIemEvent iem item s
  cases raised : (raiseIemEvent env.raiseIemEvent iem item).run s with
  | mk result t =>
      rw [raised] at store answer
      cases result with
      | ok value =>
          have run : (handleIem env iem item).run s = (.ok .sent, t) := by
            apply Try.run_tryCatch_of_ok
            rw [Try.run_bind_of_ok raised]
            rfl
          rw [run, ← answer]
          exact ⟨store, by simp, .inl rfl⟩
      | error err =>
          have run : (handleIem env iem item).run s = (.ok .again, t) := by
            rw [handleIem, Try.run_tryCatch_of_error (Try.run_bind_of_error raised)]
            rfl
          rw [run, ← answer]
          exact ⟨store, by simp, .inr rfl⟩

theorem handleMessage_run (env : Env) (dictMsg : Json) (item : M) (s : State M) :
    ((handleMessage env dictMsg item).run s).2.store = s.store ∧
      (((handleMessage env dictMsg item).run s).1 = .ok .again ↔
        expired env.now dictMsg = .ok true ∨
          expired env.now dictMsg = .ok false ∧ s.producer = false ∧
            ∃ message known, dictMsg.item "message" = .ok message ∧
              message.contains "sensor_response_type" = .ok known) := by
  rw [handleMessage]
  cases age : expired env.now dictMsg with
  | error err => simp
  | ok late =>
      cases late with
      | true => simp
      | false =>
          simp only [Try.run_ofExcept_bind_ok, Bool.false_eq_true, if_false]
          cases found : dictMsg.item "message" with
          | error err => simp
          | ok message =>
              simp only [Try.run_ofExcept_bind_ok]
              cases read : message.contains "sensor_response_type" with
              | error err => simp [read]
              | ok known =>
                  simp only [Try.run_ofExcept_bind_ok]
                  rw [Try.run_bind_of_ok (show hasProducer.run s = (.ok s.producer, s) from rfl)]
                  cases producer : s.producer with
                  | false =>
                      have run : (do createMsgProducerObj env.create; pure .again :
                          Py M Handling).run s = (.ok .again, { s with producer := env.create }) :=
                        rfl
                      simp [run, read]
                  | true =>
                      cases sent : env.send with
                      | ok value =>
                          have run : (do send (.ok ()) item; pure .sent : Py M Handling).run s =
                            (.ok .sent, { s with published := s.published ++ [item] }) := rfl
                          simp [run]
                      | error err =>
                          have run : (do send (.error err) item; pure .sent : Py M Handling).run s =
                            (.error err, s) := rfl
                          simp [run]

/-- Nothing between `get` and `delete` touches the store. -/
theorem handle_store (conf : Conf M) (env : Env) (item : Option M) (s : State M) :
    ((handle conf env item).run s).2.store = s.store := by
  cases item with
  | none => rfl
  | some item =>
      rw [handle]
      cases conf.loads item with
      | error err => rfl
      | ok dictMsg =>
          simp only [Try.run_ofExcept_bind_ok]
          cases dictMsg.get "iem" with
          | error err => rfl
          | ok iem =>
              simp only [Try.run_ofExcept_bind_ok]
              cases iem.truthy with
              | true => exact (handleIem_run env iem item s).1
              | false => exact (handleMessage_run env dictMsg item s).1

/-- The message went out once, on the bus or through the IEM framework. -/
def Sent (s t : State M) (item : M) : Prop :=
  t.published = s.published ++ [item] ∧ t.iems = s.iems ∨
    t.published = s.published ∧ t.iems = s.iems ++ [item]

def NotSent (s t : State M) : Prop := t.published = s.published ∧ t.iems = s.iems

/-- What went out from `s` to `t` is what the result says. -/
def Reported (s t : State M) (item : M) : Except PyErr Handling → Prop
  | .ok .sent => Sent s t item
  | _ => NotSent s t

theorem raiseIemEvent_reported (outcome : Except PyErr Unit) (iem : Json) (item : M)
    (s : State M) :
    match (raiseIemEvent outcome iem item).run s with
    | (.ok _, t) => Sent s t item
    | (.error _, t) => NotSent s t := by
  rw [raiseIemEvent]
  cases iem.item "module" <;> cases iem.item "event_code" <;> cases iem.item "severity" <;>
    cases iem.item "description" <;> cases outcome <;> simp [Sent, NotSent]

theorem handleIem_reported (env : Env) (iem : Json) (item : M) (s : State M) :
    Reported s ((handleIem env iem item).run s).2 item ((handleIem env iem item).run s).1 := by
  have report := raiseIemEvent_reported env.raiseIemEvent iem item s
  cases raised : (raiseIemEvent env.raiseIemEvent iem item).run s with
  | mk result t =>
      rw [raised] at report
      cases result with
      | ok value =>
          have run : (handleIem env iem item).run s = (.ok .sent, t) := by
            apply Try.run_tryCatch_of_ok
            rw [Try.run_bind_of_ok raised]
            rfl
          rw [run]
          exact report
      | error err =>
          have run : (handleIem env iem item).run s = (.ok .again, t) := by
            rw [handleIem, Try.run_tryCatch_of_error (Try.run_bind_of_error raised)]
            rfl
          rw [run]
          exact report

theorem handleMessage_reported (env : Env) (dictMsg : Json) (item : M) (s : State M) :
    Reported s ((handleMessage env dictMsg item).run s).2 item
      ((handleMessage env dictMsg item).run s).1 := by
  have quiet : NotSent s s := ⟨rfl, rfl⟩
  rw [handleMessage]
  cases expired env.now dictMsg with
  | error err => exact quiet
  | ok late =>
      cases late with
      | true => exact quiet
      | false =>
          simp only [Try.run_ofExcept_bind_ok, Bool.false_eq_true, if_false]
          cases dictMsg.item "message" with
          | error err => exact quiet
          | ok message =>
              simp only [Try.run_ofExcept_bind_ok]
              cases message.contains "sensor_response_type" with
              | error err => exact quiet
              | ok known =>
                  simp only [Try.run_ofExcept_bind_ok]
                  rw [Try.run_bind_of_ok (show hasProducer.run s = (.ok s.producer, s) from rfl)]
                  cases s.producer with
                  | false => exact quiet
                  | true =>
                      cases env.send with
                      | ok value => exact .inl ⟨rfl, rfl⟩
                      | error err => exact quiet

/-- `handle` says that the message was sent exactly when it was. -/
theorem handle_reported (conf : Conf M) (env : Env) (item : M) (s : State M) :
    Reported s ((handle conf env (some item)).run s).2 item
      ((handle conf env (some item)).run s).1 := by
  rw [handle]
  cases conf.loads item with
  | error err => exact ⟨rfl, rfl⟩
  | ok dictMsg =>
      simp only [Try.run_ofExcept_bind_ok]
      cases dictMsg.get "iem" with
      | error err => exact ⟨rfl, rfl⟩
      | ok iem =>
          simp only [Try.run_ofExcept_bind_ok]
          cases iem.truthy with
          | true => exact handleIem_reported env iem item s
          | false => exact handleMessage_reported env dictMsg item s

/-- The loop looks at the message again exactly when it is stuck. -/
theorem handle_again_iff (conf : Conf M) (env : Env) (item : M) (s : State M) :
    ((handle conf env (some item)).run s).1 = .ok .again ↔ Stuck conf env s.producer item := by
  rw [handle, Stuck]
  cases read : conf.loads item with
  | error err => simp
  | ok dictMsg =>
      simp only [Try.run_ofExcept_bind_ok]
      cases found : dictMsg.get "iem" with
      | error err => simp [found]
      | ok iem =>
          simp only [Try.run_ofExcept_bind_ok]
          cases event : iem.truthy with
          | true => simpa [found, event] using (handleIem_run env iem item s).2.1
          | false => simpa [found, event] using (handleMessage_run env dictMsg item s).2

/-- On the empty queue the loop ends. -/
theorem iteration_nil (h : Represents s.store []) :
    (iteration conf env).run s = (.ok false, { s with store := s.store.reset }) := by
  have looked : (onQueue StoreQueue.isEmpty).run s =
      (.ok true, { s with store := s.store.reset }) := by
    simp only [Try.run, onQueue, StoreQueue.isEmpty_run_nil h]
  rw [iteration, Try.run_bind_of_ok looked]
  rfl

/-- On any other queue the head is handed to `handle`, and deleted when sent. -/
theorem iteration_cons (conf : Conf M) (env : Env) (h : Represents s.store (item :: rest)) :
    (iteration conf env).run s =
      match (handle conf env (some item)).run s with
      | (.ok .sent, t) =>
        (.ok true, { t with store := ((StoreQueue.delete conf.queue).run t.store).2 })
      | (.ok .again, t) => (.ok true, t)
      | (.error err, t) => (.error err, t) := by
  have looked : (onQueue StoreQueue.isEmpty).run s = (.ok false, s) := by
    simp only [Try.run, onQueue, StoreQueue.isEmpty_run_cons h]
  have taken : (onQueue StoreQueue.get).run s = (.ok (some item), s) := by
    simp only [Try.run, onQueue, StoreQueue.get_run_cons h]
  rw [iteration, Try.run_bind_of_ok looked]
  simp only [Bool.false_eq_true, if_false]
  rw [Try.run_bind_of_ok taken]
  cases handled : (handle conf env (some item)).run s with
  | mk result t =>
      cases result with
      | error err => rw [Try.run_bind_of_error handled]
      | ok handling =>
          rw [Try.run_bind_of_ok handled]
          cases handling <;> rfl

/-- An iteration makes progress exactly when the head of the queue is not stuck. -/
theorem progress_iff_not_stuck (conf : Conf M) (env : Env) (h : Represents s.store items) :
    Progress conf env s items ↔ ∀ item ∈ items.head?, ¬ Stuck conf env s.producer item := by
  cases items with
  | nil => simp [Progress, iteration_nil h]
  | cons item rest =>
      have stuck := handle_again_iff conf env item s
      have kept := handle_store conf env (some item) s
      have run := iteration_cons conf env h
      simp only [List.head?_cons, Option.mem_def, Option.some.injEq, forall_eq', ← stuck]
      cases handled : (handle conf env (some item)).run s with
      | mk result t =>
          rw [handled] at run kept
          rw [Progress, run]
          cases result with
          | error err => simp
          | ok handling =>
              cases handling with
              | sent =>
                  have removed :
                      Represents ((StoreQueue.delete conf.queue).run t.store).2 rest := by
                    rw [kept]
                    exact StoreQueue.delete_represents conf.queue h
                  simp only [reduceCtorEq, Except.ok.injEq, not_false_eq_true, iff_true]
                  exact .inr ⟨item, rest, rfl, removed⟩
              | again =>
                  simp only [not_true_eq_false, iff_false, not_or, ne_eq]
                  refine ⟨not_false, ?_⟩
                  rintro ⟨item', rest', split, removed⟩
                  rw [kept] at removed
                  cases split
                  simpa using congrArg List.length (h.unique removed)

end

/-- The loop at the evaluation of its condition, or left. -/
structure Loop (M : Type) where
  state : State M
  running : Bool

/-- The iterations of the loop one after the other, without puts in between. -/
def loop (conf : Conf M) : Transition.System (Loop M) Env where
  init l := l.running = true ∧ ∃ items, Represents l.state.store items
  next l env :=
    if l.running then
      some ⟨((iteration conf env).run l.state).2,
        match ((iteration conf env).run l.state).1 with
        | .ok goesOn => goesOn
        | .error _ => false⟩
    else none

/-- The head of the queue, if there is one, is not stuck in the coming iteration. -/
def Moving (conf : Conf M) (l : Loop M) (env : Env) : Prop :=
  ∀ items, Represents l.state.store items →
    ∀ item ∈ items.head?, ¬ Stuck conf env l.state.producer item

/-- The iterations that are left at most, as long as all make progress. -/
def Loop.remaining (l : Loop M) : Nat :=
  if l.running then l.state.store.tail - l.state.store.head + 1 else 0

theorem Loop.remaining_eq {l : Loop M} {items : List M} (running : l.running = true)
    (h : Represents l.state.store items) : l.remaining = items.length + 1 := by
  rw [remaining, if_pos running, h.tail_eq, Nat.add_sub_cancel_left]

theorem Loop.remaining_le {l : Loop M} {items : List M} (h : Represents l.state.store items) :
    l.remaining ≤ items.length + 1 := by
  cases running : l.running with
  | true => exact (Loop.remaining_eq running h).le
  | false => simp [remaining, running]

/-- A moving iteration keeps the queue a list and lowers the number of iterations left. -/
theorem loop_step {conf : Conf M} {l l' : Loop M} {env : Env}
    (represented : l.running = true → ∃ items, Represents l.state.store items)
    (moving : Moving conf l env) (step : (loop conf).next l env = some l') :
    (l'.running = true → ∃ items, Represents l'.state.store items) ∧
      l'.remaining < l.remaining := by
  obtain ⟨running, next⟩ := Option.ite_none_right_eq_some.mp step
  obtain ⟨items, represents⟩ := represented running
  have before := Loop.remaining_eq running represents
  have progress := (progress_iff_not_stuck conf env represents).mpr (moving items represents)
  cases next
  obtain ended | ⟨item, rest, split, removed⟩ := progress
  · have stopped : (match ((iteration conf env).run l.state).1 with
        | .ok goesOn => goesOn
        | .error _ => false) = false := by
      cases result : ((iteration conf env).run l.state).1 with
      | error err => rfl
      | ok goesOn => simpa [result] using ended
    refine ⟨fun still => ?_, ?_⟩
    · rw [stopped] at still
      cases still
    · rw [before, Loop.remaining, if_neg (by simpa using stopped)]
      omega
  · refine ⟨fun _ => ⟨rest, removed⟩, ?_⟩
    rw [before, split, List.length_cons]
    exact Nat.lt_succ_of_le (Loop.remaining_le removed)

/-- Each iteration makes progress exactly when the head of the queue is not stuck,
and a run of the loop in which this is never so takes at most one iteration more
than there are messages in the queue. -/
theorem drain_progress (conf : Conf M) :
    (∀ (env : Env) (s : State M) (items : List M), Represents s.store items →
      (Progress conf env s items ↔
        ∀ item ∈ items.head?, ¬ Stuck conf env s.producer item)) ∧
    ∀ (s : State M) (items : List M) (envs : List Env) (l : Loop M),
      Represents s.store items → (loop conf).Runs (Moving conf) ⟨s, true⟩ envs l →
        envs.length ≤ items.length + 1 := by
  refine ⟨fun env s items represents => progress_iff_not_stuck conf env represents, ?_⟩
  intro s items envs l represents run
  have bound := run.length_add_variant_le (I := fun l => l.running = true →
    ∃ items, Represents l.state.store items) Loop.remaining
    (fun _ _ _ represented moving step => loop_step represented moving step)
    (fun _ => ⟨items, represents⟩)
  have start := Loop.remaining_eq (l := ⟨s, true⟩) rfl represents
  omega

/-- A queue with one actuator response, whose text is `loads` for every message. -/
def sampleConf : Conf Nat where
  queue := ⟨50000000, fun _ => 60, fun _ => 44, 900⟩
  loads _ := .ok (.dict (.cons "message" (.dict (.cons "actuator_response_type"
    (.dict (.cons "info" (.dict (.cons "event_time" (.str "1600000000") .nil)) .nil)) .nil)) .nil))

def waiting : State Nat where
  store := ⟨some 60, some 0, some 1, fun k => if k = 0 then some 7 else none⟩
  producer := true
  published := []
  iems := []

theorem waiting_represents : Represents waiting.store [7] := by
  refine ⟨rfl, rfl, rfl, fun k => ?_⟩
  cases k <;> simp [waiting, Store.head]

/-- Six minutes after its event the response is stuck at the head of the queue. -/
theorem expired_response_spins :
    ¬ ∀ (env : Env) (s : State Nat) (items : List Nat), Represents s.store items →
      Progress sampleConf env s items := by
  intro always
  have progress := always ⟨1600000360, .ok (), .ok (), true⟩ waiting [7] waiting_represents
  have stuck : Stuck sampleConf ⟨1600000360, .ok (), .ok (), true⟩ true 7 :=
    ⟨_, .null, rfl, rfl, .inl (by decide +kernel)⟩
  exact (progress_iff_not_stuck sampleConf _ waiting_represents).mp progress 7 rfl stuck

theorem fresh_not_stuck : ¬ Stuck sampleConf ⟨1600000060, .ok (), .ok (), true⟩ true 7 := by
  rintro ⟨dictMsg, iem, read, found, again⟩
  cases read
  cases found
  obtain late | ⟨-, absent, -⟩ := again
  · revert late
    decide +kernel
  · cases absent

/-- A minute after its event it is sent and deleted, in one iteration of the two
that the loop may take. -/
theorem fresh_response_progress :
    Progress sampleConf ⟨1600000060, .ok (), .ok (), true⟩ waiting [7] ∧
      [(⟨1600000060, .ok (), .ok (), true⟩ : Env)].length ≤ [7].length + 1 := by
  constructor
  · refine ((drain_progress sampleConf).1 _ waiting [7] waiting_represents).mpr ?_
    rintro item ⟨⟩
    exact fresh_not_stuck
  · refine (drain_progress sampleConf).2 waiting [7] _ _ waiting_represents
      (Transition.System.Runs.single ?_ rfl)
    intro items represents item mem
    rw [← waiting_represents.unique represents] at mem
    cases mem
    exact fresh_not_stuck

end Accumulated

end Sspl

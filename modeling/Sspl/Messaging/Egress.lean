import Sspl.Foundation.Try
import Sspl.Messaging.Signature
import Sspl.Store.Room

/-!
# Sending a message out

`EgressProcessor._transmit_msg_on_exchange` signs a message and publishes it, or
holds it in the store queue when the bus is down or older messages are waiting.
Acknowledgements and answers of the thread controller take a branch of their own
that never uses the store queue.

The state is what the method reads and writes: the store, whether `_producer` is
a `MessageProducer`, what the bus has taken, and the flags. What comes from
outside during one call is its `Env`: the time, the signing functions of the
security library, and the outcomes of sending and of creating a producer.
-/

namespace Sspl

namespace Egress

/-- The limits of the queue, how a message becomes a text, and whose signature it gets. -/
structure Conf (M : Type) where
  queue : QueueConf M
  printable : Char → Bool
  dumps : Json → M
  signatureUser : String
  signatureExpires : Json

/-- The answers of the broker and of the other modules while one message is transmitted. -/
structure Env where
  /-- `int(time.time())`. -/
  now : Int
  /-- With the security library loaded: the signature of the given bytes, decoded
  as UTF-8, which fails for most signatures of the pki method. -/
  sign : Option (List UInt8 → Except PyErr String)
  send : Except PyErr Unit
  /-- The constructor of `MessageProducer` returns. -/
  create : Bool

/-- The store queue and the broker, with the two things that a message may do to the daemon
besides: ask for its shutdown, and set the event its sender waits for. -/
structure State (M : Type) where
  store : Store M
  producer : Bool
  published : List M
  requestShutdown : Bool
  eventSet : Bool

variable {M : Type}

abbrev Py (M : Type) := Try (State M) PyErr

def isEmpty : Py M Bool := fun s =>
  let (empty, store) := StoreQueue.isEmpty.run s.store
  (.ok empty, { s with store := store })

def put (conf : QueueConf M) (item : M) : Py M Unit := fun s =>
  let (result, store) := (StoreQueue.put conf item).run s.store
  (result, { s with store := store })

/-- `self._producer.send([item])`, given its outcome. -/
def send (outcome : Except PyErr Unit) (item : M) : Py M Unit := fun s =>
  match outcome with
  | .ok () => (.ok (), { s with published := s.published ++ [item] })
  | .error err => (.error err, s)

def hasProducer : Py M Bool := fun s => (.ok s.producer, s)

/-- `create_MsgProducer_obj`, which catches every exception. -/
def createMsgProducerObj (created : Bool) : Py M Unit :=
  Try.modify (fun s => { s with producer := created })

/-- The message announces the shutdown of the daemon. -/
def isShutdown (jsonMsg : Json) : Except PyErr Bool := do
  let response ← (← jsonMsg.get "message").get "actuator_response_type"
  if response.isNone then return false
  else
    let controller ← response.get "thread_controller"
    if controller.isNone then return false
    else return (← controller.get "thread_response") = .str "SSPL-LL is shutting down"

/-- The message takes the branch of the acknowledgements. -/
def isAck (jsonMsg : Json) : Except PyErr Bool := do
  let response ← (← jsonMsg.get "message").get "actuator_response_type"
  if response.isNone then return false
  else if !(← response.get "ack").isNone then return true
  else return !(← response.get "thread_controller").isNone

def addSignature (conf : Conf M) (env : Env) : Json → Except PyErr Json
  | .dict jsonMsg => do
    let expires ← conf.signatureExpires.toInt
    let stamped := Signature.stamp conf.signatureUser expires env.now jsonMsg
    match env.sign with
    | some sign =>
      let signature ← sign (Signature.signedBytes conf.printable stamped)
      return .dict (stamped.set "signature" (.str signature))
    | none => return .dict (stamped.set "signature" (.str "SecurityLibNotInstalled"))
  | _ => .error .typeError

def publishAck (env : Env) (item : M) : Py M Unit := do
  if ← hasProducer then send env.send item
  else createMsgProducerObj env.create

/-- The body of the inner `try`. -/
def alertBody (conf : QueueConf M) (env : Env) (item : M) : Py M Unit := do
  if ← isEmpty then
    if ← hasProducer then send env.send item
    else
      put conf item
      createMsgProducerObj env.create
  else put conf item

/-- Both `except` clauses of the source do the same. -/
def publishAlert (conf : QueueConf M) (env : Env) (item : M) : Py M Unit := do
  try
    alertBody conf env item
  catch _ => put conf item

/-- The check for the shutdown message. -/
def noteShutdown (jsonMsg : Json) : Py M Unit := do
  if ← Try.ofExcept (isShutdown jsonMsg) then
    Try.modify (fun s => { s with requestShutdown := true })

/-- The two branches that sign and publish the message. -/
def publish (conf : Conf M) (env : Env) (jsonMsg : Json) : Py M Unit := do
  if ← Try.ofExcept (isAck jsonMsg) then
    let signed ← Try.ofExcept (addSignature conf env jsonMsg)
    publishAck env (conf.dumps signed)
  else
    let signed ← Try.ofExcept (addSignature conf env jsonMsg)
    publishAlert conf.queue env (conf.dumps signed)

/-- If a sensor has added an event, set it. -/
def setEvent (event : Bool) : Py M Unit := do
  if event then
    Try.modify (fun s => { s with eventSet := true })

/-- `_transmit_msg_on_exchange` of a message with or without an event. -/
def transmitMsgOnExchange (conf : Conf M) (env : Env) (jsonMsg : Json) (event : Bool) :
    Py M Unit := do
  try
    noteShutdown jsonMsg
    publish conf env jsonMsg
    setEvent event
  catch _ => pure ()

/-- The bus took the item, and the store queue is the same list as before. -/
def Published (s t : State M) (item : M) : Prop :=
  t.published = s.published ++ [item] ∧
    ∀ items, Represents s.store items → Represents t.store items

/-- The item stands at the end of the store queue. -/
def Held (s t : State M) (item : M) : Prop :=
  t.published = s.published ∧
    ∀ items, Represents s.store items → Represents t.store (items ++ [item])

/-- Nothing was published, and the store queue is the same list as before. -/
def Untouched (s t : State M) : Prop :=
  t.published = s.published ∧
    ∀ items, Represents s.store items → Represents t.store items

/-- The alert is sent without a detour through the store queue. -/
def SentDirectly (env : Env) (s : State M) : Prop :=
  s.store.tail = s.store.head ∧ s.producer ∧ env.send = .ok ()

section Alert

variable {conf : QueueConf M} {env : Env} {s : State M} {item : M}

/-- The state after `is_empty` has looked at the store. -/
def afterIsEmpty (s : State M) : State M :=
  { s with store := ((StoreQueue.isEmpty : Atomic.Call (Store M) Bool).run s.store).2 }

theorem isEmpty_run (s : State M) :
    (isEmpty : Py M Bool).run s = (.ok (decide (s.store.tail = s.store.head)), afterIsEmpty s) := by
  have answer : ((StoreQueue.isEmpty : Atomic.Call (Store M) Bool).run s.store).1 =
      decide (s.store.tail = s.store.head) := by
    rw [StoreQueue.isEmpty_run]
    split <;> simp_all
  exact congrArg (fun b => (Except.ok b, afterIsEmpty s)) answer

theorem afterIsEmpty_represents {items : List M} (h : Represents s.store items) :
    Represents (afterIsEmpty s).store items :=
  (StoreQueue.isEmpty_represents h).2

/-- The state after a successful put behind `is_empty`. -/
def afterPut (conf : QueueConf M) (s : State M) (item : M) : State M :=
  { afterIsEmpty s with
    store := ((StoreQueue.append conf item).run (afterIsEmpty s).store).2 }

theorem held_afterPut (conf : QueueConf M) (s : State M) (item : M) :
    Held s (afterPut conf s item) item :=
  ⟨rfl, fun _ h => StoreQueue.append_represents conf (afterIsEmpty_represents h) item⟩

theorem untouched_afterIsEmpty (s : State M) : Untouched s (afterIsEmpty s) :=
  ⟨rfl, fun _ => afterIsEmpty_represents⟩

/-- A put behind `is_empty` holds the item when there is room and raises when not. -/
theorem put_run_of_room (room : StoreQueue.HasRoom conf s.store item) :
    (put conf item).run (afterIsEmpty s) = (.ok (), afterPut conf s item) := by
  have room' := (StoreQueue.hasRoom_isEmpty conf s.store item).mpr room
  have run := (StoreQueue.put_run_of_settled conf (StoreQueue.isEmpty_settled s.store) item).1 room'
  simp only [Try.run, put, afterIsEmpty, afterPut, run]

theorem put_run_of_noRoom (noRoom : ¬ StoreQueue.HasRoom conf s.store item) :
    (put conf item).run (afterIsEmpty s) = (.error .recursionError, afterIsEmpty s) := by
  have noRoom' := fun h => noRoom ((StoreQueue.hasRoom_isEmpty conf s.store item).mp h)
  have run :=
    (StoreQueue.put_run_of_settled conf (StoreQueue.isEmpty_settled s.store) item).2 noRoom'
  simp only [Try.run, put, afterIsEmpty, run]

theorem hasProducer_run (s : State M) : hasProducer.run s = (.ok s.producer, s) := rfl

/-- The four branches of the inner `try`. -/
theorem alertBody_run (conf : QueueConf M) (env : Env) (item : M) (s : State M) :
    (alertBody conf env item).run s =
      if s.store.tail = s.store.head then
        if s.producer then (send env.send item).run (afterIsEmpty s)
        else (do put conf item; createMsgProducerObj env.create : Py M Unit).run (afterIsEmpty s)
      else (put conf item).run (afterIsEmpty s) := by
  rw [alertBody, Try.run_bind_of_ok (isEmpty_run s)]
  by_cases empty : s.store.tail = s.store.head
  · simp only [empty, decide_true, if_true]
    rw [Try.run_bind_of_ok (hasProducer_run _)]
    change (if s.producer = true then _ else _ : Py M Unit).run _ = _
    cases s.producer <;> rfl
  · simp only [empty, decide_false, Bool.false_eq_true, if_false]

/-- Sending directly leaves the store queue alone. -/
theorem publishAlert_sent (conf : QueueConf M) (item : M) (direct : SentDirectly env s) :
    ∃ t, (publishAlert conf env item).run s = (.ok (), t) ∧ Published s t item := by
  obtain ⟨empty, producer, sent⟩ := direct
  refine ⟨{ afterIsEmpty s with published := s.published ++ [item] }, ?_,
    rfl, fun _ => afterIsEmpty_represents⟩
  apply Try.run_tryCatch_of_ok
  rw [alertBody_run, if_pos empty, if_pos producer, sent]
  rfl

/-- Not sent directly, the alert is put in the store queue, by the handler if the
producer has raised. -/
theorem publishAlert_held (indirect : ¬ SentDirectly env s)
    (room : StoreQueue.HasRoom conf s.store item) :
    ∃ t, (publishAlert conf env item).run s = (.ok (), t) ∧ Held s t item := by
  have held := held_afterPut conf s item
  by_cases empty : s.store.tail = s.store.head
  · cases producer : s.producer with
    | true =>
        cases sent : env.send with
        | ok value => exact absurd ⟨empty, producer, sent⟩ indirect
        | error err =>
            refine ⟨afterPut conf s item, ?_, held⟩
            have failed : (alertBody conf env item).run s = (.error err, afterIsEmpty s) := by
              rw [alertBody_run, if_pos empty, if_pos producer, sent]
              rfl
            rw [publishAlert, Try.run_tryCatch_of_error failed]
            exact put_run_of_room room
    | false =>
        refine ⟨{ afterPut conf s item with producer := env.create }, ?_, held⟩
        apply Try.run_tryCatch_of_ok
        rw [alertBody_run, if_pos empty, if_neg (by simp [producer]),
          Try.run_bind_of_ok (put_run_of_room room)]
        rfl
  · refine ⟨afterPut conf s item, ?_, held⟩
    apply Try.run_tryCatch_of_ok
    rw [alertBody_run, if_neg empty]
    exact put_run_of_room room

/-- Without room the put of the `try` and the put of the handler both raise. -/
theorem publishAlert_lost (conf : QueueConf M) (item : M) (indirect : ¬ SentDirectly env s)
    (noRoom : ¬ StoreQueue.HasRoom conf s.store item) :
    (publishAlert conf env item).run s = (.error .recursionError, afterIsEmpty s) := by
  have failed : ∃ err, (alertBody conf env item).run s = (.error err, afterIsEmpty s) := by
    rw [alertBody_run]
    by_cases empty : s.store.tail = s.store.head
    · cases producer : s.producer with
      | true =>
          cases sent : env.send with
          | ok value => exact absurd ⟨empty, producer, sent⟩ indirect
          | error err => exact ⟨err, by rw [if_pos empty, if_pos rfl]; rfl⟩
      | false =>
          refine ⟨.recursionError, ?_⟩
          rw [if_pos empty, if_neg (by simp),
            Try.run_bind_of_error (put_run_of_noRoom noRoom)]
    · exact ⟨.recursionError, by rw [if_neg empty, put_run_of_noRoom noRoom]⟩
  obtain ⟨err, failed⟩ := failed
  rw [publishAlert, Try.run_tryCatch_of_error failed]
  exact put_run_of_noRoom noRoom

end Alert

end Egress

end Sspl

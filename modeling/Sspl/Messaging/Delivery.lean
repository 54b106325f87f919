import Sspl.Messaging.Egress

/-!
# Which messages survive the way out

A message is kept when `_transmit_msg_on_exchange` ends with the message taken by
the bus or standing in the store queue. An alert is kept as long as it can be
signed and the store queue has room. An acknowledgement is kept only while the
bus takes it at once: without a producer, or when sending raises, it is gone,
although the log says it was added to the store.
-/

namespace Sspl

namespace Egress

variable {M : Type}

/-- The message, signed as it was sent, has been published or is held. -/
def Kept (conf : Conf M) (env : Env) (jsonMsg : Json) (s t : State M) : Prop :=
  ∃ signed, addSignature conf env jsonMsg = .ok signed ∧
    (Published s t (conf.dumps signed) ∨ Held s t (conf.dumps signed))

/-- The message is kept, and an event that was set belongs to a kept message. -/
structure NotDropped (conf : Conf M) (env : Env) (jsonMsg : Json) (s t : State M) : Prop where
  kept : Kept conf env jsonMsg s t
  event : t.eventSet = true → Kept conf env jsonMsg s t

/-- The message can be signed, and the bus takes an acknowledgement at once; any
other message is sent directly or finds room in the store queue. -/
def Publishable (conf : Conf M) (env : Env) (jsonMsg : Json) (s : State M) : Prop :=
  ∃ ack signed, isAck jsonMsg = .ok ack ∧ addSignature conf env jsonMsg = .ok signed ∧
    if ack then s.producer ∧ env.send = .ok ()
    else SentDirectly env s ∨ StoreQueue.HasRoom conf.queue s.store (conf.dumps signed)

/-- The sections the method looks at can be read, and the message can be published
or held. -/
def Deliverable (conf : Conf M) (env : Env) (jsonMsg : Json) (s : State M) : Prop :=
  (∃ shutdown, isShutdown jsonMsg = .ok shutdown) ∧ Publishable conf env jsonMsg s

/-- One message read from the queue of the processor, with what happens around it,
or a call another thread makes on the store queue between two messages. -/
inductive Step (M : Type)
  | transmit (env : Env) (jsonMsg : Json) (event : Bool)
  | queue (op : StoreQueue.Op M)

/-- Every message comes with an event of its own. -/
def after (conf : Conf M) (s : State M) : Step M → State M
  | .transmit env jsonMsg event =>
    ((transmitMsgOnExchange conf env jsonMsg event).run { s with eventSet := false }).2
  | .queue op => { s with store := ((StoreQueue.perform conf.queue op).run s.store).2 }

/-- Every message of the sequence is kept when it is read: it is published or held, and an event
that was set belongs to a kept message. -/
def AllKept (conf : Conf M) : State M → List (Step M) → Prop
  | _, [] => True
  | s, step :: rest =>
    (match step with
      | .transmit env jsonMsg _ => NotDropped conf env jsonMsg s (after conf s step)
      | .queue _ => True) ∧
    AllKept conf (after conf s step) rest

/-- Every message of the sequence is deliverable when it is read. -/
def AllDeliverable (conf : Conf M) : State M → List (Step M) → Prop
  | _, [] => True
  | s, step :: rest =>
    (match step with
      | .transmit env jsonMsg _ => Deliverable conf env jsonMsg s
      | .queue _ => True) ∧
    AllDeliverable conf (after conf s step) rest

section

variable {conf : Conf M} {env : Env} {jsonMsg : Json} {event : Bool} {s t u : State M}
  {item : M} {items : List M}

theorem Untouched.not_published (h : Untouched s t) : ¬ Published s t item := by
  rintro ⟨published, -⟩
  rw [h.1] at published
  simpa using congrArg List.length published

theorem Untouched.not_held (h : Untouched s t) (represents : Represents s.store items) :
    ¬ Held s t item := by
  rintro ⟨-, held⟩
  have same := (h.2 items represents).unique (held items represents)
  simpa using congrArg List.length same

/-- The two states differ in the flags only. -/
structure SameBus (s t : State M) : Prop where
  store : t.store = s.store
  producer : t.producer = s.producer
  published : t.published = s.published

theorem SameBus.untouched (h : SameBus s t) : Untouched s t :=
  ⟨h.published, fun items represents => by rwa [h.store]⟩

theorem Untouched.trans (h : Untouched s t) (h' : Untouched t u) : Untouched s u :=
  ⟨h'.1.trans h.1, fun items represents => h'.2 items (h.2 items represents)⟩

/-- A step of the flags before or after does not change what happened to the item. -/
theorem kept_congr {s' t' : State M} (before : SameBus s s') (behind : SameBus t t')
    (h : Published s' t item ∨ Held s' t item) : Published s t' item ∨ Held s t' item := by
  refine h.imp ?_ ?_
  · rintro ⟨published, queue⟩
    rw [before.store, before.published] at *
    exact ⟨behind.published.trans published, by rwa [behind.store]⟩
  · rintro ⟨published, queue⟩
    rw [before.store, before.published] at *
    exact ⟨behind.published.trans published, by rwa [behind.store]⟩

theorem noteShutdown_run (jsonMsg : Json) (s : State M) :
    ∃ result t, (noteShutdown jsonMsg).run s = (result, t) ∧ SameBus s t ∧
      (result = .ok () ↔ ∃ shutdown, isShutdown jsonMsg = .ok shutdown) := by
  cases announced : isShutdown jsonMsg with
  | error err =>
      refine ⟨.error err, s, ?_, ⟨rfl, rfl, rfl⟩, by simp⟩
      rw [noteShutdown, announced]
      exact Try.run_bind_of_error rfl
  | ok shutdown =>
      cases shutdown with
      | true =>
          refine ⟨.ok (), { s with requestShutdown := true }, ?_, ⟨rfl, rfl, rfl⟩, by simp⟩
          rw [noteShutdown, announced]
          exact Try.run_bind_of_ok rfl
      | false =>
          refine ⟨.ok (), s, ?_, ⟨rfl, rfl, rfl⟩, by simp⟩
          rw [noteShutdown, announced]
          exact Try.run_bind_of_ok rfl

theorem setEvent_run (event : Bool) (s : State M) :
    ∃ t, (setEvent event).run s = (.ok (), t) ∧ SameBus s t := by
  cases event with
  | true => exact ⟨{ s with eventSet := true }, rfl, rfl, rfl, rfl⟩
  | false => exact ⟨s, rfl, rfl, rfl, rfl⟩

theorem publishAck_kept (item : M) (producer : s.producer) (sent : env.send = .ok ()) :
    ∃ t, (publishAck env item).run s = (.ok (), t) ∧ Published s t item := by
  refine ⟨{ s with published := s.published ++ [item] }, ?_, rfl, fun _ h => h⟩
  rw [publishAck, Try.run_bind_of_ok (hasProducer_run s)]
  simp only [producer, if_true, Try.run, send, sent]

/-- Without a producer an acknowledgement is dropped in favour of a new producer. -/
theorem publishAck_untouched (failed : ¬ (s.producer ∧ env.send = .ok ())) :
    Untouched s ((publishAck env item).run s).2 := by
  rw [publishAck, Try.run_bind_of_ok (hasProducer_run s)]
  cases producer : s.producer with
  | true =>
      cases sent : env.send with
      | ok value => exact absurd ⟨producer, sent⟩ failed
      | error err => exact ⟨rfl, fun _ h => h⟩
  | false => exact ⟨rfl, fun _ h => h⟩

theorem publish_kept (h : Publishable conf env jsonMsg s) :
    ∃ signed t, addSignature conf env jsonMsg = .ok signed ∧
      (publish conf env jsonMsg).run s = (.ok (), t) ∧
      (Published s t (conf.dumps signed) ∨ Held s t (conf.dumps signed)) := by
  obtain ⟨ack, signed, branch, signature, ready⟩ := h
  rw [publish, branch]
  cases ack with
  | true =>
      obtain ⟨producer, sent⟩ := ready
      obtain ⟨t, run, published⟩ := publishAck_kept (conf.dumps signed) producer sent
      refine ⟨signed, t, signature, ?_, .inl published⟩
      rw [Try.run_bind_of_ok (Try.run_ofExcept _ s)]
      simp only [if_true, signature]
      rwa [Try.run_bind_of_ok (Try.run_ofExcept _ s)]
  | false =>
      rw [Try.run_bind_of_ok (Try.run_ofExcept _ s)]
      simp only [Bool.false_eq_true, if_false, signature]
      rw [Try.run_bind_of_ok (Try.run_ofExcept _ s)]
      by_cases direct : SentDirectly env s
      · obtain ⟨t, run, published⟩ := publishAlert_sent conf.queue (conf.dumps signed) direct
        exact ⟨signed, t, rfl, run, .inl published⟩
      · have room := (by simpa using ready : _ ∨ _).resolve_left direct
        obtain ⟨t, run, held⟩ := publishAlert_held direct room
        exact ⟨signed, t, rfl, run, .inr held⟩

theorem publish_untouched (h : ¬ Publishable conf env jsonMsg s) :
    Untouched s ((publish conf env jsonMsg).run s).2 := by
  have same : Untouched s s := ⟨rfl, fun _ h => h⟩
  cases branch : isAck jsonMsg with
  | error err =>
      rw [publish, branch, Try.run_bind_of_error (Try.run_ofExcept _ s)]
      exact same
  | ok ack =>
      rw [publish, branch, Try.run_bind_of_ok (Try.run_ofExcept _ s)]
      cases signature : addSignature conf env jsonMsg with
      | error err =>
          cases ack <;> exact same
      | ok signed =>
          cases ack with
          | true =>
              simp only [if_true]
              rw [Try.run_bind_of_ok (Try.run_ofExcept _ s)]
              exact publishAck_untouched fun ready => h ⟨true, signed, branch, signature, ready⟩
          | false =>
              simp only [Bool.false_eq_true, if_false]
              rw [Try.run_bind_of_ok (Try.run_ofExcept _ s)]
              have lost := publishAlert_lost conf.queue (conf.dumps signed)
                (fun direct => h ⟨false, signed, branch, signature, .inl direct⟩)
                (fun room => h ⟨false, signed, branch, signature, .inr room⟩)
              rw [lost]
              exact untouched_afterIsEmpty s

/-- What decides about publishing is not among the flags. -/
theorem SameBus.publishable (h : SameBus s t) :
    Publishable conf env jsonMsg t ↔ Publishable conf env jsonMsg s := by
  simp only [Publishable, SentDirectly, h.store, h.producer]

theorem transmit_kept (event : Bool) (h : Deliverable conf env jsonMsg s) :
    Kept conf env jsonMsg s
      ((transmitMsgOnExchange conf env jsonMsg event).run { s with eventSet := false }).2 := by
  obtain ⟨readable, publishable⟩ := h
  have start : SameBus s { s with eventSet := false } := ⟨rfl, rfl, rfl⟩
  obtain ⟨result, s₁, noted, bus, answer⟩ := noteShutdown_run jsonMsg { s with eventSet := false }
  have noted : (noteShutdown jsonMsg).run { s with eventSet := false } = (.ok (), s₁) := by
    rw [noted, answer.mpr readable]
  have bus : SameBus s s₁ :=
    ⟨bus.store.trans start.store, bus.producer.trans start.producer,
      bus.published.trans start.published⟩
  obtain ⟨signed, s₂, signature, published, kept⟩ := publish_kept (bus.publishable.mpr publishable)
  obtain ⟨s₃, done, flags⟩ := setEvent_run event s₂
  have run : (transmitMsgOnExchange conf env jsonMsg event).run { s with eventSet := false } =
      (.ok (), s₃) := by
    apply Try.run_tryCatch_of_ok
    rw [Try.run_bind_of_ok noted, Try.run_bind_of_ok published, done]
  rw [run]
  exact ⟨signed, signature, kept_congr bus flags kept⟩

theorem transmit_untouched (event : Bool) (h : ¬ Deliverable conf env jsonMsg s) :
    Untouched s
      ((transmitMsgOnExchange conf env jsonMsg event).run { s with eventSet := false }).2 := by
  obtain ⟨result, s₁, noted, bus, answer⟩ := noteShutdown_run jsonMsg { s with eventSet := false }
  have bus : SameBus s s₁ := ⟨bus.store, bus.producer, bus.published⟩
  cases result with
  | error err =>
      rw [transmitMsgOnExchange, Try.run_tryCatch_of_error (Try.run_bind_of_error noted)]
      exact bus.untouched
  | ok value =>
      have blocked : ¬ Publishable conf env jsonMsg s₁ := fun publishable =>
        h ⟨answer.mp rfl, bus.publishable.mp publishable⟩
      have untouched := bus.untouched.trans (publish_untouched blocked)
      cases published : (publish conf env jsonMsg).run s₁ with
      | mk result s₂ =>
          rw [published] at untouched
          cases result with
          | error err =>
              have failed : (do
                  noteShutdown jsonMsg
                  publish conf env jsonMsg
                  setEvent event : Py M Unit).run { s with eventSet := false } =
                  (.error err, s₂) := by
                rw [Try.run_bind_of_ok noted, Try.run_bind_of_error published]
              rw [transmitMsgOnExchange, Try.run_tryCatch_of_error failed]
              exact untouched
          | ok value =>
              obtain ⟨s₃, done, flags⟩ := setEvent_run event s₂
              have run : (transmitMsgOnExchange conf env jsonMsg event).run
                  { s with eventSet := false } = (.ok (), s₃) := by
                apply Try.run_tryCatch_of_ok
                rw [Try.run_bind_of_ok noted, Try.run_bind_of_ok published, done]
              rw [run]
              exact untouched.trans flags.untouched

/-- One message is kept exactly when it is deliverable. -/
theorem transmit_kept_iff (conf : Conf M) (env : Env) (jsonMsg : Json) (event : Bool)
    (represents : Represents s.store items) :
    Kept conf env jsonMsg s
        ((transmitMsgOnExchange conf env jsonMsg event).run { s with eventSet := false }).2 ↔
      Deliverable conf env jsonMsg s := by
  refine ⟨fun kept => ?_, transmit_kept event⟩
  by_contra blocked
  have untouched := transmit_untouched event blocked
  obtain ⟨signed, -, published | held⟩ := kept
  · exact untouched.not_published published
  · exact untouched.not_held represents held

/-- The store queue stays a list, whatever is sent or called. -/
theorem after_represents (conf : Conf M) (step : Step M) (represents : Represents s.store items) :
    ∃ items', Represents (after conf s step).store items' := by
  cases step with
  | transmit env jsonMsg event =>
      by_cases deliverable : Deliverable conf env jsonMsg s
      · obtain ⟨signed, -, ⟨-, queue⟩ | ⟨-, queue⟩⟩ := transmit_kept event deliverable
        · exact ⟨items, queue items represents⟩
        · exact ⟨_, queue items represents⟩
      · exact ⟨items, (transmit_untouched event deliverable).2 items represents⟩
  | queue op => exact StoreQueue.perform_represents conf.queue represents op

/-- Every message of a sequence is kept, in the broker or in the store queue, exactly when every
message of the sequence is deliverable at the time it is read: the sections that the method looks
at can be read, and the message can be published or held. -/
theorem allKept_iff (conf : Conf M) (steps : List (Step M)) (s : State M) (items : List M)
    (represents : Represents s.store items) :
    AllKept conf s steps ↔ AllDeliverable conf s steps := by
  induction steps generalizing s items with
  | nil => exact Iff.rfl
  | cons step rest ih =>
      obtain ⟨items', represents'⟩ := after_represents conf step represents
      refine and_congr ?_ (ih _ items' represents')
      cases step with
      | transmit env jsonMsg event =>
          have kept := transmit_kept_iff conf env jsonMsg event represents
          exact ⟨fun h => kept.mp h.kept, fun h => ⟨kept.mpr h, fun _ => kept.mpr h⟩⟩
      | queue op => exact Iff.rfl

end

/-- A daemon without security library; what is sent stays a dictionary. -/
def sampleConf : Conf Json where
  queue := ⟨50000000, fun _ => 60, fun _ => 44, 900⟩
  printable := fun _ => true
  dumps := id
  signatureUser := "sspl-ll"
  signatureExpires := .str "3600"

/-- The bus would take messages, but there is no producer yet. -/
def sampleEnv : Env := ⟨0, none, .ok (), true⟩

def offline : State Json where
  store := ((StoreQueue.init : Atomic.Call (Store Json) Unit).run Store.empty).2
  producer := false
  published := []
  requestShutdown := false
  eventSet := false

def sampleAck : Json :=
  .ofEntries [("message", .ofEntries [("actuator_response_type", .ofEntries [
    ("ack", .ofEntries [("ack_type", .str "restart")])])])]

def sampleAlert : Json :=
  .ofEntries [("message", .ofEntries [("sensor_response_type", .ofEntries [])])]

/-- An acknowledgement read before there is a producer is dropped. -/
theorem ack_dropped :
    ¬ ∀ (s : State Json) (items : List Json), Represents s.store items →
      ∀ steps, AllKept sampleConf s steps := by
  intro always
  have blocked : ¬ Deliverable sampleConf sampleEnv sampleAck offline := by
    rintro ⟨-, ack, signed, branch, -, ready⟩
    have isAck : isAck sampleAck = .ok true := rfl
    rw [isAck] at branch
    cases branch
    exact absurd ready.1 (by decide)
  have untouched := transmit_untouched true blocked
  obtain ⟨⟨⟨signed, -, published | held⟩, -⟩, -⟩ :=
    always offline [] StoreQueue.init_empty [.transmit sampleEnv sampleAck true]
  · exact untouched.not_published published
  · exact untouched.not_held StoreQueue.init_empty held

/-- An alert read before there is a producer is held. -/
theorem alert_kept : AllKept sampleConf offline [.transmit sampleEnv sampleAlert true] := by
  refine (allKept_iff sampleConf _ offline [] StoreQueue.init_empty).mpr
    ⟨⟨⟨false, rfl⟩, ?_⟩, trivial⟩
  exact ⟨false, _, rfl, rfl, .inr ⟨0, .inl rfl, by decide⟩⟩

end Egress

end Sspl

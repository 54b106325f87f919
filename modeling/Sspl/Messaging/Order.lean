import Sspl.Messaging.Accumulated
import Sspl.Messaging.Egress

/-!
# The order in which alerts are published

`EgressProcessor` sends an alert itself when it finds the store queue empty, while
`EgressAccumulatedMsgsProcessor` sends the head of the queue and deletes it later.
Here the two threads interleave at the calls on the store queue and at the sends.
The processor's steps are those of `publishAlert`, taken one at a time; what the
draining thread makes of a message it holds is an arbitrary outcome of
`Accumulated.handle`.

Alerts are numbered in the order in which the processor reads them.
Acknowledgements take another branch, which never uses the store queue.
-/

namespace Sspl

namespace Order

variable {M Text : Type}

/-- Where the processor stands in the alert branch. In `put` the flag says that a
producer is created afterwards; `handler` is the put of the `except` clauses. -/
inductive EgressPc (M : Type)
  | idle
  | check (item : M)
  | send (item : M)
  | put (item : M) (create : Bool)
  | handler (item : M)

/-- The next step of the alert branch. -/
def EgressPc.step (conf : QueueConf M) (env : Egress.Env) :
    EgressPc M → Egress.State M → EgressPc M × Egress.State M
  | .idle, s => (.idle, s)
  | .check item, s => match Egress.isEmpty.run s with
    | (.ok true, t) => (if t.producer then .send item else .put item true, t)
    | (.ok false, t) => (.put item false, t)
    | (.error _, t) => (.handler item, t)
  | .send item, s => match (Egress.send env.send item).run s with
    | (.ok _, t) => (.idle, t)
    | (.error _, t) => (.handler item, t)
  | .put item create, s => match (Egress.put conf item).run s with
    | (.ok _, t) => (.idle, if create then { t with producer := env.create } else t)
    | (.error _, t) => (.handler item, t)
  | .handler item, s => (.idle, ((Egress.put conf item).run s).2)

/-- Several steps in a row. -/
def EgressPc.steps (conf : QueueConf M) (env : Egress.Env) :
    Nat → EgressPc M → Egress.State M → EgressPc M × Egress.State M
  | 0, pc, s => (pc, s)
  | n + 1, pc, s => let (pc, s) := pc.step conf env s; steps conf env n pc s

namespace EgressPc

variable {conf : QueueConf M} {env : Egress.Env} {item : M} {s t : Egress.State M} {n : Nat}
  {pc pc' : EgressPc M} {err : PyErr}

theorem steps_succ (h : pc.step conf env s = (pc', t)) :
    steps conf env (n + 1) pc s = steps conf env n pc' t := by
  rw [steps, h]

theorem steps_idle : steps conf env n .idle s = (.idle, s) := by
  induction n with
  | zero => rfl
  | succ n ih => exact ih

theorem step_check (conf : QueueConf M) (env : Egress.Env) (item : M) (s : Egress.State M) :
    step conf env (.check item) s =
      (if s.store.tail = s.store.head then
        if s.producer then .send item else .put item true
      else .put item false, Egress.afterIsEmpty s) := by
  simp only [step, Egress.isEmpty_run s]
  by_cases empty : s.store.tail = s.store.head
  · simp only [empty, decide_true, if_true]
    rfl
  · simp only [empty, decide_false, if_false]

theorem step_put_ok {create : Bool} {value : Unit}
    (h : (Egress.put conf item).run s = (.ok value, t)) :
    step conf env (.put item create) s =
      (.idle, if create then { t with producer := env.create } else t) := by
  simp only [step, h]

theorem step_put_error {create : Bool} (h : (Egress.put conf item).run s = (.error err, t)) :
    step conf env (.put item create) s = (.handler item, t) := by
  simp only [step, h]

/-- Without interference three steps are the whole alert branch. -/
theorem publishAlert_eq_steps (conf : QueueConf M) (env : Egress.Env) (item : M)
    (s : Egress.State M) :
    steps conf env 3 (.check item) s =
      (.idle, ((Egress.publishAlert conf env item).run s).2) := by
  have body := Egress.alertBody_run conf env item s
  rw [steps_succ (step_check conf env item s)]
  by_cases empty : s.store.tail = s.store.head
  · cases producer : s.producer with
    | true =>
        simp only [empty, producer, if_true] at body ⊢
        cases sent : env.send with
        | ok value =>
            rw [sent] at body
            have run : (Egress.publishAlert conf env item).run s = _ :=
              Try.run_tryCatch_of_ok body
            rw [run, steps_succ (show step conf env (.send item) (Egress.afterIsEmpty s) = _ by
              simp only [step, sent]; rfl), steps_idle]
        | error err =>
            rw [sent] at body
            have run : (Egress.publishAlert conf env item).run s = _ :=
              Try.run_tryCatch_of_error body
            rw [run, steps_succ (show step conf env (.send item) (Egress.afterIsEmpty s) = _ by
              simp only [step, sent]; rfl)]
            rfl
    | false =>
        simp only [empty, producer, if_true, Bool.false_eq_true, if_false] at body ⊢
        cases held : (Egress.put conf item).run (Egress.afterIsEmpty s) with
        | mk result t =>
            cases result with
            | ok value =>
                rw [Try.run_bind_of_ok held] at body
                have run : (Egress.publishAlert conf env item).run s = _ :=
                  Try.run_tryCatch_of_ok body
                rw [run, steps_succ (step_put_ok held), steps_idle]
                rfl
            | error err =>
                rw [Try.run_bind_of_error held] at body
                have run : (Egress.publishAlert conf env item).run s = _ :=
                  Try.run_tryCatch_of_error body
                rw [run, steps_succ (step_put_error held)]
                rfl
  · simp only [empty, if_false] at body ⊢
    cases held : (Egress.put conf item).run (Egress.afterIsEmpty s) with
    | mk result t =>
        rw [held] at body
        cases result with
        | ok value =>
            have run : (Egress.publishAlert conf env item).run s = _ :=
              Try.run_tryCatch_of_ok body
            rw [run, steps_succ (step_put_ok held), steps_idle]
            rfl
        | error err =>
            have run : (Egress.publishAlert conf env item).run s = _ :=
              Try.run_tryCatch_of_error body
            rw [run, steps_succ (step_put_error held)]
            rfl

end EgressPc

/-- Where the draining thread stands in its loop. -/
inductive DrainPc (M : Type)
  | idle
  | check
  | loop
  | get
  | hold (item : Option M)
  | delete (sent : M)

/-- The next call of the draining thread on the store queue. -/
def DrainPc.step (conf : QueueConf M) (store : Store M) : DrainPc M → Option (DrainPc M × Store M)
  | .idle => none
  | .check =>
    let (empty, store) := StoreQueue.isEmpty.run store
    some (if empty then .idle else .loop, store)
  | .loop =>
    let (empty, store) := StoreQueue.isEmpty.run store
    some (if empty then .idle else .get, store)
  | .get =>
    let (item, store) := StoreQueue.get.run store
    some (.hold item, store)
  | .hold _ => none
  | .delete _ => some (.loop, ((StoreQueue.delete conf).run store).2)

/-- How `Accumulated.handle` ends: the message was sent, the loop looks at it
again, or an exception leaves the loop. -/
inductive Outcome
  | sent
  | again
  | raised

/-- An alert with its place in the order of reading. -/
abbrev Alert (Text : Type) := Nat × Text

/-- The store queue, the broker's end of the producer and what was published, with the points at
which the egress processor and the draining thread stand. -/
structure State (Text : Type) where
  store : Store (Alert Text)
  producer : Bool
  published : List (Alert Text)
  egress : EgressPc (Alert Text)
  drain : DrainPc (Alert Text)
  nextId : Nat

/-- An alert is read, one of the two threads takes its next step, or a pass of the draining thread
begins. -/
inductive Action (Text : Type)
  | read (text : Text)
  | egress (env : Egress.Env)
  | beginRun
  | drain
  | handle (outcome : Outcome)

/-- What the processor works on. -/
def State.bus (s : State Text) : Egress.State (Alert Text) :=
  ⟨s.store, s.producer, s.published, false, false⟩

/-- The threads take turns at every access: the processor may publish or hold an alert while the
draining thread is in the middle of its loop. -/
def next (conf : QueueConf (Alert Text)) (s : State Text) : Action Text → Option (State Text)
  | .read text => match s.egress with
    | .idle => some { s with egress := .check (s.nextId, text), nextId := s.nextId + 1 }
    | _ => none
  | .egress env =>
    let (pc, t) := s.egress.step conf env s.bus
    some { s with egress := pc, store := t.store, producer := t.producer, published := t.published }
  | .beginRun => match s.drain with
    | .idle => some { s with drain := .check }
    | _ => none
  | .drain => match s.drain.step conf s.store with
    | some (pc, store) => some { s with drain := pc, store := store }
    | none => none
  | .handle outcome => match s.drain, outcome with
    | .hold (some item), .sent =>
      some { s with drain := .delete item, published := s.published ++ [item] }
    | .hold (some _), .again => some { s with drain := .loop }
    | .hold _, .raised => some { s with drain := .idle }
    | _, _ => none

/-- Both threads are idle, nothing was published yet, and the store queue may hold
alerts of an earlier run in their order. -/
structure State.Initial (s : State Text) : Prop where
  egress : s.egress = .idle
  drain : s.drain = .idle
  published : s.published = []
  queue : ∃ items, Represents s.store items ∧ items.Pairwise (fun a b => a.1 < b.1) ∧
    ∀ a ∈ items, a.1 < s.nextId

/-- The two threads with any outages of the broker, from a store queue that may hold alerts of an
earlier run. -/
def system (conf : QueueConf (Alert Text)) : Transition.System (State Text) (Action Text) where
  init := State.Initial
  next := next conf

/-- What one step may do to the alerts. An alert is published only when all earlier
alerts in the store queue were published before, and an alert leaves the store
queue only after it was published. -/
structure Kept (published published' items items' : List (Alert Text)) : Prop where
  notOvertaking : published' = published ∨ ∃ a, published' = published ++ [a] ∧
    ∀ b ∈ items, b.1 < a.1 → b ∈ published
  leaving : ∀ b ∈ items, b ∉ items' → b ∈ published

/-- Up to the state after the step all publications are in the order of reading, so
each is a first one, and the step keeps what is in the store queue. -/
structure InOrder (s t : State Text) : Prop where
  ordered : t.published.Pairwise (fun a b => a.1 < b.1)
  kept : ∃ items items', Represents s.store items ∧ Represents t.store items' ∧
    Kept s.published t.published items items'

/-- The alert the processor is working on. -/
def EgressPc.item? : EgressPc M → Option M
  | .idle => none
  | .check item | .send item | .put item _ | .handler item => some item

section Spec

variable {conf : QueueConf M} {env : Egress.Env} {pc pc' : EgressPc M} {s t : Egress.State M}
  {store store' : Store M} {items : List M}

theorem put_cases (conf : QueueConf M) (h : Represents s.store items) (item : M) :
    ∃ result t, (Egress.put conf item).run s = (result, t) ∧ t.published = s.published ∧
      (result = .ok () ∧ Represents t.store (items ++ [item]) ∨
        result = .error .recursionError ∧ Represents t.store items) :=
  ⟨_, _, rfl, rfl, StoreQueue.put_represents conf h item⟩

/-- A step leaves the alerts alone, or publishes the alert, or puts it in the queue. -/
theorem egress_step_cases (h : Represents s.store items) (step : pc.step conf env s = (pc', t)) :
    (t.published = s.published ∧ Represents t.store items ∧
        (∀ a, pc'.item? = some a → pc.item? = some a) ∧ (∀ a, pc' = .send a → items = [])) ∨
      (∃ a, pc = .send a ∧ pc' = .idle ∧ t.published = s.published ++ [a] ∧
        Represents t.store items) ∨
      ∃ a, pc.item? = some a ∧ pc' = .idle ∧ t.published = s.published ∧
        Represents t.store (items ++ [a]) := by
  cases pc with
  | idle =>
      cases step
      exact .inl ⟨rfl, h, fun _ none => none, nofun⟩
  | check item =>
      rw [EgressPc.step_check] at step
      cases step
      refine .inl ⟨rfl, Egress.afterIsEmpty_represents h, fun a some => ?_, fun a sending => ?_⟩
      · split at some <;> [split at some; skip] <;> exact some
      · split at sending
        · exact h.tail_eq_head_iff.mp ‹_›
        · cases sending
  | send item =>
      cases sent : env.send with
      | ok value =>
          simp only [EgressPc.step, sent] at step
          cases step
          exact .inr (.inl ⟨item, rfl, rfl, rfl, h⟩)
      | error err =>
          simp only [EgressPc.step, sent] at step
          cases step
          exact .inl ⟨rfl, h, fun _ some => some, nofun⟩
  | put item create =>
      obtain ⟨result, put, run, published, ⟨rfl, held⟩ | ⟨rfl, same⟩⟩ := put_cases conf h item
      · rw [EgressPc.step_put_ok run] at step
        cases step
        refine .inr (.inr ⟨item, rfl, rfl, ?_, ?_⟩)
        · cases create <;> exact published
        · cases create <;> exact held
      · rw [EgressPc.step_put_error run] at step
        cases step
        exact .inl ⟨published, same, fun _ some => some, nofun⟩
  | handler item =>
      obtain ⟨result, put, run, published, answer⟩ := put_cases conf h item
      simp only [EgressPc.step, run] at step
      cases step
      obtain ⟨-, held⟩ | ⟨-, same⟩ := answer
      · exact .inr (.inr ⟨item, rfl, rfl, published, held⟩)
      · exact .inl ⟨published, same, nofun, nofun⟩

/-- A call of the draining thread keeps the queue, or removes the head after it was sent. -/
theorem drain_step_cases {pc pc' : DrainPc M} (h : Represents store items)
    (step : pc.step conf store = some (pc', store')) :
    ((∀ sent, pc ≠ .delete sent) ∧ (∀ sent, pc' ≠ .delete sent) ∧ Represents store' items ∧
        (∀ item, pc' = .hold (some item) → items.head? = some item)) ∨
      ∃ sent, pc = .delete sent ∧ pc' = .loop ∧ Represents store' items.tail := by
  cases pc with
  | idle | hold item => cases step
  | check | loop =>
      cases step
      obtain ⟨-, same⟩ := StoreQueue.isEmpty_represents h
      refine .inl ⟨nofun, fun _ other => ?_, same, fun _ other => ?_⟩ <;>
        split at other <;> cases other
  | get =>
      cases step
      obtain ⟨answer, same⟩ := StoreQueue.get_represents h
      refine .inl ⟨nofun, nofun, same,
        fun item hold => ?_⟩
      rw [← answer]
      exact DrainPc.hold.inj hold
  | delete sent =>
      cases step
      exact .inr ⟨sent, rfl, rfl, StoreQueue.delete_represents conf h⟩

end Spec

/-- How the draining thread goes on after the given result of `handle`. -/
def Outcome.of : Except PyErr Accumulated.Handling → Outcome
  | .ok .sent => .sent
  | .ok .again => .again
  | .error _ => .raised

/-- Without interference the steps of the draining thread are an iteration of its
loop: they leave the same store, publish what the iteration sends, and go back to
the condition of the loop exactly when it does. -/
theorem iteration_eq_run (conf : Accumulated.Conf (Alert Text)) (env : Accumulated.Env)
    {s : State Text} {bus : Accumulated.State (Alert Text)} {items : List (Alert Text)}
    (loop : s.drain = .loop) (store : s.store = bus.store) (h : Represents bus.store items) :
    ∃ actions t, (system conf.queue).run s actions = some t ∧
      t.store = ((Accumulated.iteration conf env).run bus).2.store ∧
      t.drain = (if ((Accumulated.iteration conf env).run bus).1 = .ok true then .loop else .idle) ∧
      ((t.published = s.published ∧
          Accumulated.NotSent bus ((Accumulated.iteration conf env).run bus).2) ∨
        ∃ item, t.published = s.published ++ [item] ∧
          Accumulated.Sent bus ((Accumulated.iteration conf env).run bus).2 item) := by
  obtain ⟨_, producer, published, egress, _, nextId⟩ := s
  cases loop
  cases store
  cases items with
  | nil =>
      refine ⟨[.drain], ⟨bus.store.reset, producer, published, egress, .idle, nextId⟩, ?_, ?_⟩
      · simp [Transition.System.run, system, next, DrainPc.step, StoreQueue.isEmpty_run_nil h]
      · simp [Accumulated.iteration_nil h, Accumulated.NotSent]
  | cons item rest =>
      have report := Accumulated.handle_reported conf env item bus
      have kept := Accumulated.handle_store conf env (some item) bus
      have iteration := Accumulated.iteration_cons conf env h
      cases handled : (Accumulated.handle conf env (some item)).run bus with
      | mk result after =>
          rw [handled] at iteration report kept
          rw [iteration]
          have held : (system conf.queue).run
              ⟨bus.store, producer, published, egress, .loop, nextId⟩ [.drain, .drain] =
                some ⟨bus.store, producer, published, egress, .hold (some item), nextId⟩ := by
            simp [Transition.System.run, system, next, DrainPc.step, StoreQueue.isEmpty_run_cons h,
              StoreQueue.get_run_cons h]
          cases result with
          | error err =>
              refine ⟨[Action.drain, .drain] ++ [Action.handle .raised],
                ⟨bus.store, producer, published, egress, .idle, nextId⟩, ?_, kept.symm, by simp,
                .inl ⟨rfl, report⟩⟩
              rw [Transition.System.run_append, held]
              rfl
          | ok handling =>
              cases handling with
              | again =>
                  refine ⟨[Action.drain, .drain] ++ [Action.handle .again],
                    ⟨bus.store, producer, published, egress, .loop, nextId⟩, ?_, kept.symm, by simp,
                    .inl ⟨rfl, report⟩⟩
                  rw [Transition.System.run_append, held]
                  rfl
              | sent =>
                  refine ⟨[Action.drain, .drain] ++ [Action.handle .sent, .drain],
                    ⟨((StoreQueue.delete conf.queue).run after.store).2, producer,
                      published ++ [item], egress, .loop, nextId⟩, ?_, rfl, by simp,
                    .inr ⟨item, rfl, report⟩⟩
                  rw [Transition.System.run_append, held, kept]
                  rfl

/-- The alerts that were published come before those in the store queue, apart
from a head that is about to be deleted; the alert in the hands of the processor
comes last, and is only sent while the queue is empty. -/
structure Inv (s : State Text) (items : List (Alert Text)) : Prop where
  represents : Represents s.store items
  sorted : items.Pairwise (fun a b => a.1 < b.1)
  ordered : s.published.Pairwise (fun a b => a.1 < b.1)
  below : ∀ p ∈ s.published, ∀ b ∈ items, p.1 < b.1 ∨ p = b ∧ s.drain = .delete b
  hold : ∀ m, s.drain = .hold (some m) → items.head? = some m
  delete : ∀ m, s.drain = .delete m → items.head? = some m ∧ m ∈ s.published
  fresh : ∀ b, b ∈ items ∨ b ∈ s.published → b.1 < s.nextId
  current : ∀ a, s.egress.item? = some a →
    a.1 < s.nextId ∧ ∀ b, b ∈ items ∨ b ∈ s.published → b.1 < a.1
  clear : ∀ a, s.egress = .send a → items = []

theorem Kept.refl (published items : List (Alert Text)) : Kept published published items items :=
  ⟨.inl rfl, fun _ mem absent => absurd mem absent⟩

namespace Inv

variable {conf : QueueConf (Alert Text)} {s t : State Text} {items : List (Alert Text)}

/-- Outside `delete` every published alert comes before all in the queue. -/
theorem strictlyBelow (h : Inv s items) (notDelete : ∀ m, s.drain ≠ .delete m) :
    ∀ p ∈ s.published, ∀ b ∈ items, p.1 < b.1 := by
  intro p published b mem
  obtain lower | ⟨-, delete⟩ := h.below p published b mem
  · exact lower
  · exact absurd delete (notDelete b)

theorem read (h : Inv s items) (text : Text) :
    Inv { s with egress := .check (s.nextId, text), nextId := s.nextId + 1 } items where
  represents := h.represents
  sorted := h.sorted
  ordered := h.ordered
  below := h.below
  hold := h.hold
  delete := h.delete
  fresh b mem := Nat.lt_succ_of_lt (h.fresh b mem)
  current a current := by
    cases current
    exact ⟨Nat.lt_succ_self _, h.fresh⟩
  clear _ other := by cases other

/-- The draining thread moves to a place where it holds nothing it has sent. -/
theorem moveDrain (h : Inv s items) {pc : DrainPc (Alert Text)} {store : Store (Alert Text)}
    (represents : Represents store items) (notDelete : ∀ m, s.drain ≠ .delete m)
    (notDelete' : ∀ m, pc ≠ .delete m) (hold : ∀ m, pc = .hold (some m) → items.head? = some m) :
    Inv { s with drain := pc, store := store } items where
  represents := represents
  sorted := h.sorted
  ordered := h.ordered
  below p published b mem := .inl (h.strictlyBelow notDelete p published b mem)
  hold := hold
  delete m delete := absurd delete (notDelete' m)
  fresh := h.fresh
  current := h.current
  clear := h.clear

theorem deleteHead (h : Inv s items) {m : Alert Text} {store : Store (Alert Text)}
    (delete : s.drain = .delete m) (represents : Represents store items.tail) :
    Inv { s with drain := .loop, store := store } items.tail ∧
      Kept s.published s.published items items.tail := by
  obtain ⟨head, published⟩ := h.delete m delete
  cases items with
  | nil => cases head
  | cons first rest =>
      cases head
      have sorted := List.pairwise_cons.mp h.sorted
      refine ⟨⟨represents, sorted.2, h.ordered, ?_, ?_, ?_, ?_, ?_, ?_⟩, .inl rfl, ?_⟩
      · intro p earlier b mem
        obtain lower | ⟨rfl, again⟩ := h.below p earlier b (.tail _ mem)
        · exact .inl lower
        · rw [delete] at again
          cases again
          exact absurd (sorted.1 _ mem) (lt_irrefl _)
      · exact nofun
      · exact nofun
      · exact fun b mem => h.fresh b (mem.imp_left (List.mem_cons_of_mem _))
      · exact fun a current => ⟨(h.current a current).1,
          fun b mem => (h.current a current).2 b (mem.imp_left (List.mem_cons_of_mem _))⟩
      · exact fun a sending => by cases h.clear a sending
      · intro b mem absent
        obtain rfl | mem := List.mem_cons.mp mem
        · exact published
        · exact absurd mem absent

/-- The head of the queue is sent by the draining thread. -/
theorem sendHead (h : Inv s items) {m : Alert Text} (hold : s.drain = .hold (some m)) :
    Inv { s with drain := .delete m, published := s.published ++ [m] } items ∧
      Kept s.published (s.published ++ [m]) items items := by
  have head := h.hold m hold
  have below := h.strictlyBelow (by simp [hold])
  cases items with
  | nil => cases head
  | cons first rest =>
      cases head
      have sorted := List.pairwise_cons.mp h.sorted
      have among : ∀ b, b ∈ m :: rest ∨ b ∈ s.published ++ [m] →
          b ∈ m :: rest ∨ b ∈ s.published := by
        simp only [List.mem_append, List.mem_cons]
        tauto
      refine ⟨⟨h.represents, h.sorted, ?_, ?_, ?_, ?_, ?_, ?_, h.clear⟩, .inr ⟨m, rfl, ?_⟩, ?_⟩
      · refine List.pairwise_append.mpr ⟨h.ordered, List.pairwise_singleton _ _, ?_⟩
        intro p published b mem
        cases List.mem_singleton.mp mem
        exact below p published m (.head _)
      · intro p published b mem
        obtain published | last := List.mem_append.mp published
        · exact .inl (below p published b mem)
        · cases List.mem_singleton.mp last
          obtain rfl | mem := List.mem_cons.mp mem
          · exact .inr ⟨rfl, rfl⟩
          · exact .inl (sorted.1 _ mem)
      · exact nofun
      · rintro _ ⟨⟩
        exact ⟨rfl, List.mem_append_right _ (.head _)⟩
      · exact fun b mem => h.fresh b (among b mem)
      · exact fun a current => ⟨(h.current a current).1,
          fun b mem => (h.current a current).2 b (among b mem)⟩
      · intro b mem lower
        obtain rfl | mem := List.mem_cons.mp mem
        · exact absurd lower (lt_irrefl _)
        · exact absurd (sorted.1 b mem) (lt_asymm lower)
      · exact fun _ mem absent => absurd mem absent

/-- The processor moves on with its alert, or drops it. -/
theorem moveEgress (h : Inv s items) {pc : EgressPc (Alert Text)} {store : Store (Alert Text)}
    (producer : Bool) (represents : Represents store items)
    (same : ∀ a, pc.item? = some a → s.egress.item? = some a)
    (clear : ∀ a, pc = .send a → items = []) :
    Inv { s with egress := pc, store := store, producer := producer } items where
  represents := represents
  sorted := h.sorted
  ordered := h.ordered
  below := h.below
  hold := h.hold
  delete := h.delete
  fresh := h.fresh
  current a current := h.current a (same a current)
  clear := clear

/-- The processor sends its alert itself, with nothing in the queue. -/
theorem sendCurrent (h : Inv s items) {a : Alert Text} {store : Store (Alert Text)}
    (producer : Bool) (sending : s.egress = .send a) (represents : Represents store items) :
    Inv ⟨store, producer, s.published ++ [a], .idle, s.drain, s.nextId⟩ items ∧
      Kept s.published (s.published ++ [a]) items items := by
  obtain ⟨bound, last⟩ := h.current a (by rw [sending]; rfl)
  cases h.clear a sending
  refine ⟨⟨represents, .nil, ?_, ?_, ?_, ?_, ?_, ?_, ?_⟩, .inr ⟨a, rfl, ?_⟩, ?_⟩
  · refine List.pairwise_append.mpr ⟨h.ordered, List.pairwise_singleton _ _, ?_⟩
    intro p published b mem
    cases List.mem_singleton.mp mem
    exact last p (.inr published)
  · exact nofun
  · exact h.hold
  · exact fun m delete => by cases (h.delete m delete).1
  · rintro b (mem | mem)
    · cases mem
    · obtain published | latest := List.mem_append.mp mem
      · exact h.fresh b (.inr published)
      · cases List.mem_singleton.mp latest
        exact bound
  · exact nofun
  · exact nofun
  · exact nofun
  · exact nofun

/-- The processor puts its alert at the end of the queue. -/
theorem putCurrent (h : Inv s items) {a : Alert Text} {store : Store (Alert Text)}
    (producer : Bool) (current : s.egress.item? = some a)
    (represents : Represents store (items ++ [a])) :
    Inv { s with egress := .idle, store := store, producer := producer } (items ++ [a]) ∧
      Kept s.published s.published items (items ++ [a]) := by
  obtain ⟨bound, last⟩ := h.current a current
  have head : ∀ m, items.head? = some m → (items ++ [a]).head? = some m := by
    intro m head
    rw [List.head?_append, head]
    rfl
  refine ⟨⟨represents, ?_, h.ordered, ?_, ?_, ?_, ?_, ?_, ?_⟩, .inl rfl, ?_⟩
  · refine List.pairwise_append.mpr ⟨h.sorted, List.pairwise_singleton _ _, ?_⟩
    intro b mem c mem'
    cases List.mem_singleton.mp mem'
    exact last b (.inl mem)
  · intro p published b mem
    obtain mem | latest := List.mem_append.mp mem
    · exact h.below p published b mem
    · cases List.mem_singleton.mp latest
      exact .inl (last p (.inr published))
  · exact fun m hold => head m (h.hold m hold)
  · exact fun m delete => (h.delete m delete).imp_left (head m)
  · rintro b (mem | published)
    · obtain mem | latest := List.mem_append.mp mem
      · exact h.fresh b (.inl mem)
      · cases List.mem_singleton.mp latest
        exact bound
    · exact h.fresh b (.inr published)
  · exact nofun
  · exact nofun
  · exact fun b mem absent => absurd (List.mem_append_left _ mem) absent

theorem initial (h : s.Initial) : ∃ items, Inv s items := by
  obtain ⟨items, represents, sorted, fresh⟩ := h.queue
  refine ⟨items, represents, sorted, ?_, ?_, ?_, ?_, ?_, ?_, ?_⟩
  · rw [h.published]
    exact .nil
  · simp [h.published]
  · simp [h.drain]
  · simp [h.drain]
  · simpa [h.published] using fresh
  · simp [h.egress, EgressPc.item?]
  · simp [h.egress]

/-- Every step of either thread preserves the invariant and keeps the alerts. -/
theorem next (h : Inv s items) {action : Action Text} (step : next conf s action = some t) :
    ∃ items', Inv t items' ∧ Kept s.published t.published items items' := by
  cases action with
  | read text =>
      simp only [Order.next] at step
      split at step
      · cases step
        exact ⟨items, h.read text, .refl _ _⟩
      · cases step
  | egress env =>
      cases moved : s.egress.step conf env s.bus with
      | mk pc bus =>
          simp only [Order.next, moved] at step
          cases step
          obtain ⟨published, represents, same, clear⟩ |
              ⟨a, sending, rfl, published, represents⟩ |
              ⟨a, current, rfl, published, represents⟩ :=
            egress_step_cases (s := s.bus) h.represents moved <;> rw [published]
          · exact ⟨items, h.moveEgress bus.producer represents same clear, .refl _ _⟩
          · exact ⟨items, h.sendCurrent bus.producer sending represents⟩
          · exact ⟨items ++ [a], h.putCurrent bus.producer current represents⟩
  | beginRun =>
      simp only [Order.next] at step
      split at step
      · rename_i idle
        cases step
        exact ⟨items, h.moveDrain h.represents (by simp [idle]) (by simp) (by simp), .refl _ _⟩
      · cases step
  | drain =>
      simp only [Order.next] at step
      cases moved : s.drain.step conf s.store with
      | none => simp [moved] at step
      | some result =>
          obtain ⟨pc, store⟩ := result
          simp only [moved] at step
          cases step
          obtain ⟨notDelete, notDelete', represents, hold⟩ | ⟨m, delete, rfl, represents⟩ :=
            drain_step_cases h.represents moved
          · exact ⟨items, h.moveDrain represents notDelete notDelete' hold, .refl _ _⟩
          · exact ⟨items.tail, h.deleteHead delete represents⟩
  | handle outcome =>
      simp only [Order.next] at step
      split at step
      · cases step
        exact ⟨items, h.sendHead ‹_›⟩
      · rename_i hold
        cases step
        exact ⟨items, h.moveDrain h.represents (by simp [hold]) (by simp) (by simp), .refl _ _⟩
      · rename_i hold
        cases step
        exact ⟨items, h.moveDrain h.represents (by simp [hold]) (by simp) (by simp), .refl _ _⟩
      · cases step

end Inv

theorem runs_inv {conf : QueueConf (Alert Text)} {s t : State Text} {actions : List (Action Text)}
    (start : s.Initial) (run : (system conf).FreeRuns s actions t) : ∃ items, Inv t items := by
  refine run.invariant (I := fun s => ∃ items, Inv s items) ?_ (Inv.initial start)
  rintro s action t ⟨items, inv⟩ - step
  obtain ⟨items', inv', -⟩ := inv.next step
  exact ⟨items', inv'⟩

/-- Whatever the interleaving, the outages and the alerts, every step of a run is
in order: no alert is published while an earlier one is unpublished in the store
queue, and no alert leaves the queue unpublished. -/
theorem published_in_order (conf : QueueConf (Alert Text)) {s t u : State Text}
    {actions : List (Action Text)} {action : Action Text} (start : s.Initial)
    (run : (system conf).FreeRuns s actions t) (step : (system conf).next t action = some u) :
    InOrder t u := by
  obtain ⟨items, inv⟩ := runs_inv start run
  obtain ⟨items', inv', kept⟩ := inv.next step
  exact ⟨inv'.ordered, items, items', inv.represents, inv'.represents, kept⟩

section Outage

def sampleConf : QueueConf (Alert String) := ⟨50000000, fun _ => 60, fun _ => 44, 900⟩

/-- The daemon has started on an empty store, with the bus up. -/
def started : State String :=
  ⟨((StoreQueue.init : Atomic.Call (Store (Alert String)) Unit).run Store.empty).2, true, [], .idle,
    .idle, 0⟩

theorem started_initial : started.Initial :=
  ⟨rfl, rfl, rfl, [], StoreQueue.init_empty, .nil, by simp⟩

def busUp : Egress.Env := ⟨0, none, .ok (), true⟩

def busDown : Egress.Env := ⟨0, none, .error .messageBusError, true⟩

/-- A fault is held during an outage, and the draining thread is about to send it
when the processor looks at the queue with the resolution of the fault. -/
def outage : List (Action String) :=
  [.read "fault", .egress busDown, .egress busDown, .egress busDown,
    .beginRun, .drain, .drain, .drain, .read "fault_resolved", .egress busUp, .egress busUp]

def State.after (s : State String) (actions : List (Action String)) : State String :=
  ((system sampleConf).run s actions).getD s

/-- The resolution waits in the queue while the draining thread sends the fault. -/
theorem resolution_waits : InOrder (started.after outage)
    ((started.after outage).after [.handle .sent]) := by
  have run : (system sampleConf).run started outage = some (started.after outage) := rfl
  have step : (system sampleConf).next (started.after outage) (.handle .sent) =
      some ((started.after outage).after [.handle .sent]) := rfl
  exact published_in_order sampleConf started_initial
    ((system sampleConf).run_eq_some_iff.mp run) step

end Outage

end Order

end Sspl

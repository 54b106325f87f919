import Mathlib.Algebra.GroupWithZero.Nat
import Mathlib.Algebra.BigOperators.Group.Finset.Basic
import Mathlib.Algebra.BigOperators.Group.Finset.Piecewise
import Mathlib.Algebra.Order.BigOperators.Group.Finset
import Sspl.Foundation.System

/-!
# Parties with mailboxes

Every party takes messages from a first-in first-out mailbox of its own. Taking a message
changes the memory of the party and may set off replies, which the party sends one by one
before it takes the next message; the sends of different parties interleave. Besides that a
message may be posted at any time, and a party may change its own memory.

`silent` bounds the runs in which nothing is posted by what a message sets off, and
`settles` follows one message to its receiver. The written and taken messages are recorded
for the statements only: no step looks at them.
-/

namespace Mailbox

open Transition

variable {ν μ σ κ : Type}

/-- Who has a mailbox, what taking a message does to the memory of the party, which messages
it sends for it, and what it may do to its memory by itself. -/
structure Protocol (ν μ σ κ : Type) where
  parties : Finset ν
  react : ν → μ → σ → σ
  replies : μ → List (ν × μ)
  move : κ → σ → σ

/-- The memory and the mailbox of each party, the replies it has still to send, and all messages
that were written to it and taken by it. -/
structure State (ν μ σ : Type) where
  memory : ν → σ
  box : ν → List μ
  outgoing : ν → List (ν × μ)
  written : ν → List μ
  taken : ν → List μ

/-- A party takes the message at the front of its mailbox, sends the next of its replies, or
changes its own memory; and messages are posted from outside. -/
inductive Action (ν μ κ : Type)
  | take (party : ν)
  | send (party : ν)
  | post (receiver : ν) (message : μ)
  | move (party : ν) (how : κ)

/-- The action takes or sends what is there already, and brings in nothing new. -/
def Action.Internal : Action ν μ κ → Prop
  | .take _ => True
  | .send _ => True
  | .post _ _ => False
  | .move _ _ => False

variable [DecidableEq ν]

/-- A message is written to the mailbox of its receiver, if there is one. -/
def State.put (parties : Finset ν) (s : State ν μ σ) (receiver : ν) (message : μ) : State ν μ σ :=
  if receiver ∈ parties then
    { s with
      box := Function.update s.box receiver (s.box receiver ++ [message])
      written := Function.update s.written receiver (s.written receiver ++ [message]) }
  else s

section

variable {parties : Finset ν} (s : State ν μ σ) (receiver : ν) (message : μ)

@[simp] theorem State.put_memory : (s.put parties receiver message).memory = s.memory := by
  unfold put
  split <;> rfl

@[simp] theorem State.put_outgoing : (s.put parties receiver message).outgoing = s.outgoing := by
  unfold put
  split <;> rfl

@[simp] theorem State.put_taken : (s.put parties receiver message).taken = s.taken := by
  unfold put
  split <;> rfl

theorem State.put_box (n : ν) : (s.put parties receiver message).box n =
    if n = receiver ∧ receiver ∈ parties then s.box n ++ [message] else s.box n := by
  unfold put
  by_cases known : receiver ∈ parties
  · by_cases same : n = receiver
    · subst same
      simp [known]
    · simp [known, same]
  · simp [known]

theorem State.put_written (n : ν) : (s.put parties receiver message).written n =
    if n = receiver ∧ receiver ∈ parties then s.written n ++ [message] else s.written n := by
  unfold put
  by_cases known : receiver ∈ parties
  · by_cases same : n = receiver
    · subst same
      simp [known]
    · simp [known, same]
  · simp [known]

/-- Messages written one after the other. -/
def State.puts (parties : Finset ν) (s : State ν μ σ) (replies : List (ν × μ)) : State ν μ σ :=
  replies.foldl (fun s reply => s.put parties reply.1 reply.2) s

@[simp] theorem State.puts_memory (replies : List (ν × μ)) :
    (s.puts parties replies).memory = s.memory := by
  induction replies generalizing s with
  | nil => rfl
  | cons reply rest ih =>
      simp only [puts, List.foldl_cons] at ih ⊢
      rw [ih, put_memory]

end

namespace Protocol

variable (P : Protocol ν μ σ κ)

/-- The message at the front of its mailbox is the party's. -/
def taking (s : State ν μ σ) (party : ν) (message : μ) (rest : List μ) : State ν μ σ where
  memory := Function.update s.memory party (P.react party message (s.memory party))
  box := Function.update s.box party rest
  outgoing := Function.update s.outgoing party (P.replies message)
  written := s.written
  taken := Function.update s.taken party (s.taken party ++ [message])

/-- A party that has not yet sent its replies takes no message. -/
def next (s : State ν μ σ) : Action ν μ κ → Option (State ν μ σ)
  | .take party =>
      if party ∈ P.parties ∧ (s.outgoing party).isEmpty then
        match s.box party with
        | [] => none
        | message :: rest => some (P.taking s party message rest)
      else none
  | .send party =>
      match s.outgoing party with
      | [] => none
      | (receiver, message) :: rest =>
          some ({ s with outgoing := Function.update s.outgoing party rest }.put P.parties
            receiver message)
  | .post receiver message => some (s.put P.parties receiver message)
  | .move party how =>
      some { s with memory := Function.update s.memory party (P.move how (s.memory party)) }

/-- The parties, from any state in which what was written has been taken or is still there. -/
def system : System (State ν μ σ) (Action ν μ κ) where
  init s := (∀ n, s.written n = s.taken n ++ s.box n) ∧ ∀ n, n ∉ P.parties → s.outgoing n = []
  next := P.next

variable {P} {s t : State ν μ σ} {a : Action ν μ κ} {actions : List (Action ν μ κ)}

theorem next_take {party : ν} (step : P.next s (.take party) = some t) :
    party ∈ P.parties ∧ s.outgoing party = [] ∧
      ∃ message rest, s.box party = message :: rest ∧ t = P.taking s party message rest := by
  simp only [next] at step
  split at step
  · rename_i ready
    split at step
    · cases step
    · rename_i message rest front
      cases step
      exact ⟨ready.1, List.isEmpty_iff.mp ready.2, message, rest, front, rfl⟩
  · cases step

theorem next_send {party : ν} (step : P.next s (.send party) = some t) :
    ∃ receiver message rest, s.outgoing party = (receiver, message) :: rest ∧
      t = { s with outgoing := Function.update s.outgoing party rest }.put P.parties
        receiver message := by
  simp only [next] at step
  split at step
  · cases step
  · rename_i receiver message rest front
    cases step
    exact ⟨receiver, message, rest, front, rfl⟩

/-- Only the parties have replies to send, and each message has been taken or waits. -/
structure Accounted (P : Protocol ν μ σ κ) (s : State ν μ σ) : Prop where
  written : ∀ n, s.written n = s.taken n ++ s.box n
  outgoing : ∀ n, n ∉ P.parties → s.outgoing n = []

theorem Accounted.put {receiver : ν} {message : μ} (now : P.Accounted s) :
    P.Accounted (s.put P.parties receiver message) := by
  constructor
  · intro n
    rw [State.put_written, State.put_box, State.put_taken, now.written n]
    split <;> simp
  · intro n stranger
    rw [State.put_outgoing]
    exact now.outgoing n stranger

theorem Accounted.step (now : P.Accounted s) (step : P.next s a = some t) : P.Accounted t := by
  cases a with
  | take party =>
      obtain ⟨known, -, message, rest, front, rfl⟩ := next_take step
      constructor
      · intro n
        by_cases own : n = party
        · subst own
          simp [taking, now.written n, front]
        · simp [taking, own, now.written n]
      · intro n stranger
        have other : n ≠ party := fun own => stranger (own ▸ known)
        simp [taking, other, now.outgoing n stranger]
  | send party =>
      obtain ⟨receiver, message, rest, front, rfl⟩ := next_send step
      have known : party ∈ P.parties := by
        by_contra stranger
        rw [now.outgoing party stranger] at front
        cases front
      apply Accounted.put
      constructor
      · exact now.written
      · intro n stranger
        have other : n ≠ party := fun own => stranger (own ▸ known)
        simp [other, now.outgoing n stranger]
  | post receiver message =>
      cases step
      exact now.put
  | move party how =>
      cases step
      exact ⟨now.written, now.outgoing⟩

/-- In every run each mailbox is first in, first out: nothing is lost, doubled or overtaken. -/
theorem accounted (h : P.system.FreeRuns s actions t) (start : P.Accounted s) : P.Accounted t :=
  h.invariant (fun _ _ _ now _ step => now.step step) start

section Silence

variable (P) (weight : μ → Nat)

/-- How much the messages in the mailboxes and the replies not yet sent can still set off. -/
def load (s : State ν μ σ) : Nat :=
  ∑ n ∈ P.parties, (((s.box n).map weight).sum +
    ((s.outgoing n).map fun reply => weight reply.2 + 1).sum)

variable {P} {weight}

theorem load_lt {party : ν} (known : party ∈ P.parties)
    (same : ∀ n, n ≠ party → t.box n = s.box n ∧ t.outgoing n = s.outgoing n)
    (less : ((t.box party).map weight).sum +
        ((t.outgoing party).map fun reply => weight reply.2 + 1).sum <
      ((s.box party).map weight).sum +
        ((s.outgoing party).map fun reply => weight reply.2 + 1).sum) :
    P.load weight t < P.load weight s := by
  apply Finset.sum_lt_sum
  · intro n _
    by_cases own : n = party
    · subst own
      exact Nat.le_of_lt less
    · rw [(same n own).1, (same n own).2]
  · exact ⟨party, known, less⟩

theorem load_put_le (receiver : ν) (message : μ) :
    P.load weight (s.put P.parties receiver message) ≤ P.load weight s + weight message := by
  by_cases known : receiver ∈ P.parties
  · have split : ∀ n ∈ P.parties,
        (((s.put P.parties receiver message).box n).map weight).sum +
          (((s.put P.parties receiver message).outgoing n).map fun r => weight r.2 + 1).sum =
        (((s.box n).map weight).sum + ((s.outgoing n).map fun r => weight r.2 + 1).sum) +
          if n = receiver then weight message else 0 := by
      intro n _
      rw [State.put_box, State.put_outgoing]
      by_cases same : n = receiver
      · simp [same, known]
        omega
      · simp [same]
    rw [load, Finset.sum_congr rfl split, Finset.sum_add_distrib, Finset.sum_ite_eq_of_mem' _ _ _
      known]
    rfl
  · simp [State.put, known]

/-- A step that posts nothing lowers the load, if a message outweighs what it sets off. -/
theorem load_step (outweighs : ∀ m, ((P.replies m).map fun r => weight r.2 + 1).sum < weight m)
    (now : P.Accounted s) (internal : a.Internal) (step : P.next s a = some t) :
    P.load weight t < P.load weight s := by
  cases a with
  | take party =>
      obtain ⟨known, idle, message, rest, front, rfl⟩ := next_take step
      apply load_lt known
      · intro n other
        simp [taking, other]
      · have lighter := outweighs message
        simp only [taking, Function.update_self, front, idle, List.map_cons, List.sum_cons,
          List.map_nil, List.sum_nil]
        omega
  | send party =>
      obtain ⟨receiver, message, rest, front, rfl⟩ := next_send step
      have known : party ∈ P.parties := by
        by_contra stranger
        rw [now.outgoing party stranger] at front
        cases front
      have sent : P.load weight ({ s with outgoing := Function.update s.outgoing party rest }.put
          P.parties receiver message) ≤
          P.load weight { s with outgoing := Function.update s.outgoing party rest } +
            weight message := load_put_le receiver message
      have kept : P.load weight { s with outgoing := Function.update s.outgoing party rest } +
          (weight message + 1) = P.load weight s := by
        unfold load
        rw [← Finset.add_sum_erase _ _ known, ← Finset.add_sum_erase P.parties _ known]
        have others : ∀ n ∈ P.parties.erase party,
            ((s.box n).map weight).sum + ((Function.update s.outgoing party rest n).map
              fun r => weight r.2 + 1).sum =
            ((s.box n).map weight).sum + ((s.outgoing n).map fun r => weight r.2 + 1).sum := by
          intro n mem
          rw [Function.update_of_ne (Finset.ne_of_mem_erase mem)]
        rw [Finset.sum_congr rfl others]
        simp only [Function.update_self, front, List.map_cons, List.sum_cons]
        omega
      omega
  | post => cases internal
  | move => cases internal

/-- However the takes and sends interleave, there are no more of them than the load. -/
theorem silent (outweighs : ∀ m, ((P.replies m).map fun r => weight r.2 + 1).sum < weight m)
    (h : P.system.Runs (fun _ a => a.Internal) s actions t) (start : P.Accounted s) :
    actions.length + P.load weight t ≤ P.load weight s := by
  refine h.length_add_variant_le (P.load weight) ?_ start
  intro s a t now internal step
  exact ⟨now.step step, load_step outweighs now internal step⟩

end Silence

/-- Where no party can take or send, nothing waits to be taken or sent. -/
theorem drained (stuck : ∀ n, P.next s (.take n) = none ∧ P.next s (.send n) = none) :
    (∀ n, s.outgoing n = []) ∧ ∀ n ∈ P.parties, s.box n = [] := by
  have sent : ∀ n, s.outgoing n = [] := by
    intro n
    have none := (stuck n).2
    simp only [next] at none
    split at none
    · assumption
    · cases none
  refine ⟨sent, fun n known => ?_⟩
  have none := (stuck n).1
  simp only [next, sent n, known, List.isEmpty_nil, and_self, if_true] at none
  split at none
  · assumption
  · cases none

/-- A message is on its way to the party, or has done its work there. -/
def Settling (s : State ν μ σ) (n : ν) (message : μ) (done : σ → Prop) : Prop :=
  (∃ k, (n, message) ∈ s.outgoing k) ∨ message ∈ s.box n ∨ done (s.memory n)

theorem Settling.put {n : ν} {message : μ} {done : σ → Prop} (receiver : ν) (other : μ)
    (now : Settling s n message done) :
    Settling (s.put P.parties receiver other) n message done := by
  rcases now with ⟨k, mem⟩ | mem | finished
  · exact .inl ⟨k, by rwa [State.put_outgoing]⟩
  · refine .inr (.inl ?_)
    rw [State.put_box]
    split
    · exact List.mem_append_left _ mem
    · exact mem
  · exact .inr (.inr (by rwa [State.put_memory]))

theorem Settling.step {n : ν} {message : μ} {done : σ → Prop} (known : n ∈ P.parties)
    (works : ∀ memory, done (P.react n message memory)) (now : Settling s n message done)
    (keeps : done (s.memory n) → done (t.memory n)) (step : P.next s a = some t) :
    Settling t n message done := by
  cases a with
  | take party =>
      obtain ⟨-, idle, first, rest, front, rfl⟩ := next_take step
      rcases now with ⟨k, mem⟩ | mem | finished
      · have other : k ≠ party := by
          rintro rfl
          rw [idle] at mem
          cases mem
        exact .inl ⟨k, by simpa [taking, other] using mem⟩
      · by_cases own : n = party
        · subst own
          rw [front] at mem
          rcases List.mem_cons.mp mem with rfl | later
          · exact .inr (.inr (by simpa [taking] using works _))
          · exact .inr (.inl (by simpa [taking] using later))
        · exact .inr (.inl (by simpa [taking, own] using mem))
      · exact .inr (.inr (keeps finished))
  | send party =>
      obtain ⟨receiver, first, rest, front, rfl⟩ := next_send step
      rcases now with ⟨k, mem⟩ | waits
      · by_cases own : k = party
        · subst own
          rw [front] at mem
          rcases List.mem_cons.mp mem with same | later
          · cases same
            exact .inr (.inl (by simp [State.put_box, known]))
          · exact .inl ⟨k, by simpa using later⟩
        · exact .inl ⟨k, by simpa [own] using mem⟩
      · exact Settling.put receiver first (.inr waits)
  | post receiver first =>
      cases step
      exact now.put receiver first
  | move party how =>
      cases step
      rcases now with sent | waits | finished
      · exact .inl sent
      · exact .inr (.inl waits)
      · exact .inr (.inr (keeps finished))

/-- In a run whose steps do not undo it, the work of a message is done once nothing waits for
its receiver any more. -/
theorem settles {n : ν} {message : μ} {done : σ → Prop} (known : n ∈ P.parties)
    (works : ∀ memory, done (P.react n message memory))
    (h : P.system.Runs (fun s a => ∀ t, P.next s a = some t → done (s.memory n) →
      done (t.memory n)) s actions t)
    (start : Settling s n message done) (sent : ∀ k, (n, message) ∉ t.outgoing k)
    (empty : t.box n = []) : done (t.memory n) := by
  have last : Settling t n message done :=
    h.invariant (I := fun s => Settling s n message done)
      (fun _ _ _ now keeps step => now.step known works (keeps _ step) step) start
  rcases last with ⟨k, mem⟩ | mem | finished
  · exact absurd mem (sent k)
  · rw [empty] at mem
    cases mem
  · exact finished

end Protocol

end Mailbox

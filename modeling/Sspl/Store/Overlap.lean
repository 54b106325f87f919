import Sspl.Store.Facts

/-!
# The invariant of undisturbed steps

Nothing keeps two threads from choosing the same slot, and nothing keeps a
producer from choosing a slot while `is_empty` is about to move the tail back to
zero: in both cases a message disappears although its put returns. A step is
`Undisturbed` unless it begins one of these overlaps.

The invariant of undisturbed steps has a part about the counters and slots, one
about which threads exclude each other, and the facts of every thread. It is
preserved by every access that writes nothing the facts are about (`quiet`) and
by each of the six writes.
-/

namespace Sspl

variable {M : Type}

namespace Sharing

variable {ι Text : Type}

/-- The facts of one thread in the given state. -/
def State.FactsAt (s : State ι Text) (pc : Pc (Ticketed Text)) : Prop :=
  pc.Facts s.store.head s.store.tail s.store.messages s.Deleted

/-- Which places exclude each other among the threads. -/
structure Exclusion (threads : Thread ι → Pc M) : Prop where
  solo : ∀ u v, (threads u).window → (threads v).window → u = v
  apart : ∀ u v, (threads u).window ∨ (threads u).advancing → (threads v).resetting = false
  roles : ∀ i, (threads (.producer i)).ofProducer

theorem Exclusion.window_of_ne {threads : Thread ι → Pc M} (h : Exclusion threads)
    {thread : Thread ι} (here : (threads thread).window) (u : Thread ι) (ne : u ≠ thread) :
    (threads u).window = false := by
  by_contra inside
  exact ne (h.solo u thread (by simpa using inside) here)

theorem Exclusion.not_pinned {threads : Thread ι → Pc M} (h : Exclusion threads)
    {thread : Thread ι} (here : (threads thread).resetting) (u : Thread ι) :
    (threads u).window = false ∧ (threads u).advancing = false := by
  have calm := h.apart u thread
  rw [here] at calm
  simpa only [Bool.true_eq_false, imp_false, not_or, Bool.not_eq_true] using calm

/-- What holds in every state reached by undisturbed steps. -/
structure State.Invariant (s : State ι Text) : Prop where
  exclusion : Exclusion s.threads
  ordered : s.store.head ≤ s.store.tail
  facts : ∀ u, s.FactsAt (s.threads u)
  clear : ∀ u, (s.threads u).resetting →
    (∀ k, s.store.messages k = none) ∧
      (s.store.head = s.store.tail ∨ s.store.head = 0)
  inside : ∀ k item, s.store.messages k = some item →
    s.store.head ≤ k ∧
      (k < s.store.tail ∨ k = s.store.tail ∧ ∃ u, (s.threads u).stored)
  kept : ∀ slot item, (slot, item) ∈ s.returned → s.Deleted item ∨ s.Readable slot item
  own : ∀ sent held, (sent, held) ∈ s.deletions → held = some sent

/-- A step starts no overlap: a producer chooses its slot while no other producer
is between its choice and the write of the tail and no thread is resetting the
counters, and `is_empty` takes the queue for empty only while the tail is still
the one it has read and no producer is on its way to move it. -/
def Undisturbed (s : State ι Text) : Action ι Text → Prop
  | .access thread => match s.threads thread with
    | .put _ .slot => ∀ u, (s.threads u).window = false ∧ (s.threads u).resetting = false
    | .isEmpty _ (.head tail) =>
      tail = s.store.head → s.store.tail = tail ∧ ∀ u, (s.threads u).window = false
    | _ => True
  | _ => True

namespace State.Invariant

variable {s : State ι Text}

theorem noLoss (inv : s.Invariant) : s.NoLoss := ⟨inv.kept, inv.own⟩

theorem of_initial (h : s.Initial) : s.Invariant where
  exclusion := by
    refine ⟨fun u v hu => ?_, fun u v hu => ?_, fun i => ?_⟩
    · simp [h.idle u, Pc.window] at hu
    · simp [h.idle u, Pc.window, Pc.advancing] at hu
    · rw [h.idle (.producer i)]
      rfl
  ordered := by
    obtain ⟨items, represents, -⟩ := h.represents
    have := represents.tail_eq
    omega
  facts := by
    intro u
    rw [h.idle u]
    trivial
  clear := by
    intro u hu
    simp [h.idle u, Pc.resetting] at hu
  inside := by
    obtain ⟨items, represents, -⟩ := h.represents
    have tail := represents.tail_eq
    intro k item held
    by_cases out : k < s.store.head ∨ s.store.head + items.length ≤ k
    · rw [represents.slots.outside out] at held
      cases held
    · omega
  kept := fun slot item mem => .inr (h.returned slot item mem)
  own := by
    intro sent held mem
    rw [h.deletions] at mem
    cases mem

end State.Invariant

/-- Only `thread` has moved, to the place `pc`. -/
structure Moves (s t : State ι Text) (thread : Thread ι) (pc : Pc (Ticketed Text)) : Prop where
  self : t.threads thread = pc
  others : ∀ u, u ≠ thread → t.threads u = s.threads u

namespace Moves

variable {s t : State ι Text} {thread : Thread ι} {pc : Pc (Ticketed Text)}

/-- What holds of the new place and of all other places holds everywhere. -/
theorem forall_threads {P : Pc (Ticketed Text) → Prop} (moves : Moves s t thread pc)
    (self : P pc) (others : ∀ u, u ≠ thread → P (s.threads u)) (u : Thread ι) :
    P (t.threads u) := by
  by_cases same : u = thread
  · rw [same, moves.self]
    exact self
  · rw [moves.others u same]
    exact others u same

/-- The exclusions survive when the new place enters a critical part of the code
only while no thread is in a part that excludes it. -/
theorem exclusion (moves : Moves s t thread pc) (old : Exclusion s.threads)
    (role : thread = .drain ∨ ((s.threads thread).ofProducer → pc.ofProducer))
    (window : pc.window → (s.threads thread).window ∨ ∀ u, (s.threads u).window = false)
    (pinned : pc.window ∨ pc.advancing → ((s.threads thread).window ∨
      (s.threads thread).advancing) ∨ ∀ u, (s.threads u).resetting = false)
    (resetting : pc.resetting → (s.threads thread).resetting ∨
      ∀ u, (s.threads u).window = false ∧ (s.threads u).advancing = false) :
    Exclusion t.threads := by
  have alone : pc.window → ∀ v, v ≠ thread → (s.threads v).window = false := by
    intro entered v ne
    obtain was | nobody := window entered
    · by_contra inside
      exact ne (old.solo v thread (by simpa using inside) was)
    · exact nobody v
  refine ⟨fun u v hu hv => ?_, fun u v hu => ?_, fun i => ?_⟩
  · by_cases ut : u = thread <;> by_cases vt : v = thread
    · rw [ut, vt]
    · rw [ut, moves.self] at hu
      rw [moves.others v vt, alone hu v vt] at hv
      cases hv
    · rw [vt, moves.self] at hv
      rw [moves.others u ut, alone hv u ut] at hu
      cases hu
    · rw [moves.others u ut] at hu
      rw [moves.others v vt] at hv
      exact old.solo u v hu hv
  · by_cases ut : u = thread <;> by_cases vt : v = thread
    · rw [ut, moves.self] at hu
      rw [vt, moves.self]
      exact pc.resetting_of_pinned hu
    · rw [ut, moves.self] at hu
      rw [moves.others v vt]
      obtain was | nobody := pinned hu
      · exact old.apart thread v was
      · exact nobody v
    · rw [moves.others u ut] at hu
      rw [vt, moves.self]
      by_contra inside
      obtain was | nobody := resetting (by simpa using inside)
      · rw [old.apart u thread hu] at was
        cases was
      · simp [nobody u] at hu
    · rw [moves.others u ut] at hu
      rw [moves.others v vt]
      exact old.apart u v hu
  · by_cases same : Thread.producer i = thread
    · rw [same, moves.self]
      obtain drain | stays := role
      · exact absurd (same.trans drain) (by simp)
      · exact stays (same ▸ old.roles i)
    · rw [moves.others _ same]
      exact old.roles i

/-- No thread resets before or after a step from a place that excludes it. -/
theorem calm (moves : Moves s t thread pc) (old : Exclusion s.threads)
    (here : (s.threads thread).window ∨ (s.threads thread).advancing)
    (self : pc.resetting = false) (u : Thread ι) : (t.threads u).resetting = false :=
  moves.forall_threads (P := fun pc => pc.resetting = false) self
    (fun u _ => old.apart thread u here) u

/-- A thread that has stored its item and not yet moved the tail is still there when another
one has moved. -/
theorem stored_others (moves : Moves s t thread pc) (outside : (s.threads thread).stored = false) :
    (∃ u, (s.threads u).stored = true) → ∃ u, (t.threads u).stored = true := by
  rintro ⟨u, stored⟩
  have ne : u ≠ thread := by
    intro same
    rw [same, outside] at stored
    cases stored
  refine ⟨u, ?_⟩
  rwa [moves.others u ne]

end Moves

namespace State.Invariant

variable {s t : State ι Text} {thread : Thread ι} {pc : Pc (Ticketed Text)}

theorem deleted_congr (deletions : t.deletions = s.deletions) : t.Deleted = s.Deleted := by
  funext item
  simp only [Deleted, deletions]

/-- With head and tail equal and no producer in its window, all slots are empty
and no thread is advancing the head. -/
theorem drained (inv : s.Invariant) (same : s.store.head = s.store.tail)
    (nobody : ∀ u, (s.threads u).window = false) :
    (∀ k, s.store.messages k = none) ∧ ∀ u, (s.threads u).advancing = false := by
  refine ⟨fun k => ?_, fun u => ?_⟩
  · by_contra held
    obtain ⟨item, held⟩ := Option.ne_none_iff_exists'.mp held
    obtain ⟨low, below | ⟨_, u, stored⟩⟩ := inv.inside k item held
    · omega
    · have window := Pc.window_of_stored stored
      rw [nobody u] at window
      cases window
  · by_contra inside
    have := (inv.facts u).lt_of_advancing (by simpa using inside)
    omega

/-- A message in the hands of the draining thread keeps the counters apart. -/
theorem not_drained (inv : s.Invariant) {item : Ticketed Text}
    (held : s.store.messages s.store.head = some item) (same : s.store.head = s.store.tail)
    (nobody : ∀ u, (s.threads u).window = false) : False := by
  have := (inv.drained same nobody).1 s.store.head
  rw [held] at this
  cases this

/-- An access that leaves both counters and all slots as they are. -/
theorem quiet (inv : s.Invariant) {old : Pc (Ticketed Text)}
    (at_pc : s.threads thread = old) (moves : Moves s t thread pc)
    (head : t.store.head = s.store.head) (tail : t.store.tail = s.store.tail)
    (messages : t.store.messages = s.store.messages) (deletions : t.deletions = s.deletions)
    (facts : s.FactsAt old → s.FactsAt pc)
    (role : thread = .drain ∨ (old.ofProducer → pc.ofProducer))
    (window : pc.window → old.window ∨
      ∀ u, (s.threads u).window = false ∧ (s.threads u).resetting = false)
    (stored : old.stored → pc.stored) (advancing : pc.advancing → old.advancing)
    (resetting : pc.resetting → old.resetting ∨
      s.store.head = s.store.tail ∧ ∀ u, (s.threads u).window = false)
    (returned : ∀ slot item, (slot, item) ∈ t.returned →
      (slot, item) ∈ s.returned ∨ s.Deleted item ∨ s.Readable slot item) : t.Invariant := by
  subst at_pc
  constructor
  case exclusion =>
    refine moves.exclusion inv.exclusion role ?_ ?_ ?_
    · exact fun h => (window h).imp_right fun nobody u => (nobody u).1
    · rintro (h | h)
      · exact (window h).imp .inl fun nobody u => (nobody u).2
      · exact .inl (.inr (advancing h))
    · refine fun h => (resetting h).imp_right ?_
      rintro ⟨same, nobody⟩ u
      refine ⟨nobody u, ?_⟩
      exact (inv.drained same nobody).2 u
  case ordered =>
    rw [head, tail]
    exact inv.ordered
  case facts =>
    have same := deleted_congr deletions
    refine moves.forall_threads ?_ fun u _ => ?_
    · rw [FactsAt, head, tail, messages, same]
      exact facts (inv.facts thread)
    · rw [FactsAt, head, tail, messages, same]
      exact inv.facts u
  case clear =>
    rw [head, tail, messages]
    refine moves.forall_threads (P := fun pc => pc.resetting = true → _) (fun h => ?_) fun u _ =>
      inv.clear u
    obtain was | ⟨same, nobody⟩ := resetting h
    · exact inv.clear thread was
    · exact ⟨(inv.drained same nobody).1, .inl same⟩
  case inside =>
    rw [head, tail, messages]
    intro k item held
    refine (inv.inside k item held).imp_right (Or.imp_right ?_)
    rintro ⟨last, u, h⟩
    refine ⟨last, u, ?_⟩
    by_cases same : u = thread
    · rw [same, moves.self]
      exact stored (same ▸ h)
    · rwa [moves.others u same]
  case kept =>
    intro slot item mem
    have old : s.Deleted item ∨ s.Readable slot item :=
      (returned slot item mem).elim (inv.kept slot item) id
    simpa only [Deleted, Readable, head, tail, messages, deletions] using old
  case own =>
    rw [deletions]
    exact inv.own

/-- A producer writes its message into the slot it has chosen. -/
theorem putMessage (inv : s.Invariant) {item : Ticketed Text} {slot : Nat}
    (at_pc : s.threads thread = .put item (.message slot))
    (moves : Moves s t thread (.put item (.tailRead slot)))
    (store : t.store = s.store.putMessage slot item) (deletions : t.deletions = s.deletions)
    (returned : t.returned = s.returned) : t.Invariant := by
  have chosen : slot = s.store.tail := by simpa [FactsAt, at_pc, Pc.Facts] using inv.facts thread
  have here : (s.threads thread).window := by rw [at_pc]; rfl
  have others := inv.exclusion.window_of_ne here
  have free : s.store.messages s.store.tail = none := by
    by_contra held
    obtain ⟨m, held⟩ := Option.ne_none_iff_exists'.mp held
    obtain ⟨_, below | ⟨_, u, stored⟩⟩ := inv.inside _ m held
    · omega
    · by_cases same : u = thread
      · rw [same, at_pc] at stored
        cases stored
      · have window := Pc.window_of_stored stored
        rw [others u same] at window
        cases window
  have same := deleted_congr deletions
  subst chosen
  constructor
  case exclusion =>
    refine moves.exclusion inv.exclusion (.inr fun _ => rfl) (fun _ => .inl here)
      (fun _ => .inl (.inl here)) (fun h => by cases h)
  case ordered =>
    rw [store]
    exact inv.ordered
  case facts =>
    refine moves.forall_threads ?_ fun u ne => ?_
    · rw [FactsAt, store]
      exact ⟨rfl, Function.update_self ..⟩
    · rw [FactsAt, store, same]
      exact (inv.facts u).putMessage item free
  case clear =>
    intro u h
    rw [moves.calm inv.exclusion (.inl here) rfl u] at h
    cases h
  case inside =>
    intro k m held
    rw [store] at held ⊢
    simp only [Store.messages_putMessage, Store.head_putMessage, Store.tail_putMessage] at held ⊢
    by_cases last : k = s.store.tail
    · refine ⟨last ▸ inv.ordered, .inr ⟨last, thread, ?_⟩⟩
      rw [moves.self]
      rfl
    · rw [Function.update_of_ne last] at held
      obtain ⟨low, below | ⟨same, -⟩⟩ := inv.inside k m held
      · exact ⟨low, .inl below⟩
      · exact absurd same last
  case kept =>
    intro k m mem
    rw [returned] at mem
    refine (inv.kept k m mem).imp (fun gone => same ▸ gone) ?_
    rintro ⟨held, low, below⟩
    refine ⟨?_, by rwa [store], by rwa [store]⟩
    rw [store, Store.messages_putMessage, Function.update_of_ne (by omega), held]
  case own =>
    rw [deletions]
    exact inv.own

/-- A producer moves the tail past the message it has written. -/
theorem setTail (inv : s.Invariant) {item : Ticketed Text} {slot tail : Nat}
    (at_pc : s.threads thread = .put item (.tailWrite slot tail))
    (moves : Moves s t thread (.put item (.sizeRead slot)))
    (store : t.store = s.store.setTail (tail + 1)) (deletions : t.deletions = s.deletions)
    (returned : t.returned = s.returned) : t.Invariant := by
  obtain ⟨chosen, read, held⟩ : slot = s.store.tail ∧ tail = slot ∧
      s.store.messages slot = some item := by
    simpa [FactsAt, at_pc, Pc.Facts] using inv.facts thread
  have here : (s.threads thread).window := by rw [at_pc]; rfl
  have others := inv.exclusion.window_of_ne here
  have same := deleted_congr deletions
  subst read
  subst chosen
  have ordered := inv.ordered
  constructor
  case exclusion =>
    refine moves.exclusion inv.exclusion (.inr fun _ => rfl) (fun h => by cases h)
      (fun h => by simp [Pc.window, Pc.advancing] at h) (fun h => by cases h)
  case ordered =>
    rw [store, Store.head_setTail, Store.tail_setTail]
    omega
  case facts =>
    refine moves.forall_threads ?_ fun u ne => ?_
    · rw [FactsAt, store]
      exact .inr ⟨held, ordered, Nat.lt_succ_self _⟩
    · rw [FactsAt, store, same]
      exact (inv.facts u).setTail_succ (others u ne)
  case clear =>
    intro u h
    rw [moves.calm inv.exclusion (.inl here) rfl u] at h
    cases h
  case inside =>
    intro k m found
    rw [store] at found ⊢
    simp only [Store.messages_setTail, Store.head_setTail, Store.tail_setTail] at found ⊢
    obtain ⟨low, below | ⟨last, -⟩⟩ := inv.inside k m found <;> exact ⟨low, .inl (by omega)⟩
  case kept =>
    intro k m mem
    rw [returned] at mem
    refine (inv.kept k m mem).imp (fun gone => same ▸ gone) ?_
    rintro ⟨found, low, below⟩
    rw [Readable, store]
    exact ⟨found, low, Nat.lt_succ_of_lt below⟩
  case own =>
    rw [deletions]
    exact inv.own

/-- The first write of a reset. -/
theorem setHead_zero (inv : s.Invariant) {purpose : Purpose (Ticketed Text)}
    (at_pc : s.threads thread = .isEmpty purpose .resetHead)
    (moves : Moves s t thread (.isEmpty purpose .resetTail))
    (store : t.store = s.store.setHead 0) (deletions : t.deletions = s.deletions)
    (returned : t.returned = s.returned) : t.Invariant := by
  have here : (s.threads thread).resetting := by rw [at_pc]; rfl
  obtain ⟨clear, at_end⟩ := inv.clear thread here
  have outside := inv.exclusion.not_pinned here
  have same := deleted_congr deletions
  constructor
  case exclusion =>
    refine moves.exclusion inv.exclusion (.inr fun h => ?_) (fun h => by cases h)
      (fun h => by simp [Pc.window, Pc.advancing] at h) (fun _ => .inl here)
    rw [at_pc] at h
    cases purpose <;> first | rfl | cases h
  case ordered =>
    rw [store]
    exact Nat.zero_le _
  case facts =>
    refine moves.forall_threads ?_ fun u _ => ?_
    · rw [FactsAt, store]
      have own := inv.facts thread
      rw [at_pc] at own
      cases purpose <;> first | rfl | exact own.elim
    · rw [FactsAt, store, same]
      exact (inv.facts u).setHead_zero (outside u).1 (outside u).2 clear at_end
  case clear =>
    rw [store]
    exact fun _ _ => ⟨clear, .inr rfl⟩
  case inside =>
    intro k m found
    rw [store, Store.messages_setHead, clear k] at found
    cases found
  case kept =>
    intro k m mem
    rw [returned] at mem
    refine (inv.kept k m mem).imp (fun gone => same ▸ gone) ?_
    rintro ⟨found, -⟩
    rw [clear k] at found
    cases found
  case own =>
    rw [deletions]
    exact inv.own

/-- The second write of a reset. -/
theorem setTail_zero (inv : s.Invariant) {purpose : Purpose (Ticketed Text)}
    (at_pc : s.threads thread = .isEmpty purpose .resetTail)
    (moves : Moves s t thread (.isEmpty purpose .resetSize))
    (store : t.store = s.store.setTail 0) (deletions : t.deletions = s.deletions)
    (returned : t.returned = s.returned) : t.Invariant := by
  have here : (s.threads thread).resetting := by rw [at_pc]; rfl
  obtain ⟨clear, -⟩ := inv.clear thread here
  have outside := inv.exclusion.not_pinned here
  have same := deleted_congr deletions
  have own := inv.facts thread
  rw [at_pc] at own
  have zero : s.store.head = 0 := by
    cases purpose <;> first | exact own | exact own.elim
  constructor
  case exclusion =>
    refine moves.exclusion inv.exclusion (.inr fun h => ?_) (fun h => by cases h)
      (fun h => by simp [Pc.window, Pc.advancing] at h) (fun _ => .inl here)
    rw [at_pc] at h
    cases purpose <;> first | rfl | cases h
  case ordered =>
    rw [store, Store.head_setTail, zero, Store.tail_setTail]
  case facts =>
    refine moves.forall_threads ?_ fun u _ => ?_
    · rw [FactsAt, store]
      cases purpose <;> trivial
    · have facts := inv.facts u
      rw [FactsAt, zero] at facts
      rw [FactsAt, store, same, Store.head_setTail, Store.tail_setTail, zero]
      exact facts.setTail_zero (outside u).1 (outside u).2 clear
  case clear =>
    rw [store]
    exact fun _ _ => ⟨clear, .inr zero⟩
  case inside =>
    intro k m found
    rw [store, Store.messages_setTail, clear k] at found
    cases found
  case kept =>
    intro k m mem
    rw [returned] at mem
    refine (inv.kept k m mem).imp (fun gone => same ▸ gone) ?_
    rintro ⟨found, -⟩
    rw [clear k] at found
    cases found
  case own =>
    rw [deletions]
    exact inv.own

/-- A thread that is not a producer is the draining thread, and all others are producers. -/
theorem others_ofProducer (inv : s.Invariant) (thread : Thread ι)
    (drain : (s.threads thread).ofProducer = false)
    (u : Thread ι) (ne : u ≠ thread) : (s.threads u).ofProducer := by
  cases u with
  | producer i => exact inv.exclusion.roles i
  | drain =>
      cases thread with
      | producer i =>
          rw [inv.exclusion.roles i] at drain
          cases drain
      | drain => exact absurd rfl ne

/-- The draining thread deletes the message it has sent. -/
theorem deleteMessage (inv : s.Invariant) {sent : Ticketed Text}
    {item : Option (Ticketed Text)} {head : Nat}
    (at_pc : s.threads thread = .delete sent (.message item head))
    (moves : Moves s t thread (.delete sent (.headRead item)))
    (store : t.store = s.store.deleteMessage head)
    (deletions : t.deletions = (sent, s.store.messages head) :: s.deletions)
    (returned : t.returned = s.returned) : t.Invariant := by
  obtain ⟨first, held, below⟩ : head = s.store.head ∧
      s.store.messages s.store.head = some sent ∧ s.store.head < s.store.tail := by
    simpa [FactsAt, at_pc, Pc.Facts] using inv.facts thread
  have nobody : ∀ u, (s.threads u).resetting = false := by
    intro u
    by_contra inside
    have := (inv.clear u (by simpa using inside)).1 s.store.head
    rw [held] at this
    cases this
  have producers := inv.others_ofProducer thread (by rw [at_pc]; rfl)
  have outside : (s.threads thread).stored = false := by rw [at_pc]; rfl
  subst first
  have gone : t.Deleted sent := ⟨sent, by rw [deletions, held]; exact List.mem_cons_self⟩
  have more : ∀ m, s.Deleted m → t.Deleted m := by
    rintro m ⟨before, mem⟩
    exact ⟨before, by rw [deletions]; exact List.mem_cons_of_mem _ mem⟩
  constructor
  case exclusion =>
    refine moves.exclusion inv.exclusion (.inr fun h => ?_) (fun h => by cases h)
      (fun _ => .inr nobody) (fun h => by cases h)
    rw [at_pc] at h
    cases h
  case ordered =>
    rw [store]
    exact inv.ordered
  case facts =>
    refine moves.forall_threads ?_ fun u ne => ?_
    · rw [FactsAt, store]
      exact ⟨Function.update_self .., below⟩
    · rw [FactsAt, store]
      exact (inv.facts u).deleteMessage (producers u ne) held below gone more
  case clear =>
    intro u h
    by_cases same : u = thread
    · rw [same, moves.self] at h
      cases h
    · rw [moves.others u same, nobody u] at h
      cases h
  case inside =>
    intro k m found
    rw [store] at found ⊢
    simp only [Store.messages_deleteMessage, Store.head_deleteMessage,
      Store.tail_deleteMessage] at found ⊢
    have ne : k ≠ s.store.head := by
      intro same
      rw [same, Function.update_self] at found
      cases found
    rw [Function.update_of_ne ne] at found
    exact (inv.inside k m found).imp_right
      (Or.imp_right (And.imp_right (moves.stored_others outside)))
  case kept =>
    intro k m mem
    rw [returned] at mem
    obtain before | ⟨found, low, high⟩ := inv.kept k m mem
    · exact .inl (more m before)
    · by_cases first : k = s.store.head
      · rw [first, held, Option.some.injEq] at found
        exact .inl (found ▸ gone)
      · refine .inr ⟨?_, by rwa [store], by rwa [store]⟩
        rw [store, Store.messages_deleteMessage, Function.update_of_ne first, found]
  case own =>
    intro before found mem
    rw [deletions, held] at mem
    obtain same | mem := List.mem_cons.mp mem
    · cases same
      rfl
    · exact inv.own before found mem

/-- The draining thread moves the head past the deleted slot. -/
theorem setHead_succ (inv : s.Invariant) {sent : Ticketed Text}
    {item : Option (Ticketed Text)} {head : Nat}
    (at_pc : s.threads thread = .delete sent (.headWrite item head))
    (moves : Moves s t thread (.delete sent (.sizeRead item)))
    (store : t.store = s.store.setHead (head + 1)) (deletions : t.deletions = s.deletions)
    (returned : t.returned = s.returned) : t.Invariant := by
  obtain ⟨first, free, below⟩ : head = s.store.head ∧
      s.store.messages s.store.head = none ∧ s.store.head < s.store.tail := by
    simpa [FactsAt, at_pc, Pc.Facts] using inv.facts thread
  have here : (s.threads thread).advancing := by rw [at_pc]; rfl
  have producers := inv.others_ofProducer thread (by rw [at_pc]; rfl)
  have outside : (s.threads thread).stored = false := by rw [at_pc]; rfl
  have beyond : ∀ k m, s.store.messages k = some m → s.store.head + 1 ≤ k := by
    intro k m found
    have ne : k ≠ s.store.head := by
      intro same
      rw [same, free] at found
      cases found
    have low := (inv.inside k m found).1
    omega
  have same := deleted_congr deletions
  subst first
  constructor
  case exclusion =>
    refine moves.exclusion inv.exclusion (.inr fun h => ?_) (fun h => by cases h)
      (fun h => by simp [Pc.window, Pc.advancing] at h) (fun h => by cases h)
    rw [at_pc] at h
    cases h
  case ordered =>
    rw [store]
    exact below
  case facts =>
    refine moves.forall_threads ?_ fun u ne => ?_
    · rw [FactsAt, store]
      trivial
    · rw [FactsAt, store, same]
      exact (inv.facts u).setHead_succ (producers u ne) free
        (inv.exclusion.apart thread u (.inr here))
  case clear =>
    intro u h
    rw [moves.calm inv.exclusion (.inr here) rfl u] at h
    cases h
  case inside =>
    intro k m found
    rw [store] at found ⊢
    exact ⟨beyond k m found, (inv.inside k m found).2.imp_right
      (And.imp_right (moves.stored_others outside))⟩
  case kept =>
    intro k m mem
    rw [returned] at mem
    refine (inv.kept k m mem).imp (fun gone => same ▸ gone) ?_
    rintro ⟨found, low, high⟩
    rw [Readable, store]
    exact ⟨found, beyond k m found, high⟩
  case own =>
    rw [deletions]
    exact inv.own

end State.Invariant

end Sharing

end Sspl

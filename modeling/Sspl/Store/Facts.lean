import Sspl.Store.Interleaving

/-!
# What a thread relies on at its place in the code

For every place in `put`, `is_empty`, `get` and `delete` this module names the
critical parts of the code the place belongs to, and the `Facts` about counters
and slots that the rest of the call relies on. Every access either leaves the
counters and slots alone or is one of six writes; each write has one lemma saying
that the facts of the threads it may overlap with survive it.
-/

namespace Sspl

variable {M : Type}

namespace Pc

/-- Between the choice of the slot and the write of the tail. -/
def window : Pc M → Bool
  | put _ (.message _) | put _ (.tailRead _) | put _ (.tailWrite _ _) => true
  | _ => false

/-- In the window, with the message written. -/
def stored : Pc M → Bool
  | put _ (.tailRead _) | put _ (.tailWrite _ _) => true
  | _ => false

/-- Decided to reset the counters, with the tail not yet written. -/
def resetting : Pc M → Bool
  | isEmpty _ .resetHead | isEmpty _ .resetTail => true
  | _ => false

/-- The head slot was deleted and the head not yet moved. -/
def advancing : Pc M → Bool
  | delete _ (.headRead _) | delete _ (.headWrite _ _) => true
  | _ => false

theorem resetting_of_pinned (pc : Pc M) (h : pc.window ∨ pc.advancing) :
    pc.resetting = false := by
  cases pc <;> simp_all [window, advancing, resetting]

theorem window_of_stored {pc : Pc M} (h : pc.stored) : pc.window := by
  cases pc with
  | put item pc => cases pc <;> simp_all [stored, window]
  | _ => simp [stored] at h

/-- The places of a thread that only calls `put` and `is_empty`. -/
def ofProducer : Pc M → Bool
  | idle | isEmpty .alone _ | put _ _ => true
  | _ => false

/-- What a thread at this place relies on, given the two counters, the message
slots and the messages deleted so far. -/
def Facts (head tail : Nat) (messages : Nat → Option M) (Deleted : M → Prop) : Pc M → Prop
  | isEmpty (.delete sent) .tail => messages head = some sent
  | isEmpty (.delete sent) (.head t) => messages head = some sent ∧ (t = head ∨ head < tail)
  | isEmpty (.delete _) _ => False
  | isEmpty .get (.head t) => t = head ∨ head < tail ∨ head = 0
  | isEmpty _ .resetTail => head = 0
  | put _ (.message slot) => slot = tail
  | put item (.tailRead slot) => slot = tail ∧ messages slot = some item
  | put item (.tailWrite slot t) => slot = tail ∧ t = slot ∧ messages slot = some item
  | put item (.sizeRead slot) | put item (.sizeWrite slot _) | put item (.log slot) =>
    Deleted item ∨ messages slot = some item ∧ head ≤ slot ∧ slot < tail
  | get .head => head < tail ∨ head = 0
  | get (.item h) => h = head ∧ (head < tail ∨ head = 0)
  | inHand (some item) => messages head = some item
  | delete sent (.message _ h) => h = head ∧ messages head = some sent ∧ head < tail
  | delete _ (.headRead _) => messages head = none ∧ head < tail
  | delete _ (.headWrite _ h) => h = head ∧ messages head = none ∧ head < tail
  | delete _ (.sizeRead _) | delete _ (.sizeWrite _ _) => True
  | delete sent _ => messages head = some sent ∧ head < tail
  | _ => True

section Stability

variable {head tail : Nat} {messages : Nat → Option M} {Deleted Deleted' : M → Prop}
  {pc : Pc M}

theorem Facts.lt_of_advancing (facts : pc.Facts head tail messages Deleted)
    (h : pc.advancing) : head < tail := by
  cases pc with
  | delete sent pc => cases pc <;> simp_all [Facts, advancing]
  | _ => simp [advancing] at h

theorem Facts.setTail_succ (facts : pc.Facts head tail messages Deleted)
    (outside : pc.window = false) : pc.Facts head (tail + 1) messages Deleted := by
  cases pc with
  | isEmpty purpose pc => cases purpose <;> cases pc <;> simp_all [Facts] <;> omega
  | put item pc => cases pc <;> simp_all [Facts, window]; all_goals grind
  | get pc => cases pc <;> simp_all [Facts] <;> omega
  | inHand item => cases item <;> simp_all [Facts]
  | delete sent pc => cases pc <;> simp_all [Facts] <;> omega
  | idle => trivial

/-- Messages that are kept, with the head slot still empty if it was. -/
theorem Facts.mono {messages' : Nat → Option M} (facts : pc.Facts head tail messages Deleted)
    (kept : ∀ k m, messages k = some m → messages' k = some m)
    (empty : head < tail → messages head = none → messages' head = none) :
    pc.Facts head tail messages' Deleted := by
  cases pc with
  | isEmpty purpose pc =>
      cases purpose with
      | delete sent =>
          cases pc with
          | tail => exact kept _ _ facts
          | head t => exact ⟨kept _ _ facts.1, facts.2⟩
          | _ => exact facts
      | _ => cases pc <;> exact facts
  | put item pc =>
      cases pc with
      | tailRead slot => exact ⟨facts.1, kept _ _ facts.2⟩
      | tailWrite slot t => exact ⟨facts.1, facts.2.1, kept _ _ facts.2.2⟩
      | sizeRead slot | sizeWrite slot _ | log slot =>
          exact facts.imp id fun ⟨held, within⟩ => ⟨kept _ _ held, within⟩
      | _ => exact facts
  | inHand item =>
      cases item with
      | some item => exact kept _ _ facts
      | none => trivial
  | delete sent pc =>
      cases pc with
      | message _ _ => exact ⟨facts.1, kept _ _ facts.2.1, facts.2.2⟩
      | headRead _ => exact ⟨empty facts.2 facts.1, facts.2⟩
      | headWrite _ _ => exact ⟨facts.1, empty facts.2.2 facts.2.1, facts.2.2⟩
      | sizeRead _ | sizeWrite _ _ => trivial
      | _ => exact ⟨kept _ _ facts.1, facts.2⟩
  | get pc => cases pc <;> exact facts
  | idle => trivial

theorem Facts.putMessage (facts : pc.Facts head tail messages Deleted) (item : M)
    (free : messages tail = none) :
    pc.Facts head tail (Function.update messages tail (some item)) Deleted := by
  refine facts.mono ?_ ?_
  · intro k m held
    have ne : k ≠ tail := fun same => by simp [same, free] at held
    rw [Function.update_of_ne ne, held]
  · intro inside empty
    rw [Function.update_of_ne (by omega), empty]

/-- While all slots are empty the head may go back to zero. -/
theorem Facts.setHead_zero (facts : pc.Facts head tail messages Deleted)
    (outside : pc.window = false) (still : pc.advancing = false)
    (clear : ∀ k, messages k = none) (at_end : head = tail ∨ head = 0) :
    pc.Facts 0 tail messages Deleted := by
  cases pc with
  | isEmpty purpose pc => cases purpose <;> cases pc <;> simp_all [Facts]
  | put item pc => cases pc <;> simp_all [Facts, window]
  | get pc => cases pc <;> simp_all [Facts]; omega
  | inHand item => cases item <;> simp_all [Facts]
  | delete sent pc => cases pc <;> simp_all [Facts, advancing]
  | idle => trivial

/-- With all slots empty and the head at zero the tail may go back to zero. -/
theorem Facts.setTail_zero (facts : pc.Facts 0 tail messages Deleted)
    (outside : pc.window = false) (still : pc.advancing = false)
    (clear : ∀ k, messages k = none) : pc.Facts 0 0 messages Deleted := by
  cases pc with
  | isEmpty purpose pc => cases purpose <;> cases pc <;> simp_all [Facts]
  | put item pc => cases pc <;> simp_all [Facts, window]
  | get pc => cases pc <;> simp_all [Facts]
  | inHand item => cases item <;> simp_all [Facts]
  | delete sent pc => cases pc <;> simp_all [Facts, advancing]
  | idle => trivial

/-- Deleting the head slot takes nothing away from a producer that is not
waiting for this message itself, and that one finds it among the deleted ones. -/
theorem Facts.deleteMessage (facts : pc.Facts head tail messages Deleted)
    (producer : pc.ofProducer) {sent : M} (held : messages head = some sent)
    (inside : head < tail) (gone : Deleted' sent) (more : ∀ m, Deleted m → Deleted' m) :
    pc.Facts head tail (Function.update messages head none) Deleted' := by
  have other : ∀ k, k ≠ head → Function.update messages head none k = messages k :=
    fun k ne => Function.update_of_ne ne _ _
  cases pc with
  | isEmpty purpose pc => cases purpose <;> cases pc <;> simp_all [Facts, ofProducer]
  | put item pc => cases pc <;> simp_all [Facts]; all_goals grind
  | idle => trivial
  | get | inHand | delete => simp [ofProducer] at producer

/-- Moving the head past an empty slot leaves a producer's facts alone. -/
theorem Facts.setHead_succ (facts : pc.Facts head tail messages Deleted)
    (producer : pc.ofProducer) (free : messages head = none) (calm : pc.resetting = false) :
    pc.Facts (head + 1) tail messages Deleted := by
  cases pc with
  | isEmpty purpose pc => cases purpose <;> cases pc <;> simp_all [Facts, ofProducer, resetting]
  | put item pc => cases pc <;> simp_all [Facts]; all_goals grind
  | idle => trivial
  | get | inHand | delete => simp [ofProducer] at producer

end Stability

end Pc

end Sspl

import Sspl.Store.Limit

/-!
# Crashes

Each method of the queue makes several writes, and the process may stop between any two of
them. A `put` writes the message first and then moves the tail, so that a message whose `put`
did not come to its end lies behind the tail, where the next message is written. A `delete`
takes the message away before it moves the head, and `is_empty` sets the head of an empty queue
back before the tail: a queue that is left in between has a head slot with nothing in it.
-/

namespace Sspl

open Atomic

variable {M : Type}

/-- The messages from the head to the tail. Behind the tail there may be others. -/
structure Reads (s : Store M) (items : List M) : Prop where
  counted : s.memoryUsage.isSome
  head : s.headIndex = some s.head
  tail : s.tailIndex = some (s.head + items.length)
  below : ∀ k < s.head, s.messages k = none
  slots : ∀ i < items.length, s.messages (s.head + i) = items[i]?

namespace StoreQueue

/-- The answers are those of a list, where `put` may also raise and leave the list alone. -/
def Follows : List (Op M × Answer M) → List M → Prop
  | [], _ => True
  | (.put item, .done) :: rest, items => Follows rest (items ++ [item])
  | (.put _, .raised _) :: rest, items => Follows rest items
  | (.get, .message item) :: rest, items => item = items.head? ∧ Follows rest items
  | (.delete, .done) :: rest, items => Follows rest items.tail
  | (.isEmpty, .flag b) :: rest, items => b = items.isEmpty ∧ Follows rest items
  | (.restart, .done) :: rest, items => Follows rest items
  | _ :: _, _ => False

/-- Whatever sequence of calls is made from now on, the queue answers as this list does. -/
def Behaves (conf : QueueConf M) (s : Store M) (items : List M) : Prop :=
  ∀ ops : List (Op M), Follows (ops.zip (performAll conf ops s).1) items

/-- The process stops after so many accesses of the call, and the queue is created again. -/
def crash (conf : QueueConf M) (s : Store M) (op : Op M) (accesses : Nat) : Store M :=
  ((init : Call (Store M) Unit).run ((perform conf op).runFor accesses s)).2

/-- Between the two writes that belong together: `delete` has removed the message and not yet
moved the head, or `is_empty` has set the head back and not yet the tail. -/
def Torn (conf : QueueConf M) (s : Store M) : Op M → Nat → Prop
  | .delete, n => if s.tail = s.head then s.head ≠ 0 ∧ n = 3 else n = 6 ∨ n = 7
  | .get, n | .isEmpty, n => s.tail = s.head ∧ s.head ≠ 0 ∧ n = 3
  | .put item, n => conf.maxSize ≤ s.currentSize + conf.sizeOfText item ∧ 0 < conf.stackDepth ∧
      s.tail = s.head ∧ s.head ≠ 0 ∧ n = 5
  | .restart, _ => False

/-- A call on the queue is carried out, or the process stops within it. -/
inductive CrashAction (M : Type)
  | call (op : Op M)
  | crash (op : Op M) (accesses : Nat)

/-- The calls of one process after the other. A process that stops leaves what its accesses so far
have written, and the next one creates the queue over that. -/
def crashSystem (conf : QueueConf M) : Transition.System (Store M) (CrashAction M) where
  init s := s = start
  next s
    | .call op => some ((perform conf op).run s).2
    | .crash op accesses => some (crash conf s op accesses)

/-- The process does not stop between two writes that belong together. -/
def Whole (conf : QueueConf M) (s : Store M) : CrashAction M → Prop
  | .call _ => True
  | .crash op accesses => ¬ Torn conf s op accesses

end StoreQueue

namespace Reads

variable {s : Store M} {items : List M} {item : M}

theorem tail_eq (h : Reads s items) : s.tail = s.head + items.length := by
  rw [Store.tail, h.tail, Option.getD_some]

theorem items_eq (h : Reads s items) : s.items = items := s.items_eq h.tail_eq h.slots

theorem tail_eq_head_iff (h : Reads s items) : s.tail = s.head ↔ items = [] := by
  rw [h.tail_eq, ← List.length_eq_zero_iff]
  omega

theorem message_head (h : Reads s (item :: items)) : s.messages s.head = some item :=
  h.slots 0 (Nat.zero_lt_succ _)

theorem setCurrentSize (h : Reads s items) (size : Int) : Reads (s.setCurrentSize size) items :=
  ⟨rfl, h.head, h.tail, h.below, h.slots⟩

theorem reset (s : Store M) : Reads s.reset [] :=
  ⟨rfl, rfl, rfl, fun k none => absurd none (Nat.not_lt_zero k), fun i none => by cases none⟩

/-- A message behind the tail does not belong to the queue. -/
theorem putMessage (h : Reads s items) (item : M) : Reads (s.putMessage s.tail item) items where
  counted := h.counted
  head := h.head
  tail := h.tail
  below k lt := by
    have tail := h.tail_eq
    change Function.update s.messages s.tail (some item) k = none
    change k < s.head at lt
    rw [Function.update_of_ne (by omega), h.below k lt]
  slots i lt := by
    have tail := h.tail_eq
    change Function.update s.messages s.tail (some item) (s.head + i) = items[i]?
    rw [Function.update_of_ne (by omega), h.slots i lt]

theorem append (h : Reads s items) (item : M) :
    Reads ((s.putMessage s.tail item).setTail (s.tail + 1)) (items ++ [item]) where
  counted := h.counted
  head := h.head
  tail := by
    change some (s.tail + 1) = some (s.head + (items ++ [item]).length)
    rw [h.tail_eq, List.length_append, List.length_singleton, Nat.add_assoc]
  below := (h.putMessage item).below
  slots i lt := by
    have tail := h.tail_eq
    change Function.update s.messages s.tail (some item) (s.head + i) = (items ++ [item])[i]?
    rw [List.length_append, List.length_singleton] at lt
    by_cases last : i = items.length
    · rw [last, ← tail, Function.update_self, List.getElem?_concat_length]
    · rw [Function.update_of_ne (by omega), h.slots i (by omega),
        List.getElem?_append_left (by omega)]

theorem removeHead (h : Reads s (item :: items)) :
    Reads ((s.deleteMessage s.head).setHead (s.head + 1)) items where
  counted := h.counted
  head := rfl
  tail := by
    change s.tailIndex = some (s.head + 1 + items.length)
    rw [h.tail, List.length_cons]
    congr 1
    omega
  below k lt := by
    change Function.update s.messages s.head none k = none
    change k < s.head + 1 at lt
    by_cases own : k = s.head
    · rw [own, Function.update_self]
    · rw [Function.update_of_ne own, h.below k (by omega)]
  slots i lt := by
    change Function.update s.messages s.head none (s.head + 1 + i) = items[i]?
    rw [Function.update_of_ne (by omega), Nat.add_assoc, Nat.add_comm 1 i,
      h.slots (i + 1) (Nat.succ_lt_succ lt), List.getElem?_cons_succ]

end Reads

theorem Represents.reads {s : Store M} {items : List M} (h : Represents s items) :
    Reads s items :=
  ⟨h.counted, h.head, h.tail, fun _ lt => h.slots.outside (.inl lt), fun i _ => h.slots.lookup i⟩

namespace StoreQueue

section

variable {conf : QueueConf M} {s t : Store M} {items : List M} {item : M} {op : Op M} {n : Nat}

theorem isEmpty_reads (h : Reads s items) :
    ((isEmpty : Call (Store M) Bool).run s).1 = items.isEmpty ∧
      Reads ((isEmpty : Call (Store M) Bool).run s).2 items := by
  rw [isEmpty_run]
  split
  · rename_i same
    cases h.tail_eq_head_iff.mp same
    exact ⟨rfl, .reset s⟩
  · rename_i differ
    have something : items ≠ [] := fun nothing => differ (h.tail_eq_head_iff.mpr nothing)
    exact ⟨by simp [something], h⟩

theorem get_reads (h : Reads s items) :
    ((get : Call (Store M) (Option M)).run s).1 = items.head? ∧
      Reads ((get : Call (Store M) (Option M)).run s).2 items := by
  rw [get_run]
  cases items with
  | nil =>
      rw [if_pos (h.tail_eq_head_iff.mpr rfl)]
      exact ⟨rfl, .reset s⟩
  | cons item rest =>
      rw [if_neg fun same => by cases h.tail_eq_head_iff.mp same]
      exact ⟨h.message_head, h⟩

theorem delete_reads (h : Reads s items) : Reads ((delete conf).run s).2 items.tail := by
  rw [delete_run]
  cases items with
  | nil =>
      rw [if_pos (h.tail_eq_head_iff.mpr rfl)]
      exact .reset s
  | cons item rest =>
      rw [if_neg fun same => by cases h.tail_eq_head_iff.mp same]
      exact h.removeHead.setCurrentSize _

theorem append_reads (h : Reads s items) (item : M) :
    Reads ((append conf item).run s).2 (items ++ [item]) := by
  have run : ((append conf item).run s).2 =
      ((s.putMessage s.tail item).setTail (s.tail + 1)).setCurrentSize
        (s.currentSize + conf.sizeOfText item) := by
    simp [append]
  rw [run]
  exact (h.append item).setCurrentSize _

theorem createSpace_reads (size : Int) (frames : Nat) : ∀ (reclaimed : Int) {s : Store M},
    Reads s items → Reads ((createSpace conf size frames reclaimed).run s).2 items := by
  induction frames with
  | zero => exact fun _ _ h => h
  | succ frames ih =>
      intro reclaimed s h
      by_cases full : conf.maxSize ≤ s.currentSize - reclaimed + size
      · simpa [createSpace, full] using ih _ (get_reads h).2
      · simpa [createSpace, full] using h

theorem put_reads (h : Reads s items) (item : M) :
    ((put conf item).run s).1 = .ok () ∧ Reads ((put conf item).run s).2 (items ++ [item]) ∨
      ((put conf item).run s).1 = .error .recursionError ∧
        Reads ((put conf item).run s).2 items := by
  by_cases full : conf.maxSize ≤ s.currentSize + conf.sizeOfText item
  · have kept := @createSpace_reads M conf _ (conf.sizeOfText item) conf.stackDepth 0 _ h
    obtain found | failed := createSpace_answer conf (conf.sizeOfText item) conf.stackDepth 0 s
    · exact .inl (by simpa [put, full, found] using append_reads kept item)
    · exact .inr (by simpa [put, full, failed] using kept)
  · rw [put_run_of_room conf item full]
    exact .inl ⟨rfl, append_reads h item⟩

theorem init_reads (h : Reads s items) : ((init : Call (Store M) Unit).run s).2 = s := by
  obtain ⟨size, counted⟩ := Option.isSome_iff_exists.mp h.counted
  simp [init, counted, h.head, h.tail]

theorem perform_reads (h : Reads s items) (op : Op M) :
    ∃ items', Reads ((perform conf op).run s).2 items' ∧ ∀ rest,
      Follows rest items' → Follows ((op, ((perform conf op).run s).1) :: rest) items := by
  cases op with
  | put item =>
      obtain ⟨answer, after⟩ | ⟨answer, after⟩ := @put_reads M conf _ _ h item
      · refine ⟨_, by simpa only [perform, Call.run_bind, Call.run_pure, answer] using after, ?_⟩
        simp only [perform, Call.run_bind, Call.run_pure, answer, Follows]
        exact fun _ => id
      · refine ⟨_, by simpa only [perform, Call.run_bind, Call.run_pure, answer] using after, ?_⟩
        simp only [perform, Call.run_bind, Call.run_pure, answer, Follows]
        exact fun _ => id
  | get =>
      obtain ⟨answer, after⟩ := get_reads h
      refine ⟨_, by simpa only [perform, Call.run_bind, Call.run_pure] using after, ?_⟩
      simp only [perform, Call.run_bind, Call.run_pure, answer, Follows]
      exact fun _ follows => ⟨trivial, follows⟩
  | delete =>
      refine ⟨_, by
        simpa only [perform, Call.run_bind, Call.run_pure] using @delete_reads M conf _ _ h, ?_⟩
      simp only [perform, Call.run_bind, Call.run_pure, Follows]
      exact fun _ => id
  | isEmpty =>
      obtain ⟨answer, after⟩ := isEmpty_reads h
      refine ⟨_, by simpa only [perform, Call.run_bind, Call.run_pure] using after, ?_⟩
      simp only [perform, Call.run_bind, Call.run_pure, answer, Follows]
      exact fun _ follows => ⟨trivial, follows⟩
  | restart =>
      refine ⟨items, by simpa only [perform, Call.run_bind, Call.run_pure, init_reads h], ?_⟩
      simp only [perform, Call.run_bind, Call.run_pure, Follows]
      exact fun _ => id

theorem behaves_of_reads (h : Reads s items) : Behaves conf s items := by
  intro ops
  induction ops generalizing s items with
  | nil => trivial
  | cons op rest ih =>
      obtain ⟨items', after, follows⟩ := @perform_reads M conf _ _ h op
      exact follows _ (ih after)

/-- A queue that is not empty but has nothing in the head slot is not like any list. -/
theorem not_behaves {others : List M} (differ : s.tail ≠ s.head)
    (nothing : s.messages s.head = none) : ¬ Behaves conf s others := by
  intro behaves
  have answers := behaves [.isEmpty, .get]
  have empty : ((perform conf .isEmpty).run s) = (.flag false, s) := by
    simp [perform, isEmpty_run, differ]
  have got : ((perform conf .get).run s) = (.message none, s) := by
    simp [perform, get_run, differ, nothing]
  simp only [performAll, empty, got, List.zip_cons_cons, Follows] at answers
  obtain ⟨notEmpty, first, -⟩ := answers
  cases others with
  | nil => cases notEmpty
  | cons item rest => cases first

theorem isEmpty_runFor (n : Nat) (s : Store M) :
    (isEmpty : Call (Store M) Bool).runFor n s =
      if s.tail = s.head then
        match n with
        | 0 | 1 | 2 => s
        | 3 => s.setHead 0
        | 4 => (s.setHead 0).setTail 0
        | _ => s.reset
      else s := by
  match n with
  | 0 | 1 | 2 => exact (ite_self s).symm
  | n + 3 =>
      change (if s.tail = s.head then _ else _ : Call (Store M) Bool).runFor (n + 1) s = _
      split
      · match n with
        | 0 | 1 => rfl
        | n + 2 => cases n <;> rfl
      · rfl

theorem isEmpty_accesses (s : Store M) :
    (isEmpty : Call (Store M) Bool).accesses s = if s.tail = s.head then 5 else 2 := by
  change (if s.tail = s.head then _ else _ : Call (Store M) Bool).accesses s + 1 + 1 = _
  split <;> rfl

/-- A crash in `is_empty` leaves the queue as it was, unless the head is set back alone. -/
theorem isEmpty_crash (h : Reads s items) (whole : ¬ (s.tail = s.head ∧ s.head ≠ 0 ∧ n = 3)) :
    Reads ((isEmpty : Call (Store M) Bool).runFor n s) items := by
  rw [isEmpty_runFor]
  split
  · rename_i same
    cases h.tail_eq_head_iff.mp same
    match n with
    | 0 | 1 | 2 => exact h
    | 3 =>
        have zero : s.head = 0 := by
          by_contra nonzero
          exact whole ⟨same, nonzero, rfl⟩
        have back : s.setHead 0 = s := by
          have own := h.head
          rw [zero] at own
          cases s
          cases own
          rfl
        rwa [back]
    | 4 =>
        exact ⟨h.counted, rfl, rfl, fun k none => absurd none (Nat.not_lt_zero k),
          fun i none => by cases none⟩
    | _ + 5 => exact .reset s
  · exact h

/-- After `get` has looked, an empty queue starts at zero. -/
theorem get_head (s : Store M)
    (same : ((get : Call (Store M) (Option M)).run s).2.tail =
      ((get : Call (Store M) (Option M)).run s).2.head) :
    ((get : Call (Store M) (Option M)).run s).2.head = 0 := by
  rw [get_run] at same ⊢
  split
  · rfl
  · rename_i differ
    rw [if_neg differ] at same
    exact absurd same differ

theorem get_crash (h : Reads s items) (whole : ¬ (s.tail = s.head ∧ s.head ≠ 0 ∧ n = 3)) :
    Reads ((get : Call (Store M) (Option M)).runFor n s) items := by
  rw [get, Call.runFor_bind]
  split
  · exact isEmpty_crash h whole
  · have after := (isEmpty_reads h).2
    split
    · rwa [Call.runFor_pure]
    · rcases n - (isEmpty : Call (Store M) Bool).accesses s with _ | _ | _ | k <;> exact after

theorem delete_crash (h : Reads s items) (whole : ¬ Torn conf s .delete n) :
    Reads ((delete conf).runFor n s) items ∨ Reads ((delete conf).runFor n s) items.tail := by
  rw [delete, Call.runFor_bind]
  split
  · rename_i before
    left
    refine isEmpty_crash h ?_
    rintro ⟨same, nonzero, here⟩
    apply whole
    rw [Torn, if_pos same]
    exact ⟨nonzero, here⟩
  · rename_i enough
    have answer := isEmpty_reads h
    split
    · left
      rw [Call.runFor_pure]
      exact answer.2
    · rename_i nonempty
      cases items with
      | nil => exact absurd answer.1 nonempty
      | cons item rest =>
          have differ : ¬ s.tail = s.head := fun same => by cases h.tail_eq_head_iff.mp same
          rw [isEmpty_run, if_neg differ]
          rw [isEmpty_accesses, if_neg differ] at enough ⊢
          have inside : ¬ (n = 6 ∨ n = 7) := by
            rwa [Torn, if_neg differ] at whole
          rcases n with _ | _ | _ | _ | _ | _ | _ | _ | _ | _ | k
          · omega
          · omega
          · exact .inl h
          · exact .inl h
          · exact .inl h
          · exact .inl h
          · omega
          · omega
          · exact .inr h.removeHead
          · exact .inr h.removeHead
          · right
            cases k <;> exact h.removeHead.setCurrentSize _

theorem append_crash (h : Reads s items) (item : M) :
    Reads ((append conf item).runFor n s) items ∨
      Reads ((append conf item).runFor n s) (items ++ [item]) := by
  match n with
  | 0 | 1 => exact .inl h
  | 2 | 3 => exact .inl (h.putMessage item)
  | 4 | 5 => exact .inr (h.append item)
  | 6 => exact .inr ((h.append item).setCurrentSize _)
  | k + 7 =>
      right
      cases k <;> exact (h.append item).setCurrentSize _

/-- While an empty queue starts at zero, the search may stop anywhere. -/
theorem createSpace_crash_of_settled (size : Int) (frames : Nat) :
    ∀ (n : Nat) (reclaimed : Int) {s : Store M}, Reads s items → (s.tail = s.head → s.head = 0) →
      Reads ((createSpace conf size frames reclaimed).runFor n s) items := by
  induction frames with
  | zero =>
      intro n reclaimed s h zero
      rwa [createSpace, Call.runFor_pure]
  | succ frames ih =>
      intro n reclaimed s h zero
      cases n with
      | zero => exact h
      | succ n =>
          change Reads ((if conf.maxSize ≤ s.currentSize - reclaimed + size then _ else _ :
            Call (Store M) (Except PyErr Unit)).runFor n s) items
          split
          · rw [Call.runFor_bind]
            split
            · apply get_crash h
              rintro ⟨same, nonzero, -⟩
              exact nonzero (zero same)
            · exact ih _ _ (get_reads h).2 (get_head s)
          · rwa [Call.runFor_pure]

/-- The first round of the search may set the counters of an empty queue back. -/
theorem createSpace_crash {size : Int} {frames : Nat} (h : Reads s items)
    (whole : ¬ (conf.maxSize ≤ s.currentSize + size ∧ 0 < frames ∧ s.tail = s.head ∧
      s.head ≠ 0 ∧ n = 4)) : Reads ((createSpace conf size frames 0).runFor n s) items := by
  cases frames with
  | zero => rwa [createSpace, Call.runFor_pure]
  | succ frames =>
      cases n with
      | zero => exact h
      | succ n =>
          change Reads ((if conf.maxSize ≤ s.currentSize - 0 + size then _ else _ :
            Call (Store M) (Except PyErr Unit)).runFor n s) items
          rw [Int.sub_zero]
          split
          · rename_i full
            rw [Call.runFor_bind]
            split
            · apply get_crash h
              rintro ⟨same, nonzero, here⟩
              exact whole ⟨full, Nat.zero_lt_succ _, same, nonzero, congrArg (· + 1) here⟩
            · exact createSpace_crash_of_settled _ _ _ _ (get_reads h).2 (get_head s)
          · rwa [Call.runFor_pure]

theorem put_crash (h : Reads s items) (whole : ¬ Torn conf s (.put item) n) :
    Reads ((put conf item).runFor n s) items ∨
      Reads ((put conf item).runFor n s) (items ++ [item]) := by
  match n with
  | 0 => exact .inl h
  | n + 1 =>
      change Reads ((if decide (conf.maxSize ≤ s.currentSize + conf.sizeOfText item) = true
          then _ else _ : Call (Store M) (Except PyErr Unit)).runFor n s) items ∨
        Reads ((if decide (conf.maxSize ≤ s.currentSize + conf.sizeOfText item) = true
          then _ else _ : Call (Store M) (Except PyErr Unit)).runFor n s) (items ++ [item])
      split
      · rename_i full
        rw [Call.runFor_bind]
        split
        · refine .inl (createSpace_crash h fun ⟨full, frames, same, nonzero, here⟩ => ?_)
          exact whole ⟨full, frames, same, nonzero, congrArg (· + 1) here⟩
        · have kept := @createSpace_reads M conf _ (conf.sizeOfText item) conf.stackDepth 0 _ h
          split
          · rw [Call.runFor_pure]
            exact .inl kept
          · rw [Call.runFor_bind_pure]
            exact append_crash kept item
      · rw [Call.runFor_bind_pure]
        exact append_crash h item

theorem init_runFor (h : Reads s items) (n : Nat) :
    (init : Call (Store M) Unit).runFor n s = s := by
  obtain ⟨size, counted⟩ := Option.isSome_iff_exists.mp h.counted
  have head := h.head
  have tail := h.tail
  generalize s.head = first at head tail
  cases s
  cases counted
  cases head
  cases tail
  match n with
  | 0 | 1 | 2 => rfl
  | n + 3 => cases n <;> rfl

theorem perform_put_runFor (n : Nat) (s : Store M) :
    (perform conf (.put item)).runFor n s = (put conf item).runFor n s := by
  rw [perform, Call.runFor_bind]
  split
  · rfl
  · rename_i enough
    rw [Call.runFor_of_accesses_le (Nat.le_of_not_lt enough)]
    split <;> rw [Call.runFor_pure]

theorem perform_crash (h : Reads s items) (whole : ¬ Torn conf s op n) :
    ∃ items', (items' = items ∨ items' = (Fifo.perform op items).2) ∧
      Reads ((perform conf op).runFor n s) items' := by
  cases op with
  | put item =>
      rw [perform_put_runFor]
      exact (put_crash h whole).elim (fun kept => ⟨items, .inl rfl, kept⟩)
        fun kept => ⟨_, .inr rfl, kept⟩
  | get =>
      rw [perform, Call.runFor_bind_pure]
      exact ⟨items, .inl rfl, get_crash h whole⟩
  | delete =>
      rw [perform, Call.runFor_bind_pure]
      exact (delete_crash h whole).elim (fun kept => ⟨items, .inl rfl, kept⟩)
        fun kept => ⟨_, .inr rfl, kept⟩
  | isEmpty =>
      rw [perform, Call.runFor_bind_pure]
      exact ⟨items, .inl rfl, isEmpty_crash h whole⟩
  | restart =>
      refine ⟨items, .inl rfl, ?_⟩
      rwa [perform, Call.runFor_bind_pure, init_runFor h]

/-- The head of an empty queue is set back alone, or the head message is taken away alone. -/
theorem torn_cases (torn : Torn conf s op n) :
    (s.tail = s.head ∧ s.head ≠ 0 ∧ (perform conf op).runFor n s = s.setHead 0) ∨
      (s.tail ≠ s.head ∧ (perform conf op).runFor n s = s.deleteMessage s.head) := by
  cases op with
  | put item =>
      obtain ⟨full, frames, same, nonzero, rfl⟩ := torn
      obtain ⟨depth, enough⟩ := Nat.exists_eq_succ_of_ne_zero (Nat.ne_of_gt frames)
      refine .inl ⟨same, nonzero, ?_⟩
      have search : conf.maxSize ≤ s.currentSize - 0 + conf.sizeOfText item := by simpa using full
      rw [perform_put_runFor, put, enough]
      change ((if decide (conf.maxSize ≤ s.currentSize + conf.sizeOfText item) = true
        then _ else _ : Call (Store M) (Except PyErr Unit))).runFor 4 s = _
      rw [if_pos (decide_eq_true full)]
      change (((if conf.maxSize ≤ s.currentSize - 0 + conf.sizeOfText item
        then _ else _ : Call (Store M) (Except PyErr Unit))) >>= _).runFor 3 s = _
      rw [if_pos search, bind_assoc, get, bind_assoc, Call.runFor_bind, isEmpty_accesses,
        isEmpty_runFor]
      simp [same]
  | get =>
      obtain ⟨same, nonzero, rfl⟩ := torn
      refine .inl ⟨same, nonzero, ?_⟩
      rw [perform, Call.runFor_bind_pure, get, Call.runFor_bind, isEmpty_accesses, isEmpty_runFor]
      simp [same]
  | isEmpty =>
      obtain ⟨same, nonzero, rfl⟩ := torn
      refine .inl ⟨same, nonzero, ?_⟩
      rw [perform, Call.runFor_bind_pure, isEmpty_runFor, if_pos same]
      rfl
  | delete =>
      rw [perform, Call.runFor_bind_pure, delete, Call.runFor_bind, isEmpty_accesses,
        isEmpty_runFor, isEmpty_run]
      by_cases same : s.tail = s.head
      · rw [Torn, if_pos same] at torn
        obtain ⟨nonzero, rfl⟩ := torn
        exact .inl ⟨same, nonzero, by simp [same]⟩
      · rw [Torn, if_neg same] at torn
        obtain rfl | rfl := torn
        · exact .inr ⟨same, by simp [same]; rfl⟩
        · exact .inr ⟨same, by simp [same]; rfl⟩
  | restart => exact torn.elim

theorem init_run_of_some (counted : s.memoryUsage.isSome) (head : s.headIndex.isSome)
    (tail : s.tailIndex.isSome) : ((init : Call (Store M) Unit).run s).2 = s := by
  obtain ⟨size, counted⟩ := Option.isSome_iff_exists.mp counted
  obtain ⟨first, head⟩ := Option.isSome_iff_exists.mp head
  obtain ⟨last, tail⟩ := Option.isSome_iff_exists.mp tail
  simp [init, counted, head, tail]

/-- A queue that was cut off between two writes that belong together is not like any list. -/
theorem not_behaves_of_torn (h : Reads s items) (torn : Torn conf s op n) (others : List M) :
    ¬ Behaves conf (crash conf s op n) others := by
  obtain ⟨same, nonzero, stopped⟩ | ⟨differ, stopped⟩ := torn_cases torn
  · have created : crash conf s op n = s.setHead 0 := by
      rw [crash, stopped]
      exact init_run_of_some h.counted rfl (by simp [Store.setHead, h.tail])
    rw [created]
    refine not_behaves ?_ (h.below 0 (Nat.pos_of_ne_zero nonzero))
    rw [Store.tail_setHead, same]
    exact nonzero
  · have created : crash conf s op n = s.deleteMessage s.head := by
      rw [crash, stopped]
      exact init_run_of_some h.counted (by simp [Store.deleteMessage, h.head])
        (by simp [Store.deleteMessage, h.tail])
    rw [created]
    refine not_behaves differ ?_
    rw [Store.messages_deleteMessage, Store.head_deleteMessage, Function.update_self]

theorem crash_reads (h : Reads s items) (whole : ¬ Torn conf s op n) :
    ∃ items', (items' = items ∨ items' = (Fifo.perform op items).2) ∧
      Reads (crash conf s op n) items' := by
  obtain ⟨items', among, kept⟩ := perform_crash h whole
  refine ⟨items', among, ?_⟩
  rwa [crash, init_reads kept]

end

/-- In every run whose crashes leave the queue whole, it behaves as a list; and a crash in any
method leaves the list from before the call or from after it if and only if the method was not
cut off between two writes that belong together. -/
theorem crash_atomic_iff (conf : QueueConf M) (actions : List (CrashAction M)) (s : Store M)
    (run : (crashSystem conf).Runs (Whole conf) start actions s) :
    Behaves conf s s.items ∧ ∀ op accesses,
      (∃ items, (items = s.items ∨ items = (Fifo.perform op s.items).2) ∧
        Behaves conf (crash conf s op accesses) items) ↔ ¬ Torn conf s op accesses := by
  have reads : ∃ items, Reads s items := by
    refine run.invariant (I := fun s => ∃ items, Reads s items) ?_ ⟨[], start_represents.reads⟩
    rintro s a t ⟨items, before⟩ whole step
    cases a with
    | call op =>
        cases step
        obtain ⟨after, kept, -⟩ := @perform_reads M conf _ _ before op
        exact ⟨after, kept⟩
    | crash op accesses =>
        cases step
        obtain ⟨after, -, kept⟩ := crash_reads before whole
        exact ⟨after, kept⟩
  obtain ⟨items, reads⟩ := reads
  rw [reads.items_eq]
  refine ⟨behaves_of_reads reads, fun op accesses => ⟨?_, fun whole => ?_⟩⟩
  · rintro ⟨items', -, behaves⟩ torn
    exact not_behaves_of_torn reads torn items' behaves
  · obtain ⟨items', among, kept⟩ := crash_reads reads whole
    exact ⟨items', among, behaves_of_reads kept⟩

namespace Example

/-- The process stops while a second message is put in the queue, with the message written. -/
theorem crash_atomic_iff_put :
    ¬ Torn cpython ((perform cpython (.put text)).run start).2 (.put text) 3 ∧
      ∃ items, (items = [text] ∨ items = [text, text]) ∧
        Behaves cpython (crash cpython ((perform cpython (.put text)).run start).2 (.put text) 3)
          items := by
  have held : Represents ((perform cpython (.put text)).run start).2 [text] :=
    append_represents cpython start_represents text
  have whole : ¬ Torn cpython ((perform cpython (.put text)).run start).2 (.put text) 3 := by
    rintro ⟨-, -, -, -, here⟩
    cases here
  have atomic := (crash_atomic_iff cpython [.call (.put text)] _ (.single trivial rfl)).2
    (.put text) 3
  rw [held.items_eq] at atomic
  exact ⟨whole, atomic.mpr whole⟩

/-- The process stops when the message is deleted and the head is not yet moved. -/
theorem crash_not_atomic : ¬ ∀ (conf : QueueConf (List Char)) (actions) (s),
    (crashSystem conf).FreeRuns start actions s → ∀ op accesses,
      ∃ items, (items = s.items ∨ items = (Fifo.perform op s.items).2) ∧
        Behaves conf (crash conf s op accesses) items := by
  intro atomic
  have held : Represents ((perform cpython (.put text)).run start).2 [text] :=
    append_represents cpython start_represents text
  obtain ⟨items, -, behaves⟩ := atomic cpython [.call (.put text)] _ (.single trivial rfl) .delete 6
  have torn : Torn cpython ((perform cpython (.put text)).run start).2 .delete 6 := .inl rfl
  exact not_behaves_of_torn held.reads torn items behaves

end Example

end StoreQueue

end Sspl

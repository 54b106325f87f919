import Sspl.Foundation.Slots
import Sspl.Store.Queue

/-!
# The store queue as a first-in first-out list

`Represents s items` reads the content of the store as a list: the counters are
present, the tail lies as far behind the head as the list is long, and the
message slots hold the list from the head on and nothing anywhere else. Each
method called alone moves along this relation as the corresponding list
operation, whatever slot numbers are in use and however often the queue object
is created again over the same store.

The relation is independent of the charged size. It survives the check of the
memory limit in `put`, which may read the head many times but removes nothing.
-/

namespace Sspl

open Atomic

variable {M : Type}

/-- The store content between head and tail, as a list of messages. The two counters are there, and
each message of the list is in the slot that its place calls for. -/
structure Represents (s : Store M) (items : List M) : Prop where
  counted : s.memoryUsage.isSome
  head : s.headIndex = some s.head
  tail : s.tailIndex = some (s.head + items.length)
  slots : Slots.Holds s.messages s.head items

namespace Store

/-- What `is_empty` leaves behind when head and tail agree. -/
def reset (s : Store M) : Store M := ((s.setHead 0).setTail 0).setCurrentSize 0

@[simp] theorem head_reset (s : Store M) : s.reset.head = 0 := rfl
@[simp] theorem tail_reset (s : Store M) : s.reset.tail = 0 := rfl
@[simp] theorem currentSize_reset (s : Store M) : s.reset.currentSize = 0 := rfl
@[simp] theorem messages_reset (s : Store M) : s.reset.messages = s.messages := rfl

end Store

namespace Represents

variable {s : Store M} {items : List M} {item : M}

theorem tail_eq (h : Represents s items) : s.tail = s.head + items.length := by
  rw [Store.tail, h.tail, Option.getD_some]

theorem tail_eq_head_iff (h : Represents s items) : s.tail = s.head ↔ items = [] := by
  rw [h.tail_eq, ← List.length_eq_zero_iff]
  omega

theorem message_head (h : Represents s items) : s.messages s.head = items.head? :=
  h.slots.first

/-- The list a store represents is determined by the store. -/
theorem unique {others : List M} (h : Represents s items) (h' : Represents s others) :
    items = others :=
  h.slots.unique h'.slots

theorem setCurrentSize (h : Represents s items) (size : Int) :
    Represents (s.setCurrentSize size) items :=
  ⟨rfl, h.head, h.tail, h.slots⟩

theorem reset (h : Represents s []) : Represents s.reset [] :=
  ⟨rfl, rfl, rfl, h.slots.restart 0⟩

theorem append (h : Represents s items) (item : M) :
    Represents ((s.putMessage s.tail item).setTail (s.tail + 1)) (items ++ [item]) where
  counted := h.counted
  head := h.head
  tail := by
    change some (s.tail + 1) = some (s.head + (items ++ [item]).length)
    rw [h.tail_eq, List.length_append, List.length_singleton, Nat.add_assoc]
  slots := by
    change Slots.Holds (Function.update s.messages s.tail (some item)) s.head (items ++ [item])
    rw [h.tail_eq]
    exact h.slots.append

theorem removeHead (h : Represents s (item :: items)) :
    Represents ((s.deleteMessage s.head).setHead (s.head + 1)) items where
  counted := h.counted
  head := rfl
  tail := by
    change s.tailIndex = some (s.head + 1 + items.length)
    rw [h.tail, List.length_cons]
    congr 1
    omega
  slots := h.slots.tail

end Represents

namespace StoreQueue

variable {s : Store M} {items : List M} {item : M}

/-- A store that never saw a queue represents the empty list once one is created. -/
theorem init_empty : Represents ((init : Call (Store M) Unit).run Store.empty).2 [] :=
  ⟨rfl, rfl, rfl, Slots.holds_empty 0⟩

/-- Creating a queue over a store that already has one changes nothing. -/
theorem init_run (h : Represents s items) : ((init : Call (Store M) Unit).run s).2 = s := by
  obtain ⟨size, counted⟩ := Option.isSome_iff_exists.mp h.counted
  simp [init, counted, h.head, h.tail]

theorem isEmpty_run (s : Store M) :
    (isEmpty : Call (Store M) Bool).run s =
      if s.tail = s.head then (true, s.reset) else (false, s) := by
  by_cases same : s.tail = s.head
  · simp [isEmpty, same, Store.reset]
  · simp [isEmpty, same]

theorem isEmpty_represents (h : Represents s items) :
    ((isEmpty : Call (Store M) Bool).run s).1 = items.isEmpty ∧
      Represents ((isEmpty : Call (Store M) Bool).run s).2 items := by
  rw [isEmpty_run]
  by_cases same : s.tail = s.head
  · have nothing : items = [] := h.tail_eq_head_iff.mp same
    subst nothing
    rw [if_pos same]
    exact ⟨rfl, h.reset⟩
  · have something : items ≠ [] := fun nothing => same (h.tail_eq_head_iff.mpr nothing)
    rw [if_neg same]
    exact ⟨by simp [something], h⟩

theorem get_run (s : Store M) :
    (get : Call (Store M) (Option M)).run s =
      if s.tail = s.head then (none, s.reset) else (s.messages s.head, s) := by
  by_cases same : s.tail = s.head
  · simp [get, isEmpty_run, same]
  · simp [get, isEmpty_run, same]

theorem get_represents (h : Represents s items) :
    ((get : Call (Store M) (Option M)).run s).1 = items.head? ∧
      Represents ((get : Call (Store M) (Option M)).run s).2 items := by
  rw [get_run]
  by_cases same : s.tail = s.head
  · have nothing : items = [] := h.tail_eq_head_iff.mp same
    subst nothing
    rw [if_pos same]
    exact ⟨rfl, h.reset⟩
  · rw [if_neg same]
    exact ⟨h.message_head, h⟩

theorem isEmpty_run_nil (h : Represents s []) :
    (isEmpty : Call (Store M) Bool).run s = (true, s.reset) := by
  rw [isEmpty_run, if_pos (h.tail_eq_head_iff.mpr rfl)]

theorem isEmpty_run_cons {item : M} (h : Represents s (item :: items)) :
    (isEmpty : Call (Store M) Bool).run s = (false, s) := by
  rw [isEmpty_run, if_neg (fun same => by simpa using h.tail_eq_head_iff.mp same)]

theorem get_run_cons {item : M} (h : Represents s (item :: items)) :
    (get : Call (Store M) (Option M)).run s = (some item, s) := by
  rw [get_run, if_neg (fun same => by simpa using h.tail_eq_head_iff.mp same), h.message_head,
    List.head?_cons]

theorem delete_run (conf : QueueConf M) (s : Store M) :
    (delete conf).run s =
      if s.tail = s.head then ((), s.reset)
      else ((), ((s.deleteMessage s.head).setHead (s.head + 1)).setCurrentSize
        (s.currentSize - conf.getsizeof (s.messages s.head))) := by
  by_cases same : s.tail = s.head
  · simp [delete, isEmpty_run, same]
  · simp [delete, isEmpty_run, same]

theorem delete_represents (conf : QueueConf M) (h : Represents s items) :
    Represents ((delete conf).run s).2 items.tail := by
  rw [delete_run]
  cases items with
  | nil =>
      rw [if_pos (h.tail_eq_head_iff.mpr rfl)]
      exact h.reset
  | cons item rest =>
      rw [if_neg (fun same => by simpa using h.tail_eq_head_iff.mp same)]
      exact h.removeHead.setCurrentSize _

theorem append_represents (conf : QueueConf M) (h : Represents s items) (item : M) :
    Represents ((append conf item).run s).2 (items ++ [item]) := by
  have run : ((append conf item).run s).2 =
      ((s.putMessage s.tail item).setTail (s.tail + 1)).setCurrentSize
        (s.currentSize + conf.sizeOfText item) := by
    simp [append]
  rw [run]
  exact (h.append item).setCurrentSize _

@[simp] theorem isFull_run (conf : QueueConf M) (size : Int) (s : Store M) :
    (isFull conf size).run s = (decide (conf.maxSize ≤ s.currentSize + size), s) := rfl

/-- Looking for space removes nothing, whether it succeeds or not. -/
theorem createSpace_represents (conf : QueueConf M) (size : Int) (frames : Nat) :
    ∀ (reclaimed : Int) {s : Store M}, Represents s items →
      Represents ((createSpace conf size frames reclaimed).run s).2 items := by
  induction frames with
  | zero => exact fun _ _ h => h
  | succ frames ih =>
      intro reclaimed s h
      by_cases full : conf.maxSize ≤ s.currentSize - reclaimed + size
      · simpa [createSpace, full] using ih _ (get_represents h).2
      · simpa [createSpace, full] using h

/-- The only way out of the search for space besides success is the recursion limit. -/
theorem createSpace_answer (conf : QueueConf M) (size : Int) (frames : Nat) :
    ∀ (reclaimed : Int) (s : Store M),
      ((createSpace conf size frames reclaimed).run s).1 = .ok () ∨
        ((createSpace conf size frames reclaimed).run s).1 = .error .recursionError := by
  induction frames with
  | zero => exact fun _ _ => Or.inr rfl
  | succ frames ih =>
      intro reclaimed s
      by_cases full : conf.maxSize ≤ s.currentSize - reclaimed + size
      · simpa [createSpace, full] using ih _ _
      · simp [createSpace, full]

theorem put_run_of_room (conf : QueueConf M) (item : M)
    (room : ¬ conf.maxSize ≤ s.currentSize + conf.sizeOfText item) :
    (put conf item).run s = (.ok (), ((append conf item).run s).2) := by
  simp [put, room]

/-- `put` appends the message, or raises and leaves the list as it was. -/
theorem put_represents (conf : QueueConf M) (h : Represents s items) (item : M) :
    ((put conf item).run s).1 = .ok () ∧
        Represents ((put conf item).run s).2 (items ++ [item]) ∨
      ((put conf item).run s).1 = .error .recursionError ∧
        Represents ((put conf item).run s).2 items := by
  by_cases full : conf.maxSize ≤ s.currentSize + conf.sizeOfText item
  · have kept := createSpace_represents conf (conf.sizeOfText item) conf.stackDepth 0 h
    obtain found | failed :=
      createSpace_answer conf (conf.sizeOfText item) conf.stackDepth 0 s
    · left
      simpa [put, full, found] using append_represents conf kept item
    · right
      simpa [put, full, failed] using kept
  · left
    rw [put_run_of_room conf item full]
    exact ⟨rfl, append_represents conf h item⟩

/-- The calls one caller makes on the queue. `restart` runs `__init__` again, over the store as it
is then. -/
inductive Op (M : Type)
  | put (item : M)
  | get
  | delete
  | isEmpty
  | restart

/-- What a call gives back to its caller. -/
inductive Answer (M : Type)
  | done
  | message (item : Option M)
  | flag (b : Bool)
  | raised (err : PyErr)

def perform (conf : QueueConf M) : Op M → Call (Store M) (Answer M)
  | .put item => do
    match ← put conf item with
    | .ok () => return .done
    | .error err => return .raised err
  | .get => do
    let item ← get
    return .message item
  | .delete => do
    delete conf
    return .done
  | .isEmpty => do
    let b ← isEmpty
    return .flag b
  | .restart => do
    init
    return .done

/-- The calls one after the other, with the answers in order. -/
def performAll (conf : QueueConf M) : List (Op M) → Store M → List (Answer M) × Store M
  | [], s => ([], s)
  | op :: rest, s =>
    let (answer, t) := (perform conf op).run s
    let (answers, u) := performAll conf rest t
    (answer :: answers, u)

/-- No `put` of the sequence finds the queue full, so that none of them makes room by deleting the
oldest messages. -/
def LimitNeverReached (conf : QueueConf M) : List (Op M) → Store M → Prop
  | [], _ => True
  | op :: rest, s =>
    (match op with
      | .put item => ((isFull conf (conf.sizeOfText item)).run s).1 = false
      | _ => True) ∧
    LimitNeverReached conf rest ((perform conf op).run s).2

end StoreQueue

namespace Fifo

open StoreQueue (Op Answer)

/-- The same calls on a list: what the queue is for. -/
def perform : Op M → List M → Answer M × List M
  | .put item, items => (.done, items ++ [item])
  | .get, items => (.message items.head?, items)
  | .delete, items => (.done, items.tail)
  | .isEmpty, items => (.flag items.isEmpty, items)
  | .restart, items => (.done, items)

def performAll : List (Op M) → List M → List (Answer M) × List M
  | [], items => ([], items)
  | op :: rest, items =>
    let (answer, items) := perform op items
    let (answers, items) := performAll rest items
    (answer :: answers, items)

end Fifo

namespace StoreQueue

variable {s : Store M} {items : List M}

/-- One call below the memory limit answers and moves as it does on the list. -/
theorem perform_refines (conf : QueueConf M) (h : Represents s items) (op : Op M)
    (room : ∀ item, op = .put item → ¬ conf.maxSize ≤ s.currentSize + conf.sizeOfText item) :
    ((perform conf op).run s).1 = (Fifo.perform op items).1 ∧
      Represents ((perform conf op).run s).2 (Fifo.perform op items).2 := by
  cases op with
  | put item =>
      have appended := append_represents conf h item
      simpa [perform, Fifo.perform, put_run_of_room conf item (room item rfl)] using appended
  | get =>
      obtain ⟨first, kept⟩ := get_represents h
      simp only [perform, Call.run_bind, Call.run_pure, Fifo.perform, first, true_and]
      exact kept
  | delete =>
      simp only [perform, Call.run_bind, Call.run_pure, Fifo.perform, true_and]
      exact delete_represents conf h
  | isEmpty =>
      obtain ⟨empty, kept⟩ := isEmpty_represents h
      simp only [perform, Call.run_bind, Call.run_pure, Fifo.perform, empty, true_and]
      exact kept
  | restart =>
      simp only [perform, Call.run_bind, Call.run_pure, Fifo.perform, true_and]
      rwa [init_run h]

/-- Whatever is called, the store goes on representing a list. -/
theorem perform_represents (conf : QueueConf M) (h : Represents s items) (op : Op M) :
    ∃ items', Represents ((perform conf op).run s).2 items' := by
  cases op with
  | put item =>
      obtain ⟨answer, represents⟩ | ⟨answer, represents⟩ := put_represents conf h item
      · exact ⟨_, by simpa only [perform, Call.run_bind, Call.run_pure, answer] using represents⟩
      · exact ⟨_, by simpa only [perform, Call.run_bind, Call.run_pure, answer] using represents⟩
  | get =>
      exact ⟨items, by
        simpa only [perform, Call.run_bind, Call.run_pure] using (get_represents h).2⟩
  | delete =>
      exact ⟨_, by
        simpa only [perform, Call.run_bind, Call.run_pure] using delete_represents conf h⟩
  | isEmpty =>
      exact ⟨items, by
        simpa only [perform, Call.run_bind, Call.run_pure] using (isEmpty_represents h).2⟩
  | restart =>
      exact ⟨items, by simpa only [perform, Call.run_bind, Call.run_pure, init_run h] using h⟩

/-- A queue created over a fresh store, or over any store left by earlier calls,
answers every sequence of calls and restarts as a first-in first-out list does,
and its slots hold that list and nothing else. -/
theorem performAll_refines_fifo (conf : QueueConf M) :
    Represents ((init : Call (Store M) Unit).run Store.empty).2 [] ∧
      ∀ (ops : List (Op M)) (s : Store M) (items : List M), Represents s items →
        LimitNeverReached conf ops s →
        (performAll conf ops s).1 = (Fifo.performAll ops items).1 ∧
          Represents (performAll conf ops s).2 (Fifo.performAll ops items).2 := by
  refine ⟨init_empty, fun ops => ?_⟩
  induction ops with
  | nil => exact fun s items h _ => ⟨rfl, h⟩
  | cons op rest ih =>
      intro s items h room
      obtain ⟨here, later⟩ := room
      have below : ∀ item, op = .put item →
          ¬ conf.maxSize ≤ s.currentSize + conf.sizeOfText item := by
        intro item same
        subst same
        simpa using here
      obtain ⟨answer, moved⟩ := perform_refines conf h op below
      obtain ⟨answers, represented⟩ := ih _ _ moved later
      exact ⟨congrArg₂ List.cons answer answers, represented⟩

/-- Both counters go back to zero between the two messages, which then share slot 0. -/
theorem performAll_reused_slot :
    (performAll (⟨50000000, fun _ => 60, fun _ => 44, 900⟩ : QueueConf Nat)
        [.put 7, .delete, .isEmpty, .put 8, .restart, .get]
        ((init : Call (Store Nat) Unit).run Store.empty).2).1 =
      [.done, .done, .flag true, .done, .done, .message (some 8)] :=
  ((performAll_refines_fifo _).2 [.put 7, .delete, .isEmpty, .put 8, .restart, .get] _ []
    init_empty ⟨by decide, trivial, trivial, by decide, trivial, trivial, trivial⟩).1

end StoreQueue

end Sspl

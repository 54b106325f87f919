import Mathlib.Algebra.BigOperators.Group.List.Basic
import Sspl.Foundation.System
import Sspl.Store.Room

/-!
# The charged size

`put` adds the size of the text it is given to the charged size, and `delete` takes away the
size of what the store returns for the message, which are bytes on every backend. The charged
size is the sum over the messages in the queue as long as both sizes agree for every message
that is deleted.
-/

namespace Sspl

open Atomic

variable {M : Type}

namespace StoreQueue

/-- The queue with its one caller, over a store that no queue was created over before. -/
def system (conf : QueueConf M) : Transition.System (Store M) (Op M) where
  init s := s = ((init : Call (Store M) Unit).run Store.empty).2
  next s op := some ((perform conf op).run s).2

def start : Store M := ((init : Call (Store M) Unit).run Store.empty).2

/-- What `put` has charged for these messages. -/
def charged (conf : QueueConf M) (items : List M) : Int := (items.map conf.sizeOfText).sum

/-- The messages in the queue, with the charged size as their sum. -/
structure Charged (conf : QueueConf M) (s : Store M) (items : List M) : Prop
    extends Represents s items where
  size : s.currentSize = charged conf items

/-- `_current_size` is what was charged for the messages in the queue. -/
def Accounted (conf : QueueConf M) (s : Store M) : Prop := ∃ items, Charged conf s items

/-- A message that is deleted has, as it is read back, the size for which it was charged as a
text. -/
def Refunds (conf : QueueConf M) (s : Store M) : Op M → Prop
  | .delete => ∀ item, s.first = some item → conf.sizeOfBytes item = conf.sizeOfText item
  | _ => True

@[simp] theorem charged_nil (conf : QueueConf M) : charged conf [] = 0 := rfl

theorem charged_cons (conf : QueueConf M) (item : M) (rest : List M) :
    charged conf (item :: rest) = conf.sizeOfText item + charged conf rest := by
  simp [charged]

theorem charged_append (conf : QueueConf M) (first second : List M) :
    charged conf (first ++ second) = charged conf first + charged conf second := by
  simp [charged]

theorem charged_nonneg {conf : QueueConf M} (sizes : ∀ item, 0 ≤ conf.sizeOfText item)
    (items : List M) : 0 ≤ charged conf items := by
  induction items with
  | nil => exact le_rfl
  | cons item rest ih =>
      have := sizes item
      rw [charged_cons]
      omega

section

variable {conf : QueueConf M} {s t : Store M} {items : List M} {op : Op M}

theorem start_represents : Represents (start : Store M) [] := init_empty

theorem start_charged (conf : QueueConf M) : Charged conf (start : Store M) [] :=
  ⟨start_represents, rfl⟩

namespace Charged

theorem reset (h : Charged conf s []) : Charged conf s.reset [] :=
  ⟨h.toRepresents.reset, rfl⟩

theorem isEmpty (h : Charged conf s items) :
    Charged conf ((isEmpty : Call (Store M) Bool).run s).2 items := by
  rw [isEmpty_run]
  split
  · rename_i same
    cases h.tail_eq_head_iff.mp same
    exact h.reset
  · exact h

theorem get (h : Charged conf s items) :
    Charged conf ((get : Call (Store M) (Option M)).run s).2 items := by
  rw [get_run]
  split
  · rename_i same
    cases h.tail_eq_head_iff.mp same
    exact h.reset
  · exact h

/-- The search for space leaves the charged size as it was. -/
theorem createSpace (size : Int) (frames : Nat) : ∀ (reclaimed : Int) {s : Store M},
    Charged conf s items →
      Charged conf ((createSpace conf size frames reclaimed).run s).2 items := by
  induction frames with
  | zero => exact fun _ _ h => h
  | succ frames ih =>
      intro reclaimed s h
      by_cases full : conf.maxSize ≤ s.currentSize - reclaimed + size
      · simpa [StoreQueue.createSpace, full] using ih _ h.get
      · simpa [StoreQueue.createSpace, full] using h

theorem append (h : Charged conf s items) (item : M) :
    Charged conf ((append conf item).run s).2 (items ++ [item]) := by
  refine ⟨append_represents conf h.toRepresents item, ?_⟩
  have size : ((StoreQueue.append conf item).run s).2.currentSize =
      s.currentSize + conf.sizeOfText item := by
    simp [StoreQueue.append]
  rw [size, h.size, charged_append, charged_cons, charged_nil, Int.add_zero]

theorem put (h : Charged conf s items) (item : M) :
    Charged conf ((put conf item).run s).2 (items ++ [item]) ∨
      Charged conf ((put conf item).run s).2 items := by
  by_cases full : conf.maxSize ≤ s.currentSize + conf.sizeOfText item
  · have kept := createSpace (conf.sizeOfText item) conf.stackDepth 0 h
    obtain found | failed := createSpace_answer conf (conf.sizeOfText item) conf.stackDepth 0 s
    · exact .inl (by simpa [StoreQueue.put, full, found] using kept.append item)
    · exact .inr (by simpa [StoreQueue.put, full, failed] using kept)
  · rw [put_run_of_room conf item full]
    exact .inl (h.append item)

/-- Removing a message refunds what it was charged exactly when its two sizes agree. -/
theorem delete_iff (h : Charged conf s items) :
    Accounted conf ((delete conf).run s).2 ↔ Refunds conf s .delete := by
  rw [delete_run]
  cases items with
  | nil =>
      have same := h.tail_eq_head_iff.mpr rfl
      rw [if_pos same]
      refine iff_of_true ⟨_, h.reset⟩ ?_
      simp [Refunds, Store.first, same]
  | cons item rest =>
      have differ : ¬ s.tail = s.head := fun same => by simpa using h.tail_eq_head_iff.mp same
      have first : s.messages s.head = some item := h.message_head
      have after := h.toRepresents.removeHead.setCurrentSize
        (s.currentSize - conf.getsizeof (s.messages s.head))
      have size := h.size
      rw [charged_cons] at size
      rw [if_neg differ]
      simp only [Refunds, Store.first, if_neg differ, first, Option.some.injEq, forall_eq']
      rw [first] at after
      constructor
      · rintro ⟨others, accounted⟩
        cases after.unique accounted.toRepresents
        have left := accounted.size
        simp only [Store.currentSize_setCurrentSize, QueueConf.getsizeof] at left
        omega
      · intro refunds
        refine ⟨rest, after, ?_⟩
        simp only [Store.currentSize_setCurrentSize, QueueConf.getsizeof]
        omega

end Charged

theorem perform_accounted_iff (h : Accounted conf s) :
    Accounted conf ((perform conf op).run s).2 ↔ Refunds conf s op := by
  obtain ⟨items, charged⟩ := h
  cases op with
  | put item =>
      refine iff_of_true ?_ trivial
      have after : Accounted conf ((put conf item).run s).2 := by
        obtain kept | kept := charged.put item
        · exact ⟨_, kept⟩
        · exact ⟨_, kept⟩
      simp only [perform, Call.run_bind]
      split <;> exact after
  | get =>
      refine iff_of_true ⟨items, ?_⟩ trivial
      simpa only [perform, Call.run_bind, Call.run_pure] using charged.get
  | delete =>
      rw [← charged.delete_iff]
      simp only [perform, Call.run_bind, Call.run_pure]
  | isEmpty =>
      refine iff_of_true ⟨items, ?_⟩ trivial
      simpa only [perform, Call.run_bind, Call.run_pure] using charged.isEmpty
  | restart =>
      refine iff_of_true ⟨items, ?_⟩ trivial
      simpa only [perform, Call.run_bind, Call.run_pure, init_run charged.toRepresents]
        using charged

theorem exists_run (conf : QueueConf M) (ops : List (Op M)) (s : Store M) :
    ∃ t, (system conf).FreeRuns s ops t := by
  induction ops generalizing s with
  | nil => exact ⟨s, .nil s⟩
  | cons op rest ih =>
      obtain ⟨t, run⟩ := ih ((perform conf op).run s).2
      exact ⟨t, .cons trivial rfl run⟩

end

/-- The charged size is the sum over the messages in every state of a run if and only if each
message that is deleted has the size for which it was charged; and then it is not negative. -/
theorem size_accounted_iff (conf : QueueConf M) (ops : List (Op M)) :
    ((system conf).Always (Accounted conf) start ops ↔
        ∃ t, (system conf).Runs (Refunds conf) start ops t) ∧
      ∀ s, Accounted conf s → (∀ item, 0 ≤ conf.sizeOfText item) → 0 ≤ s.currentSize := by
  have accounted : Accounted conf (start : Store M) := ⟨[], start_charged conf⟩
  have preserved : ∀ (s : Store M) op t, Accounted conf s → Refunds conf s op →
      (system conf).next s op = some t → Accounted conf t := by
    intro s op t before refunds step
    cases step
    exact (perform_accounted_iff before).mpr refunds
  refine ⟨⟨fun always => ?_, fun ⟨t, run⟩ => run.always preserved accounted⟩, ?_⟩
  · obtain ⟨t, free⟩ := exists_run conf ops start
    refine ⟨t, (free.always_iff (fun _ => id) preserved ?_ accounted).mp always⟩
    intro s op t before step after
    cases step
    exact (perform_accounted_iff before).mp after
  · rintro s ⟨items, charged⟩ sizes
    rw [charged.size]
    exact charged_nonneg sizes items

namespace Example

/-- `sys.getsizeof` of a `str`, whose characters take one, two or four bytes, and of the bytes
of its text in UTF-8. -/
def cpython : QueueConf (List Char) where
  sizeOfText text :=
    if text.all (·.toNat < 128) then 49 + text.length
    else if text.all (·.toNat < 256) then 73 + text.length
    else if text.all (·.toNat < 65536) then 74 + 2 * text.length
    else 76 + 4 * text.length
  sizeOfBytes text := 33 + (text.map fun c => c.utf8Size).sum
  stackDepth := 900

/-- An ASCII text is charged 16 more than is refunded for it. -/
theorem cpython_ascii {text : List Char} (ascii : ∀ c ∈ text, c.toNat < 128) :
    cpython.sizeOfText text = cpython.sizeOfBytes text + 16 := by
  have bytes : (text.map fun c => c.utf8Size).sum = text.length := by
    induction text with
    | nil => rfl
    | cons c rest ih =>
        have one : c.utf8Size = 1 := by
          have small := ascii c (by simp)
          rw [Char.utf8Size_eq_one_iff, UInt32.le_iff_toNat_le]
          exact Nat.le_of_lt_succ small
        rw [List.map_cons, List.sum_cons, one, ih fun c mem => ascii c (List.mem_cons_of_mem _ mem),
          List.length_cons, Nat.add_comm]
  have all : text.all (·.toNat < 128) = true := by simpa using ascii
  simp only [cpython, all, if_true, bytes]
  omega

/-- A text of forty characters of two bytes, whose two sizes agree. -/
def accents : List Char := List.replicate 40 'é'

/-- It is put in the queue and deleted. -/
def refunded : List (Op (List Char)) := [.put accents, .delete, .isEmpty]

/-- A text that is no ASCII text has the same size when it is read back. -/
theorem size_accounted_iff_refunded :
    (system cpython).Always (Accounted cpython) start refunded ∧
      0 ≤ ((perform cpython (.put accents)).run start).2.currentSize := by
  have always : (system cpython).Always (Accounted cpython) start refunded := by
    refine (size_accounted_iff cpython refunded).1.mpr
      ⟨_, .cons trivial rfl (.cons ?_ rfl (.cons trivial rfl (.nil _)))⟩
    intro item first
    have held : ((perform cpython (.put accents)).run start).2.first = some accents := rfl
    cases held.symm.trans first
    decide
  have sizes : ∀ text, 0 ≤ cpython.sizeOfText text := by
    intro text
    simp only [cpython]
    split
    · omega
    · split
      · omega
      · split <;> omega
  exact ⟨always, (size_accounted_iff cpython refunded).2 _
    (always [.put accents] _ _ rfl (.single trivial rfl)) sizes⟩

/-- The refund of an ASCII text leaves 16 of its charge behind. -/
theorem size_not_accounted : ¬ ∀ (conf : QueueConf (List Char)) (ops : List (Op (List Char))),
    (system conf).Always (Accounted conf) start ops := by
  intro always
  obtain ⟨items, charged⟩ := always cpython [.put ['{', '}'], .delete] _ [] _ rfl
    (.cons trivial rfl (.single trivial rfl))
  have empty : Represents ((perform cpython .delete).run
      ((perform cpython (.put ['{', '}'])).run start).2).2 [] :=
    delete_represents cpython (append_represents cpython start_represents _)
  cases empty.unique charged.toRepresents
  exact absurd charged.size (by decide)

end Example

end StoreQueue

end Sspl

import Mathlib.Tactic.Linarith
import Sspl.Store.Fifo

/-!
# When a put succeeds

A `put` that finds the queue full adds up the size of the head message again and
again until the sum would make room, and raises when it runs out of frames first.
`HasRoom` says for which queues this search ends, in terms of the sizes alone. The
search neither removes a message nor changes a counter of a queue that `is_empty`
has just looked at.
-/

namespace Sspl

open Atomic

variable {M : Type}

namespace Store

/-- The charged size as the next `is_empty` leaves it. -/
def settledSize (s : Store M) : Int := if s.tail = s.head then 0 else s.currentSize

/-- What `get` returns. -/
def first (s : Store M) : Option M := if s.tail = s.head then none else s.messages s.head

/-- `is_empty` leaves the store as it is. -/
def Settled (s : Store M) : Prop := s.tail = s.head → s.reset = s

theorem Settled.currentSize {s : Store M} (h : s.Settled) : s.currentSize = s.settledSize := by
  rw [settledSize]
  split
  · rename_i same
    have := congrArg Store.currentSize (h same)
    rwa [currentSize_reset, eq_comm] at this
  · rfl

end Store

namespace StoreQueue

variable {s : Store M} {items : List M} {item : M}

/-- At some round of the search, the first one without a search included, the
charged size less what the rounds before have added up leaves room. -/
def HasRoom (conf : QueueConf M) (s : Store M) (item : M) : Prop :=
  ∃ j : Nat, (j = 0 ∨ j < conf.stackDepth) ∧
    s.settledSize - j * conf.getsizeof s.first + conf.sizeOfText item < conf.maxSize

theorem isEmpty_settled (s : Store M) : ((isEmpty : Call (Store M) Bool).run s).2.Settled := by
  rw [isEmpty_run]
  split
  · exact fun _ => rfl
  · rename_i differ
    exact fun same => absurd same differ

theorem isEmpty_first (s : Store M) :
    ((isEmpty : Call (Store M) Bool).run s).2.first = s.first := by
  rw [isEmpty_run]
  split
  · rename_i same
    simp [Store.first, same]
  · rfl

theorem isEmpty_settledSize (s : Store M) :
    ((isEmpty : Call (Store M) Bool).run s).2.settledSize = s.settledSize := by
  rw [isEmpty_run]
  split
  · rename_i same
    simp [Store.settledSize, same]
  · rfl

/-- Looking whether the queue is empty does not change whether it has room. -/
theorem hasRoom_isEmpty (conf : QueueConf M) (s : Store M) (item : M) :
    HasRoom conf ((isEmpty : Call (Store M) Bool).run s).2 item ↔ HasRoom conf s item := by
  rw [HasRoom, HasRoom, isEmpty_settledSize, isEmpty_first]

theorem get_run_of_settled (settled : s.Settled) :
    (get : Call (Store M) (Option M)).run s = (s.first, s) := by
  rw [get_run, Store.first]
  split
  · rename_i same
    rw [settled same]
  · rfl

/-- The search ends with success when one of its rounds leaves room, and leaves
the store as it was in any case. -/
theorem createSpace_run_of_settled (conf : QueueConf M) (settled : s.Settled) (size : Int) :
    ∀ (frames : Nat) (reclaimed : Int),
      ((createSpace conf size frames reclaimed).run s).2 = s ∧
        (((createSpace conf size frames reclaimed).run s).1 = .ok () ↔
          ∃ j < frames, s.currentSize - (reclaimed + j * conf.getsizeof s.first) + size <
            conf.maxSize) := by
  intro frames
  induction frames with
  | zero => exact fun _ => ⟨rfl, by simp [createSpace]⟩
  | succ frames ih =>
      intro reclaimed
      by_cases full : conf.maxSize ≤ s.currentSize - reclaimed + size
      · have run : (createSpace conf size (frames + 1) reclaimed).run s =
            (createSpace conf size frames (reclaimed + conf.getsizeof s.first)).run s := by
          simp [createSpace, full, get_run_of_settled settled]
        obtain ⟨kept, answer⟩ := ih (reclaimed + conf.getsizeof s.first)
        rw [run]
        refine ⟨kept, answer.trans ?_⟩
        constructor
        · rintro ⟨j, lt, room⟩
          refine ⟨j + 1, by omega, ?_⟩
          push_cast
          linarith
        · rintro ⟨j, lt, room⟩
          cases j with
          | zero => simp at room; omega
          | succ j =>
              refine ⟨j, by omega, ?_⟩
              push_cast at room
              linarith
      · have run : (createSpace conf size (frames + 1) reclaimed).run s = (.ok (), s) := by
          simp [createSpace, full]
        rw [run]
        exact ⟨rfl, fun _ => ⟨0, by omega, by simpa using full⟩, fun _ => rfl⟩

/-- `put` on a settled queue: with room it appends, without room it raises and
leaves the store as it was. -/
theorem put_run_of_settled (conf : QueueConf M) (settled : s.Settled) (item : M) :
    (HasRoom conf s item → (put conf item).run s = (.ok (), ((append conf item).run s).2)) ∧
      (¬ HasRoom conf s item → (put conf item).run s = (.error .recursionError, s)) := by
  by_cases full : conf.maxSize ≤ s.currentSize + conf.sizeOfText item
  · obtain ⟨kept, answer⟩ :=
      createSpace_run_of_settled conf settled (conf.sizeOfText item) conf.stackDepth 0
    have searched : HasRoom conf s item ↔ ((createSpace conf (conf.sizeOfText item)
        conf.stackDepth 0).run s).1 = .ok () := by
      rw [answer, HasRoom, ← settled.currentSize]
      constructor
      · rintro ⟨j, rfl | lt, room⟩
        · simp at room; omega
        · exact ⟨j, lt, by simpa using room⟩
      · rintro ⟨j, lt, room⟩
        exact ⟨j, .inr lt, by simpa using room⟩
    constructor
    · intro room
      simp [put, full, searched.mp room, kept]
    · intro noRoom
      obtain found | failed :=
        createSpace_answer conf (conf.sizeOfText item) conf.stackDepth 0 s
      · exact absurd (searched.mpr found) noRoom
      · simp [put, full, failed, kept]
  · have room : HasRoom conf s item :=
      ⟨0, .inl rfl, by rw [← settled.currentSize]; simpa using full⟩
    exact ⟨fun _ => put_run_of_room conf item full, fun noRoom => absurd room noRoom⟩

end StoreQueue

end Sspl

import Sspl.Store.Size

/-!
# The memory limit

A `put` that finds the queue full is to remove the oldest messages until the new one fits. The
search for space only adds up the size of the oldest message, again and again, and removes
nothing: the limit is kept exactly when there was no need to remove a message.
-/

namespace Sspl

open Atomic

variable {M : Type}

/-- The messages from the head to the tail. -/
def Store.items (s : Store M) : List M :=
  (List.range (s.tail - s.head)).filterMap fun i => s.messages (s.head + i)

theorem filterMap_range_getElem? (items : List M) :
    (List.range items.length).filterMap (fun i => items[i]?) = items := by
  induction items with
  | nil => rfl
  | cons item rest ih =>
      have head : (fun i => (item :: rest)[i]?) 0 = some item := rfl
      rw [List.length_cons, List.range_succ_eq_map, List.filterMap_cons_some head,
        List.filterMap_map]
      exact congrArg _ ih

theorem Store.items_eq {s : Store M} {items : List M} (tail : s.tail = s.head + items.length)
    (slots : ∀ i < items.length, s.messages (s.head + i) = items[i]?) : s.items = items := by
  have length : s.tail - s.head = items.length := by omega
  rw [Store.items, length]
  calc _ = (List.range items.length).filterMap fun i => items[i]? :=
        List.filterMap_congr fun i mem => slots i (List.mem_range.mp mem)
    _ = items := filterMap_range_getElem? items

theorem Represents.items_eq {s : Store M} {items : List M} (h : Represents s items) :
    s.items = items :=
  s.items_eq h.tail_eq fun i _ => h.slots.lookup i

namespace StoreQueue

/-- `put` returns with the message last in the queue and within the limit, and of the oldest
messages only those are gone that had to go. -/
structure LimitKept (conf : QueueConf M) (s : Store M) (item : M) : Prop where
  returned : ((put conf item).run s).1 = .ok ()
  kept : ∃ dropped, Represents ((put conf item).run s).2 (s.items.drop dropped ++ [item]) ∧
    charged conf (s.items.drop dropped ++ [item]) ≤ conf.maxSize ∧
      ∀ fewer < dropped, conf.maxSize < charged conf (s.items.drop fewer ++ [item])

/-- Some round of the search leaves room, the check before the search included. The first
round may set the charged size of an empty queue back to zero. -/
def SearchEnds (conf : QueueConf M) (s : Store M) (item : M) : Prop :=
  ∃ round, (round = 0 ∨ round < conf.stackDepth) ∧
    (if round = 0 then s.currentSize else s.settledSize) - round * conf.getsizeof s.first +
      conf.sizeOfText item < conf.maxSize

section

variable {conf : QueueConf M} {s t : Store M} {items : List M} {item : M} {ops : List (Op M)}

/-- Only the size of a queue that was emptied by a delete is not settled. -/
theorem settled_or_same (s : Store M) : s.Settled ∨ s.tail = s.head := by
  by_cases same : s.tail = s.head
  · exact .inr same
  · exact .inl fun empty => absurd empty same

theorem put_returns_of_settled (settled : s.Settled) :
    ((put conf item).run s).1 = .ok () ↔ SearchEnds conf s item := by
  have rounds : SearchEnds conf s item ↔ HasRoom conf s item := by
    simp only [SearchEnds, HasRoom, settled.currentSize, ite_self]
  rw [rounds]
  obtain ⟨room, noRoom⟩ := put_run_of_settled conf settled item
  constructor
  · intro returned
    by_contra without
    rw [noRoom without] at returned
    cases returned
  · intro found
    rw [room found]

/-- On an empty queue the first round of the search settles the size. -/
theorem put_returns_of_same (same : s.tail = s.head) :
    ((put conf item).run s).1 = .ok () ↔ SearchEnds conf s item := by
  by_cases full : conf.maxSize ≤ s.currentSize + conf.sizeOfText item
  · have first : s.first = none := if_pos same
    have settled : s.settledSize = 0 := if_pos same
    have search : ((put conf item).run s).1 = .ok () ↔
        ((createSpace conf (conf.sizeOfText item) conf.stackDepth 0).run s).1 = .ok () := by
      obtain found | failed := createSpace_answer conf (conf.sizeOfText item) conf.stackDepth 0 s
      · simp [put, full, found]
      · simp [put, full, failed]
    rw [search, SearchEnds, first, settled]
    cases conf.stackDepth with
    | zero =>
        refine iff_of_false (by simp [createSpace]) ?_
        rintro ⟨round, rfl | none, room⟩
        · simp at room
          omega
        · cases none
    | succ frames =>
        have run : (createSpace conf (conf.sizeOfText item) (frames + 1) 0).run s =
            (createSpace conf (conf.sizeOfText item) frames (0 + conf.getsizeof none)).run
              s.reset := by
          have searching : conf.maxSize ≤ s.currentSize - 0 + conf.sizeOfText item := by simpa
          simp only [createSpace, Call.run_bind, Call.run_read, searching, if_true, get_run, same]
        have again : s.reset.Settled := fun _ => rfl
        have nothing : s.reset.first = none := if_pos rfl
        rw [run, (createSpace_run_of_settled conf again _ frames _).2, nothing]
        constructor
        · rintro ⟨round, lt, room⟩
          refine ⟨round + 1, .inr (by omega), ?_⟩
          rw [if_neg (by omega)]
          push_cast
          rw [Store.currentSize_reset] at room
          linarith
        · rintro ⟨round, among, room⟩
          cases round with
          | zero =>
              simp at room
              omega
          | succ round =>
              refine ⟨round, by omega, ?_⟩
              rw [if_neg (by omega)] at room
              push_cast at room
              rw [Store.currentSize_reset]
              linarith
  · refine iff_of_true ?_ ⟨0, .inl rfl, by simpa using full⟩
    rw [put_run_of_room conf item full]

theorem put_returns_iff : ((put conf item).run s).1 = .ok () ↔ SearchEnds conf s item := by
  obtain settled | same := settled_or_same s
  · exact put_returns_of_settled settled
  · exact put_returns_of_same same

theorem represents_of_run (run : (system conf).FreeRuns start ops s) :
    ∃ items, Represents s items := by
  refine run.invariant (I := fun s => ∃ items, Represents s items) ?_ ⟨[], start_represents⟩
  rintro s op t ⟨items, before⟩ - step
  cases step
  exact perform_represents conf before op

/-- Since nothing is removed, the limit is kept if it was kept with nothing to remove. -/
theorem limitKept_iff (h : Represents s items) :
    LimitKept conf s item ↔ ((put conf item).run s).1 = .ok () ∧
      charged conf (s.items ++ [item]) ≤ conf.maxSize := by
  have put := put_represents conf h item
  constructor
  · rintro ⟨returned, dropped, after, within, -⟩
    rw [h.items_eq] at after within ⊢
    obtain ⟨-, appended⟩ | ⟨failed, -⟩ := put
    · have same := List.append_cancel_right (after.unique appended)
      rw [same] at within
      exact ⟨returned, within⟩
    · rw [returned] at failed
      cases failed
  · rintro ⟨returned, within⟩
    refine ⟨returned, 0, ?_, within, fun fewer none => absurd none (Nat.not_lt_zero _)⟩
    obtain ⟨-, appended⟩ | ⟨failed, -⟩ := put
    · rwa [h.items_eq]
    · rw [returned] at failed
      cases failed

end

/-- In every state that calls lead to, `put` keeps to the limit if and only if its search for space
ends and the queue has room for the message as it is. The search adds up the size of the oldest
message round after round and takes nothing out. -/
theorem limit_kept_iff (conf : QueueConf M) (ops : List (Op M)) (s : Store M) (item : M)
    (run : (system conf).FreeRuns start ops s) :
    LimitKept conf s item ↔
      SearchEnds conf s item ∧ charged conf (s.items ++ [item]) ≤ conf.maxSize := by
  obtain ⟨items, before⟩ := represents_of_run run
  rw [limitKept_iff before, put_returns_iff]

namespace Example

/-- A limit with room for one of the messages below. -/
def small : QueueConf (List Char) := { cpython with maxSize := 100 }

/-- A limit with room for two. -/
def roomForTwo : QueueConf (List Char) := { cpython with maxSize := 115 }

def text : List Char := ['{', '}']

/-- Two messages are put, and the first is deleted, of whose charge sixteen remain. -/
def used : List (Op (List Char)) := [.put text, .put text, .delete]

/-- There is room for one more message beside the second, but the search finds it only after
it has added up the size of the oldest message once. -/
theorem limit_kept_iff_used : ∃ s, (system roomForTwo).run start used = some s ∧
    s.items = [text] ∧ roomForTwo.maxSize ≤ s.currentSize + roomForTwo.sizeOfText text ∧
      LimitKept roomForTwo s text := by
  refine ⟨_, rfl, by decide +kernel, by decide +kernel, ?_⟩
  refine (limit_kept_iff roomForTwo used _ text ((system roomForTwo).run_eq_some_iff.mp rfl)).mpr
    ⟨⟨1, .inr (by decide), by decide +kernel⟩, by decide +kernel⟩

/-- The second message is put in the queue beside the first, which stays there. -/
theorem limit_not_kept : ¬ ∀ (conf : QueueConf (List Char)) ops s item,
    (system conf).FreeRuns start ops s → conf.sizeOfText item < conf.maxSize →
      LimitKept conf s item := by
  intro kept
  have held : Represents ((perform small (.put text)).run start).2 [text] :=
    append_represents small start_represents text
  obtain ⟨-, within⟩ := (limitKept_iff held).mp
    (kept small [.put text] _ text (.single trivial rfl) (by decide))
  rw [held.items_eq] at within
  exact absurd within (by decide)

end Example

end StoreQueue

end Sspl

import Mathlib.Logic.Function.Basic
import Mathlib.Data.List.Basic

/-!
# A list laid out in consecutive slots

`Holds slots start items` says that the partial map `slots` holds exactly the
elements of `items`, one a slot, in order from slot `start` on, and nothing
anywhere else. Appending fills the slot behind the last one, removing the first
element empties its slot and moves the start, and an empty list may be taken to
start at any slot: these are the three moves of a queue kept under numbered keys.
-/

universe u

namespace Slots

variable {α : Type u} {slots : Nat → Option α} {start : Nat} {items : List α} {x : α}

/-- The slots from `start` on hold `items` in order; every other slot is empty. -/
def Holds (slots : Nat → Option α) (start : Nat) (items : List α) : Prop :=
  ∀ k, slots k = if k < start then none else items[k - start]?

namespace Holds

theorem lookup (h : Holds slots start items) (i : Nat) : slots (start + i) = items[i]? := by
  rw [h (start + i), if_neg (by omega), Nat.add_sub_cancel_left]

theorem first (h : Holds slots start items) : slots start = items.head? := by
  rw [List.head?_eq_getElem?]
  exact h.lookup 0

/-- No slot outside the window holds anything. -/
theorem outside (h : Holds slots start items) {k : Nat}
    (hk : k < start ∨ start + items.length ≤ k) : slots k = none := by
  rw [h k]
  split
  · rfl
  · exact List.getElem?_eq_none (by omega)

theorem append (h : Holds slots start items) :
    Holds (Function.update slots (start + items.length) (some x)) start (items ++ [x]) := by
  intro k
  by_cases last : k = start + items.length
  · subst last
    rw [Function.update_self, if_neg (by omega), Nat.add_sub_cancel_left]
    simp
  · rw [Function.update_of_ne last, h k]
    split
    · rfl
    · by_cases inside : k - start < items.length
      · rw [List.getElem?_append_left inside]
      · rw [List.getElem?_eq_none (by omega),
          List.getElem?_eq_none (by simp only [List.length_append, List.length_singleton]; omega)]

theorem tail (h : Holds slots start (x :: items)) :
    Holds (Function.update slots start none) (start + 1) items := by
  intro k
  by_cases first : k = start
  · subst first
    rw [Function.update_self, if_pos (by omega)]
  · rw [Function.update_of_ne first, h k]
    by_cases before : k < start
    · rw [if_pos before, if_pos (by omega)]
    · have shifted : k - start = k - (start + 1) + 1 := by omega
      rw [if_neg before, if_neg (by omega), shifted, List.getElem?_cons_succ]

/-- An empty window may start anywhere. -/
theorem restart (h : Holds slots start ([] : List α)) (other : Nat) :
    Holds slots other ([] : List α) := by
  intro k
  rw [h k]
  simp

/-- The slots and the place where they start determine the list. -/
theorem unique {others : List α} (h : Holds slots start items)
    (h' : Holds slots start others) : items = others := by
  apply List.ext_getElem?
  intro i
  rw [← h.lookup i, h'.lookup i]

end Holds

theorem holds_empty (start : Nat) : Holds (fun _ => (none : Option α)) start [] := by
  intro k
  simp

end Slots

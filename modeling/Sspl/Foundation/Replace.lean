import Sspl.Foundation.Words

/-!
# Replacing a word

`replaceAll` goes through a list from its front and puts the new word in place of every
occurrence of the old one that does not overlap an occurrence before it. Where both begin with the
separator and have no other, it goes word by word: every word but the first one that begins with
the old word begins with the new one instead.
-/

universe u

namespace Replace

variable {α : Type u} [DecidableEq α] {sep : α} {old new text v w x tail : List α} {n : Nat}

/-- The number says how much of the list belongs to an occurrence that has been replaced. -/
def replaceFrom (old new : List α) : Nat → List α → List α
  | _, [] => []
  | 0, c :: rest =>
    if old <+: c :: rest then new ++ replaceFrom old new (old.length - 1) rest
    else c :: replaceFrom old new 0 rest
  | n + 1, _ :: rest => replaceFrom old new n rest

/-- `text.replace(old, new)`, for a word that is not empty. -/
def replaceAll (old new text : List α) : List α := replaceFrom old new 0 text

@[simp]
theorem replaceAll_nil : replaceAll old new [] = [] := rfl

theorem replaceFrom_length_append (w : List α) :
    replaceFrom old new w.length (w ++ text) = replaceAll old new text := by
  induction w with
  | nil => rfl
  | cons c w ih =>
      rw [List.length_cons, List.cons_append, replaceFrom]
      exact ih

theorem replaceAll_of_prefix (w : List α) :
    replaceAll (sep :: w) new (sep :: (w ++ text)) = new ++ replaceAll (sep :: w) new text := by
  rw [replaceAll, replaceFrom, if_pos ⟨text, rfl⟩, List.length_cons, Nat.add_sub_cancel,
    replaceFrom_length_append]

/-- Nothing begins in a word without a separator. -/
theorem replaceAll_append (fresh : sep ∉ x) :
    replaceAll (sep :: w) new (x ++ text) = x ++ replaceAll (sep :: w) new text := by
  induction x with
  | nil => rfl
  | cons c rest ih =>
      rw [List.mem_cons, not_or] at fresh
      have other : ¬sep :: w <+: c :: (rest ++ text) := by
        intro occurs
        exact fresh.1 (List.cons_prefix_cons.mp occurs).1
      rw [List.cons_append, replaceAll, replaceFrom, if_neg other]
      exact congrArg (c :: ·) (ih fresh.2)

/-- What becomes of a word after a separator. -/
def swap (w v x : List α) : List α := if w <+: x then v ++ x.drop w.length else x

@[simp]
theorem swap_append (w v x : List α) : swap w v (w ++ x) = v ++ x := by
  rw [swap, if_pos (List.prefix_append _ _), List.drop_left]

theorem swap_eq_self (other : ¬w <+: x) : swap w v x = x := if_neg other

theorem notMem_swap (freshNew : sep ∉ v) (fresh : sep ∉ x) : sep ∉ swap w v x := by
  rw [swap]
  split
  · rw [List.mem_append, not_or]
    exact ⟨freshNew, fun mem => fresh (List.mem_of_mem_drop mem)⟩
  · exact fresh

theorem replaceAll_word (freshOld : sep ∉ w) (fresh : sep ∉ x)
    (next : ∀ c ∈ tail.head?, c = sep) :
    replaceAll (sep :: w) (sep :: v) (sep :: (x ++ tail)) =
      sep :: (swap w v x ++ replaceAll (sep :: w) (sep :: v) tail) := by
  by_cases occurs : w <+: x
  · obtain ⟨rest, rfl⟩ := occurs
    have freshRest : sep ∉ rest := fun mem => fresh (List.mem_append_right _ mem)
    rw [List.append_assoc, replaceAll_of_prefix, replaceAll_append freshRest, swap_append,
      List.cons_append, List.append_assoc]
  · have other : ¬sep :: w <+: sep :: (x ++ tail) := by
      intro begins
      exact occurs ((Words.prefix_append_iff freshOld next).mp (List.cons_prefix_cons.mp begins).2)
    rw [swap_eq_self occurs, replaceAll, replaceFrom, if_neg other]
    exact congrArg (sep :: ·) (replaceAll_append fresh)

theorem splitOn_replaceAll_sep (freshOld : sep ∉ w) (freshNew : sep ∉ v) :
    (replaceAll (sep :: w) (sep :: v) (sep :: text)).splitOn sep =
      [] :: (text.splitOn sep).map (swap w v) := by
  induction text using Words.wordInduction sep with
  | last x none =>
      have whole : replaceAll (sep :: w) (sep :: v) (sep :: (x ++ [])) = _ :=
        replaceAll_word freshOld none (by simp)
      rw [List.append_nil, replaceAll_nil, List.append_nil] at whole
      rw [whole, ← List.nil_append (sep :: _),
        List.splitOn_append_cons_self_of_not_mem List.not_mem_nil,
        List.splitOn_eq_singleton (notMem_swap freshNew none), List.splitOn_eq_singleton none]
      rfl
  | more x text none ih =>
      rw [replaceAll_word freshOld none (by simp), ← List.nil_append (sep :: _),
        List.splitOn_append_cons_self_of_not_mem List.not_mem_nil,
        Words.splitOn_append (notMem_swap freshNew none), ih,
        List.splitOn_append_cons_self_of_not_mem none]
      simp

/-- The words after a replacement. -/
theorem splitOn_replaceAll (freshOld : sep ∉ w) (freshNew : sep ∉ v) :
    ∃ first rest, text.splitOn sep = first :: rest ∧
      (replaceAll (sep :: w) (sep :: v) text).splitOn sep = first :: rest.map (swap w v) := by
  induction text using Words.wordInduction sep with
  | last x none =>
      have whole : replaceAll (sep :: w) (sep :: v) (x ++ []) = _ := replaceAll_append none
      rw [List.append_nil, replaceAll_nil, List.append_nil] at whole
      rw [whole, List.splitOn_eq_singleton none]
      exact ⟨x, [], rfl, rfl⟩
  | more x text none _ =>
      refine ⟨x, text.splitOn sep, List.splitOn_append_cons_self_of_not_mem none text, ?_⟩
      rw [replaceAll_append none, Words.splitOn_append none,
        splitOn_replaceAll_sep freshOld freshNew]
      simp

end Replace

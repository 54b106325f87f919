import Mathlib.Data.List.Infix
import Mathlib.Data.List.TakeWhile

/-!
# Words between separators

`splitOn` gives the words of a text. A sequence with one separator in it occurs in the text where
its two parts end one word and begin the next.
-/

universe u

namespace Words

variable {α : Type u} {sep : α} {a b x text tail : List α}

/-- The word with the number `i` and the one after it. -/
structure Adjacent (words : List (List α)) (i : Nat) (left right : List α) : Prop where
  left : words[i]? = some left
  right : words[i + 1]? = some right

theorem adjacent_cons_succ {words : List (List α)} {i : Nat} {left right : List α} :
    Adjacent (x :: words) (i + 1) left right ↔ Adjacent words i left right :=
  ⟨fun next => ⟨next.left, next.right⟩, fun next => ⟨next.left, next.right⟩⟩

theorem adjacent_map {f : List α → List α} {words : List (List α)} {i : Nat}
    {left right : List α} :
    Adjacent (words.map f) i left right ↔
      ∃ l r, Adjacent words i l r ∧ left = f l ∧ right = f r := by
  constructor
  · rintro ⟨first, second⟩
    rw [List.getElem?_map] at first second
    obtain ⟨l, here, rfl⟩ := Option.map_eq_some_iff.mp first
    obtain ⟨r, next, rfl⟩ := Option.map_eq_some_iff.mp second
    exact ⟨l, r, ⟨here, next⟩, rfl, rfl⟩
  · rintro ⟨l, r, ⟨first, second⟩, rfl, rfl⟩
    constructor
    · rw [List.getElem?_map, first, Option.map_some]
    · rw [List.getElem?_map, second, Option.map_some]

/-- What comes after a separator does not matter to a word before it. -/
theorem prefix_append_iff (fresh : sep ∉ b) (next : ∀ c ∈ tail.head?, c = sep) :
    b <+: x ++ tail ↔ b <+: x := by
  constructor
  · intro occurs
    induction b generalizing x with
    | nil => exact List.nil_prefix
    | cons c rest ih =>
        rw [List.mem_cons, not_or] at fresh
        cases x with
        | nil =>
            obtain ⟨after, rfl⟩ := occurs
            exact absurd (next c rfl).symm fresh.1
        | cons d x =>
            obtain ⟨rfl, inner⟩ := List.cons_prefix_cons.mp occurs
            exact List.cons_prefix_cons.mpr ⟨rfl, ih fresh.2 inner⟩
  · exact fun occurs => occurs.trans (List.prefix_append _ _)

/-- What ends a text of two parts ends the second, or begins in the first. -/
theorem suffix_append_iff :
    a <:+ x ++ text ↔
      a <:+ text ∨ ∃ n < a.length, a.take (n + 1) <:+ x ∧ text = a.drop (n + 1) := by
  constructor
  · rintro ⟨before, split⟩
    obtain ⟨c, rfl, rfl⟩ | ⟨c, -, rfl⟩ := List.append_eq_append_iff.mp split
    · cases c with
      | nil => exact .inl (List.suffix_refl text)
      | cons d c =>
          have bound : c.length < (d :: c ++ text).length := by
            simp only [List.cons_append, List.length_cons, List.length_append]
            omega
          exact .inr ⟨c.length, bound, ⟨before, by simp⟩, by simp⟩
    · exact .inl (List.suffix_append c a)
  · rintro (ends | ⟨n, -, ⟨before, rfl⟩, rfl⟩)
    · exact ends.trans (List.suffix_append _ _)
    · exact ⟨before, by simp⟩

/-- A sequence with one separator begins in the first word or after it. -/
theorem infix_append_iff (fresh : sep ∉ a) (one : sep ∉ x) :
    a ++ sep :: b <:+: x ++ sep :: text ↔
      a <:+ x ∧ b <+: text ∨ a ++ sep :: b <:+: text := by
  constructor
  · rintro ⟨before, after, split⟩
    have split : (before ++ a) ++ sep :: (b ++ after) = x ++ sep :: text := by simpa using split
    obtain ⟨c, front, back⟩ | ⟨c, front, back⟩ := List.append_eq_append_iff.mp split
    · cases c with
      | nil =>
          have same := (List.cons.inj back).2
          exact .inl ⟨⟨before, by simpa using front.symm⟩, ⟨after, same⟩⟩
      | cons d c =>
          obtain ⟨rfl, -⟩ := List.cons.inj back
          exact absurd (by simp [front]) one
    · cases c with
      | nil =>
          have same := (List.cons.inj back).2
          exact .inl ⟨⟨before, by simpa using front⟩, ⟨after, same.symm⟩⟩
      | cons d c =>
          obtain ⟨rfl, rest⟩ := List.cons.inj back
          -- the first separator comes before the sequence, so that it is in the rest
          have inner : a <:+ c := by
            obtain ⟨e, -, tail⟩ | ⟨e, -, tail⟩ := List.append_eq_append_iff.mp front
            · exact absurd (by simp [tail]) fresh
            · cases e with
              | nil =>
                  rw [List.nil_append] at tail
                  exact absurd (by simp [← tail]) fresh
              | cons f e => exact ⟨e, (List.cons.inj tail).2.symm⟩
          obtain ⟨e, rfl⟩ := inner
          exact .inr ⟨e, after, by rw [rest]; simp⟩
  · rintro (⟨⟨before, rfl⟩, ⟨after, rfl⟩⟩ | occurs)
    · exact ⟨before, after, by simp⟩
    · exact occurs.trans ((List.suffix_cons _ _).trans (List.suffix_append _ _)).isInfix

variable [DecidableEq α]

/-- A text is one word, or a word before a separator and a text. -/
theorem wordInduction (sep : α) {motive : List α → Prop} (last : ∀ x, sep ∉ x → motive x)
    (more : ∀ x text, sep ∉ x → motive text → motive (x ++ sep :: text)) (text : List α) :
    motive text := by
  induction measured : text.length using Nat.strongRecOn generalizing text with
  | ind n ih =>
      by_cases mem : sep ∈ text
      · obtain ⟨x, rest, rfl, fresh⟩ := List.eq_append_cons_of_mem mem
        refine more x rest fresh (ih rest.length ?_ rest rfl)
        simp only [List.length_append, List.length_cons] at measured
        omega
      · exact last text mem

theorem splitOn_append (fresh : sep ∉ x) :
    (x ++ text).splitOn sep = (text.splitOn sep).modifyHead (x ++ ·) := by
  induction x with
  | nil =>
      rw [List.nil_append]
      cases text.splitOn sep <;> rfl
  | cons c rest ih =>
      rw [List.mem_cons, not_or] at fresh
      rw [List.cons_append, List.splitOn_cons_eq_if_modifyHead, ih fresh.2,
        if_neg (by simpa using Ne.symm fresh.1)]
      cases text.splitOn sep <;> rfl

theorem splitOn_map {f : α → α} (keeps : ∀ c, f c = sep ↔ c = sep) :
    (text.map f).splitOn sep = (text.splitOn sep).map (List.map f) := by
  have fresh : ∀ x : List α, sep ∉ x → sep ∉ x.map f := by
    intro x none mem
    obtain ⟨c, mem, same⟩ := List.mem_map.mp mem
    exact none ((keeps c).mp same ▸ mem)
  induction text using wordInduction sep with
  | last x none =>
      rw [List.splitOn_eq_singleton none, List.splitOn_eq_singleton (fresh x none)]
      rfl
  | more x text none ih =>
      rw [List.map_append, List.map_cons, (keeps sep).mpr rfl,
        List.splitOn_append_cons_self_of_not_mem none,
        List.splitOn_append_cons_self_of_not_mem (fresh x none), ih]
      rfl

/-- The last word, as it is found from the end. -/
theorem getLast?_splitOn :
    (text.splitOn sep).getLast? = some (text.reverse.takeWhile (· ≠ sep)).reverse := by
  induction text using wordInduction sep with
  | last x none =>
      have all : x.reverse.takeWhile (· ≠ sep) = x.reverse := by
        rw [List.takeWhile_eq_self_iff]
        exact fun c mem => decide_eq_true fun same => none (same ▸ List.mem_reverse.mp mem)
      rw [List.splitOn_eq_singleton none, all, List.reverse_reverse]
      rfl
  | more x text none ih =>
      obtain ⟨first, rest, words⟩ := List.exists_cons_of_ne_nil (List.splitOn_ne_nil sep text)
      rw [List.splitOn_append_cons_self_of_not_mem none, words, List.getLast?_cons_cons, ← words,
        ih, List.reverse_append, List.reverse_cons, List.append_assoc]
      have ends : (([sep] ++ x.reverse).takeWhile (· ≠ sep)) = [] := by simp
      rw [List.takeWhile_append, ends, List.append_nil]
      split
      · rename_i all
        rw [(List.takeWhile_prefix _).eq_of_length all]
      · rfl

/-- A word begins the text if it begins its first word. -/
theorem prefix_iff_splitOn (fresh : sep ∉ b) :
    b <+: text ↔ ∃ right, (text.splitOn sep)[0]? = some right ∧ b <+: right := by
  induction text using wordInduction sep with
  | last x none => simp [List.splitOn_eq_singleton none]
  | more x text none _ =>
      rw [List.splitOn_append_cons_self_of_not_mem none, prefix_append_iff fresh (by simp)]
      simp

/-- Where a sequence with one separator occurs. -/
theorem infix_iff_splitOn (freshLeft : sep ∉ a) (freshRight : sep ∉ b) :
    a ++ sep :: b <:+: text ↔
      ∃ i left right, Adjacent (text.splitOn sep) i left right ∧ a <:+ left ∧ b <+: right := by
  induction text using wordInduction sep with
  | last x none =>
      rw [List.splitOn_eq_singleton none]
      constructor
      · intro occurs
        exact absurd (occurs.subset (by simp)) none
      · rintro ⟨i, left, right, next, -⟩
        simpa using next.right
  | more x text none ih =>
      rw [infix_append_iff freshLeft none, List.splitOn_append_cons_self_of_not_mem none, ih,
        prefix_iff_splitOn freshRight]
      constructor
      · rintro (⟨ends, right, first, begins⟩ | ⟨i, left, right, next, both⟩)
        · exact ⟨0, x, right, ⟨rfl, first⟩, ends, begins⟩
        · exact ⟨i + 1, left, right, adjacent_cons_succ.mpr next, both⟩
      · rintro ⟨_ | i, left, right, next, both⟩
        · obtain rfl := Option.some.inj next.left
          exact .inl ⟨both.1, right, next.right, both.2⟩
        · exact .inr ⟨i, left, right, adjacent_cons_succ.mp next, both⟩

end Words

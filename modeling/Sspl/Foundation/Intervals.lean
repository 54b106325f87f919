import Mathlib.Data.Finset.Sort
import Mathlib.Data.List.Chain

/-!
# Maximal intervals of a list of numbers

A strictly ascending list of numbers is cut into intervals of consecutive ones. Each interval is
as long as it can be when there is a gap before the next one, and then there is one way only to
cut the list.
-/

namespace Sspl

/-- The numbers from `first` to `last`. -/
@[ext]
structure Interval where
  first : Nat
  last : Nat
  le : first ≤ last
  deriving DecidableEq

namespace Interval

/-- The interval of one number. -/
def point (n : Nat) : Interval := ⟨n, n, le_rfl⟩

/-- The interval with one more number before it. -/
def extend (i : Interval) (n : Nat) (next : n + 1 = i.first) : Interval :=
  ⟨n, i.last, by have := i.le; omega⟩

def members (i : Interval) : List Nat := List.range' i.first (i.last + 1 - i.first)

variable {i j : Interval} {n : Nat} {rest : List Interval} {numbers : List Nat}

@[simp] theorem mem_members : n ∈ i.members ↔ i.first ≤ n ∧ n ≤ i.last := by
  have le := i.le
  rw [members, List.mem_range'_1]
  omega

@[simp] theorem members_point (n : Nat) : (point n).members = [n] := by
  simp [members, point]

theorem members_extend (next : n + 1 = i.first) :
    (i.extend n next).members = n :: i.members := by
  have le := i.le
  have length : i.last + 1 - n = (i.last + 1 - i.first) + 1 := by omega
  show List.range' n (i.last + 1 - n) = n :: i.members
  rw [length, List.range'_succ, next, members]

theorem members_eq_cons (i : Interval) :
    i.members = i.first :: List.range' (i.first + 1) (i.last - i.first) := by
  have le := i.le
  have length : i.last + 1 - i.first = (i.last - i.first) + 1 := by omega
  rw [members, length, List.range'_succ]

/-- All numbers of the intervals. -/
def all (intervals : List Interval) : List Nat := intervals.flatMap members

@[simp] theorem all_nil : all [] = [] := rfl

@[simp] theorem all_cons (i : Interval) (rest : List Interval) :
    all (i :: rest) = i.members ++ all rest := List.flatMap_cons

theorem mem_all {intervals : List Interval} :
    n ∈ all intervals ↔ ∃ i ∈ intervals, i.first ≤ n ∧ n ≤ i.last := by
  simp only [all, List.mem_flatMap, mem_members]

/-- There is a gap between one interval and the next. -/
def Maximal (intervals : List Interval) : Prop :=
  intervals.IsChain (fun i j => i.last + 1 < j.first)

theorem Maximal.tail (h : Maximal (i :: rest)) : Maximal rest := h.of_cons

/-- The intervals that follow are beyond the gap. -/
theorem Maximal.beyond (h : Maximal (i :: rest)) : ∀ n ∈ all rest, i.last + 1 < n := by
  induction rest generalizing i with
  | nil => simp
  | cons j rest ih =>
      obtain ⟨gap, chain⟩ := List.isChain_cons_cons.mp h
      intro n mem
      rw [all_cons, List.mem_append, mem_members] at mem
      obtain ⟨from_, -⟩ | later := mem
      · omega
      · have beyond := ih chain n later
        have le := j.le
        omega

theorem Maximal.pairwise {intervals : List Interval} (h : Maximal intervals) :
    (all intervals).Pairwise (· < ·) := by
  induction intervals with
  | nil => exact .nil
  | cons i rest ih =>
      rw [all_cons, List.pairwise_append]
      refine ⟨List.pairwise_lt_range', ih h.tail, ?_⟩
      intro n mem m later
      have beyond := h.beyond m later
      have le := (mem_members.mp mem).2
      omega

/-- One more number before the intervals. -/
def add (n : Nat) : List Interval → List Interval
  | [] => [point n]
  | i :: rest => if next : n + 1 = i.first then i.extend n next :: rest else point n :: i :: rest

/-- The intervals of an ascending list of numbers. -/
def cut (numbers : List Nat) : List Interval := numbers.foldr add []

theorem all_add (n : Nat) (intervals : List Interval) :
    all (add n intervals) = n :: all intervals := by
  cases intervals with
  | nil => simp [add]
  | cons i rest =>
      rw [add]
      split
      · rename_i next
        rw [all_cons, members_extend next, List.cons_append, all_cons]
      · rw [all_cons, members_point, List.singleton_append]

/-- No number is lost and none is added. -/
theorem all_cut (numbers : List Nat) : all (cut numbers) = numbers := by
  induction numbers with
  | nil => rfl
  | cons n rest ih => rw [cut, List.foldr_cons, all_add, ← cut, ih]

theorem Maximal.add {intervals : List Interval} (h : Maximal intervals)
    (least : ∀ m ∈ all intervals, n < m) : Maximal (add n intervals) := by
  cases intervals with
  | nil => exact .singleton _
  | cons i rest =>
      have after : n < i.first := least _ (by rw [all_cons, members_eq_cons]; simp)
      rw [Interval.add]
      split
      · rename_i next
        cases rest with
        | nil => exact .singleton _
        | cons j rest =>
            obtain ⟨gap, chain⟩ := List.isChain_cons_cons.mp h
            exact .cons_cons gap chain
      · rename_i apart
        refine .cons_cons ?_ h
        show n + 1 < i.first
        omega

theorem maximal_cut (ascending : numbers.Pairwise (· < ·)) : Maximal (cut numbers) := by
  induction numbers with
  | nil => exact .nil
  | cons n rest ih =>
      obtain ⟨least, ascending⟩ := List.pairwise_cons.mp ascending
      refine (ih ascending).add ?_
      rw [all_cut]
      exact least

/-- Adding the numbers of an interval gives it back. -/
theorem foldr_add_members (length : Nat) : ∀ first : Nat,
    (∀ j ∈ rest.head?, first + length + 1 < j.first) →
    (List.range' first (length + 1)).foldr add rest =
      ⟨first, first + length, Nat.le_add_right _ _⟩ :: rest := by
  induction length with
  | zero =>
      intro first gap
      cases rest with
      | nil => rfl
      | cons j rest =>
          have apart : first + 1 ≠ j.first := by
            have := gap j rfl
            omega
          show add first (j :: rest) = _
          rw [add, dif_neg apart]
          rfl
  | succ length ih =>
      intro first gap
      have onward : ∀ j ∈ rest.head?, (first + 1) + length + 1 < j.first := by
        intro j mem
        have := gap j mem
        omega
      rw [List.range'_succ, List.foldr_cons, ih (first + 1) onward, add, dif_pos rfl, extend]
      simp only [List.cons.injEq, Interval.mk.injEq, true_and, and_true]
      omega

theorem cut_all {intervals : List Interval} (h : Maximal intervals) :
    cut (all intervals) = intervals := by
  induction intervals with
  | nil => rfl
  | cons i rest ih =>
      have le := i.le
      have length : i.last + 1 - i.first = (i.last - i.first) + 1 := by omega
      have gap : ∀ j ∈ rest.head?, i.first + (i.last - i.first) + 1 < j.first := by
        intro j mem
        cases rest with
        | nil => cases mem
        | cons k rest =>
            cases mem
            have := (List.isChain_cons_cons.mp h).1
            omega
      rw [all_cons, cut, List.foldr_append, ← cut, ih h.tail, members, length,
        foldr_add_members _ _ gap]
      simp only [List.cons.injEq, and_true]
      ext
      · rfl
      · show i.first + (i.last - i.first) = i.last
        omega

/-- The intervals of a set are those with gaps between them that have its numbers. -/
theorem cut_sort_eq_iff (numbers : Finset Nat) (intervals : List Interval) :
    cut (numbers.sort (· ≤ ·)) = intervals ↔
      Maximal intervals ∧ ∀ n, n ∈ numbers ↔ ∃ i ∈ intervals, i.first ≤ n ∧ n ≤ i.last := by
  constructor
  · rintro rfl
    refine ⟨maximal_cut (Finset.sortedLT_sort numbers).pairwise, ?_⟩
    intro n
    rw [← mem_all, all_cut, Finset.mem_sort]
  · rintro ⟨maximal, mem⟩
    have same : numbers.sort (· ≤ ·) = all intervals := by
      refine (Finset.sortedLT_sort numbers).eq_of_mem_iff maximal.pairwise.sortedLT ?_
      intro n
      rw [Finset.mem_sort, mem n, mem_all]
    rw [same, cut_all maximal]

end Interval

end Sspl

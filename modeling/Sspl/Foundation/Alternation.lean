import Mathlib.Data.List.Basic

/-!
# Lists that alternate between two values

A list is alternating from `a` when it reads `a, b, a, b, …`, whatever its length.
What may be appended next is a function of the list, so a component that keeps a
one-bit record of its last output alternates as soon as the record agrees with
`due`. A log in which every entry has a key is a family of such lists, and a component
that keeps the keys whose last entry is `a` makes each of them alternate. A history has
entries that may each raise several values or none, and a flag can follow it likewise.
-/

universe u v

variable {α : Type u}

/-- The list reads `a, b, a, b, …`. -/
def Alternating (a b : α) : List α → Prop
  | [] => True
  | x :: rest => x = a ∧ Alternating b a rest

/-- What a list of this length has to go on with to alternate from `a`. -/
def due (a b : α) : List α → α
  | [] => a
  | _ :: rest => due b a rest

namespace Alternating

instance decidable [DecidableEq α] : (a b : α) → (l : List α) → Decidable (Alternating a b l)
  | _, _, [] => .isTrue trivial
  | a, b, x :: rest => @instDecidableAnd (x = a) _ _ (decidable b a rest)

@[simp] theorem nil (a b : α) : Alternating a b [] := trivial

theorem concat {a b x : α} {l : List α} :
    Alternating a b (l ++ [x]) ↔ Alternating a b l ∧ x = due a b l := by
  induction l generalizing a b with
  | nil => simp [Alternating, due]
  | cons y rest ih => simp [Alternating, due, ih, and_assoc]

end Alternating

theorem due_concat (a b x : α) (l : List α) : due a b (l ++ [x]) = due b a l := by
  induction l generalizing a b with
  | nil => rfl
  | cons y rest ih => exact ih b a

/-- Reading the other way round makes the other value due. -/
theorem due_swap (a b : α) (l : List α) :
    due a b l = a ∧ due b a l = b ∨ due a b l = b ∧ due b a l = a := by
  induction l generalizing a b with
  | nil => exact .inl ⟨rfl, rfl⟩
  | cons y rest ih => exact (ih b a).symm

namespace Alternating

variable {a b : α} {l : List α}

/-- The first value is due: it may be appended, and then the second is due. -/
theorem append_first (different : a ≠ b) (h : Alternating a b l) (next : due a b l = a) :
    Alternating a b (l ++ [a]) ∧ due a b (l ++ [a]) = b := by
  refine ⟨concat.mpr ⟨h, next.symm⟩, ?_⟩
  rw [due_concat]
  obtain ⟨-, swapped⟩ | ⟨clash, -⟩ := due_swap a b l
  · exact swapped
  · exact absurd (next.symm.trans clash) different

/-- The second value is due: it may be appended, and then the first is due. -/
theorem append_second (different : a ≠ b) (h : Alternating a b l) (next : due a b l = b) :
    Alternating a b (l ++ [b]) ∧ due a b (l ++ [b]) = a := by
  refine ⟨concat.mpr ⟨h, next.symm⟩, ?_⟩
  rw [due_concat]
  obtain ⟨clash, -⟩ | ⟨-, swapped⟩ := due_swap a b l
  · exact absurd (clash.symm.trans next) different
  · exact swapped

/-- The last value says which one is due. -/
theorem due_cases (h : Alternating a b l) :
    l = [] ∧ due a b l = a ∨ l.getLast? = some a ∧ due a b l = b ∨
      l.getLast? = some b ∧ due a b l = a := by
  obtain rfl | ⟨front, x, rfl⟩ := l.eq_nil_or_concat'
  · exact .inl ⟨rfl, rfl⟩
  · have last := (concat.mp h).2
    rw [List.getLast?_concat, due_concat, last]
    obtain ⟨first, second⟩ | ⟨first, second⟩ := due_swap a b front
    · exact .inr (.inl ⟨by rw [first], second⟩)
    · exact .inr (.inr ⟨by rw [first], second⟩)

theorem due_first (h : Alternating a b l) (last : l.getLast? ≠ some a) : due a b l = a := by
  obtain ⟨-, next⟩ | ⟨other, -⟩ | ⟨-, next⟩ := h.due_cases
  · exact next
  · exact absurd other last
  · exact next

theorem due_second (different : a ≠ b) (h : Alternating a b l) (last : l.getLast? = some a) :
    due a b l = b := by
  obtain ⟨rfl, -⟩ | ⟨-, next⟩ | ⟨other, -⟩ := h.due_cases
  · cases last
  · exact next
  · exact absurd (Option.some.inj (last.symm.trans other)) different

end Alternating

section Keyed

variable {κ : Type v} [DecidableEq κ]

/-- What the log has for one key, in order. -/
def entries (k : κ) (log : List (κ × α)) : List α :=
  (log.filter (fun entry => entry.1 = k)).map (fun entry => entry.2)

@[simp] theorem entries_nil (k : κ) : entries k ([] : List (κ × α)) = [] := rfl

theorem entries_concat (k k' : κ) (x : α) (log : List (κ × α)) :
    entries k (log ++ [(k', x)]) = if k' = k then entries k log ++ [x] else entries k log := by
  rw [entries, List.filter_append, List.map_append]
  by_cases same : k' = k
  · simp [entries, same]
  · simp [entries, same]

theorem entries_append (k : κ) (log log' : List (κ × α)) :
    entries k (log ++ log') = entries k log ++ entries k log' := by
  rw [entries, List.filter_append, List.map_append]
  rfl

/-- Of entries for one key. -/
theorem entries_map (k k' : κ) (l : List α) :
    entries k (l.map (Prod.mk k')) = if k' = k then l else [] := by
  induction l with
  | nil => simp
  | cons x rest ih =>
      rw [List.map_cons, ← List.singleton_append, entries_append, ih, ← List.nil_append [(k', x)],
        entries_concat]
      split <;> rfl

/-- For every key the log alternates from `a`, and the keys of `pending` are those whose last
entry is `a`. -/
structure Tracks (a b : α) (log : List (κ × α)) (pending : κ → Prop) : Prop where
  alternating : ∀ k, Alternating a b (entries k log)
  pending_iff : ∀ k, pending k ↔ (entries k log).getLast? = some a

namespace Tracks

variable {a b : α} {log : List (κ × α)} {pending pending' : κ → Prop}

theorem nil (none : ∀ k, ¬ pending k) : Tracks a b ([] : List (κ × α)) pending where
  alternating k := trivial
  pending_iff k := iff_of_false (none k) (by simp)

theorem congr (h : Tracks a b log pending) (same : ∀ k, pending' k ↔ pending k) :
    Tracks a b log pending' :=
  ⟨h.alternating, fun k => (same k).trans (h.pending_iff k)⟩

/-- An entry `a` for a key that is not pending makes it so. -/
theorem raise (h : Tracks a b log pending) {k : κ} (free : ¬ pending k)
    (now : ∀ x, pending' x ↔ x = k ∨ pending x) : Tracks a b (log ++ [(k, a)]) pending' := by
  have next := (h.alternating k).due_first (mt (h.pending_iff k).mpr free)
  constructor
  · intro x
    rw [entries_concat]
    split
    · rename_i same
      subst same
      exact Alternating.concat.mpr ⟨h.alternating k, next.symm⟩
    · exact h.alternating x
  · intro x
    rw [now x, entries_concat]
    split
    · rename_i same
      exact iff_of_true (.inl same.symm) List.getLast?_concat
    · rename_i other
      rw [← h.pending_iff x]
      exact or_iff_right (Ne.symm other)

/-- An entry `b` for a pending key settles it. -/
theorem settle (different : a ≠ b) (h : Tracks a b log pending) {k : κ} (held : pending k)
    (now : ∀ x, pending' x ↔ x ≠ k ∧ pending x) : Tracks a b (log ++ [(k, b)]) pending' := by
  have next := (h.alternating k).due_second different ((h.pending_iff k).mp held)
  constructor
  · intro x
    rw [entries_concat]
    split
    · rename_i same
      subst same
      exact Alternating.concat.mpr ⟨h.alternating k, next.symm⟩
    · exact h.alternating x
  · intro x
    rw [now x, entries_concat]
    split
    · rename_i same
      refine iff_of_false (fun both => both.1 same.symm) ?_
      rw [List.getLast?_concat]
      exact fun clash => different (Option.some.inj clash).symm
    · rename_i other
      rw [← h.pending_iff x]
      exact and_iff_right (Ne.symm other)

/-- One entry for each of several keys. -/
theorem append (different : a ≠ b) {news : List (κ × α)} (h : Tracks a b log pending)
    (nodup : (news.map (fun entry => entry.1)).Nodup)
    (fits : ∀ entry ∈ news, entry.2 = a ∧ ¬ pending entry.1 ∨ entry.2 = b ∧ pending entry.1)
    (now : ∀ x, pending' x ↔ (x, a) ∈ news ∨ pending x ∧ (x, b) ∉ news) :
    Tracks a b (log ++ news) pending' := by
  induction news generalizing log pending with
  | nil =>
      rw [List.append_nil]
      exact h.congr (fun x => by rw [now x]; simp)
  | cons entry rest ih =>
      obtain ⟨k, v⟩ := entry
      rw [List.map_cons, List.nodup_cons] at nodup
      have fresh : ∀ v, (k, v) ∉ rest := fun v mem => nodup.1 (List.mem_map.mpr ⟨_, mem, rfl⟩)
      have other : ∀ entry ∈ rest, entry.1 ≠ k := by
        rintro ⟨k', v'⟩ mem rfl
        exact fresh v' mem
      have later := fun entry mem => fits entry (List.mem_cons_of_mem (k, v) mem)
      rw [← List.singleton_append, ← List.append_assoc]
      obtain ⟨rfl, free⟩ | ⟨rfl, held⟩ := fits (k, v) (.head _)
      · have raised : Tracks v b (log ++ [(k, v)]) (fun x => x = k ∨ pending x) :=
          h.raise free (fun x => .rfl)
        refine ih raised nodup.2 ?_ ?_
        · intro entry mem
          have := later entry mem
          have := other entry mem
          grind
        · intro x
          have := fresh b
          rw [now x]
          grind
      · have settled : Tracks a v (log ++ [(k, v)]) (fun x => x ≠ k ∧ pending x) :=
          h.settle different held (fun x => .rfl)
        refine ih settled nodup.2 ?_ ?_
        · intro entry mem
          have := later entry mem
          have := other entry mem
          grind
        · intro x
          have := fresh a
          rw [now x]
          grind

end Tracks

end Keyed

section Histories

variable {γ : Type v} {a b : α} {raised : γ → List α} {history : List γ} {x : γ} {on on' : Prop}

/-- What a history has raised, in order; its latest entry comes first. -/
def told (raised : γ → List α) (history : List γ) : List α := history.reverse.flatMap raised

@[simp] theorem told_nil : told raised [] = [] := rfl

theorem told_cons (x : γ) (history : List γ) :
    told raised (x :: history) = told raised history ++ raised x := by
  simp [told]

/-- What the history has raised alternates from `a`, and `on` says that the last was `a`. -/
structure Follows (a b : α) (raised : γ → List α) (history : List γ) (on : Prop) : Prop where
  alternating : Alternating a b (told raised history)
  on_iff : on ↔ (told raised history).getLast? = some a

namespace Follows

theorem nil (off : ¬ on) : Follows a b raised [] on :=
  ⟨trivial, iff_of_false off (by simp)⟩

theorem silent (h : Follows a b raised history on) (now : raised x = []) (same : on' ↔ on) :
    Follows a b raised (x :: history) on' := by
  constructor
  · rw [told_cons, now, List.append_nil]
    exact h.alternating
  · rw [told_cons, now, List.append_nil]
    exact same.trans h.on_iff

theorem raise (h : Follows a b raised history on) (off : ¬ on) (now : raised x = [a])
    (set : on') : Follows a b raised (x :: history) on' := by
  have next := h.alternating.due_first (mt h.on_iff.mpr off)
  constructor
  · rw [told_cons, now]
    exact Alternating.concat.mpr ⟨h.alternating, next.symm⟩
  · rw [told_cons, now, List.getLast?_concat]
    exact iff_of_true set rfl

theorem settle (different : a ≠ b) (h : Follows a b raised history on) (held : on)
    (now : raised x = [b]) (cleared : ¬ on') : Follows a b raised (x :: history) on' := by
  have next := h.alternating.due_second different (h.on_iff.mp held)
  constructor
  · rw [told_cons, now]
    exact Alternating.concat.mpr ⟨h.alternating, next.symm⟩
  · rw [told_cons, now, List.getLast?_concat]
    exact iff_of_false cleared (fun clash => different (Option.some.inj clash).symm)

/-- Both values in one entry. -/
theorem pulse (different : a ≠ b) (h : Follows a b raised history on) (off : ¬ on)
    (now : raised x = [a, b]) (cleared : ¬ on') : Follows a b raised (x :: history) on' := by
  have next := h.alternating.due_first (mt h.on_iff.mpr off)
  obtain ⟨first, then_⟩ := h.alternating.append_first different next
  have split : told raised (x :: history) = (told raised history ++ [a]) ++ [b] := by
    rw [told_cons, now, List.append_assoc]
    rfl
  constructor
  · rw [split]
    exact Alternating.concat.mpr ⟨first, then_.symm⟩
  · rw [split, List.getLast?_concat]
    exact iff_of_false cleared (fun clash => different (Option.some.inj clash).symm)

end Follows

end Histories

import Mathlib.Logic.Basic
import Mathlib.Data.List.Basic

/-!
# Guarded step systems and their runs

A system is a partial step function on states: `next s a = some t` says that
action `a` is enabled in `s` and leads to `t`. The same function replays a
concrete list of actions (`run`) and generates the runs that invariants are
proved about (`Runs`), so the guards met by proofs are those met by replay.

`Runs G` carries a condition on the steps in addition to the system's own
guards. Taking `G` to be everything gives the ordinary runs; a stronger `G`
selects the runs whose steps all meet a side condition, which is how a property
that fails in general is stated together with the runs in which it holds.
-/

universe u v

namespace Transition

/-- Initial states and a partial step function labelled by actions. -/
structure System (σ : Type u) (α : Type v) where
  init : σ → Prop
  next : σ → α → Option σ

namespace System

variable {σ : Type u} {α : Type v} (S : System σ α)

/-- Replay the actions in order; `none` as soon as one is not enabled. -/
def run : σ → List α → Option σ
  | s, [] => some s
  | s, a :: rest => (S.next s a).bind (fun t => run t rest)

theorem run_append (s : σ) (first second : List α) :
    S.run s (first ++ second) = (S.run s first).bind (fun t => S.run t second) := by
  induction first generalizing s with
  | nil => rfl
  | cons a rest ih => simp [run, ih, Option.bind_assoc]

/-- The runs of `S` whose every step meets `G` in the state before the step. -/
inductive Runs (G : σ → α → Prop) : σ → List α → σ → Prop
  | nil (s : σ) : Runs G s [] s
  | cons {s t u : σ} {a : α} {rest : List α} (guard : G s a)
      (step : S.next s a = some t) (tail : Runs G t rest u) : Runs G s (a :: rest) u

/-- The runs of `S` with no condition beyond its own guards. -/
abbrev FreeRuns : σ → List α → σ → Prop := S.Runs (fun _ _ => True)

/-- `P` holds in every state that a run along the actions passes. -/
def Always (P : σ → Prop) (s : σ) (actions : List α) : Prop :=
  ∀ done rest t, actions = done ++ rest → S.FreeRuns s done t → P t

namespace Runs

variable {S} {G G' : σ → α → Prop} {s t u : σ} {first second : List α} {a : α}

theorem single (guard : G s a) (step : S.next s a = some t) : S.Runs G s [a] t :=
  .cons guard step (.nil t)

theorem append (left : S.Runs G s first t) (right : S.Runs G t second u) :
    S.Runs G s (first ++ second) u := by
  induction left with
  | nil => exact right
  | cons guard step _ ih => exact .cons guard step (ih right)

theorem mono (imp : ∀ s a, G s a → G' s a) (h : S.Runs G s first t) :
    S.Runs G' s first t := by
  induction h with
  | nil => exact .nil _
  | cons guard step _ ih => exact .cons (imp _ _ guard) step ih

/-- A run along a concatenation passes through one intermediate state. -/
theorem split (h : S.Runs G s (first ++ second) u) :
    ∃ t, S.Runs G s first t ∧ S.Runs G t second u := by
  induction first generalizing s with
  | nil => exact ⟨s, .nil s, h⟩
  | cons a rest ih =>
      cases h with
      | cons guard step tail =>
          obtain ⟨t, left, right⟩ := ih tail
          exact ⟨t, .cons guard step left, right⟩

theorem deterministic (left : S.Runs G s first t) (right : S.Runs G' s first u) : t = u := by
  induction left with
  | nil => cases right; rfl
  | cons _ step _ ih =>
      cases right with
      | cons _ step' tail' =>
          rw [step] at step'
          cases step'
          exact ih tail'

/-- A run passes through the state that a run along its first part ends in. -/
theorem prefix_suffix (h : S.Runs G s (first ++ second) u) (left : S.Runs G' s first t) :
    S.Runs G s first t ∧ S.Runs G t second u := by
  obtain ⟨middle, front, back⟩ := h.split
  cases front.deterministic left
  exact ⟨front, back⟩

/-- The invariant rule: what every admitted step preserves, every run preserves. -/
theorem invariant {I : σ → Prop}
    (preserved : ∀ s a t, I s → G s a → S.next s a = some t → I t)
    (h : S.Runs G s first t) (start : I s) : I t := by
  induction h with
  | nil => exact start
  | cons guard step _ ih => exact ih (preserved _ _ _ start guard step)

/-- What every admitted step preserves holds in every state the run passes. -/
theorem always {I : σ → Prop} (preserved : ∀ s a t, I s → G s a → S.next s a = some t → I t)
    (h : S.Runs G s first t) (start : I s) : S.Always I s first := by
  rintro done rest u rfl left
  exact (h.prefix_suffix left).1.invariant preserved start

/-- Where the steps that keep `P` are those that meet `G`, the runs that keep `P` are the
`G`-runs. -/
theorem always_iff {I P : σ → Prop} (holds : ∀ s, I s → P s)
    (preserved : ∀ s a t, I s → G s a → S.next s a = some t → I t)
    (needed : ∀ s a t, I s → S.next s a = some t → P t → G s a)
    (h : S.FreeRuns s first t) (start : I s) : S.Always P s first ↔ S.Runs G s first t := by
  constructor
  · intro always
    induction h with
    | nil => exact .nil _
    | cons _ step _ ih =>
        have guard := needed _ _ _ start step (always [_] _ _ rfl (.single trivial step))
        refine .cons guard step (ih (preserved _ _ _ start guard step) ?_)
        intro done rest u split left
        exact always (_ :: done) rest u (by rw [split]; rfl) (.cons trivial step left)
  · intro guarded done rest u split left
    exact holds u (guarded.always preserved start done rest u split left)

/-- A run keeps `P` if its first state has it and the rest of the run keeps it. -/
theorem always_cons {P : σ → Prop} (step : S.next s a = some t) :
    S.Always P s (a :: first) ↔ P s ∧ S.Always P t first := by
  constructor
  · intro always
    refine ⟨always [] _ s rfl (.nil s), fun done rest u split run => ?_⟩
    exact always (a :: done) rest u (by rw [split]; rfl) (.cons trivial step run)
  · rintro ⟨now, later⟩ done rest u split run
    cases run with
    | nil => exact now
    | cons _ step' tail =>
        obtain ⟨rfl, tailSplit⟩ := List.cons.inj split
        cases step.symm.trans step'
        exact later _ rest u tailSplit tail

theorem always_nil {P : σ → Prop} : S.Always P s [] ↔ P s := by
  constructor
  · exact fun always => always [] [] s rfl (.nil s)
  · intro now done rest u split run
    obtain ⟨rfl, rfl⟩ := List.append_eq_nil_iff.mp split.symm
    cases run
    exact now

/-- A quantity that every admitted step lowers bounds the length of the run. -/
theorem length_add_variant_le {I : σ → Prop} (variant : σ → Nat)
    (preserved : ∀ s a t, I s → G s a → S.next s a = some t → I t ∧ variant t < variant s)
    (h : S.Runs G s first t) (start : I s) : first.length + variant t ≤ variant s := by
  induction h with
  | nil => simp
  | cons guard step _ ih =>
      obtain ⟨next, lower⟩ := preserved _ _ _ start guard step
      have := ih next
      simp only [List.length_cons]
      omega

/-- A free run whose steps all meet `G` is a `G`-run. -/
theorem strengthen (h : S.FreeRuns s first t)
    (meets : ∀ done a rest m, first = done ++ a :: rest → S.FreeRuns s done m → G m a) :
    S.Runs G s first t := by
  induction h with
  | nil => exact .nil _
  | cons _ step _ ih =>
      refine .cons (meets [] _ _ _ rfl (.nil _)) step (ih ?_)
      intro done b rest m split reached
      exact meets (_ :: done) b rest m (by rw [split]; rfl) (.cons trivial step reached)

/-- A free run whose actions meet `G` in every state is a `G`-run. -/
theorem of_forall_mem (h : S.FreeRuns s first t) (meets : ∀ a ∈ first, ∀ s, G s a) :
    S.Runs G s first t := by
  apply h.strengthen
  intro done a rest m split _
  exact meets a (by simp [split]) m

end Runs

/-- Replay succeeds exactly along the free runs. -/
theorem run_eq_some_iff {s t : σ} {actions : List α} :
    S.run s actions = some t ↔ S.FreeRuns s actions t := by
  induction actions generalizing s with
  | nil =>
      constructor
      · intro h
        cases h
        exact .nil _
      · intro h
        cases h
        rfl
  | cons a rest ih =>
      constructor
      · intro h
        obtain ⟨m, step, tail⟩ := Option.bind_eq_some_iff.mp h
        exact .cons trivial step (ih.mp tail)
      · intro h
        cases h with
        | cons _ step tail => exact Option.bind_eq_some_iff.mpr ⟨_, step, ih.mpr tail⟩

/-- An action that lowers a quantity until `P` holds can be repeated until `P` holds. -/
theorem exists_run_replicate {I P : σ → Prop} {a : α} (variant : σ → Nat)
    (lower : ∀ s, I s → P s ∨ ∃ t, S.next s a = some t ∧ I t ∧ variant t < variant s) {s : σ}
    (start : I s) : ∃ n t, S.run s (List.replicate n a) = some t ∧ I t ∧ P t := by
  induction measured : variant s using Nat.strongRecOn generalizing s with
  | ind bound ih =>
      obtain reached | ⟨t, step, next, less⟩ := lower s start
      · exact ⟨0, s, rfl, start, reached⟩
      · obtain ⟨n, u, rest, last, reached⟩ := ih _ (measured ▸ less) next rfl
        refine ⟨n + 1, u, ?_, last, reached⟩
        rw [List.replicate_succ, run, step, Option.bind_some, rest]

/-- Repeating an action leads to one state only in which it is not enabled. -/
theorem run_replicate_unique {a : α} {n m : Nat} {s t u : σ}
    (left : S.run s (List.replicate n a) = some t) (leftEnd : S.next t a = none)
    (right : S.run s (List.replicate m a) = some u) (rightEnd : S.next u a = none) : t = u := by
  induction n generalizing s m with
  | zero =>
      cases left
      cases m with
      | zero =>
          cases right
          rfl
      | succ m =>
          rw [List.replicate_succ, run, leftEnd] at right
          cases right
  | succ n ih =>
      rw [List.replicate_succ, run] at left
      obtain ⟨next, step, left⟩ := Option.bind_eq_some_iff.mp left
      cases m with
      | zero =>
          cases right
          cases rightEnd.symm.trans step
      | succ m =>
          rw [List.replicate_succ, run, step] at right
          exact ih left right

/-- Replay the actions as long as each step meets `G`. -/
def replay (G : σ → α → Prop) [∀ s a, Decidable (G s a)] : σ → List α → Option σ
  | s, [] => some s
  | s, a :: rest => if G s a then (S.next s a).bind (fun t => replay G t rest) else none

theorem replay_eq_some_iff {G : σ → α → Prop} [∀ s a, Decidable (G s a)] {s t : σ}
    {actions : List α} : S.replay G s actions = some t ↔ S.Runs G s actions t := by
  induction actions generalizing s with
  | nil =>
      constructor
      · intro h
        cases h
        exact .nil _
      · intro h
        cases h
        rfl
  | cons a rest ih =>
      constructor
      · intro h
        rw [replay] at h
        split at h
        · obtain ⟨m, step, tail⟩ := Option.bind_eq_some_iff.mp h
          exact .cons ‹_› step (ih.mp tail)
        · cases h
      · intro h
        cases h with
        | cons guard step tail =>
            rw [replay, if_pos guard]
            exact Option.bind_eq_some_iff.mpr ⟨_, step, ih.mpr tail⟩

end System

end Transition

import Mathlib.Logic.Function.Iterate

/-!
# Where a deterministic step leads to

A loop of attempts is left at the first one that is good and goes on with the next one
otherwise. Whether it is left at all is then a matter of the attempts alone.
-/

universe u

namespace Iteration

variable {σ : Type u} {step : σ → σ} {s : σ} {P : Nat → σ → Prop} {Q R : σ → Prop}
  {G : Nat → Prop}

/-- Some number of steps leads to a state with `Q`. -/
def Reaches (step : σ → σ) (s : σ) (Q : σ → Prop) : Prop := ∃ n, Q (step^[n] s)

theorem Reaches.refl (h : Q s) : Reaches step s Q := ⟨0, h⟩

theorem Reaches.trans (h : Reaches step s Q) (onward : ∀ t, Q t → Reaches step t R) :
    Reaches step s R := by
  obtain ⟨n, reached⟩ := h
  obtain ⟨m, later⟩ := onward _ reached
  refine ⟨m + n, ?_⟩
  rwa [Function.iterate_add_apply]

theorem Reaches.of_step (h : Reaches step (step s) Q) : Reaches step s Q := by
  obtain ⟨n, reached⟩ := h
  exact ⟨n + 1, reached⟩

/-- A property that every step keeps is there for good. -/
theorem stays (kept : ∀ t, Q t → Q (step t)) (start : Q s) (n : Nat) : Q (step^[n] s) := by
  induction n with
  | zero => exact start
  | succ n ih =>
      rw [Function.iterate_succ_apply']
      exact kept _ ih

/-- The loop is left, if one of the attempts is good. -/
theorem reaches_of_attempt (success : ∀ k t, P k t → G k → R (step t))
    (again : ∀ k t, P k t → ¬ G k → P (k + 1) (step t)) {k : Nat} (attempt : G k) {first : Nat}
    (earlier : first ≤ k) (start : P first s) : Reaches step s R := by
  induction left : k - first generalizing first s with
  | zero =>
      have last : first = k := by omega
      subst last
      exact ⟨1, success first s start attempt⟩
  | succ left ih =>
      by_cases now : G first
      · exact ⟨1, success first s start now⟩
      · apply Reaches.of_step
        exact ih (by omega) (again first s start now) (by omega)

/-- The loop is never left, if none of them is. -/
theorem stays_of_no_attempt (again : ∀ k t, P k t → ¬ G k → P (k + 1) (step t))
    (none : ∀ k, ¬ G k) (start : P 0 s) (n : Nat) : ∃ k, P k (step^[n] s) := by
  apply stays (Q := fun t => ∃ k, P k t) _ ⟨0, start⟩
  rintro t ⟨k, inside⟩
  exact ⟨k + 1, again k t inside (none k)⟩

end Iteration

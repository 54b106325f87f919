import Mathlib.Data.List.Basic

/-!
# The latest value of a key

Each entry of a history has a key and may have a value for it. A component that keeps, for
every key, the value of the last entry that had one is right as long as it follows `latest`
from entry to entry.
-/

universe u v w

variable {ρ : Type u} {κ : Type v} {γ : Type w} [DecidableEq κ]

/-- The value of the last entry of the history for the key that has one. -/
def latest (key : ρ → κ) (value : ρ → Option γ) (history : List ρ) (k : κ) : Option γ :=
  (history.filterMap fun r => if key r = k then value r else none).getLast?

variable {key : ρ → κ} {value : ρ → Option γ}

@[simp] theorem latest_nil (k : κ) : latest key value [] k = none := rfl

theorem latest_concat (history : List ρ) (r : ρ) (k : κ) :
    latest key value (history ++ [r]) k =
      if key r = k then (value r).or (latest key value history k)
      else latest key value history k := by
  rw [latest, List.filterMap_append, List.getLast?_append]
  by_cases own : key r = k
  · cases given : value r with
    | none => simp [own, given, latest]
    | some v => simp [own, given]
  · simp [own, latest]

theorem latest_concat_self (history : List ρ) (r : ρ) :
    latest key value (history ++ [r]) (key r) =
      (value r).or (latest key value history (key r)) := by
  rw [latest_concat, if_pos rfl]

theorem latest_concat_ne {r : ρ} {k : κ} (history : List ρ) (other : key r ≠ k) :
    latest key value (history ++ [r]) k = latest key value history k := by
  rw [latest_concat, if_neg other]

import Mathlib.Logic.Relation
import Mathlib.Order.WellFoundedSet

/-!
# Induction along an acyclic relation

A relation without cycles is well founded on every finite set. The induction
rule is stated for the elements of such a set, so that the relation may live on
an infinite type.
-/

universe u

variable {α : Type u}

/-- No element is reached from itself by one or more steps. -/
def Acyclic (r : α → α → Prop) : Prop := ∀ a, ¬ Relation.TransGen r a a

namespace Acyclic

variable {r : α → α → Prop}

theorem of_rank (rank : α → Nat) (climbs : ∀ a b, r a b → rank a < rank b) : Acyclic r := by
  intro a loop
  have rises : ∀ b, Relation.TransGen r a b → rank a < rank b := by
    intro b path
    induction path with
    | single first => exact climbs _ _ first
    | tail _ last ih => exact ih.trans (climbs _ _ last)
  exact lt_irrefl _ (rises a loop)

theorem wellFoundedOn (acyclic : Acyclic r) {s : Set α} (finite : s.Finite) :
    s.WellFoundedOn (Relation.TransGen r) := by
  have irrefl : Std.Irrefl (Relation.TransGen r) := ⟨acyclic⟩
  have order : IsStrictOrder α (Relation.TransGen r) := {}
  exact finite.wellFoundedOn

/-- What holds of an element whenever it holds of all below it holds throughout. -/
theorem induction_on (acyclic : Acyclic r) {s : Set α} (finite : s.Finite) {P : α → Prop}
    (step : ∀ a ∈ s, (∀ b ∈ s, r b a → P b) → P a) : ∀ a ∈ s, P a := by
  intro a mem
  refine (acyclic.wellFoundedOn finite).induction mem (P := P) ?_
  intro a mem below
  exact step a mem (fun b mem' lower => below b mem' (.single lower))

end Acyclic

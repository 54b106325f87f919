import Sspl.Node.SasPort
import Sspl.Python.Integer

/-!
# The names of the phys

The kernel names a phy after its host and its number on the adapter, and a phy of an expander
after the host, the expander and the number there. `sort_phy_list` goes by what follows the first
colon. That is the number for a phy of an adapter, and the expander for any other.
-/

namespace Sspl

namespace Node

open Iem (Text)

namespace SasPort

/-- The parts of a name: `phy-0:12`, or `phy-0:1:12` behind an expander. -/
structure PhyName where
  host : Nat
  expander : Option Nat
  num : Nat
  deriving DecidableEq

namespace PhyName

def suffix (p : PhyName) : Text :=
  match p.expander with
  | none => Nat.toDigits 10 p.num
  | some expander => Nat.toDigits 10 expander ++ ':' :: Nat.toDigits 10 p.num

def text (p : PhyName) : Text := "phy-".toList ++ Nat.toDigits 10 p.host ++ ':' :: p.suffix

/-- The number that follows the first colon. -/
def key (p : PhyName) : Nat := p.expander.getD p.num

end PhyName

/-- A directory with phys in it, as the kernel names them; no two have the same name. -/
structure SasPhyDir where
  phys : List PhyName
  distinct : (phys.map PhyName.text).Nodup

/-- The phys of the adapter of a host. -/
def OnAdapter (host : Nat) (p : PhyName) : Prop := p.host = host ∧ p.expander = none

instance (host : Nat) (p : PhyName) : Decidable (OnAdapter host p) :=
  inferInstanceAs (Decidable (_ ∧ _))

/-- The phys of all the ports, port after port. -/
def allPortPhys (sorted : List Text) : List Text :=
  (List.finRange numSasPorts).flatMap (portPhys sorted)

/-- The list has been sorted: it is a permutation, the phys of each adapter are in the order of
their numbers, and the ports have each phy once. -/
def SortsAll (dir : SasPhyDir) (result : Except PyErr (List Text)) : Prop :=
  ∃ sorted : List PhyName, result = .ok (sorted.map PhyName.text) ∧ sorted.Perm dir.phys ∧
    (∀ host, ((sorted.filter (OnAdapter host ·)).map PhyName.num).Pairwise (· < ·)) ∧
    (allPortPhys (sorted.map PhyName.text)).Perm (dir.phys.map PhyName.text)

section Names

variable {p : PhyName}

theorem colon_notMem_toDigits (n : Nat) : ':' ∉ Nat.toDigits 10 n := by
  intro mem
  exact absurd (isDigit_toDigits mem) (by decide)

/-- What is between the first colon and the next one. -/
theorem splitOn_suffix (p : PhyName) :
    (p.suffix.splitOn ':')[0]? = some (Nat.toDigits 10 p.key) := by
  unfold PhyName.suffix PhyName.key
  cases p.expander with
  | none =>
      rw [List.splitOn_eq_singleton (colon_notMem_toDigits _)]
      rfl
  | some expander =>
      dsimp only
      rw [List.splitOn_append_cons_self, List.splitOn_eq_singleton (colon_notMem_toDigits _)]
      rfl

theorem phyNum_text (p : PhyName) : phyNum p.text = .ok (p.key : Int) := by
  have front : ':' ∉ "phy-".toList ++ Nat.toDigits 10 p.host := by
    intro mem
    obtain mem | mem := List.mem_append.mp mem
    · exact absurd mem (by decide)
    · exact colon_notMem_toDigits _ mem
  have second : (p.text.splitOn ':')[1]? = some (Nat.toDigits 10 p.key) := by
    rw [PhyName.text, List.splitOn_append_cons_self, List.splitOn_eq_singleton front]
    exact splitOn_suffix p
  rw [phyNum, second]
  dsimp only
  rw [parseInt_toDigits]

/-- Pieces of one length, cut one after the other. -/
theorem flatMap_range_take {α : Type} (l : List α) (size count : Nat) :
    (List.range count).flatMap (fun i => (l.drop (size * i)).take size) =
      l.take (size * count) := by
  induction count with
  | zero => simp
  | succ count ih =>
      rw [List.range_succ, List.flatMap_append, ih, List.flatMap_singleton, Nat.mul_succ,
        List.take_add]

/-- The ports take what they have from the first sixteen names. -/
theorem allPortPhys_eq (sorted : List Text) : allPortPhys sorted = sorted.take 16 := by
  have pieces := flatMap_range_take sorted numPhysPerPort numSasPorts
  rw [← List.map_coe_finRange_eq_range, List.flatMap_map] at pieces
  exact pieces

theorem allPortPhys_perm_iff (sorted : List Text) :
    (allPortPhys sorted).Perm sorted ↔ sorted.length ≤ 16 := by
  rw [allPortPhys_eq]
  constructor
  · intro perm
    have length := perm.length_eq
    rw [List.length_take] at length
    omega
  · intro few
    rw [List.take_of_length_le few]

end Names

section Sorted

variable {dir : SasPhyDir}

/-- What `sort_phy_list` reads in a name. -/
def numOf (phy : Text) : Int := (phyNum phy).toOption.getD 0

theorem numOf_text (p : PhyName) : numOf p.text = p.key := by
  rw [numOf, phyNum_text]
  rfl

theorem known_nums (phys : List PhyName) :
    ∀ phy ∈ phys.map PhyName.text, phyNum phy = .ok (numOf phy) := by
  intro phy mem
  obtain ⟨p, -, rfl⟩ := List.mem_map.mp mem
  rw [phyNum_text, numOf_text]

theorem map_numOf (phys : List PhyName) :
    (phys.map PhyName.text).map numOf = phys.map fun p => (p.key : Int) := by
  rw [List.map_map]
  exact List.map_congr_left fun p _ => numOf_text p

/-- Sorted by the number after the first colon. -/
def byKey (phys : List PhyName) : List PhyName := phys.insertionSort fun p q => p.key ≤ q.key

theorem sortPhyList_text (phys : List PhyName) :
    sortPhyList (phys.map PhyName.text) =
      .ok ((byKey phys).map fun p => phyNumDict (phys.map PhyName.text) p.key) := by
  have sorted : (byKey phys).map (fun p => (p.key : Int)) =
      (phys.map fun p => (p.key : Int)).insertionSort (· ≤ ·) := by
    refine List.map_insertionSort _ _ _ _ fun p _ q _ => ?_
    exact Int.ofNat_le.symm
  rw [sortPhyList_of_nums (known_nums phys), map_numOf, ← sorted, List.map_map]
  rfl

theorem byKey_perm (phys : List PhyName) : (byKey phys).Perm phys := List.perm_insertionSort _ _

/-- Where the numbers differ, the names are those of the sorted list. -/
theorem sortPhyList_of_nodup (nodup : (dir.phys.map PhyName.key).Nodup) :
    sortPhyList (dir.phys.map PhyName.text) = .ok ((byKey dir.phys).map PhyName.text) := by
  have nums : ((dir.phys.map PhyName.text).map numOf).Nodup := by
    have ints := nodup.map (Nat.cast_injective (R := Int))
    rw [List.map_map] at ints
    rw [map_numOf]
    exact ints
  rw [sortPhyList_text]
  congr 1
  refine List.map_congr_left fun p mem => ?_
  have among := List.mem_map_of_mem (f := PhyName.text) ((byKey_perm _).mem_iff.mp mem)
  rw [← numOf_text]
  exact phyNumDict_num (known_nums _) nums among

/-- The phys of an adapter are in the order of their numbers. -/
theorem byKey_increasing (nodup : (dir.phys.map PhyName.key).Nodup) (host : Nat) :
    (((byKey dir.phys).filter (OnAdapter host ·)).map PhyName.num).Pairwise (· < ·) := by
  have sorted : (byKey dir.phys).Pairwise fun p q => p.key ≤ q.key :=
    List.pairwise_insertionSort _ _
  have apart : (byKey dir.phys).Pairwise fun p q => p.key ≠ q.key :=
    List.pairwise_map.mp (((byKey_perm dir.phys).map PhyName.key).nodup_iff.mpr nodup)
  rw [List.pairwise_map, List.pairwise_filter]
  refine (sorted.and apart).imp fun {p q} both first second => ?_
  obtain ⟨-, first⟩ := of_decide_eq_true first
  obtain ⟨-, second⟩ := of_decide_eq_true second
  obtain ⟨le, ne⟩ := both
  rw [PhyName.key, PhyName.key, first, second] at le ne
  exact lt_of_le_of_ne le ne

/-- A number that two names share gives one of them twice. -/
theorem nodup_of_sorts (sorts : SortsAll dir (sortPhyList (dir.phys.map PhyName.text))) :
    (dir.phys.map PhyName.key).Nodup := by
  obtain ⟨sorted, result, perm, -⟩ := sorts
  have names := (perm.map PhyName.text).nodup_iff.mpr dir.distinct
  rw [sortPhyList_text] at result
  injection result with same
  rw [← same] at names
  have split : ((byKey dir.phys).map fun p =>
      phyNumDict (dir.phys.map PhyName.text) p.key) = ((byKey dir.phys).map PhyName.key).map
        fun key : Nat => phyNumDict (dir.phys.map PhyName.text) key := by
    rw [List.map_map]
    rfl
  rw [split] at names
  exact ((byKey_perm dir.phys).map PhyName.key).nodup_iff.mp (List.Nodup.of_map _ names)

/-- The list is sorted exactly if the number after the first colon is another one for each phy,
and the ports have all phys exactly if there are at most sixteen. -/
theorem phys_sorted_iff (dir : SasPhyDir) :
    SortsAll dir (sortPhyList (dir.phys.map PhyName.text)) ↔
      (dir.phys.map PhyName.key).Nodup ∧ dir.phys.length ≤ 16 := by
  constructor
  · intro sorts
    refine ⟨nodup_of_sorts sorts, ?_⟩
    obtain ⟨sorted, -, perm, -, ports⟩ := sorts
    have whole := ports.trans (perm.map PhyName.text).symm
    have few := (allPortPhys_perm_iff _).mp whole
    rw [List.length_map, perm.length_eq] at few
    exact few
  · rintro ⟨nodup, few⟩
    have perm := byKey_perm dir.phys
    refine ⟨byKey dir.phys, sortPhyList_of_nodup nodup, perm, byKey_increasing nodup, ?_⟩
    refine ((allPortPhys_perm_iff _).mpr ?_).trans (perm.map PhyName.text)
    rw [List.length_map, perm.length_eq]
    exact few

end Sorted

namespace Example

/-- The first phys of two adapters. -/
def twoHosts : SasPhyDir := ⟨[⟨0, none, 0⟩, ⟨1, none, 0⟩], by decide⟩

theorem twoHosts_lost : sortPhyList (twoHosts.phys.map PhyName.text) =
    .ok ["phy-1:0".toList, "phy-1:0".toList] := by
  decide +kernel

/-- Not every list of names is sorted. -/
theorem phy_named_twice : ¬ ∀ dir, SortsAll dir (sortPhyList (dir.phys.map PhyName.text)) := by
  intro all
  obtain ⟨sorted, result, perm, -⟩ := all twoHosts
  have names := (perm.map PhyName.text).nodup_iff.mpr twoHosts.distinct
  rw [twoHosts_lost] at result
  injection result with same
  rw [← same] at names
  exact absurd names (by decide)

end Example

end SasPort

end Node

end Sspl

import Sspl.Foundation.Intervals
import Sspl.Node.Cpu
import Sspl.Python.Integer

/-!
# The list of CPUs of the kernel

The kernel writes a set of CPUs as the maximal intervals of it in ascending order, an interval of
one CPU as its number and a longer one as its two ends. `convert_cpu_info_list` gives the numbers
of the set back.
-/

namespace Sspl

namespace Node

open Iem (Text)

/-- `n`, or `a-b` for an interval of several CPUs. -/
def intervalText (i : Interval) : Text :=
  if i.first = i.last then Nat.toDigits 10 i.first
  else Nat.toDigits 10 i.first ++ '-' :: Nat.toDigits 10 i.last

def listText (intervals : List Interval) : Text := [','].intercalate (intervals.map intervalText)

/-- The text of the kernel for a set of CPUs. -/
def kernelText (cpus : Finset Nat) : Text := listText (Interval.cut (cpus.sort (· ≤ ·)))

/-- The intervals of the text are as long as they can be. -/
theorem kernelText_eq {cpus : Finset Nat} {intervals : List Interval}
    (maximal : Interval.Maximal intervals)
    (mem : ∀ n, n ∈ cpus ↔ ∃ i ∈ intervals, i.first ≤ n ∧ n ≤ i.last) :
    kernelText cpus = listText intervals := by
  have cut := (Interval.cut_sort_eq_iff cpus intervals).mpr ⟨maximal, mem⟩
  rw [kernelText, cut]

example : listText (Interval.cut [0, 1, 2, 4, 6, 7, 8]) = "0-2,4,6-8".toList := by decide +kernel

theorem notMem_toDigits {n : Nat} {c : Char} (other : c.isDigit = false) :
    c ∉ Nat.toDigits 10 n := by
  intro mem
  rw [isDigit_toDigits mem] at other
  cases other

theorem cpuIndex_toDigits (n : Nat) : cpuIndex (Nat.toDigits 10 n) = .ok (n : Int) := by
  rw [cpuIndex, parseInt_toDigits]

theorem cpuRange_members (i : Interval) :
    cpuRange i.first i.last = i.members.map (fun n : Nat => (n : Int)) := by
  have le := i.le
  have length : ((i.last : Int) + 1 - i.first).toNat = i.last + 1 - i.first := by omega
  rw [cpuRange, length, Interval.members, List.range'_eq_map_range, List.map_map, bind_pure_comp,
    List.map_eq_map, List.map_map]
  refine List.map_congr_left ?_
  intro n mem
  simp

/-- An item stands for the CPUs of the interval. -/
theorem cpuItem_intervalText (i : Interval) :
    cpuItem (intervalText i) = .ok (i.members.map (fun n : Nat => (n : Int))) := by
  have le := i.le
  rw [intervalText]
  split
  · rename_i one
    have members : i.members = [i.first] := by
      rw [Interval.members_eq_cons, one, Nat.sub_self]
      rfl
    rw [cpuItem, List.splitOn_eq_singleton (notMem_toDigits rfl), members]
    simp only [cpuIndex_toDigits]
    rfl
  · have parts : (Nat.toDigits 10 i.first ++ '-' :: Nat.toDigits 10 i.last).splitOn '-' =
        [Nat.toDigits 10 i.first, Nat.toDigits 10 i.last] := by
      rw [List.splitOn_append_cons_self, List.splitOn_eq_singleton (notMem_toDigits rfl),
        List.splitOn_eq_singleton (notMem_toDigits rfl)]
      rfl
    rw [cpuItem, parts, ← cpuRange_members]
    simp only [cpuIndex_toDigits]
    rfl

theorem notMem_intervalText {c : Char} (other : c.isDigit = false) (dash : c ≠ '-')
    (i : Interval) : c ∉ intervalText i := by
  rw [intervalText]
  split
  · exact notMem_toDigits other
  · rw [List.mem_append, List.mem_cons, not_or, not_or]
    exact ⟨notMem_toDigits other, dash, notMem_toDigits other⟩

theorem notMem_listText {c : Char} (other : c.isDigit = false) (dash : c ≠ '-') (comma : c ≠ ',')
    (intervals : List Interval) : c ∉ listText intervals := by
  induction intervals with
  | nil => exact List.not_mem_nil
  | cons i rest ih =>
      cases rest with
      | nil =>
          rw [listText, List.map_singleton, List.intercalate_singleton]
          exact notMem_intervalText other dash i
      | cons j rest =>
          rw [listText, List.map_cons, List.map_cons, List.intercalate_cons_cons,
            List.mem_append, List.mem_append, List.mem_singleton, not_or, not_or]
          exact ⟨⟨notMem_intervalText other dash i, comma⟩, ih⟩

/-- The loop adds the CPUs of each item in turn. -/
theorem foldlM_cpuItem (intervals : List Interval) (cpuList : List Int) :
    (intervals.map intervalText).foldlM
        (fun cpuList item => do return cpuList ++ (← cpuItem item)) cpuList =
      (.ok (cpuList ++ (Interval.all intervals).map (fun n : Nat => (n : Int))) :
        Except PyErr (List Int)) := by
  induction intervals generalizing cpuList with
  | nil =>
      simp
      rfl
  | cons i rest ih =>
      rw [List.map_cons, List.foldlM_cons, cpuItem_intervalText]
      show (rest.map intervalText).foldlM _
        (cpuList ++ i.members.map (fun n : Nat => (n : Int))) = _
      rw [ih, Interval.all_cons, List.map_append, List.append_assoc]

theorem convertCpuInfoList_listText {intervals : List Interval} (some_ : intervals ≠ []) :
    convertCpuInfoList (listText intervals) =
      .ok ((Interval.all intervals).map (fun n : Nat => (n : Int))) := by
  have items : (listText intervals).splitOn ',' = intervals.map intervalText := by
    refine List.splitOn_intercalate ',' ?_ ?_
    · intro item mem
      obtain ⟨i, -, rfl⟩ := List.mem_map.mp mem
      exact notMem_intervalText rfl (by decide) i
    · simpa using some_
  rw [convertCpuInfoList, items, foldlM_cpuItem, List.nil_append]

/-- A set that is not empty has an interval. -/
theorem convertCpuInfoList_cut {numbers : List Nat} (some_ : numbers ≠ []) :
    convertCpuInfoList (listText (Interval.cut numbers)) =
      .ok (numbers.map (fun n : Nat => (n : Int))) := by
  have all := Interval.all_cut numbers
  have intervals : Interval.cut numbers ≠ [] := by
    intro empty
    rw [empty] at all
    exact some_ all.symm
  rw [convertCpuInfoList_listText intervals, all]

/-- The text that the kernel prints for a set of CPUs, as ranges between commas, is read back: the
numbers of the set come out in ascending order. -/
theorem convertCpuInfoList_kernelText (cpus : Finset Nat) (some_ : cpus.Nonempty) :
    convertCpuInfoList (kernelText cpus) =
      .ok ((cpus.sort (· ≤ ·)).map (fun n : Nat => (n : Int))) := by
  refine convertCpuInfoList_cut ?_
  obtain ⟨n, mem⟩ := some_
  exact List.ne_nil_of_mem ((Finset.mem_sort (· ≤ ·)).mpr mem)

/-- The text is `0-1,3`. -/
theorem convertCpuInfoList_kernelText_gap :
    ({0, 1, 3} : Finset Nat).Nonempty ∧
    convertCpuInfoList (kernelText {0, 1, 3}) =
      .ok ((({0, 1, 3} : Finset Nat).sort (· ≤ ·)).map (fun n : Nat => (n : Int))) ∧
    ({0, 1, 3} : Finset Nat).sort (· ≤ ·) = [0, 1, 3] := by
  refine ⟨by decide, convertCpuInfoList_kernelText {0, 1, 3} (by decide), ?_⟩
  refine (Finset.sortedLT_sort {0, 1, 3}).eq_of_mem_iff (by decide) ?_
  intro n
  simp

end Node

end Sspl

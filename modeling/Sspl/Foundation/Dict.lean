import Mathlib.Data.List.Basic
import Mathlib.Data.List.Nodup

/-!
# Dictionaries

A dictionary keeps its items in the order in which their keys were inserted, as Python's
do: setting an existing key changes the value in its place. The keys are distinct.
`get?_set` and `get?_erase` say what the operations do to lookups, and `mem_items` turns
a statement about the items into one about lookups.
-/

universe u v

structure Dict (κ : Type u) (ν : Type v) where
  items : List (κ × ν)
  nodup : (items.map Prod.fst).Nodup

namespace Dict

variable {κ : Type u} {ν : Type v}

def empty : Dict κ ν := ⟨[], .nil⟩

def keys (d : Dict κ ν) : List κ := d.items.map Prod.fst

variable [DecidableEq κ]

def getItems (k : κ) : List (κ × ν) → Option ν
  | [] => none
  | (m, v) :: rest => if m = k then some v else getItems k rest

/-- `d.get(k)`. -/
def get? (d : Dict κ ν) (k : κ) : Option ν := getItems k d.items

def setItems (k : κ) (v : ν) : List (κ × ν) → List (κ × ν)
  | [] => [(k, v)]
  | (m, old) :: rest => if m = k then (k, v) :: rest else (m, old) :: setItems k v rest

theorem keys_setItems (k : κ) (v : ν) (items : List (κ × ν)) :
    (setItems k v items).map Prod.fst =
      if k ∈ items.map Prod.fst then items.map Prod.fst else items.map Prod.fst ++ [k] := by
  induction items with
  | nil => simp [setItems]
  | cons item rest ih =>
      obtain ⟨m, old⟩ := item
      by_cases same : m = k
      · simp [setItems, same]
      · simp only [setItems, same, if_false, List.map_cons, ih, List.mem_cons, Ne.symm same,
          false_or]
        split <;> simp

/-- `d[k] = v`. -/
def set (d : Dict κ ν) (k : κ) (v : ν) : Dict κ ν where
  items := setItems k v d.items
  nodup := by
    rw [keys_setItems]
    split
    · exact d.nodup
    · exact List.nodup_append.mpr ⟨d.nodup, List.nodup_singleton k, by
        rintro m mem _ last rfl
        exact absurd (List.mem_singleton.mp last ▸ mem) ‹_›⟩

/-- `d.pop(k, None)`. -/
def erase (d : Dict κ ν) (k : κ) : Dict κ ν where
  items := d.items.filter (fun item => item.1 ≠ k)
  nodup := d.nodup.sublist (List.filter_sublist.map Prod.fst)

variable {d : Dict κ ν} {k m : κ} {v w : ν}

@[simp] theorem get?_empty (k : κ) : (empty : Dict κ ν).get? k = none := rfl

theorem mem_items : (k, v) ∈ d.items ↔ d.get? k = some v := by
  obtain ⟨items, nodup⟩ := d
  simp only [get?]
  induction items with
  | nil => simp [getItems]
  | cons item rest ih =>
      obtain ⟨m, w⟩ := item
      obtain ⟨fresh, nodup⟩ := List.nodup_cons.mp nodup
      by_cases same : m = k
      · subst same
        have other : (m, v) ∉ rest := fun mem => fresh (List.mem_map.mpr ⟨_, mem, rfl⟩)
        simp [getItems, other, eq_comm]
      · simp [getItems, same, Ne.symm same, ih nodup]

theorem mem_keys : k ∈ d.keys ↔ ∃ v, d.get? k = some v := by
  simp [keys, ← mem_items]

theorem get?_set (d : Dict κ ν) (k m : κ) (v : ν) :
    (d.set k v).get? m = if m = k then some v else d.get? m := by
  obtain ⟨items, nodup⟩ := d
  simp only [get?, set]
  clear nodup
  induction items with
  | nil => simp [setItems, getItems, eq_comm]
  | cons item rest ih =>
      obtain ⟨o, old⟩ := item
      by_cases same : o = k
      · subst same
        by_cases here : o = m
        · simp [setItems, getItems, here]
        · simp [setItems, getItems, here, show m ≠ o from fun same => here same.symm]
      · by_cases here : o = m
        · subst here
          simp [setItems, getItems, same]
        · simp [setItems, getItems, same, here, ih]

@[simp] theorem get?_set_self (d : Dict κ ν) (k : κ) (v : ν) : (d.set k v).get? k = some v := by
  simp [get?_set]

theorem get?_set_of_ne (d : Dict κ ν) (v : ν) (other : m ≠ k) :
    (d.set k v).get? m = d.get? m := by
  simp [get?_set, other]

theorem get?_erase (d : Dict κ ν) (k m : κ) :
    (d.erase k).get? m = if m = k then none else d.get? m := by
  refine Option.ext fun v => ?_
  rw [← mem_items]
  by_cases same : m = k <;> simp [erase, same, ← mem_items]

/-- `d.update(items)`: the last value of a key stands. -/
def update (d : Dict κ ν) (items : List (κ × ν)) : Dict κ ν :=
  items.foldl (fun d item => d.set item.1 item.2) d

@[simp] theorem update_cons (d : Dict κ ν) (item : κ × ν) (rest : List (κ × ν)) :
    d.update (item :: rest) = (d.set item.1 item.2).update rest := rfl

theorem get?_update_of_notMem {items : List (κ × ν)} (d : Dict κ ν)
    (fresh : k ∉ items.map Prod.fst) : (d.update items).get? k = d.get? k := by
  induction items generalizing d with
  | nil => rfl
  | cons item rest ih =>
      rw [List.map_cons, List.mem_cons, not_or] at fresh
      rw [update_cons, ih _ fresh.2, get?_set_of_ne d _ fresh.1]

/-- Where no key comes twice, each keeps its value. -/
theorem get?_update {items : List (κ × ν)} (d : Dict κ ν) (nodup : (items.map Prod.fst).Nodup)
    (mem : (k, v) ∈ items) : (d.update items).get? k = some v := by
  induction items generalizing d with
  | nil => cases mem
  | cons item rest ih =>
      obtain ⟨fresh, nodup⟩ := List.nodup_cons.mp nodup
      rw [update_cons]
      obtain rfl | later := List.mem_cons.mp mem
      · rw [get?_update_of_notMem _ fresh, get?_set_self]
      · exact ih _ nodup later

/-- Updating with another dictionary: its values come first. -/
theorem get?_update_dict (d e : Dict κ ν) (k : κ) :
    (d.update e.items).get? k = (e.get? k).or (d.get? k) := by
  cases given : e.get? k with
  | some v => exact get?_update d e.nodup (mem_items.mpr given)
  | none =>
      have fresh : k ∉ e.items.map Prod.fst := by
        intro mem
        obtain ⟨v, found⟩ := mem_keys.mp mem
        cases given.symm.trans found
      rw [get?_update_of_notMem d fresh, Option.none_or]

/-- A key of the items has its value from them, whatever the dictionary had. -/
theorem get?_update_congr {items : List (κ × ν)} (d e : Dict κ ν)
    (mem : k ∈ items.map Prod.fst) : (d.update items).get? k = (e.update items).get? k := by
  induction items generalizing d e with
  | nil => cases mem
  | cons item rest ih =>
      rw [update_cons, update_cons]
      by_cases later : k ∈ rest.map Prod.fst
      · exact ih _ _ later
      · obtain same | mem := List.mem_cons.mp mem
        · rw [get?_update_of_notMem _ later, get?_update_of_notMem _ later, same, get?_set_self,
            get?_set_self]
        · exact absurd mem later

theorem mem_keys_update {items : List (κ × ν)} {d : Dict κ ν} :
    k ∈ (d.update items).keys ↔ k ∈ d.keys ∨ k ∈ items.map Prod.fst := by
  induction items generalizing d with
  | nil => simp [update]
  | cons item rest ih =>
      have first : k ∈ (d.set item.1 item.2).keys ↔ k = item.1 ∨ k ∈ d.keys := by
        rw [mem_keys, mem_keys, get?_set]
        split <;> simp_all
      rw [update_cons, ih, first, List.map_cons, List.mem_cons]
      tauto

/-- A dictionary is its keys in order and their values. -/
theorem ext_keys {d e : Dict κ ν} (keys : d.keys = e.keys) (values : ∀ k, d.get? k = e.get? k) :
    d = e := by
  have lengths : d.items.length = e.items.length := by
    simpa [Dict.keys] using congrArg List.length keys
  have items : d.items = e.items := by
    refine List.ext_getElem lengths fun i bound bound' => ?_
    have key : d.items[i].1 = e.items[i].1 := by
      have same := List.getElem_of_eq keys (i := i) (by simpa [Dict.keys] using bound)
      simpa [Dict.keys] using same
    have left : d.get? d.items[i].1 = some d.items[i].2 :=
      mem_items.mp (List.getElem_mem bound)
    have right : e.get? e.items[i].1 = some e.items[i].2 :=
      mem_items.mp (List.getElem_mem bound')
    rw [key, values, right] at left
    exact Prod.ext key (Option.some.inj left).symm
  obtain ⟨items, nodup⟩ := d
  cases items
  rfl

/-- The items whose key meets the condition, in their order. -/
def filterKeys (d : Dict κ ν) (p : κ → Bool) : Dict κ ν where
  items := d.items.filter (fun item => p item.1)
  nodup := d.nodup.sublist (List.filter_sublist.map Prod.fst)

/-- `d == e`: the order of the items does not matter. -/
def Same (d e : Dict κ ν) : Prop := ∀ k, d.get? k = e.get? k

theorem Same.symm {d e : Dict κ ν} (same : Same d e) : Same e d := fun k => (same k).symm

theorem Same.trans {d e f : Dict κ ν} (first : Same d e) (second : Same e f) : Same d f :=
  fun k => (first k).trans (second k)

end Dict

import Mathlib.Data.List.Basic
import Sspl.Python.Value

/-!
# Configurations addressed by paths

A configuration is a dictionary of dictionaries whose values are found by paths, written with
`>` between the names. What is not a dictionary is a leaf, a list too. To set a value under a
path replaces whatever is there, and makes the dictionaries on the way, also in the place of a
leaf.

Of what was set one after the other, the last value is seen under a path whose own path is
comparable with it, that is, a prefix of it or the other way round.
-/

namespace Sspl

namespace Conf

abbrev Path := List String

/-- The names of a path. -/
def parsePath (text : String) : Path := (text.toList.splitOn '>').map String.ofList

def isLeaf : Json → Bool
  | .dict _ => false
  | _ => true

/-- What stands under the path. -/
def at? : Json → Path → Option Json
  | value, [] => some value
  | .dict fields, name :: rest => (fields.lookup name).bind fun value => at? value rest
  | _, _ :: _ => none
termination_by structural _ path => path

/-- The leaf under the path. -/
def leaf? (value : Json) (path : Path) : Option Json := (at? value path).filter isLeaf

/-- `Conf.get`. -/
def get (value : Json) (path : Path) : Json := (at? value path).getD .null

/-- `Conf.set`. -/
def set : Path → Json → Json → Json
  | [], new, _ => new
  | name :: rest, new, .dict fields =>
    .dict (fields.set name (set rest new ((fields.lookup name).getD (.dict .nil))))
  | name :: rest, new, _ => .dict (.cons name (set rest new (.dict .nil)) .nil)

mutual

/-- `Conf.get_keys`, without the indices of lists. -/
def getKeys : Json → List Path
  | .dict fields => getFieldKeys fields
  | _ => [[]]

/-- A dictionary has one entry for a name, which is the first here. -/
def getFieldKeys : Fields → List Path
  | .nil => []
  | .cons name value rest =>
    (getKeys value).map (name :: ·) ++ (getFieldKeys rest).filter (·.head? ≠ some name)

end

/-- Set one value after the other. -/
def setAll (value : Json) (entries : List (Path × Json)) : Json :=
  entries.foldl (fun value entry => set entry.1 entry.2 value) value

/-- One path leads through the other. -/
def Comparable (p q : Path) : Prop := p <+: q ∨ q <+: p

instance (p q : Path) : Decidable (Comparable p q) := inferInstanceAs (Decidable (_ ∨ _))

/-- The last entry whose path is comparable with this one. -/
def lastComparable {α : Type} (entries : List (Path × α)) (path : Path) : Option (Path × α) :=
  entries.reverse.find? fun entry => Comparable entry.1 path

section

variable {value new : Json} {path other rest : Path} {name : String}

@[simp] theorem at?_nil : at? value [] = some value := by
  unfold at?
  rfl

theorem at?_cons : at? value (name :: rest) =
    (at? value [name]).bind fun inner => at? inner rest := by
  cases value <;> simp [at?]

theorem at?_append :
    at? value (path ++ rest) = (at? value path).bind fun inner => at? inner rest := by
  induction path generalizing value with
  | nil => simp
  | cons name path ih =>
      rw [List.cons_append, at?_cons, @at?_cons _ path, Option.bind_assoc]
      exact congrArg _ (funext fun inner => ih)

theorem at?_of_leaf (leaf : isLeaf value = true) (ne : path ≠ []) : at? value path = none := by
  cases path with
  | nil => exact absurd rfl ne
  | cons name rest =>
      cases value with
      | dict => cases leaf
      | null | bool | int | float | str | list => rfl

/-- Two leaves are never one below the other. -/
theorem eq_of_leaf_below (leaf : (leaf? value path).isSome = true)
    (below : (leaf? value (path ++ rest)).isSome = true) : rest = [] := by
  by_contra ne
  obtain ⟨inner, there⟩ := Option.isSome_iff_exists.mp leaf
  obtain ⟨found, isLeaf⟩ := Option.filter_eq_some_iff.mp there
  rw [leaf?, at?_append, found, Option.bind_some, at?_of_leaf isLeaf ne] at below
  cases below

/-- One name further, after something was set. -/
theorem at?_set_single (other : String) : at? (set (name :: path) new value) [other] =
    if other = name then some (set path new ((at? value [name]).getD (.dict .nil)))
    else at? value [other] := by
  cases value with
  | dict fields =>
      by_cases same : other = name
      · subst same
        simp [set, at?]
      · simp [set, at?, same, Fields.lookup_set_ne _ (Ne.symm same)]
  | null | bool | int | float | str | list =>
      by_cases same : other = name
      · simp [set, at?, same, Fields.lookup]
      · simp [set, at?, same, Fields.lookup, Ne.symm same]

theorem isLeaf_set_cons : isLeaf (set (name :: path) new value) = false := by
  cases value <;> rfl

theorem at?_set_below : at? (set path new value) (path ++ rest) = at? new rest := by
  induction path generalizing value with
  | nil => rfl
  | cons name path ih =>
      rw [List.cons_append, at?_cons, at?_set_single, if_pos rfl]
      exact ih

theorem at?_set_above (ne : rest ≠ []) :
    ∃ inner, at? (set (path ++ rest) new value) path = some inner ∧ isLeaf inner = false := by
  induction path generalizing value with
  | nil =>
      obtain ⟨name, rest, rfl⟩ := List.exists_cons_of_ne_nil ne
      exact ⟨_, at?_nil, isLeaf_set_cons⟩
  | cons name path ih =>
      rw [List.cons_append, at?_cons, at?_set_single, if_pos rfl]
      exact ih

theorem at?_set_other (apart : ¬Comparable path other) :
    at? (set path new value) other = at? value other := by
  induction path generalizing value other with
  | nil => exact absurd (.inl List.nil_prefix) apart
  | cons name path ih =>
      cases other with
      | nil => exact absurd (.inr List.nil_prefix) apart
      | cons first other =>
          rw [at?_cons, @at?_cons value, at?_set_single]
          by_cases same : first = name
          · subst same
            have deeper : ¬Comparable path other := by
              intro comparable
              apply apart
              exact comparable.imp (List.cons_prefix_cons.mpr ⟨rfl, ·⟩)
                (List.cons_prefix_cons.mpr ⟨rfl, ·⟩)
            rw [if_pos rfl, Option.bind_some, ih deeper]
            cases at? value [first] with
            | some inner => rfl
            | none =>
                cases other with
                | nil => exact absurd (.inr List.nil_prefix) deeper
                | cons => rfl
          · rw [if_neg same]

end

section

variable {α : Type} {entries more : List (Path × α)} {entry : Path × α} {path : Path}

theorem lastComparable_append : lastComparable (entries ++ more) path =
    (lastComparable more path).or (lastComparable entries path) := by
  rw [lastComparable, List.reverse_append, List.find?_append]
  rfl

theorem lastComparable_concat : lastComparable (entries ++ [entry]) path =
    if Comparable entry.1 path then some entry else lastComparable entries path := by
  rw [lastComparable_append]
  by_cases comparable : Comparable entry.1 path <;>
    simp [lastComparable, comparable]

theorem comparable_of_lastComparable (h : lastComparable entries path = some entry) :
    entry ∈ entries ∧ Comparable entry.1 path := by
  refine ⟨List.mem_reverse.mp (List.mem_of_find?_eq_some h), ?_⟩
  simpa using List.find?_some h

theorem lastComparable_eq_none :
    lastComparable entries path = none ↔ ∀ entry ∈ entries, ¬Comparable entry.1 path := by
  simp [lastComparable, List.find?_eq_none]

end

section

variable {value new : Json} {entries : List (Path × Json)} {path rest : Path}

theorem setAll_concat (entry : Path × Json) :
    setAll value (entries ++ [entry]) = set entry.1 entry.2 (setAll value entries) :=
  List.foldl_concat ..

theorem at?_setAll_none (h : lastComparable entries path = none) :
    at? (setAll value entries) path = at? value path := by
  induction entries using List.reverseRecOn with
  | nil => rfl
  | append_singleton entries entry ih =>
      rw [lastComparable_concat] at h
      split at h
      · cases h
      · rename_i apart
        rw [setAll_concat, at?_set_other apart, ih h]

theorem at?_setAll_below (h : lastComparable entries (path ++ rest) = some (path, new)) :
    at? (setAll value entries) (path ++ rest) = at? new rest := by
  induction entries using List.reverseRecOn with
  | nil => cases h
  | append_singleton entries entry ih =>
      rw [lastComparable_concat] at h
      rw [setAll_concat]
      split at h
      · cases h
        exact at?_set_below
      · rename_i apart
        rw [at?_set_other apart, ih h]

theorem at?_setAll_above (h : lastComparable entries path = some (path ++ rest, new))
    (ne : rest ≠ []) :
    ∃ inner, at? (setAll value entries) path = some inner ∧ isLeaf inner = false := by
  induction entries using List.reverseRecOn with
  | nil => cases h
  | append_singleton entries entry ih =>
      rw [lastComparable_concat] at h
      rw [setAll_concat]
      split at h
      · cases h
        exact at?_set_above ne
      · rename_i apart
        rw [at?_set_other apart]
        exact ih h

end

theorem isSome_leaf?_leaf {value : Json} (leaf : isLeaf value = true) (path : Path) :
    (leaf? value path).isSome = true ↔ path = [] := by
  by_cases ne : path = []
  · simp [leaf?, ne, leaf]
  · simp [leaf?, at?_of_leaf leaf ne, ne]

theorem getKeys_leaf {value : Json} (leaf : isLeaf value = true) : getKeys value = [[]] := by
  cases value with
  | dict => cases leaf
  | null | bool | int | float | str | list => simp [getKeys]

mutual

theorem mem_getKeys : ∀ (value : Json) (path : Path),
    path ∈ getKeys value ↔ (leaf? value path).isSome = true
  | .dict fields, path => by
      rw [getKeys, mem_getFieldKeys fields path]
      cases path with
      | nil => simp [leaf?, isLeaf]
      | cons name rest =>
          cases found : fields.lookup name with
          | none => simp [leaf?, at?, found]
          | some inner => simp [leaf?, at?, found]
  | .null, path | .bool _, path | .int _, path | .float _, path | .str _, path
  | .list _, path => by
      rw [isSome_leaf?_leaf rfl, getKeys_leaf rfl, List.mem_singleton]

theorem mem_getFieldKeys : ∀ (fields : Fields) (path : Path),
    path ∈ getFieldKeys fields ↔ ∃ name rest inner, path = name :: rest ∧
      fields.lookup name = some inner ∧ (leaf? inner rest).isSome = true
  | .nil, path => by simp [getFieldKeys, Fields.lookup]
  | .cons name value tail, path => by
      rw [getFieldKeys, List.mem_append, List.mem_map, List.mem_filter, mem_getFieldKeys tail path]
      constructor
      · rintro (⟨rest, mem, rfl⟩ | ⟨⟨other, rest, inner, rfl, found, leaf⟩, new⟩)
        · exact ⟨name, rest, value, rfl, by simp [Fields.lookup], (mem_getKeys value rest).mp mem⟩
        · refine ⟨other, rest, inner, rfl, ?_, leaf⟩
          have different : name ≠ other := by
            rintro rfl
            simp at new
          rw [Fields.lookup, if_neg different, found]
      · rintro ⟨other, rest, inner, rfl, found, leaf⟩
        by_cases same : name = other
        · subst same
          rw [Fields.lookup, if_pos rfl] at found
          cases found
          exact .inl ⟨rest, (mem_getKeys value rest).mpr leaf, rfl⟩
        · rw [Fields.lookup, if_neg same] at found
          exact .inr ⟨⟨other, rest, inner, rfl, found, leaf⟩, by simpa using Ne.symm same⟩

end

end Conf

end Sspl

import Mathlib.Data.List.Perm.Basic
import Sspl.Conf.Store

/-!
# Merging a new configuration into an existing one

`create_merged_config` sets, one after the other, the keys that only the new configuration has,
the renamed keys, the keys that both configurations have, and the change specification of the
new one. A rename may be that of a section, and it sets whatever `Conf.get` finds under the old
name, which is `None` when nothing is there.

The keys under `CHANGED` and `OBSOLETE` are the change specification; they always come from the
new configuration, and the law of the merge is about all the others.
-/

namespace Sspl

namespace Conf

/-- The order in which Python goes through a set of keys: any one, as it differs between
processes. -/
structure SetOrder where
  order : List Path → List Path
  perm : ∀ keys, (order keys).Perm keys

def changedName : String := "CHANGED"

def obsoleteName : String := "OBSOLETE"

/-- The old and the new key of an element of `CHANGED`, whose first key is looked at. -/
def changedKey (element : Json) : Except PyErr (Path × Path) :=
  match element, getKeys element with
  | .dict _, key :: _ =>
    match get element key with
    | .str target => .ok (key, parsePath target)
    | _ => .error .attributeError
  | _, _ => .error .other

/-- `changed_keys[key] = value`. -/
def setChanged (key value : Path) : List (Path × Path) → List (Path × Path)
  | [] => [(key, value)]
  | (k, old) :: rest =>
    if k = key then (k, value) :: rest else (k, old) :: setChanged key value rest

def changedItems (changed : List (Path × Path)) : Items → Except PyErr (List (Path × Path))
  | .nil => .ok changed
  | .cons element rest => do
    let (key, value) ← changedKey element
    changedItems (setChanged key value changed) rest

/-- `get_changed_keys`: the new key for each old one. -/
def getChangedKeys (new : Json) : Except PyErr (List (Path × Path)) :=
  match get new [changedName] with
  | .list items => changedItems [] items
  | value => if value.truthy then .error .typeError else .ok []

section

variable (order : SetOrder) (existing new : Json)

def addedKeys : List Path :=
  order.order ((getKeys new).filter (· ∉ getKeys existing))

def retainedKeys : List Path :=
  order.order ((getKeys existing).filter (· ∈ getKeys new))

/-- `create_merged_config`. -/
def createMergedConfig : Except PyErr Json := do
  let changedKeys ← getChangedKeys new
  let merged := setAll (.dict .nil)
    ((addedKeys order existing new).map fun key => (key, get new key))
  let merged := setAll merged (changedKeys.map fun changed => (changed.2, get existing changed.1))
  let merged := setAll merged
    ((retainedKeys order existing new).map fun key => (key, get existing key))
  let merged := set [changedName] (get new [changedName]) merged
  return set [obsoleteName] (get new [obsoleteName]) merged

end

/-- A path that is not in the change specification. -/
def Ordinary : Path → Prop
  | [] => False
  | name :: _ => name ≠ changedName ∧ name ≠ obsoleteName

instance : (path : Path) → Decidable (Ordinary path)
  | [] => .isFalse id
  | name :: _ => inferInstanceAs (Decidable (name ≠ changedName ∧ name ≠ obsoleteName))

/-- The renames by the new key. -/
def renamesOf (changed : List (Path × Path)) : List (Path × Path) :=
  changed.map fun entry => (entry.2, entry.1)

section

variable (existing new : Json) (renames : List (Path × Path)) (path : Path)

/-- The key that this one, or a section it is in, was renamed from; a later rename counts. -/
def renamedFrom : Option Path :=
  (renames.reverse.find? fun entry => entry.1 <+: path).map fun entry =>
    entry.2 ++ path.drop entry.1.length

/-- The leaf under a key by the law of the merge: the existing value, else the value under the
old name, else the new default, if the new configuration has the key. -/
def expected : Option Json :=
  (leaf? new path).map fun default =>
    (leaf? existing path).getD (((renamedFrom renames path).bind (leaf? existing)).getD default)

end

/-- The merged configuration is as the law says, and merging the new configuration into it
changes nothing. -/
def Upgrades (order order' : SetOrder) (existing new : Json) : Prop :=
  ∃ changed merged again, getChangedKeys new = .ok changed ∧
    createMergedConfig order existing new = .ok merged ∧
    (∀ path, Ordinary path → leaf? merged path = expected existing new (renamesOf changed) path) ∧
    createMergedConfig order' merged new = .ok again ∧
    ∀ path, leaf? again path = leaf? merged path

section

variable (existing new : Json) (renames : List (Path × Path))

/-- A key of both configurations. -/
def Shared (path : Path) : Prop :=
  (leaf? existing path).isSome = true ∧ (leaf? new path).isSome = true

/-- What is under a path of the merged configuration, if it is as the law says. -/
def outcome : Path → Option Json
  | [] => none
  | name :: rest =>
    if name = changedName ∨ name = obsoleteName then leaf? (get new [name]) rest
    else expected existing new renames (name :: rest)

/-- The merged configuration has something under the path. -/
def Stays : Path → Prop
  | [] => True
  | name :: rest =>
    if name = changedName ∨ name = obsoleteName then at? (get new [name]) rest ≠ none
    else
      (∃ key, (leaf? new key).isSome = true ∧ name :: rest <+: key) ∨
        (∀ key, (leaf? new key).isSome = true → ¬Comparable key (name :: rest)) ∧
          ∃ target source, lastComparable renames (name :: rest) = some (target, source) ∧
            ∀ below, name :: rest = target ++ below → at? (get existing source) below ≠ none

/-- A key that only the new configuration has and a rename reaches has a value under its old
name, or nothing is there and the default is `None` as well. -/
def Filled : Prop :=
  ∀ path, Ordinary path → (leaf? new path).isSome = true → leaf? existing path = none →
    ∀ target source, lastComparable renames path = some (target, source) →
      ∃ rest, path = target ++ rest ∧ ((leaf? existing (source ++ rest)).isSome = true ∨
        rest = [] ∧ at? existing source = none ∧ leaf? new path = some .null)

/-- No rename brings a key of the existing configuration that the new one does not have. -/
def NothingElse : Prop :=
  ∀ target source rest, Ordinary (target ++ rest) → leaf? new (target ++ rest) = none →
    (∀ key, Shared existing new key → ¬Comparable key (target ++ rest)) →
    lastComparable renames (target ++ rest) = some (target, source) →
      leaf? existing (source ++ rest) = none ∧ (rest = [] → at? existing source ≠ none)

/-- No rename brings such a key of the merged configuration. -/
def NothingAgain : Prop :=
  ∀ target source rest, Ordinary (target ++ rest) →
    (∀ key, (leaf? new key).isSome = true → ¬Comparable key (target ++ rest)) →
    lastComparable renames (target ++ rest) = some (target, source) →
      outcome existing new renames (source ++ rest) = none ∧
        (rest = [] → Stays existing new renames source)

/-- The renames fill in what they reach, and bring nothing that the new configuration does not
have, neither from the existing configuration nor from the merged one. -/
structure CleanRenames : Prop where
  filled : Filled existing new renames
  nothingElse : NothingElse existing new renames
  nothingAgain : NothingAgain existing new renames

end

section

variable {order : SetOrder} {existing new merged : Json} {changed renames : List (Path × Path)}
  {path key target source rest : Path} {name : String}

theorem mem_retainedKeys : key ∈ retainedKeys order existing new ↔ Shared existing new key := by
  rw [retainedKeys, (order.perm _).mem_iff, List.mem_filter, mem_getKeys, decide_eq_true_eq,
    mem_getKeys]
  rfl

theorem mem_addedKeys : key ∈ addedKeys order existing new ↔
    (leaf? new key).isSome = true ∧ leaf? existing key = none := by
  rw [addedKeys, (order.perm _).mem_iff, List.mem_filter, mem_getKeys, decide_eq_true_eq,
    mem_getKeys, Option.not_isSome_iff_eq_none]

/-- All that is set, in its order, except for the change specification. -/
def entriesOf (order : SetOrder) (existing new : Json) (renames : List (Path × Path)) :
    List (Path × Json) :=
  (addedKeys order existing new).map (fun key => (key, get new key)) ++
    (renames.map (fun entry => (entry.1, get existing entry.2)) ++
      (retainedKeys order existing new).map (fun key => (key, get existing key)))

/-- The configuration that is saved. -/
def mergedOf (order : SetOrder) (existing new : Json) (renames : List (Path × Path)) : Json :=
  set [obsoleteName] (get new [obsoleteName])
    (set [changedName] (get new [changedName])
      (setAll (.dict .nil) (entriesOf order existing new renames)))

theorem createMergedConfig_eq (h : getChangedKeys new = .ok changed) :
    createMergedConfig order existing new =
      .ok (mergedOf order existing new (renamesOf changed)) := by
  unfold createMergedConfig mergedOf entriesOf renamesOf
  rw [h]
  simp only [setAll, List.foldl_append, List.map_map, Function.comp_def]
  rfl

theorem not_comparable_of_ordinary (ordinary : Ordinary path)
    (spec : name = changedName ∨ name = obsoleteName) : ¬Comparable [name] path := by
  cases path with
  | nil => cases ordinary
  | cons first rest =>
      have different : name ≠ first := by
        rintro rfl
        exact spec.elim ordinary.1 ordinary.2
      simp [Comparable, List.cons_prefix_cons, different, different.symm]

theorem at?_mergedOf (ordinary : Ordinary path) : at? (mergedOf order existing new renames) path =
    at? (setAll (.dict .nil) (entriesOf order existing new renames)) path := by
  rw [mergedOf, at?_set_other (not_comparable_of_ordinary ordinary (.inr rfl)),
    at?_set_other (not_comparable_of_ordinary ordinary (.inl rfl))]

/-- The change specification is that of the new configuration. -/
theorem at?_mergedOf_spec (spec : name = changedName ∨ name = obsoleteName) :
    at? (mergedOf order existing new renames) (name :: rest) = at? (get new [name]) rest := by
  obtain rfl | rfl := spec
  · rw [mergedOf, at?_set_other]
    · exact @at?_set_below _ _ [changedName] _
    · simp [Comparable, changedName, obsoleteName]
  · exact @at?_set_below _ _ [obsoleteName] _

theorem lastComparable_map {α β : Type} (f : α → β) (entries : List (Path × α)) :
    lastComparable (entries.map fun entry => (entry.1, f entry.2)) path =
      (lastComparable entries path).map fun entry => (entry.1, f entry.2) := by
  rw [lastComparable, ← List.map_reverse, List.find?_map]
  rfl

theorem lastComparable_entriesOf : lastComparable (entriesOf order existing new renames) path =
    ((lastComparable
        ((retainedKeys order existing new).map fun key => (key, get existing key)) path).or
      ((lastComparable renames path).map fun entry => (entry.1, get existing entry.2))).or
        (lastComparable
          ((addedKeys order existing new).map fun key => (key, get new key)) path) := by
  rw [entriesOf, lastComparable_append, lastComparable_append, lastComparable_map]

theorem get_of_leaf {value leaf : Json} (h : leaf? value key = some leaf) :
    get value key = leaf ∧ isLeaf leaf = true := by
  obtain ⟨found, isLeaf⟩ := Option.filter_eq_some_iff.mp h
  exact ⟨by rw [get, found]; rfl, isLeaf⟩

/-- Of comparable keys of one configuration there is only one. -/
theorem eq_of_comparable {value : Json} (comparable : Comparable key path)
    (isKey : (leaf? value key).isSome = true) (isPath : (leaf? value path).isSome = true) :
    key = path := by
  obtain ⟨rest, rfl⟩ | ⟨rest, rfl⟩ := comparable
  · rw [eq_of_leaf_below isKey isPath, List.append_nil]
  · rw [eq_of_leaf_below isPath isKey, List.append_nil]

/-- Where a leaf was set last, there is this leaf, and nothing below or above it. -/
theorem leaf?_setAll {base leaf : Json} {entries : List (Path × Json)}
    (last : lastComparable entries path = some (key, leaf)) (isLeaf : isLeaf leaf = true) :
    leaf? (setAll base entries) path = if key = path then some leaf else none := by
  obtain ⟨rest, rfl⟩ | ⟨rest, rfl⟩ := (comparable_of_lastComparable last).2
  · rw [leaf?, at?_setAll_below last]
    by_cases below : rest = []
    · simp [below, isLeaf]
    · simp [at?_of_leaf isLeaf below, below]
  · by_cases above : rest = []
    · subst above
      rw [List.append_nil] at last ⊢
      have whole := @at?_setAll_below base _ _ _ [] (by rwa [List.append_nil])
      rw [List.append_nil, at?_nil] at whole
      simp [leaf?, whole, isLeaf]
    · obtain ⟨inner, found, dict⟩ := @at?_setAll_above base _ _ _ _ last above
      simp [leaf?, found, dict, above]

/-- Where both configurations have a key, the existing value is kept. -/
theorem leaf?_mergedOf_shared (ordinary : Ordinary path) (shared : Shared existing new key)
    (comparable : Comparable key path) : leaf? (mergedOf order existing new renames) path =
      if (leaf? new path).isSome then leaf? existing path else none := by
  obtain ⟨last, found⟩ : ∃ last, lastComparable
      ((retainedKeys order existing new).map fun key => (key, get existing key)) path =
        some last := by
    apply Option.ne_none_iff_exists'.mp
    intro none
    exact lastComparable_eq_none.mp none (key, get existing key)
      (List.mem_map_of_mem (mem_retainedKeys.mpr shared)) comparable
  obtain ⟨mem, near⟩ := comparable_of_lastComparable found
  obtain ⟨other, isKey, rfl⟩ := List.mem_map.mp mem
  have both := mem_retainedKeys.mp isKey
  obtain ⟨leaf, there⟩ := Option.isSome_iff_exists.mp both.1
  obtain ⟨same, isLeaf⟩ := get_of_leaf there
  rw [same] at found
  have whole := @leaf?_setAll path _ (.dict .nil) _ (entriesOf order existing new renames)
    (by rw [lastComparable_entriesOf, found]; rfl) isLeaf
  rw [leaf?, at?_mergedOf ordinary, ← leaf?, whole]
  by_cases eq : other = path
  · subst eq
    rw [if_pos rfl, if_pos both.2, there]
  · rw [if_neg eq, if_neg]
    exact fun isPath => eq (eq_of_comparable near both.2 isPath)

theorem lastComparable_of_far (far : ∀ key, Shared existing new key → ¬Comparable key path) :
    lastComparable (entriesOf order existing new renames) path =
      ((lastComparable renames path).map fun entry => (entry.1, get existing entry.2)).or
        (lastComparable
          ((addedKeys order existing new).map fun key => (key, get new key)) path) := by
  have none : lastComparable
      ((retainedKeys order existing new).map fun key => (key, get existing key)) path = none := by
    rw [lastComparable_eq_none]
    intro entry mem
    obtain ⟨key, isKey, rfl⟩ := List.mem_map.mp mem
    exact far key (mem_retainedKeys.mp isKey)
  rw [lastComparable_entriesOf, none, Option.none_or]

/-- Below the new name of a rename there is what was found under the old one. -/
theorem at?_mergedOf_renamed (ordinary : Ordinary (target ++ rest))
    (far : ∀ key, Shared existing new key → ¬Comparable key (target ++ rest))
    (last : lastComparable renames (target ++ rest) = some (target, source)) :
    at? (mergedOf order existing new renames) (target ++ rest) =
      at? (get existing source) rest := by
  rw [at?_mergedOf ordinary]
  apply at?_setAll_below
  rw [lastComparable_of_far far, last]
  rfl

/-- On the way to the new name of a rename there is a section. -/
theorem at?_mergedOf_above (ordinary : Ordinary path)
    (far : ∀ key, Shared existing new key → ¬Comparable key path)
    (last : lastComparable renames path = some (path ++ rest, source)) (ne : rest ≠ []) :
    ∃ inner, at? (mergedOf order existing new renames) path = some inner ∧
      isLeaf inner = false := by
  rw [at?_mergedOf ordinary]
  apply @at?_setAll_above _ (get existing source) _ _ rest _ ne
  rw [lastComparable_of_far far, last]
  rfl

/-- Where no rename reaches, there are the keys of the new configuration. -/
theorem leaf?_mergedOf_plain (ordinary : Ordinary path)
    (far : ∀ key, Shared existing new key → ¬Comparable key path)
    (untouched : lastComparable renames path = none) :
    leaf? (mergedOf order existing new renames) path = leaf? new path := by
  have last := @lastComparable_of_far order _ _ renames _ far
  rw [untouched, Option.map_none, Option.none_or] at last
  rw [leaf?, at?_mergedOf ordinary, ← leaf?]
  cases found : lastComparable
      ((addedKeys order existing new).map fun key => (key, get new key)) path with
  | none =>
      have absent : leaf? new path = none := by
        rw [← Option.not_isSome_iff_eq_none]
        intro isKey
        refine lastComparable_eq_none.mp found (path, get new path) (List.mem_map_of_mem
          (mem_addedKeys.mpr ⟨isKey, ?_⟩)) (.inl List.prefix_rfl)
        rw [← Option.not_isSome_iff_eq_none]
        exact fun both => far path ⟨both, isKey⟩ (.inl List.prefix_rfl)
      rw [leaf?, at?_setAll_none (last.trans found), absent]
      cases path with
      | nil => cases ordinary
      | cons => rfl
  | some entry =>
      obtain ⟨mem, near⟩ := comparable_of_lastComparable found
      obtain ⟨key, isKey, rfl⟩ := List.mem_map.mp mem
      obtain ⟨isKey, -⟩ := mem_addedKeys.mp isKey
      obtain ⟨leaf, there⟩ := Option.isSome_iff_exists.mp isKey
      obtain ⟨same, isLeaf⟩ := get_of_leaf there
      rw [leaf?_setAll (by rw [last, found, same]) isLeaf]
      by_cases eq : key = path
      · rw [if_pos eq, ← eq, there]
      · rw [if_neg eq, Eq.comm, ← Option.not_isSome_iff_eq_none]
        exact fun isPath => eq (eq_of_comparable near isKey isPath)

end

section

variable {order order' : SetOrder} {existing new : Json} {renames : List (Path × Path)}
  {path key target source rest : Path}

theorem renamedFrom_of_last
    (last : lastComparable renames (target ++ rest) = some (target, source)) :
    renamedFrom renames (target ++ rest) = some (source ++ rest) := by
  obtain ⟨-, later, earlier, whole, apart⟩ := List.find?_eq_some_iff_append.mp last
  have found : (renames.reverse.find? fun entry => entry.1 <+: target ++ rest) =
      some (target, source) := by
    refine List.find?_eq_some_iff_append.mpr ⟨by simp, later, earlier, whole, ?_⟩
    intro entry mem
    have := apart entry mem
    simp only [Bool.not_eq_true', decide_eq_false_iff_not] at this ⊢
    exact fun above => this (.inl above)
  rw [renamedFrom, found, Option.map_some, List.drop_left]

theorem renamedFrom_of_untouched (untouched : lastComparable renames path = none) :
    renamedFrom renames path = none := by
  rw [renamedFrom, Option.map_eq_none_iff, List.find?_eq_none]
  intro entry mem
  have := lastComparable_eq_none.mp untouched entry (List.mem_reverse.mp mem)
  simp only [decide_eq_true_eq]
  exact fun above => this (.inl above)

/-- What is found below a path that leads nowhere is `None`. -/
theorem leaf?_get_none {value : Json} (nothing : at? value source = none) :
    leaf? (get value source) rest = if rest = [] then some .null else none := by
  rw [get, nothing, Option.getD_none]
  by_cases top : rest = []
  · simp [top, leaf?, isLeaf]
  · rw [leaf?, at?_of_leaf rfl top, if_neg top]
    rfl

theorem leaf?_get_some {value inner : Json} (found : at? value source = some inner) :
    leaf? (get value source) rest = leaf? value (source ++ rest) := by
  rw [get, found, Option.getD_some, leaf?, leaf?, at?_append, found, Option.bind_some]

theorem leaf?_below_none {value : Json} (nothing : at? value source = none) :
    leaf? value (source ++ rest) = none := by
  rw [leaf?, at?_append, nothing]
  rfl

theorem leaf?_get_eq_none {value : Json} : leaf? (get value source) rest = none ↔
    leaf? value (source ++ rest) = none ∧ (rest = [] → at? value source ≠ none) := by
  cases found : at? value source with
  | none => simp [leaf?_get_none found, leaf?_below_none found]
  | some inner => simp [leaf?_get_some found]

theorem expected_eq_none : expected existing new renames path = none ↔ leaf? new path = none := by
  simp [expected]

/-- The two halves of a path that is comparable with the new name of a rename. -/
theorem below_or_above (last : lastComparable renames path = some (target, source)) :
    (∃ rest, path = target ++ rest) ∨ ∃ rest, target = path ++ rest ∧ rest ≠ [] := by
  obtain ⟨rest, (eq : target ++ rest = path)⟩ | ⟨rest, (eq : path ++ rest = target)⟩ :=
    (comparable_of_lastComparable last).2
  · exact .inl ⟨rest, eq.symm⟩
  · by_cases same : rest = []
    · exact .inl ⟨[], by rw [← eq, same, List.append_nil, List.append_nil]⟩
    · exact .inr ⟨rest, eq.symm, same⟩

theorem far_of_new (isNew : (leaf? new path).isSome = true) (absent : leaf? existing path = none) :
    ∀ key, Shared existing new key → ¬Comparable key path := by
  intro key shared comparable
  rw [eq_of_comparable comparable shared.2 isNew, Shared, absent] at shared
  cases shared.1

theorem absent_of_far (far : ∀ key, Shared existing new key → ¬Comparable key path)
    (isNew : (leaf? new path).isSome = true) : leaf? existing path = none := by
  rw [← Option.not_isSome_iff_eq_none]
  exact fun both => far path ⟨both, isNew⟩ (.inl List.prefix_rfl)

theorem leaf?_mergedOf_renamed (ordinary : Ordinary (target ++ rest))
    (far : ∀ key, Shared existing new key → ¬Comparable key (target ++ rest))
    (last : lastComparable renames (target ++ rest) = some (target, source)) :
    leaf? (mergedOf order existing new renames) (target ++ rest) =
      leaf? (get existing source) rest := by
  rw [leaf?, at?_mergedOf_renamed ordinary far last]
  rfl

theorem leaf?_mergedOf_above (ordinary : Ordinary path)
    (far : ∀ key, Shared existing new key → ¬Comparable key path)
    (last : lastComparable renames path = some (path ++ rest, source)) (ne : rest ≠ []) :
    leaf? (mergedOf order existing new renames) path = none := by
  obtain ⟨inner, found, isSection⟩ := @at?_mergedOf_above order _ _ _ _ _ _ ordinary far last ne
  rw [leaf?, found]
  simp [isSection]

/-- The merged configuration is as the law says. -/
def Lawful (order : SetOrder) (existing new : Json) (renames : List (Path × Path)) : Prop :=
  ∀ path, Ordinary path →
    leaf? (mergedOf order existing new renames) path = expected existing new renames path

namespace Lawful

theorem filled (law : Lawful order existing new renames) : Filled existing new renames := by
  intro path ordinary isNew absent target source last
  have far := far_of_new isNew absent
  obtain ⟨default, there⟩ := Option.isSome_iff_exists.mp isNew
  have holds := law path ordinary
  obtain ⟨rest, rfl⟩ | ⟨rest, rfl, ne⟩ := below_or_above last
  · refine ⟨rest, rfl, ?_⟩
    rw [leaf?_mergedOf_renamed ordinary far last, expected, there, Option.map_some, absent,
      Option.getD_none, renamedFrom_of_last last, Option.bind_some] at holds
    cases found : at? existing source with
    | some inner =>
        rw [leaf?_get_some found] at holds
        rw [holds]
        exact .inl rfl
    | none =>
        rw [leaf?_get_none found, leaf?_below_none found, Option.getD_none] at holds
        by_cases top : rest = []
        · rw [if_pos top] at holds
          exact .inr ⟨top, rfl, there.trans holds.symm⟩
        · rw [if_neg top] at holds
          cases holds
  · rw [leaf?_mergedOf_above ordinary far last ne, expected, there] at holds
    cases holds

theorem nothingElse (law : Lawful order existing new renames) :
    NothingElse existing new renames := by
  intro target source rest ordinary gone far last
  have holds := law (target ++ rest) ordinary
  rw [leaf?_mergedOf_renamed ordinary far last, expected_eq_none.mpr gone] at holds
  exact leaf?_get_eq_none.mp holds

/-- Where both configurations have a key. -/
theorem of_shared (ordinary : Ordinary path) (shared : Shared existing new key)
    (comparable : Comparable key path) :
    leaf? (mergedOf order existing new renames) path = expected existing new renames path := by
  rw [leaf?_mergedOf_shared ordinary shared comparable]
  by_cases isNew : (leaf? new path).isSome = true
  · rw [eq_of_comparable comparable shared.2 isNew] at shared
    obtain ⟨value, there⟩ := Option.isSome_iff_exists.mp shared.1
    obtain ⟨default, isNew'⟩ := Option.isSome_iff_exists.mp isNew
    rw [if_pos isNew, expected, isNew', there]
    rfl
  · rw [if_neg isNew]
    exact (expected_eq_none.mpr (Option.not_isSome_iff_eq_none.mp isNew)).symm

/-- Where no rename reaches. -/
theorem of_untouched (ordinary : Ordinary path)
    (far : ∀ key, Shared existing new key → ¬Comparable key path)
    (untouched : lastComparable renames path = none) :
    leaf? (mergedOf order existing new renames) path = expected existing new renames path := by
  rw [leaf?_mergedOf_plain ordinary far untouched]
  cases isNew : leaf? new path with
  | none => exact (expected_eq_none.mpr isNew).symm
  | some default =>
      have absent := absent_of_far far (by rw [isNew]; rfl)
      rw [expected, isNew, absent, renamedFrom_of_untouched untouched]
      rfl

/-- Below the new name of a rename. -/
theorem of_renamed (filled : Filled existing new renames)
    (nothingElse : NothingElse existing new renames) (ordinary : Ordinary (target ++ rest))
    (far : ∀ key, Shared existing new key → ¬Comparable key (target ++ rest))
    (last : lastComparable renames (target ++ rest) = some (target, source)) :
    leaf? (mergedOf order existing new renames) (target ++ rest) =
      expected existing new renames (target ++ rest) := by
  rw [leaf?_mergedOf_renamed ordinary far last]
  cases isNew : leaf? new (target ++ rest) with
  | none =>
      rw [expected_eq_none.mpr isNew]
      exact leaf?_get_eq_none.mpr (nothingElse target source rest ordinary isNew far last)
  | some default =>
      have some_ : (leaf? new (target ++ rest)).isSome = true := by
        rw [isNew]
        rfl
      have absent := absent_of_far far some_
      obtain ⟨below, same, value⟩ := filled _ ordinary some_ absent target source last
      cases List.append_cancel_left same
      rw [expected, isNew, absent, renamedFrom_of_last last, Option.map_some, Option.getD_none,
        Option.bind_some]
      obtain value | ⟨rfl, nothing, null⟩ := value
      · obtain ⟨old, there⟩ := Option.isSome_iff_exists.mp value
        cases found : at? existing source with
        | none =>
            rw [leaf?_below_none found] at there
            cases there
        | some inner =>
            rw [leaf?_get_some found, there]
            rfl
      · cases isNew.symm.trans null
        rw [leaf?_get_none nothing, leaf?_below_none nothing]
        rfl

end Lawful

/-- The configuration is as the law says exactly if the renames fill in what they reach and
bring nothing else. -/
theorem lawful_iff : Lawful order existing new renames ↔
    Filled existing new renames ∧ NothingElse existing new renames := by
  constructor
  · exact fun law => ⟨law.filled, law.nothingElse⟩
  · rintro ⟨filled, nothingElse⟩ path ordinary
    by_cases near : ∃ key, Shared existing new key ∧ Comparable key path
    · obtain ⟨key, shared, comparable⟩ := near
      exact Lawful.of_shared ordinary shared comparable
    · have far : ∀ key, Shared existing new key → ¬Comparable key path :=
        fun key shared comparable => near ⟨key, shared, comparable⟩
      cases last : lastComparable renames path with
      | none => exact Lawful.of_untouched ordinary far last
      | some entry =>
          obtain ⟨target, source⟩ := entry
          obtain ⟨rest, rfl⟩ | ⟨rest, rfl, ne⟩ := below_or_above last
          · exact Lawful.of_renamed filled nothingElse ordinary far last
          · rw [leaf?_mergedOf_above ordinary far last ne, eq_comm, expected_eq_none,
              ← Option.not_isSome_iff_eq_none]
            intro isNew
            obtain ⟨below, same, -⟩ :=
              filled _ ordinary isNew (absent_of_far far isNew) _ source last
            rw [List.append_assoc, List.self_eq_append_right, List.append_eq_nil_iff] at same
            exact ne same.1

end

section

variable {order order' : SetOrder} {existing new : Json} {renames : List (Path × Path)}
  {path key target source rest : Path}

/-- A key that is comparable with an ordinary path is ordinary. -/
theorem Ordinary.of_comparable (ordinary : Ordinary path) (ne : key ≠ [])
    (comparable : Comparable key path) : Ordinary key := by
  cases path with
  | nil => cases ordinary
  | cons name rest =>
      cases key with
      | nil => exact absurd rfl ne
      | cons first below =>
          have same : first = name := by
            obtain above | above := comparable
            · exact (List.cons_prefix_cons.mp above).1
            · exact (List.cons_prefix_cons.mp above).1.symm
          rw [same]
          exact ordinary

theorem key_ne_nil (root : isLeaf new = false) (isKey : (leaf? new key).isSome = true) :
    key ≠ [] := by
  rintro rfl
  simp [leaf?, root] at isKey

theorem isLeaf_mergedOf : isLeaf (mergedOf order existing new renames) = false :=
  isLeaf_set_cons

theorem leaf?_root {value : Json} (root : isLeaf value = false) : leaf? value [] = none := by
  simp [leaf?, root]

namespace Lawful

theorem outcome_eq (law : Lawful order existing new renames) (path : Path) :
    leaf? (mergedOf order existing new renames) path = outcome existing new renames path := by
  cases path with
  | nil => rw [leaf?_root isLeaf_mergedOf, outcome]
  | cons name rest =>
      by_cases spec : name = changedName ∨ name = obsoleteName
      · rw [outcome, if_pos spec, leaf?, at?_mergedOf_spec spec]
        rfl
      · rw [outcome, if_neg spec]
        exact law _ (not_or.mp spec)

theorem isSome_iff (law : Lawful order existing new renames) (ordinary : Ordinary path) :
    (leaf? (mergedOf order existing new renames) path).isSome = true ↔
      (leaf? new path).isSome = true := by
  rw [law path ordinary, expected, Option.isSome_map]

/-- The keys that the new configuration shares with the merged one are all that it has. -/
theorem far_of_apart (apart : ∀ key, (leaf? new key).isSome = true → ¬Comparable key path) :
    ∀ key, Shared existing new key → ¬Comparable key path :=
  fun key shared => apart key shared.2

theorem apart_of_far (law : Lawful order existing new renames) (root : isLeaf new = false)
    (ordinary : Ordinary path)
    (far : ∀ key, Shared (mergedOf order existing new renames) new key → ¬Comparable key path) :
    ∀ key, (leaf? new key).isSome = true → ¬Comparable key path := by
  intro key isKey comparable
  have own := ordinary.of_comparable (key_ne_nil root isKey) comparable
  exact far key ⟨(law.isSome_iff own).mpr isKey, isKey⟩ comparable

/-- What is under a path of the merged configuration. -/
theorem stays_iff (law : Lawful order existing new renames) (root : isLeaf new = false) :
    at? (mergedOf order existing new renames) path ≠ none ↔ Stays existing new renames path := by
  cases path with
  | nil => simp [Stays]
  | cons name below =>
      by_cases spec : name = changedName ∨ name = obsoleteName
      · rw [Stays, if_pos spec, at?_mergedOf_spec spec]
      · rw [Stays, if_neg spec]
        have ordinary : Ordinary (name :: below) := not_or.mp spec
        constructor
        · intro there
          by_cases under : ∃ key, (leaf? new key).isSome = true ∧ name :: below <+: key
          · exact .inl under
          · have apart : ∀ key, (leaf? new key).isSome = true →
                ¬Comparable key (name :: below) := by
              intro key isKey comparable
              obtain ⟨rest, eq⟩ | prefix_ := comparable
              · have own := ordinary.of_comparable (key_ne_nil root isKey) (.inl ⟨rest, eq⟩)
                obtain ⟨leaf, found⟩ := Option.isSome_iff_exists.mp ((law.isSome_iff own).mpr isKey)
                obtain ⟨found, isLeaf⟩ := Option.filter_eq_some_iff.mp found
                by_cases same : rest = []
                · exact under ⟨key, isKey, by rw [← eq, same, List.append_nil]⟩
                · rw [← eq, at?_append, found, Option.bind_some, at?_of_leaf isLeaf same] at there
                  exact there rfl
              · exact under ⟨key, isKey, prefix_⟩
            have far := @far_of_apart existing _ _ apart
            refine .inr ⟨apart, ?_⟩
            cases last : lastComparable renames (name :: below) with
            | none =>
                rw [at?_mergedOf ordinary, at?_setAll_none] at there
                · exact absurd rfl there
                · rw [lastComparable_of_far far, last, Option.map_none, Option.none_or,
                    lastComparable_eq_none]
                  intro entry mem
                  obtain ⟨key, isKey, rfl⟩ := List.mem_map.mp mem
                  exact apart key (mem_addedKeys.mp isKey).1
            | some entry =>
                obtain ⟨target, source⟩ := entry
                refine ⟨target, source, rfl, fun rest eq => ?_⟩
                rw [eq] at there ordinary far last
                rwa [at?_mergedOf_renamed ordinary far last] at there
        · rintro (⟨key, isKey, rest, rfl⟩ | ⟨apart, target, source, last, there⟩)
          · have own := ordinary.of_comparable (key_ne_nil root isKey) (.inr ⟨rest, rfl⟩)
            obtain ⟨leaf, found⟩ := Option.isSome_iff_exists.mp ((law.isSome_iff own).mpr isKey)
            obtain ⟨found, -⟩ := Option.filter_eq_some_iff.mp found
            intro none
            rw [at?_append, none] at found
            cases found
          · have far := @far_of_apart existing _ _ apart
            obtain ⟨rest, eq⟩ | ⟨rest, rfl, ne⟩ := below_or_above last
            · have found := there rest eq
              rw [eq] at ordinary far last ⊢
              rwa [at?_mergedOf_renamed ordinary far last]
            · obtain ⟨inner, found, -⟩ := @at?_mergedOf_above order _ _ _ _ _ _ ordinary far last ne
              rw [found]
              simp

end Lawful

/-- Merging again changes nothing exactly if no rename brings a key of the merged configuration
that the new one does not have. -/
theorem again_iff (law : Lawful order existing new renames) (root : isLeaf new = false) :
    (∀ path, leaf? (mergedOf order' (mergedOf order existing new renames) new renames) path =
        leaf? (mergedOf order existing new renames) path) ↔ NothingAgain existing new renames := by
  constructor
  · intro same target source rest ordinary apart last
    have holds := same (target ++ rest)
    have gone : leaf? new (target ++ rest) = none := by
      rw [← Option.not_isSome_iff_eq_none]
      exact fun isNew => apart _ isNew (.inl List.prefix_rfl)
    rw [leaf?_mergedOf_renamed ordinary (Lawful.far_of_apart apart) last, law _ ordinary,
      expected_eq_none.mpr gone, leaf?_get_eq_none, law.outcome_eq] at holds
    exact ⟨holds.1, fun top => (law.stays_iff root).mp (holds.2 top)⟩
  · intro nothing path
    cases path with
    | nil => rw [leaf?_root isLeaf_mergedOf, leaf?_root isLeaf_mergedOf]
    | cons name below =>
        by_cases spec : name = changedName ∨ name = obsoleteName
        · rw [leaf?, leaf?, at?_mergedOf_spec spec, at?_mergedOf_spec spec]
        · have ordinary : Ordinary (name :: below) := not_or.mp spec
          by_cases near : ∃ key, Shared (mergedOf order existing new renames) new key ∧
              Comparable key (name :: below)
          · obtain ⟨key, shared, comparable⟩ := near
            rw [leaf?_mergedOf_shared ordinary shared comparable]
            split
            · rfl
            · rename_i gone
              rw [law _ ordinary, expected_eq_none.mpr (Option.not_isSome_iff_eq_none.mp gone)]
          · have far : ∀ key, Shared (mergedOf order existing new renames) new key →
                ¬Comparable key (name :: below) :=
              fun key shared comparable => near ⟨key, shared, comparable⟩
            have apart := law.apart_of_far root ordinary far
            have gone : leaf? new (name :: below) = none := by
              rw [← Option.not_isSome_iff_eq_none]
              exact fun isNew => apart _ isNew (.inl List.prefix_rfl)
            rw [law _ ordinary, expected_eq_none.mpr gone]
            cases last : lastComparable renames (name :: below) with
            | none => rw [leaf?_mergedOf_plain ordinary far last, gone]
            | some entry =>
                obtain ⟨target, source⟩ := entry
                obtain ⟨rest, eq⟩ | ⟨rest, rfl, ne⟩ := below_or_above last
                · rw [eq] at ordinary apart far last ⊢
                  obtain ⟨none, stays⟩ := nothing target source rest ordinary apart last
                  rw [leaf?_mergedOf_renamed ordinary far last, leaf?_get_eq_none, law.outcome_eq]
                  exact ⟨none, fun top => (law.stays_iff root).mpr (stays top)⟩
                · exact leaf?_mergedOf_above ordinary far last ne

end

/-- For any two configurations and any order of the sets in between, the upgrade is as claimed
exactly for the change specifications whose renames are clean: no rename takes away the default of
a new key or brings in a key that the new configuration does not have. -/
theorem upgrades_iff (order order' : SetOrder) (existing new : Fields) :
    Upgrades order order' (.dict existing) (.dict new) ↔
      ∃ changed, getChangedKeys (.dict new) = .ok changed ∧
        CleanRenames (.dict existing) (.dict new) (renamesOf changed) := by
  constructor
  · rintro ⟨changed, merged, again, spec, first, law, second, same⟩
    rw [createMergedConfig_eq spec] at first second
    cases first
    cases second
    have lawful : Lawful order (.dict existing) (.dict new) (renamesOf changed) := law
    exact ⟨changed, spec, lawful.filled, lawful.nothingElse, (again_iff lawful rfl).mp same⟩
  · rintro ⟨changed, spec, clean⟩
    have lawful : Lawful order (.dict existing) (.dict new) (renamesOf changed) :=
      lawful_iff.mpr ⟨clean.filled, clean.nothingElse⟩
    exact ⟨changed, _, _, spec, createMergedConfig_eq spec, lawful, createMergedConfig_eq spec,
      (again_iff lawful rfl).mpr clean.nothingAgain⟩

namespace Example

def inOrder : SetOrder := ⟨id, fun _ => .refl _⟩

def fieldsOf (fields : List (String × Json)) : Fields :=
  fields.foldr (fun field rest => .cons field.1 field.2 rest) .nil

/-- `A>z` is said to be called `B>y` now. -/
def specification : Json :=
  .list (.cons (.dict (fieldsOf [("A", .dict (fieldsOf [("z", .str "B>y")]))])) .nil)

def newConf : Fields :=
  fieldsOf [("A", .dict (fieldsOf [("x", .int 0)])), ("B", .dict (fieldsOf [("y", .int 7)])),
    ("CHANGED", specification)]

/-- A configuration in which `A>z` was never set. -/
def existingConf : Fields := fieldsOf [("A", .dict (fieldsOf [("x", .int 1)]))]

theorem changed_eq : getChangedKeys (.dict newConf) = .ok [(["A", "z"], ["B", "y"])] := by
  decide +kernel

/-- `B>y` comes out as `None`, and not with its default. -/
theorem default_lost : ¬ ∀ order order' existing new,
    Upgrades order order' (.dict existing) (.dict new) := by
  intro always
  obtain ⟨changed, merged, again, spec, first, law, -⟩ :=
    always inOrder inOrder existingConf newConf
  cases spec.symm.trans changed_eq
  cases first.symm.trans (createMergedConfig_eq changed_eq)
  have holds := law ["B", "y"] (by decide +kernel)
  have null : leaf? (mergedOf inOrder (.dict existingConf) (.dict newConf)
      (renamesOf [(["A", "z"], ["B", "y"])])) ["B", "y"] = some .null := by decide +kernel
  have default : expected (.dict existingConf) (.dict newConf)
      (renamesOf [(["A", "z"], ["B", "y"])]) ["B", "y"] = some (.int 7) := by decide +kernel
  cases null.symm.trans (holds.trans default)

/-- Where `A>z` was set, its value is kept under the new name. -/
example : leaf? (mergedOf inOrder (.dict (fieldsOf [("A", .dict (fieldsOf [("z", .int 5)]))]))
    (.dict newConf) (renamesOf [(["A", "z"], ["B", "y"])])) ["B", "y"] = some (.int 5) := by
  decide +kernel

end Example

end Conf

end Sspl

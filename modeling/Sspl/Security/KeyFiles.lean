import Mathlib.Data.List.Perm.Basic
import Mathlib.Data.List.Nodup
import Mathlib.Logic.Function.Basic
import Sspl.Foundation.System
import Sspl.Security.Library

/-!
# The key directories of the pki method

`sspl_generate_session_token` makes the directory of the user, an empty file for the private key
in it, and then writes the key. `sspl_verify_message` reads the directory meanwhile: it opens
every file that `readdir` names, and asserts that there is a key in it.

A file that appears while the directory is read may or may not be named. A user name leads to a
directory; two names may lead to the same one. The files of the public keys are read by nobody.
-/

namespace Sspl

/-- What is in the directories that user names lead to, if they exist. -/
abbrev KeyDirs (δ Key : Type) := δ → Option (List (DirEntry Key))

namespace KeyDirs

variable {δ Key : Type}

def emptyDir : List (DirEntry Key) := [⟨".", none⟩, ⟨"..", none⟩]

variable [DecidableEq δ]

/-- `_ensure_user_key_dir_exists`. -/
def ensureUserKeyDirExists (dirs : KeyDirs δ Key) (d : δ) : KeyDirs δ Key :=
  Function.update dirs d (some ((dirs d).getD emptyDir))

/-- `_create_empty_key_files`, with a name that `mkstemp` has found unused. -/
def createEmptyKeyFiles (dirs : KeyDirs δ Key) (d : δ) (name : String) :
    Option (KeyDirs δ Key) :=
  (dirs d).bind (fun entries =>
    if name ∈ entries.map DirEntry.name then none
    else some (Function.update dirs d (some (entries ++ [⟨name, none⟩]))))

def writeEntry (name : String) (key : Key) (e : DirEntry Key) : DirEntry Key :=
  if e.name = name then { e with key := some key } else e

/-- `_write_and_close_private_key`. -/
def writeAndClosePrivateKey (dirs : KeyDirs δ Key) (d : δ) (name : String) (key : Key) :
    KeyDirs δ Key :=
  Function.update dirs d ((dirs d).map (List.map (writeEntry name key)))

end KeyDirs

namespace KeyFiles

variable {ν δ Key Digest : Type}

/-- Where a call of `sspl_generate_session_token` stands. -/
inductive Stage (Key : Type)
  | begun
  | ensured
  | created (name : String)
  /-- The public key is written. -/
  | published (name : String) (key : Key)
  | finished (key : Key)

structure Generation (ν Key : Type) where
  username : ν
  stage : Stage Key

/-- Where the call of `sspl_verify_message` stands. -/
inductive Verification (Key : Type)
  | called
  /-- The names that the directory had when it was opened, the entries that are done with, and
  the last result of `RSA_verify`. -/
  | scanning (listed : List String) (done : List (DirEntry Key)) (ret : Int)
  /-- `readdir` has named a file. -/
  | reading (listed : List String) (done : List (DirEntry Key)) (ret : Int) (name : String)
  | returned (ret : Int)
  | aborted

def Verification.Ended : Verification Key → Prop
  | .returned _ => True
  | .aborted => True
  | _ => False

/-- The directories of key files, the calls that generate tokens, each at its point, and the one
verification. -/
structure State (ν δ Key : Type) where
  dirs : KeyDirs δ Key
  generations : Nat → Option (Generation ν Key)
  verification : Verification Key

/-- The accesses to the file system, in the order in which each call makes them: those of any
number of generations, and those of the verification. -/
inductive Action (ν Key : Type)
  | generate (i : Nat) (username : ν)
  | ensure (i : Nat)
  | create (i : Nat) (name : String)
  | writePublic (i : Nat) (key : Key)
  | writePrivate (i : Nat)
  | openDir
  | readDir (name : String)
  | readKey
  /-- `readdir` has no more entries. -/
  | endOfDir

/-- The steps of the verification. -/
def Action.verifies : Action ν Key → Bool
  | .openDir => true
  | .readDir _ => true
  | .readKey => true
  | .endOfDir => true
  | _ => false

/-- Where the directories are, and what RSA and the hash say. -/
structure Setting (ν δ Key Digest : Type) where
  path : ν → δ
  hash : List UInt8 → Digest
  /-- `RSA_verify` returns 1, and otherwise 0. -/
  rsaVerify : Digest → List UInt8 → Key → Bool

/-- The arguments of `sspl_verify_message`. -/
structure Request (ν : Type) where
  msg : List UInt8
  username : ν
  sig : List UInt8

variable (c : Setting ν δ Key Digest) (r : Request ν)

def Setting.accepts (key : Key) : Bool := c.rsaVerify (c.hash r.msg) r.sig key

/-- The directory that the verification reads. -/
def State.dir (s : State ν δ Key) : Option (List (DirEntry Key)) := s.dirs (c.path r.username)

def State.setStage (s : State ν δ Key) (i : Nat) (g : Generation ν Key) (stage : Stage Key) :
    State ν δ Key :=
  { s with generations := Function.update s.generations i (some { g with stage := stage }) }

section

variable [DecidableEq δ]

/-- One step of a generation. -/
def State.generation (s : State ν δ Key) (i : Nat) (g : Generation ν Key) :
    Action ν Key → Option (State ν δ Key)
  | .ensure _ =>
    match g.stage with
    | .begun => some { s.setStage i g .ensured with
        dirs := s.dirs.ensureUserKeyDirExists (c.path g.username) }
    | _ => none
  | .create _ name =>
    match g.stage with
    | .ensured => (s.dirs.createEmptyKeyFiles (c.path g.username) name).map (fun dirs =>
        { s.setStage i g (.created name) with dirs := dirs })
    | _ => none
  | .writePublic _ key =>
    match g.stage with
    | .created name => some (s.setStage i g (.published name key))
    | _ => none
  | .writePrivate _ =>
    match g.stage with
    | .published name key => some { s.setStage i g (.finished key) with
        dirs := s.dirs.writeAndClosePrivateKey (c.path g.username) name key }
    | _ => none
  | _ => none

/-- One step of the verification. -/
def State.verify (s : State ν δ Key) : Action ν Key → Option (Verification Key)
  | .openDir =>
    match s.verification, s.dir c r with
    | .called, some entries => some (.scanning (entries.map DirEntry.name) [] 0)
    -- `readdir` is called with a null directory
    | .called, none => some .aborted
    | _, _ => none
  | .readDir name =>
    match s.verification, s.dir c r with
    | .scanning listed done ret, some entries =>
      if name ∈ entries.map DirEntry.name ∧ name ∉ done.map DirEntry.name then
        if name = "." ∨ name = ".." then some (.scanning listed (done ++ [⟨name, none⟩]) ret)
        else some (.reading listed done ret name)
      else none
    | _, _ => none
  | .readKey =>
    match s.verification, s.dir c r with
    | .reading listed done _ name, some entries =>
      (entries.find? (fun e => e.name = name)).map (fun e =>
        match e.key with
        | none => .aborted
        | some key =>
          if c.accepts r key then .returned 1 else .scanning listed (done ++ [e]) 0)
    | _, _ => none
  | .endOfDir =>
    match s.verification with
    | .scanning listed done ret =>
      if ∀ name ∈ listed, name ∈ done.map DirEntry.name then some (.returned ret) else none
    | _ => none
  | _ => none

/-- Every access to a directory or a file is a step of its own, so that a key file can be read
between its creation and the writing of its key. -/
def next (s : State ν δ Key) : Action ν Key → Option (State ν δ Key)
  | .generate i username =>
    match s.generations i with
    | none => some { s with
        generations := Function.update s.generations i (some ⟨username, .begun⟩) }
    | some _ => none
  | .ensure i => (s.generations i).bind (fun g => s.generation c i g (.ensure i))
  | .create i name => (s.generations i).bind (fun g => s.generation c i g (.create i name))
  | .writePublic i key => (s.generations i).bind (fun g => s.generation c i g (.writePublic i key))
  | .writePrivate i => (s.generations i).bind (fun g => s.generation c i g (.writePrivate i))
  | a => (s.verify c r a).map (fun v => { s with verification := v })

/-- Before any session. -/
def fresh : State ν δ Key := ⟨fun _ => none, fun _ => none, .called⟩

/-- The processes that use the library on one file system, in any interleaving. -/
def system : Transition.System (State ν δ Key) (Action ν Key) where
  init s := s = fresh
  next := next c r

end

/-- Nothing is lost from a directory. -/
def Extends (before after : List (DirEntry Key)) : Prop :=
  ∀ e ∈ before, ∃ e' ∈ after, e'.name = e.name ∧ ∀ key, e.key = some key → e'.key = some key

/-- The entries of a directory have different names, and `.` and `..` are not files. -/
structure WellFormed (entries : List (DirEntry Key)) : Prop where
  names : (entries.map DirEntry.name).Nodup
  dot : (⟨".", none⟩ : DirEntry Key) ∈ entries
  dots : (⟨"..", none⟩ : DirEntry Key) ∈ entries

/-- The file that a generation holds open. -/
def Stage.file : Stage Key → Option String
  | .created name => some name
  | .published name _ => some name
  | _ => none

/-- A generation that has a file open has it alone, and has not written to it. -/
structure Filed (path : ν → δ) (s : State ν δ Key) : Prop where
  wellFormed : ∀ d entries, s.dirs d = some entries → WellFormed entries
  empty : ∀ i g name, s.generations i = some g → g.stage.file = some name →
    ∃ entries, s.dirs (path g.username) = some entries ∧ ⟨name, none⟩ ∈ entries ∧
      name ≠ "." ∧ name ≠ ".."
  alone : ∀ i j g h name, s.generations i = some g → s.generations j = some h →
    g.stage.file = some name → h.stage.file = some name →
      path g.username = path h.username → i = j

def Later (s t : State ν δ Key) : Prop :=
  ∀ d before, s.dirs d = some before → ∃ after, t.dirs d = some after ∧ Extends before after

section Directories

variable {entries before after : List (DirEntry Key)} {name : String} {key : Key}
  {e e' : DirEntry Key}

theorem Extends.refl (entries : List (DirEntry Key)) : Extends entries entries :=
  fun e mem => ⟨e, mem, rfl, fun _ found => found⟩

theorem Extends.trans {middle : List (DirEntry Key)} (first : Extends before middle)
    (second : Extends middle after) : Extends before after := by
  intro e mem
  obtain ⟨e₁, mem₁, name₁, key₁⟩ := first e mem
  obtain ⟨e₂, mem₂, name₂, key₂⟩ := second e₁ mem₁
  exact ⟨e₂, mem₂, name₂.trans name₁, fun key found => key₂ key (key₁ key found)⟩

theorem Extends.names (h : Extends before after) (mem : name ∈ before.map DirEntry.name) :
    name ∈ after.map DirEntry.name := by
  obtain ⟨e, listed, rfl⟩ := List.mem_map.mp mem
  obtain ⟨e', mem', same, -⟩ := h e listed
  exact List.mem_map.mpr ⟨e', mem', same⟩

/-- A complete file stays as it is. -/
theorem Extends.complete (h : Extends before after) (mem : e ∈ before)
    (complete : e.key = some key) : e ∈ after := by
  obtain ⟨⟨name', key'⟩, mem', same, kept⟩ := h e mem
  obtain ⟨name, key⟩ := e
  have found := kept _ complete
  cases complete
  cases same
  cases found
  exact mem'

theorem WellFormed.eq (h : WellFormed entries) (mem : e ∈ entries) (mem' : e' ∈ entries)
    (same : e.name = e'.name) : e = e' :=
  List.inj_on_of_nodup_map h.names mem mem' same

/-- An entry with a key is not `.` or `..`. -/
theorem WellFormed.file (h : WellFormed entries) (mem : e ∈ entries)
    (complete : e.key = some key) : e.name ≠ "." ∧ e.name ≠ ".." := by
  constructor
  · intro same
    cases h.eq mem h.dot same
    cases complete
  · intro same
    cases h.eq mem h.dots same
    cases complete

theorem emptyDir_wellFormed : WellFormed (KeyDirs.emptyDir : List (DirEntry Key)) where
  names := by simp [KeyDirs.emptyDir]
  dot := by simp [KeyDirs.emptyDir]
  dots := by simp [KeyDirs.emptyDir]

theorem WellFormed.append (h : WellFormed entries) (fresh : e.name ∉ entries.map DirEntry.name) :
    WellFormed (entries ++ [e]) where
  names := by
    rw [List.map_append, List.map_singleton]
    exact List.Nodup.append h.names (List.nodup_singleton _) (by simpa using fresh)
  dot := List.mem_append_left _ h.dot
  dots := List.mem_append_left _ h.dots

@[simp] theorem writeEntry_name (name : String) (key : Key) (e : DirEntry Key) :
    (KeyDirs.writeEntry name key e).name = e.name := by
  unfold KeyDirs.writeEntry
  split <;> rfl

theorem writeEntry_of_ne (key : Key) (other : e.name ≠ name) :
    KeyDirs.writeEntry name key e = e := if_neg other

theorem WellFormed.write (h : WellFormed entries) (key : Key) (dot : name ≠ ".")
    (dots : name ≠ "..") : WellFormed (entries.map (KeyDirs.writeEntry name key)) where
  names := by
    rw [List.map_map, show DirEntry.name ∘ KeyDirs.writeEntry name key = DirEntry.name from
      funext (writeEntry_name name key)]
    exact h.names
  dot := List.mem_map.mpr ⟨_, h.dot, writeEntry_of_ne key dot.symm⟩
  dots := List.mem_map.mpr ⟨_, h.dots, writeEntry_of_ne key dots.symm⟩

theorem extends_append (entries : List (DirEntry Key)) (e : DirEntry Key) :
    Extends entries (entries ++ [e]) :=
  fun e mem => ⟨e, List.mem_append_left _ mem, rfl, fun _ found => found⟩

theorem WellFormed.extends_write (h : WellFormed entries) (empty : ⟨name, none⟩ ∈ entries)
    (key : Key) : Extends entries (entries.map (KeyDirs.writeEntry name key)) := by
  intro e mem
  refine ⟨_, List.mem_map_of_mem mem, writeEntry_name name key e, fun key' found => ?_⟩
  by_cases same : e.name = name
  · cases h.eq mem empty same
    cases found
  · rw [writeEntry_of_ne key same]
    exact found

theorem length_le_of_extends (h : WellFormed before) (ext : Extends before after) :
    before.length ≤ after.length := by
  have names : before.map DirEntry.name ⊆ after.map DirEntry.name := fun _ mem => ext.names mem
  simpa using (List.subperm_of_subset h.names names).length_le

end Directories

section Generations

variable {s t : State ν δ Key} {i : Nat} {g : Generation ν Key} {c : Setting ν δ Key Digest}
  {r : Request ν} {a : Action ν Key} {name : String} {key : Key}

theorem Later.refl (s : State ν δ Key) : Later s s :=
  fun _ before found => ⟨before, found, .refl before⟩

theorem Later.trans {u : State ν δ Key} (first : Later s t) (second : Later t u) : Later s u := by
  intro d before found
  obtain ⟨middle, found, ext⟩ := first d before found
  obtain ⟨after, found, ext'⟩ := second d middle found
  exact ⟨after, found, ext.trans ext'⟩

variable [DecidableEq δ]

/-- One directory is changed. -/
theorem later_update {d : δ} {after : List (DirEntry Key)}
    (ext : ∀ before, s.dirs d = some before → Extends before after)
    (same : t.dirs = Function.update s.dirs d (some after)) : Later s t := by
  intro d' before found
  rw [same]
  by_cases here : d' = d
  · subst here
    exact ⟨after, Function.update_self .., ext before found⟩
  · rw [Function.update_of_ne here]
    exact ⟨before, found, .refl before⟩

/-- What a generation does to the directories and to the file it holds. -/
theorem generation_cases (step : s.generation c i g a = some t) :
    ∃ stage, t.generations = Function.update s.generations i (some { g with stage := stage }) ∧
      t.verification = s.verification ∧
      ((t.dirs = s.dirs ∧ (stage.file = g.stage.file)) ∨
        (stage.file = none ∧ t.dirs = s.dirs.ensureUserKeyDirExists (c.path g.username)) ∨
        (∃ name, stage.file = some name ∧
          s.dirs.createEmptyKeyFiles (c.path g.username) name = some t.dirs) ∨
        (∃ name key, g.stage.file = some name ∧ stage.file = none ∧
          t.dirs = s.dirs.writeAndClosePrivateKey (c.path g.username) name key)) := by
  cases a with
  | ensure =>
      simp only [State.generation] at step
      split at step
      · cases step
        exact ⟨.ensured, rfl, rfl, .inr (.inl ⟨rfl, rfl⟩)⟩
      · cases step
  | create j name =>
      simp only [State.generation] at step
      split at step
      · obtain ⟨dirs, created, rfl⟩ := Option.map_eq_some_iff.mp step
        exact ⟨.created name, rfl, rfl, .inr (.inr (.inl ⟨name, rfl, created⟩))⟩
      · cases step
  | writePublic j key =>
      simp only [State.generation] at step
      split at step
      · rename_i name stage
        cases step
        exact ⟨.published name key, rfl, rfl, .inl ⟨rfl, by rw [stage]; rfl⟩⟩
      · cases step
  | writePrivate =>
      simp only [State.generation] at step
      split at step
      · rename_i name key stage
        cases step
        refine ⟨.finished key, rfl, rfl, .inr (.inr (.inr ⟨name, key, ?_, rfl, rfl⟩))⟩
        rw [stage]
        rfl
      · cases step
  | _ => cases step

/-- A file that is held open, and that nothing has been written to. -/
def State.Holds (path : ν → δ) (s : State ν δ Key) (username : ν) (name : String) : Prop :=
  ∃ entries, s.dirs (path username) = some entries ∧ ⟨name, none⟩ ∈ entries ∧
    name ≠ "." ∧ name ≠ ".."

omit [DecidableEq δ] in
/-- A step that changes one generation. -/
theorem Filed.update {path : ν → δ} {g' : Generation ν Key} (filed : Filed path s)
    (generations : t.generations = Function.update s.generations i (some g'))
    (wellFormed : ∀ d entries, t.dirs d = some entries → WellFormed entries)
    (others : ∀ j h name, j ≠ i → s.generations j = some h → h.stage.file = some name →
      t.Holds path h.username name)
    (own : ∀ name, g'.stage.file = some name → t.Holds path g'.username name ∧
      ∀ j h, j ≠ i → s.generations j = some h → h.stage.file = some name →
        path h.username ≠ path g'.username) : Filed path t := by
  have find : ∀ j h, t.generations j = some h →
      j = i ∧ h = g' ∨ j ≠ i ∧ s.generations j = some h := by
    intro j h found
    rw [generations] at found
    by_cases same : j = i
    · subst same
      rw [Function.update_self] at found
      exact .inl ⟨rfl, (Option.some.inj found).symm⟩
    · rw [Function.update_of_ne same] at found
      exact .inr ⟨same, found⟩
  refine ⟨wellFormed, ?_, ?_⟩
  · intro j h name found file
    obtain ⟨rfl, rfl⟩ | ⟨other, found⟩ := find j h found
    · exact (own name file).1
    · exact others j h name other found file
  · intro j k h h' name found found' file file' same
    obtain ⟨rfl, rfl⟩ | ⟨other, found⟩ := find j h found
    · obtain ⟨rfl, -⟩ | ⟨other, found'⟩ := find k h' found'
      · rfl
      · exact absurd same.symm ((own name file).2 k h' other found' file')
    · obtain ⟨rfl, rfl⟩ | ⟨other', found'⟩ := find k h' found'
      · exact absurd same ((own name file').2 j h other found file)
      · exact filed.alone j k h h' name found found' file file' same

/-- A file is still held when the directory that has changed has its entry. -/
theorem holds_update {path : ν → δ} {username : ν} {d : δ} {after : List (DirEntry Key)}
    (dirs : t.dirs = Function.update s.dirs d (some after)) (held : s.Holds path username name)
    (kept : ∀ entries, s.dirs d = some entries → path username = d → ⟨name, none⟩ ∈ entries →
      ⟨name, none⟩ ∈ after) : t.Holds path username name := by
  obtain ⟨entries, here, mem, file⟩ := held
  by_cases same : path username = d
  · refine ⟨after, by rw [dirs, same, Function.update_self], kept entries ?_ same mem, file⟩
    rw [← same]
    exact here
  · exact ⟨entries, by rw [dirs, Function.update_of_ne same]; exact here, mem, file⟩

theorem wellFormed_update {d : δ} {after : List (DirEntry Key)}
    (dirs : t.dirs = Function.update s.dirs d (some after)) (wellFormed : WellFormed after)
    (old : ∀ d entries, s.dirs d = some entries → WellFormed entries) :
    ∀ d entries, t.dirs d = some entries → WellFormed entries := by
  intro d' entries found
  rw [dirs] at found
  by_cases same : d' = d
  · subst same
    rw [Function.update_self] at found
    exact Option.some.inj found ▸ wellFormed
  · rw [Function.update_of_ne same] at found
    exact old d' entries found

/-- A generation takes a step. -/
theorem Filed.generation (filed : Filed c.path s) (found : s.generations i = some g)
    (step : s.generation c i g a = some t) : Filed c.path t ∧ Later s t := by
  obtain ⟨stage, generations, -, cases⟩ := generation_cases step
  have held : ∀ j h name, s.generations j = some h → h.stage.file = some name →
      s.Holds c.path h.username name := fun j h name => filed.empty j h name
  obtain ⟨dirs, file⟩ | ⟨file, dirs⟩ | ⟨name, file, dirs⟩ | ⟨name, key, file', file, dirs⟩ := cases
  · have still : ∀ username name, s.Holds c.path username name →
        t.Holds c.path username name := by
      rintro username name ⟨entries, here, mem⟩
      exact ⟨entries, dirs ▸ here, mem⟩
    have later : Later s t := by
      rw [Later, dirs]
      exact Later.refl s
    refine ⟨filed.update generations (dirs ▸ filed.wellFormed) ?_ ?_, later⟩
    · exact fun j h name _ found' file' => still _ _ (held j h name found' file')
    · intro name named
      have own : g.stage.file = some name := file.symm.trans named
      refine ⟨still _ _ (held i g name found own), fun j h other found' file' same => ?_⟩
      exact other (filed.alone j i h g name found' found file' own same)
  · have stays : ∀ d entries, s.dirs d = some entries → t.dirs d = some entries := by
      intro d entries here
      rw [dirs, KeyDirs.ensureUserKeyDirExists]
      by_cases same : d = c.path g.username
      · rw [same] at here
        rw [same, Function.update_self, here, Option.getD_some]
      · rw [Function.update_of_ne same]
        exact here
    have later : Later s t := fun d before here => ⟨before, stays d before here, .refl before⟩
    refine ⟨filed.update generations (wellFormed_update dirs ?_ filed.wellFormed) ?_ ?_, later⟩
    · cases here : s.dirs (c.path g.username) with
      | none => exact emptyDir_wellFormed
      | some entries => exact filed.wellFormed _ entries here
    · intro j h name _ found' file'
      obtain ⟨entries, here, mem⟩ := held j h name found' file'
      exact ⟨entries, stays _ entries here, mem⟩
    · intro name named
      cases file.symm.trans named
  · obtain ⟨entries, here, created⟩ := Option.bind_eq_some_iff.mp dirs
    split at created
    · cases created
    · rename_i fresh
      have dirs := (Option.some.inj created).symm
      have wellFormed := filed.wellFormed _ entries here
      have unnamed : ∀ e ∈ entries, e.name ≠ name := fun e mem same =>
        fresh (List.mem_map.mpr ⟨e, mem, same⟩)
      refine ⟨filed.update generations (wellFormed_update dirs (wellFormed.append fresh)
        filed.wellFormed) ?_ ?_, later_update ?_ dirs⟩
      · intro j h name' _ found' file'
        refine holds_update dirs (held j h name' found' file') fun before here' _ mem => ?_
        cases here.symm.trans here'
        exact List.mem_append_left _ mem
      · intro name' named
        cases file.symm.trans named
        refine ⟨⟨_, by rw [dirs, Function.update_self], by simp, ?_, ?_⟩, ?_⟩
        · exact (unnamed _ wellFormed.dot).symm
        · exact (unnamed _ wellFormed.dots).symm
        · intro j h _ found' file' same
          obtain ⟨entries', here', mem, -⟩ := held j h _ found' file'
          rw [same] at here'
          cases here.symm.trans here'
          exact unnamed _ mem rfl
      · intro before here'
        cases here.symm.trans here'
        exact extends_append _ _
  · obtain ⟨entries, here, mem, dot, dots⟩ := held i g name found file'
    rw [KeyDirs.writeAndClosePrivateKey, here, Option.map_some] at dirs
    have wellFormed := filed.wellFormed _ entries here
    refine ⟨filed.update generations (wellFormed_update dirs (wellFormed.write key dot dots)
      filed.wellFormed) ?_ ?_, later_update ?_ dirs⟩
    · intro j h name' other found' named
      refine holds_update dirs (held j h name' found' named) fun before here' same mem' => ?_
      cases here.symm.trans here'
      refine List.mem_map.mpr ⟨_, mem', writeEntry_of_ne key fun equal => ?_⟩
      cases equal
      exact other (filed.alone j i h g _ found' found named file' same)
    · intro name' named
      cases file.symm.trans named
    · intro before here'
      cases here.symm.trans here'
      exact wellFormed.extends_write mem key

end Generations

end KeyFiles

end Sspl

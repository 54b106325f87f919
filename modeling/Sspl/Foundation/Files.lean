import Mathlib.Data.List.Basic

/-!
# Trees of files

A tree is a file with its text or a directory with its entries, in the order in which they are
listed. A path is the list of names that lead to a node from the root of the tree.
-/

namespace Files

inductive Node
  | file (text : String)
  | dir (entries : List (String × Node))

abbrev Path := List String

namespace Node

/-- The entry of a directory with this name. -/
def child (name : String) : Node → Option Node
  | .file _ => none
  | .dir entries => entries.lookup name

def find (root : Node) : Path → Option Node
  | [] => some root
  | name :: rest => (root.child name).bind (find · rest)

def isdir (root : Node) (path : Path) : Bool :=
  match root.find path with
  | some (.dir _) => true
  | _ => false

def isfile (root : Node) (path : Path) : Bool :=
  match root.find path with
  | some (.file _) => true
  | _ => false

/-- The names in a directory. -/
def listdir (root : Node) (path : Path) : Option (List String) :=
  match root.find path with
  | some (.dir entries) => some (entries.map Prod.fst)
  | _ => none

def read (root : Node) (path : Path) : Option String :=
  match root.find path with
  | some (.file text) => some text
  | _ => none

variable {root : Node} {path : Path} {name : String}

theorem isfile_iff : root.isfile path = true ↔ ∃ text, root.read path = some text := by
  rw [isfile, read]
  split
  · exact iff_of_true rfl ⟨_, rfl⟩
  · exact iff_of_false (by simp) (by simp)

theorem find_cons : root.find (name :: path) = (root.find [name]).bind (find · path) := by
  rw [find, find]
  cases root.child name <;> rfl

/-- There is nothing below a node that is no directory. -/
theorem find_below (plain : root.isdir [name] = false) (next : String) :
    root.find (name :: next :: path) = none := by
  rw [find_cons]
  rw [isdir] at plain
  cases at_ : root.find [name] with
  | none => rfl
  | some node =>
      cases node with
      | file text => rfl
      | dir entries =>
          rw [at_] at plain
          cases plain

theorem listdir_below (plain : root.isdir [name] = false) (next : String) :
    root.listdir (name :: next :: path) = none := by
  rw [listdir, find_below plain]

end Node

end Files

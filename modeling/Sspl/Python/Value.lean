import Mathlib.Algebra.Group.Nat.Defs
import Mathlib.Data.List.Basic
import Mathlib.Data.List.Infix
import Sspl.Python.Integer

/-!
# JSON values and the Python operations the daemon applies to them

Messages are JSON texts that the code handles as Python dictionaries, so one
inductive type stands for both: what `json.loads` returns and what `json.dumps`
writes. Dictionaries keep their keys in insertion order, as Python's do. A float
is represented by the text of its `repr`.

Each operation is given with the exception it raises on a value of the wrong
kind, since the message handlers rely on a surrounding `except` for messages
that lack a section.
-/

namespace Sspl

/-- The exceptions told apart by the code, and those its library calls raise. -/
inductive PyErr
  | attributeError
  | keyError
  | nameError
  | typeError
  | valueError
  | argumentError
  | recursionError
  | messageBusError
  | validationError
  | other
  deriving DecidableEq, Repr

/-- A statement that raises nothing, followed by the rest of the block. -/
theorem bind_eq_ok {ε α β : Type} {x : Except ε α} {rest : α → Except ε β} {b : β} :
    (x >>= rest) = .ok b ↔ ∃ a, x = .ok a ∧ rest a = .ok b := by
  cases x with
  | error e =>
      constructor
      · intro h
        cases h
      · rintro ⟨a, h, -⟩
        cases h
  | ok a =>
      constructor
      · exact fun h => ⟨a, rfl, h⟩
      · rintro ⟨a', h, run⟩
        cases h
        exact run

mutual

/-- A value of JSON, seen as the Python object it is read into. -/
inductive Json where
  | null
  | bool (b : Bool)
  | int (n : Int)
  | float (repr : String)
  | str (s : String)
  | list (items : Items)
  | dict (fields : Fields)

/-- The elements of a JSON array. -/
inductive Items where
  | nil
  | cons (head : Json) (tail : Items)

/-- The entries of a JSON object, in insertion order. -/
inductive Fields where
  | nil
  | cons (key : String) (value : Json) (tail : Fields)

end

deriving instance DecidableEq for Json, Items, Fields

namespace Items

def length : Items → Nat
  | nil => 0
  | cons _ tail => tail.length + 1

/-- `s in items` for a string `s`. -/
def containsStr (s : String) : Items → Bool
  | nil => false
  | cons (.str t) tail => t == s || tail.containsStr s
  | cons _ tail => tail.containsStr s

end Items

namespace Fields

def length : Fields → Nat
  | nil => 0
  | cons _ _ tail => tail.length + 1

def lookup (key : String) : Fields → Option Json
  | nil => none
  | cons k value tail => if k = key then some value else tail.lookup key

/-- `fields[key] = value`: an existing key keeps its place. -/
def set (key : String) (value : Json) : Fields → Fields
  | nil => cons key value nil
  | cons k old tail => if k = key then cons k value tail else cons k old (tail.set key value)

@[simp] theorem lookup_set_same (key : String) (value : Json) :
    ∀ fields : Fields, (fields.set key value).lookup key = some value
  | nil => by simp [set, lookup]
  | cons k old tail => by
      by_cases same : k = key
      · simp [set, lookup, same]
      · simpa [set, lookup, same] using lookup_set_same key value tail

theorem lookup_set_ne {key other : String} (value : Json) (ne : key ≠ other) :
    ∀ fields : Fields, (fields.set key value).lookup other = fields.lookup other
  | nil => by simp [set, lookup, ne]
  | cons k old tail => by
      by_cases same : k = key
      · subst same
        simp [set, lookup, ne]
      · simp only [set, lookup, same, if_false]
        rw [lookup_set_ne value ne tail]

end Fields

/-- `int(x)` of the float whose `repr` is `text`: truncation toward zero. The
texts of the infinities and of NaN have no digits and are refused. -/
def truncFloat (text : List Char) : Option Int := do
  let body := if text.head? = some '-' then text.tail else text
  let mantissa := body.takeWhile (· ≠ 'e')
  let whole := mantissa.takeWhile (· ≠ '.')
  let fraction := (mantissa.dropWhile (· ≠ '.')).drop 1
  let digits ← parseDigits 10 (whole ++ fraction) 0 false
  let exponent ← if body.contains 'e' then parseInt ((body.dropWhile (· ≠ 'e')).drop 1) else some 0
  let scale := exponent - fraction.length
  let size := if 0 ≤ scale then digits * 10 ^ scale.toNat else digits / 10 ^ (-scale).toNat
  return if text.head? = some '-' then -(size : Int) else (size : Int)

namespace Json

/-- The value is Python's `None`. -/
def isNone : Json → Bool
  | null => true
  | _ => false

@[simp] theorem isNone_null : null.isNone = true := rfl

/-- `bool(value)`. -/
def truthy : Json → Bool
  | null => false
  | bool b => b
  | int n => n ≠ 0
  | float text => text ≠ "0.0" ∧ text ≠ "-0.0"
  | str s => s ≠ ""
  | list items => items.length ≠ 0
  | dict fields => fields.length ≠ 0

/-- `value.get(key)`: only dictionaries have the method; a missing key gives `None`. -/
def get (key : String) : Json → Except PyErr Json
  | dict fields => .ok ((fields.lookup key).getD null)
  | _ => .error .attributeError

/-- `value[key]` with a string key. -/
def item (key : String) : Json → Except PyErr Json
  | dict fields => match fields.lookup key with
    | some value => .ok value
    | none => .error .keyError
  | _ => .error .typeError

/-- `key in value`: a key of a dictionary, an element of a list, a substring of a string. -/
def contains (key : String) : Json → Except PyErr Bool
  | dict fields => .ok (fields.lookup key).isSome
  | list items => .ok (items.containsStr key)
  | str s => .ok (decide (key.toList <:+: s.toList))
  | _ => .error .typeError

/-- `len(value)`. -/
def len : Json → Except PyErr Nat
  | dict fields => .ok fields.length
  | list items => .ok items.length
  | str s => .ok s.length
  | _ => .error .typeError

/-- `int(value)`. -/
def toInt : Json → Except PyErr Int
  | int n => .ok n
  | bool b => .ok (if b then 1 else 0)
  | float text => match truncFloat text.toList with
    | some n => .ok n
    | none => .error .valueError
  | str s => match parseInt s.toList with
    | some n => .ok n
    | none => .error .valueError
  | _ => .error .typeError

end Json

end Sspl

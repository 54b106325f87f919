import Sspl.Python.Value

/-!
# The texts of Python values

`str` of a message is what gets signed and verified, so the text of every value
is given character by character. Python decides from its Unicode tables which
characters outside ASCII stand for themselves in `repr`; these tables are the
parameter `printable`.
-/

namespace Sspl

section

variable (printable : Char → Bool)

def hexDigit (n : Nat) : Char :=
  if n < 10 then Char.ofNat (n + 48) else Char.ofNat (n + 87)

/-- The last `width` hexadecimal digits of `n`. -/
def hexDigits (width n : Nat) : List Char :=
  (List.range width).reverse.map (fun i => hexDigit (n / 16 ^ i % 16))

def quote : Char := Char.ofNat 39
def doubleQuote : Char := Char.ofNat 34
def backslash : Char := Char.ofNat 92

/-- One character of a string in the `repr` that is closed by `mark`. -/
def escapeChar (mark c : Char) : List Char :=
  if c = mark ∨ c = backslash then [backslash, c]
  else if c = '\t' then [backslash, 't']
  else if c = '\n' then [backslash, 'n']
  else if c = '\r' then [backslash, 'r']
  else if c.toNat < 32 ∨ c.toNat = 127 then backslash :: 'x' :: hexDigits 2 c.toNat
  else if c.toNat < 127 ∨ printable c then [c]
  else if c.toNat < 256 then backslash :: 'x' :: hexDigits 2 c.toNat
  else if c.toNat < 65536 then backslash :: 'u' :: hexDigits 4 c.toNat
  else backslash :: 'U' :: hexDigits 8 c.toNat

/-- `repr` of a string: in double quotes when it contains a single one only. -/
def reprStr (s : List Char) : List Char :=
  let mark := if s.contains quote && !s.contains doubleQuote then doubleQuote else quote
  mark :: s.flatMap (escapeChar printable mark) ++ [mark]

mutual

def Json.reprText : Json → List Char
  | .null => ['N', 'o', 'n', 'e']
  | .bool true => ['T', 'r', 'u', 'e']
  | .bool false => ['F', 'a', 'l', 's', 'e']
  | .int n => (toString n).toList
  | .float text => text.toList
  | .str s => reprStr printable s.toList
  | .list items => '[' :: items.reprText ++ [']']
  | .dict fields => '{' :: fields.reprText ++ ['}']

def Items.reprText : Items → List Char
  | .nil => []
  | .cons head .nil => head.reprText
  | .cons head tail => head.reprText ++ [',', ' '] ++ tail.reprText

def Fields.reprText : Fields → List Char
  | .nil => []
  | .cons key value .nil => reprStr printable key.toList ++ [':', ' '] ++ value.reprText
  | .cons key value tail =>
    reprStr printable key.toList ++ [':', ' '] ++ value.reprText ++ [',', ' '] ++ tail.reprText

end

/-- `str(value)`. -/
def Json.strText : Json → List Char
  | .str s => s.toList
  | value => value.reprText printable

theorem Fields.length_le_reprText (fields : Fields) :
    fields.length ≤ (fields.reprText printable).length := by
  match fields with
  | .nil => exact Nat.zero_le _
  | .cons key value .nil =>
      simp only [Fields.length, Fields.reprText, List.length_append, List.length_cons]
      omega
  | .cons key value (.cons key' value' tail) =>
      have ih := Fields.length_le_reprText (.cons key' value' tail)
      simp only [Fields.length, Fields.reprText, List.length_append, List.length_cons] at ih ⊢
      omega

/-- The text of a dictionary has more characters than the dictionary has keys. -/
theorem Fields.length_lt_strText (fields : Fields) :
    fields.length + 1 < ((Json.dict fields).strText printable).length := by
  have := fields.length_le_reprText printable
  simp only [Json.strText, Json.reprText, List.length_append, List.length_cons]
  simp only [List.length_nil]
  omega

end

example : (Json.dict (.cons "a" (.list (.cons (.int (-5)) (.cons .null .nil))) .nil)).strText
    (fun _ => true) = '{' :: quote :: 'a' :: quote :: ": [-5, None]\x7d".toList := by decide

/-- `any(val in text for val in vals)`. -/
def anyIn (vals : List String) (text : String) : Bool :=
  vals.any fun val => decide (val.toList <:+: text.toList)

end Sspl

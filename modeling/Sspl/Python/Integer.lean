import Mathlib.Data.List.Basic
import Mathlib.Tactic.IntervalCases

/-!
# Integers in texts

`int` reads a text in a base. It takes the decimal digits of every script for
the digits from zero to nine and the spaces of every script for blanks, passes
over the blanks around the number, and allows a sign and single underscores
between the digits. A number in base sixteen may begin with `0x`. Everything
else is a `ValueError`, here `none`.

The decimal text of a number is read back as the number.
-/

namespace Sspl

/-- `str.isspace` of a character. -/
def isSpace (c : Char) : Bool :=
  let n := c.toNat
  9 ≤ n && n ≤ 13 || 28 ≤ n && n ≤ 32 || n == 0x85 || n == 0xa0 || n == 0x1680 ||
    0x2000 ≤ n && n ≤ 0x200a || n == 0x2028 || n == 0x2029 || n == 0x202f || n == 0x205f ||
    n == 0x3000

/-- Where the decimal digits of the other scripts begin; there are ten from each. -/
def decimalZeros : List Nat :=
  [0x660, 0x6f0, 0x7c0, 0x966, 0x9e6, 0xa66, 0xae6, 0xb66, 0xbe6, 0xc66, 0xce6, 0xd66, 0xde6,
    0xe50, 0xed0, 0xf20, 0x1040, 0x1090, 0x17e0, 0x1810, 0x1946, 0x19d0, 0x1a80, 0x1a90, 0x1b50,
    0x1bb0, 0x1c40, 0x1c50, 0xa620, 0xa8d0, 0xa900, 0xa9d0, 0xa9f0, 0xaa50, 0xabf0, 0xff10,
    0x104a0, 0x11066, 0x110f0, 0x11136, 0x111d0, 0x112f0, 0x11450, 0x114d0, 0x11650, 0x116c0,
    0x11730, 0x118e0, 0x11c50, 0x16a60, 0x16b50, 0x1d7ce, 0x1d7d8, 0x1d7e2, 0x1d7ec, 0x1d7f6,
    0x1e950]

/-- What `int` reads a character as: decimal digits and spaces of all scripts count. -/
def toAscii (c : Char) : Char :=
  if c.toNat < 127 then c
  else if isSpace c then ' '
  else
    match decimalZeros.find? fun first => first ≤ c.toNat && c.toNat ≤ first + 9 with
    | some first => Char.ofNat (48 + (c.toNat - first))
    | none => '?'

/-- A blank that `int` passes over. -/
def isBlank (c : Char) : Bool := c.toNat == 32 || 9 ≤ c.toNat && c.toNat ≤ 13

def stripBlanks (text : List Char) : List Char :=
  (text.reverse.dropWhile isBlank).reverse.dropWhile isBlank

/-- The value of a digit of a base up to sixteen. -/
def digitValue (base : Nat) (c : Char) : Option Nat :=
  let value :=
    if '0' ≤ c ∧ c ≤ '9' then some (c.toNat - 48)
    else if 'a' ≤ c ∧ c ≤ 'f' then some (c.toNat - 87)
    else if 'A' ≤ c ∧ c ≤ 'F' then some (c.toNat - 55)
    else none
  value.filter (· < base)

/-- Digits with single underscores between them. -/
def parseDigits (base : Nat) : List Char → Nat → Bool → Option Nat
  | [], value, afterDigit => if afterDigit then some value else none
  | c :: rest, value, afterDigit =>
    match digitValue base c with
    | some d => parseDigits base rest (value * base + d) true
    | none => if c = '_' ∧ afterDigit = true then parseDigits base rest value false else none

/-- A number with an optional sign. -/
def parseSigned (magnitude : List Char → Option Nat) : List Char → Option Int
  | '-' :: rest => (magnitude rest).map fun n : Nat => -(n : Int)
  | '+' :: rest => (magnitude rest).map fun n : Nat => (n : Int)
  | rest => (magnitude rest).map fun n : Nat => (n : Int)

/-- `int(text)`. -/
def parseInt (text : List Char) : Option Int :=
  parseSigned (fun digits => parseDigits 10 digits 0 false) (stripBlanks (text.map toAscii))

/-- What follows the prefix `0x` of a number, if it has one. -/
def dropHexPrefix : List Char → List Char
  | '0' :: 'x' :: '_' :: rest | '0' :: 'X' :: '_' :: rest => rest
  | '0' :: 'x' :: rest | '0' :: 'X' :: rest => rest
  | text => text

/-- `int(text, 16)`. -/
def hexInt (text : List Char) : Option Int :=
  parseSigned (fun digits => parseDigits 16 (dropHexPrefix digits) 0 false)
    (stripBlanks (text.map toAscii))

variable {base : Nat} {c : Char} {text : List Char}

theorem toNat_of_digitValue (digit : (digitValue base c).isSome) :
    48 ≤ c.toNat ∧ c.toNat ≤ 57 ∨ 65 ≤ c.toNat ∧ c.toNat ≤ 70 ∨ 97 ≤ c.toNat ∧ c.toNat ≤ 102 := by
  obtain ⟨d, read⟩ := Option.isSome_iff_exists.mp digit
  have value := (Option.filter_eq_some_iff.mp read).1
  split at value
  · exact .inl ‹_›
  · split at value
    · exact .inr (.inr ‹_›)
    · split at value
      · exact .inr (.inl ‹_›)
      · cases value

theorem toAscii_of_digitValue (digit : (digitValue base c).isSome) : toAscii c = c := by
  have code := toNat_of_digitValue digit
  exact if_pos (by omega)

theorem not_isBlank_of_digitValue (digit : (digitValue base c).isSome) : isBlank c = false := by
  have code := toNat_of_digitValue digit
  rw [isBlank]
  simp only [Bool.or_eq_false_iff, Bool.and_eq_false_iff, beq_eq_false_iff_ne,
    decide_eq_false_iff_not]
  omega

theorem dropWhile_eq_self {p : Char → Bool} (none : ∀ c ∈ text, p c = false) :
    text.dropWhile p = text := by
  cases text with
  | nil => rfl
  | cons c rest => exact List.dropWhile_cons_of_neg (by simp [none c List.mem_cons_self])

theorem stripBlanks_of_digits (digits : ∀ c ∈ text, (digitValue base c).isSome) :
    stripBlanks (text.map toAscii) = text := by
  have same : text.map toAscii = text := by
    rw [List.map_congr_left fun c mem => toAscii_of_digitValue (digits c mem), List.map_id']
  have plain : ∀ c ∈ text, isBlank c = false :=
    fun c mem => not_isBlank_of_digitValue (digits c mem)
  have backwards : ∀ c ∈ text.reverse, isBlank c = false :=
    fun c mem => plain c (List.mem_reverse.mp mem)
  rw [same, stripBlanks, dropWhile_eq_self backwards, List.reverse_reverse,
    dropWhile_eq_self plain]

/-- Digits alone are read as the number that they are. -/
theorem parseDigits_of_digits (some_ : text ≠ [])
    (digits : ∀ c ∈ text, (digitValue base c).isSome) {value : Nat} {afterDigit : Bool} :
    parseDigits base text value afterDigit =
      some (text.foldl (fun value c => value * base + (digitValue base c).getD 0) value) := by
  induction text generalizing value afterDigit with
  | nil => exact absurd rfl some_
  | cons c rest ih =>
      obtain ⟨d, read⟩ := Option.isSome_iff_exists.mp (digits c List.mem_cons_self)
      rw [parseDigits, read, List.foldl_cons, read]
      cases rest with
      | nil => rfl
      | cons next rest =>
          exact ih (List.cons_ne_nil _ _) fun c mem => digits c (List.mem_cons_of_mem _ mem)

theorem parseSigned_of_digits {magnitude : List Char → Option Nat}
    (digits : ∀ c ∈ text, (digitValue base c).isSome) :
    parseSigned magnitude text = (magnitude text).map fun n : Nat => (n : Int) := by
  unfold parseSigned
  split
  · exact absurd (toNat_of_digitValue (digits '-' List.mem_cons_self)) (by decide)
  · exact absurd (toNat_of_digitValue (digits '+' List.mem_cons_self)) (by decide)
  · rfl

theorem digitValue_digitChar {n : Nat} (small : n < 10) :
    digitValue 10 (Nat.digitChar n) = some n := by
  interval_cases n <;> decide

theorem digitValue_ten_eq_some {n : Nat} :
    digitValue 10 c = some n ↔ n < 10 ∧ c = Nat.digitChar n := by
  constructor
  · intro read
    obtain ⟨value, small⟩ := Option.filter_eq_some_iff.mp read
    have small : n < 10 := of_decide_eq_true small
    refine ⟨small, ?_⟩
    have code : c.toNat = n + 48 := by
      split at value
      · rename_i between
        have low : 48 ≤ c.toNat := between.1
        cases value
        omega
      · split at value
        · rename_i between
          have low : 97 ≤ c.toNat := between.1
          cases value
          omega
        · split at value
          · rename_i between
            have low : 65 ≤ c.toNat := between.1
            cases value
            omega
          · cases value
    rw [← Char.ofNat_toNat c, code]
    interval_cases n <;> rfl
  · rintro ⟨small, rfl⟩
    exact digitValue_digitChar small

theorem stripBlanks_cons (blank : isBlank c = true) (text : List Char) :
    stripBlanks (c :: text) = stripBlanks text := by
  have split : ((c :: text).reverse.dropWhile isBlank).reverse =
      if (text.reverse.dropWhile isBlank).reverse = [] then []
      else c :: (text.reverse.dropWhile isBlank).reverse := by
    rw [List.reverse_cons, List.dropWhile_append]
    cases text.reverse.dropWhile isBlank with
    | nil => simp [blank]
    | cons b rest => simp
  rw [stripBlanks, stripBlanks, split]
  split
  · simp [*]
  · rw [List.dropWhile_cons, if_pos blank]

/-- A blank in front makes no difference. -/
theorem parseInt_cons (blank : isBlank (toAscii c) = true) (text : List Char) :
    parseInt (c :: text) = parseInt text := by
  rw [parseInt, parseInt, List.map_cons, stripBlanks_cons blank]

/-- A text of one character is a number if the character is a digit. -/
theorem parseInt_singleton (c : Char) :
    parseInt [c] = (digitValue 10 (toAscii c)).map fun n : Nat => (n : Int) := by
  rw [parseInt, List.map_singleton]
  generalize toAscii c = c
  by_cases blank : isBlank c = true
  · have stripped : stripBlanks [c] = [] := by simp [stripBlanks, blank]
    have other : digitValue 10 c = none := by
      refine Option.not_isSome_iff_eq_none.mp fun digit => ?_
      rw [not_isBlank_of_digitValue digit] at blank
      cases blank
    rw [stripped, other]
    rfl
  · have stripped : stripBlanks [c] = [c] := by simp [stripBlanks, blank]
    rw [stripped]
    unfold parseSigned
    split
    · rename_i same
      cases same
      rfl
    · rename_i same
      cases same
      rfl
    · cases read : digitValue 10 c with
      | none => simp [parseDigits, read]
      | some d => simp [parseDigits, read]

theorem isDigit_toDigits {n : Nat} (mem : c ∈ Nat.toDigits 10 n) : c.isDigit = true :=
  Nat.isDigit_of_mem_toDigits (by decide) (by decide) mem

/-- The last digit is read after the others. -/
theorem parseDigits_toDigits (n : Nat) (afterDigit : Bool) (rest : List Char) :
    parseDigits 10 (Nat.toDigits 10 n ++ rest) 0 afterDigit = parseDigits 10 rest n true := by
  induction n using Nat.strongRecOn generalizing rest with
  | ind n ih =>
      by_cases small : n < 10
      · rw [Nat.toDigits_of_lt_base small, List.singleton_append, parseDigits,
          digitValue_digitChar small]
        simp
      · have last : n % 10 < 10 := Nat.mod_lt _ (by decide)
        have sum : n / 10 * 10 + n % 10 = n := by omega
        rw [Nat.toDigits_of_base_le (by decide) (by omega), List.append_assoc,
          ih (n / 10) (by omega), List.singleton_append, parseDigits, digitValue_digitChar last]
        dsimp only
        rw [sum]

theorem digitValue_toDigits {n : Nat} (mem : c ∈ Nat.toDigits 10 n) :
    (digitValue 10 c).isSome := by
  induction n using Nat.strongRecOn with
  | ind n ih =>
      by_cases small : n < 10
      · rw [Nat.toDigits_of_lt_base small, List.mem_singleton] at mem
        rw [mem, digitValue_digitChar small]
        rfl
      · rw [Nat.toDigits_of_base_le (by decide) (by omega), List.mem_append,
          List.mem_singleton] at mem
        obtain front | rfl := mem
        · exact ih (n / 10) (by omega) front
        · rw [digitValue_digitChar (Nat.mod_lt _ (by decide))]
          rfl

theorem parseInt_toDigits (n : Nat) : parseInt (Nat.toDigits 10 n) = some (n : Int) := by
  have digits : ∀ c ∈ Nat.toDigits 10 n, (digitValue 10 c).isSome := fun c => digitValue_toDigits
  have read := parseDigits_toDigits n false []
  rw [List.append_nil] at read
  rw [parseInt, stripBlanks_of_digits digits, parseSigned_of_digits digits, read]
  rfl

end Sspl

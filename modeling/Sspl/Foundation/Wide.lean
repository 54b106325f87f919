import Mathlib.Data.List.Basic
import Mathlib.Data.List.GetD

/-!
# Wide character buffers

A text handed to C as `wchar_t *` is a buffer of four bytes a character, least
significant byte first, closed by a character zero. A callee that expects bytes
and is given a length reads a prefix of this buffer. The lemmas say which byte
stands at which place and when two such prefixes are the same.
-/

namespace Wide

/-- The four bytes of one wide character. -/
def charBytes (c : Char) : List UInt8 :=
  [UInt8.ofNat c.toNat, UInt8.ofNat (c.toNat / 256), UInt8.ofNat (c.toNat / 65536),
    UInt8.ofNat (c.toNat / 16777216)]

/-- The buffer of a text, with its closing character. -/
def bytes (text : List Char) : List UInt8 :=
  text.flatMap charBytes ++ [0, 0, 0, 0]

/-- The byte at a place of the buffer: byte `i % 4` of character `i / 4`. -/
def byteAt (text : List Char) (i : Nat) : UInt8 :=
  match text[i / 4]? with
  | some c => (charBytes c).getD (i % 4) 0
  | none => 0

@[simp] theorem charBytes_length (c : Char) : (charBytes c).length = 4 := rfl

theorem bytes_length (text : List Char) : (bytes text).length = 4 * text.length + 4 := by
  simp [bytes, Nat.mul_comm]

theorem bytes_cons (c : Char) (rest : List Char) :
    bytes (c :: rest) = charBytes c ++ bytes rest := by
  simp [bytes]

theorem getElem?_bytes (text : List Char) {i : Nat} (h : i < 4 * text.length + 4) :
    (bytes text)[i]? = some (byteAt text i) := by
  induction text generalizing i with
  | nil =>
      have small : i = 0 ∨ i = 1 ∨ i = 2 ∨ i = 3 := by simp at h; omega
      rcases small with rfl | rfl | rfl | rfl <;> rfl
  | cons c rest ih =>
      rw [bytes_cons]
      by_cases first : i < 4
      · rw [List.getElem?_append_left (by simpa using first)]
        have small : i = 0 ∨ i = 1 ∨ i = 2 ∨ i = 3 := by omega
        rcases small with rfl | rfl | rfl | rfl <;> rfl
      · obtain ⟨j, rfl⟩ : ∃ j, i = j + 4 := ⟨i - 4, by omega⟩
        rw [List.getElem?_append_right (by simp), charBytes_length, Nat.add_sub_cancel,
          ih (by simp only [List.length_cons] at h; omega)]
        simp only [byteAt, Nat.add_div_right j (by omega : 0 < 4), Nat.add_mod_right,
          List.getElem?_cons_succ]

/-- Two prefixes of buffers are equal when they are equally long and agree at
every place. -/
theorem take_bytes_eq_iff {first second : List Char} {m n : Nat}
    (hm : m ≤ 4 * first.length + 4) (hn : n ≤ 4 * second.length + 4) :
    (bytes first).take m = (bytes second).take n ↔
      m = n ∧ ∀ i < m, byteAt first i = byteAt second i := by
  constructor
  · intro same
    have length : m = n := by
      have := congrArg List.length same
      simpa [bytes_length, hm, hn] using this
    subst length
    refine ⟨rfl, fun i hi => ?_⟩
    have at_i := congrArg (fun l : List UInt8 => l[i]?) same
    simp only [List.getElem?_take, hi, if_true] at at_i
    rw [getElem?_bytes first (by omega), getElem?_bytes second (by omega)] at at_i
    exact Option.some.inj at_i
  · rintro ⟨rfl, agree⟩
    apply List.ext_getElem?
    intro i
    by_cases hi : i < m
    · simp only [List.getElem?_take, hi, if_true]
      rw [getElem?_bytes first (by omega), getElem?_bytes second (by omega), agree i hi]
    · simp only [List.getElem?_take, hi, if_false]

/-- Only the characters that the prefix reaches matter. -/
theorem byteAt_congr {first second : List Char} {i : Nat}
    (h : first[i / 4]? = second[i / 4]?) : byteAt first i = byteAt second i := by
  simp only [byteAt, h]

end Wide

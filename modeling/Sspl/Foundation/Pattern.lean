import Mathlib.Data.List.Basic
import Mathlib.Data.List.Infix

/-!
# Patterns with backtracking

A pattern is a list of alternatives and an alternative a list of pieces: a word, or a run of
characters of a class, which is as long as the pieces after it allow. A search takes the first
place at which an alternative matches, and there the first alternative that does.

`Spells` says what a sequence of pieces can match; `matchAt` finds a match where there is one,
and what it finds is spelled by the pieces.
-/

universe u

namespace Pattern

/-- A word, a run of any length, a run of at least one character, or such a run that is
captured. -/
inductive Piece (α : Type u) where
  | lit (word : List α)
  | star (p : α → Bool)
  | plus (p : α → Bool)
  | capture (p : α → Bool)

/-- What was captured, what was matched, and the text after the match. -/
structure Found (α : Type u) where
  captures : List (List α)
  matched : List α
  rest : List α
  deriving DecidableEq

variable {α : Type u} {β : Type u}

/-- The first of `f n`, ..., `f 1` that is there. -/
def longest (f : Nat → Option β) : Nat → Option β
  | 0 => none
  | n + 1 => (f (n + 1)).or (longest f n)

/-- The first `n` characters are matched by a run. -/
def Found.after (run : List α) (found : Found α) : Found α :=
  { found with matched := run ++ found.matched }

/-- The pieces can match the text up to the rest. -/
inductive Spells : List (Piece α) → List α → List α → Prop
  | nil {rest : List α} : Spells [] rest rest
  | lit {word : List α} {pieces : List (Piece α)} {text rest : List α}
      (h : Spells pieces text rest) : Spells (.lit word :: pieces) (word ++ text) rest
  | star {p : α → Bool} {run : List α} {pieces : List (Piece α)} {text rest : List α}
      (all : ∀ c ∈ run, p c = true) (h : Spells pieces text rest) :
      Spells (.star p :: pieces) (run ++ text) rest
  | plus {p : α → Bool} {run : List α} {pieces : List (Piece α)} {text rest : List α}
      (some_ : run ≠ []) (all : ∀ c ∈ run, p c = true) (h : Spells pieces text rest) :
      Spells (.plus p :: pieces) (run ++ text) rest
  | capture {p : α → Bool} {run : List α} {pieces : List (Piece α)} {text rest : List α}
      (some_ : run ≠ []) (all : ∀ c ∈ run, p c = true) (h : Spells pieces text rest) :
      Spells (.capture p :: pieces) (run ++ text) rest

section

variable [DecidableEq α]

def matchAt : List (Piece α) → List α → Option (Found α)
  | [], text => some ⟨[], [], text⟩
  | .lit word :: pieces, text =>
    if word.isPrefixOf text then
      (matchAt pieces (text.drop word.length)).map (Found.after word)
    else none
  | .star p :: pieces, text =>
    let run n := (matchAt pieces (text.drop n)).map (Found.after (text.take n))
    (longest run (text.takeWhile p).length).or (run 0)
  | .plus p :: pieces, text =>
    longest (fun n => (matchAt pieces (text.drop n)).map (Found.after (text.take n)))
      (text.takeWhile p).length
  | .capture p :: pieces, text =>
    longest (fun n => (matchAt pieces (text.drop n)).map (fun found =>
      { found.after (text.take n) with captures := text.take n :: found.captures }))
      (text.takeWhile p).length

theorem matchAt_cons_lit (word : List α) (pieces : List (Piece α)) (text : List α) :
    matchAt (.lit word :: pieces) text =
      if word.isPrefixOf text then
        (matchAt pieces (text.drop word.length)).map (Found.after word)
      else none := rfl

theorem matchAt_cons_star (p : α → Bool) (pieces : List (Piece α)) (text : List α) :
    matchAt (.star p :: pieces) text =
      (longest (fun n => (matchAt pieces (text.drop n)).map (Found.after (text.take n)))
        (text.takeWhile p).length).or
          ((matchAt pieces (text.drop 0)).map (Found.after (text.take 0))) := rfl

theorem matchAt_cons_plus (p : α → Bool) (pieces : List (Piece α)) (text : List α) :
    matchAt (.plus p :: pieces) text =
      longest (fun n => (matchAt pieces (text.drop n)).map (Found.after (text.take n)))
        (text.takeWhile p).length := rfl

theorem matchAt_cons_capture (p : α → Bool) (pieces : List (Piece α)) (text : List α) :
    matchAt (.capture p :: pieces) text =
      longest (fun n => (matchAt pieces (text.drop n)).map (fun found =>
        { found.after (text.take n) with captures := text.take n :: found.captures }))
        (text.takeWhile p).length := rfl

/-- The match at the head of the text. -/
def matchHere (pattern : List (List (Piece α))) (text : List α) : Option (Found α) :=
  pattern.findSome? (fun pieces => matchAt pieces text)

/-- `re.search`. -/
def search (pattern : List (List (Piece α))) : List α → Option (Found α)
  | [] => matchHere pattern []
  | c :: text => (matchHere pattern (c :: text)).or (search pattern text)

/-- `re.findall` of a pattern that matches no empty text: the matches from the left, none of
which overlaps the one before; `skip` characters belong to the last match. -/
def findAllFrom (pattern : List (List (Piece α))) : Nat → List α → List (List α)
  | _, [] => []
  | skip + 1, _ :: text => findAllFrom pattern skip text
  | 0, c :: text =>
    match matchHere pattern (c :: text) with
    | some found => found.matched :: findAllFrom pattern (found.matched.length - 1) text
    | none => findAllFrom pattern 0 text

def findAll (pattern : List (List (Piece α))) (text : List α) : List (List α) :=
  findAllFrom pattern 0 text

end

theorem spells_lit {word : List α} {pieces : List (Piece α)} {text rest : List α}
    (h : Spells (.lit word :: pieces) text rest) :
    ∃ text', text = word ++ text' ∧ Spells pieces text' rest := by
  cases h with
  | lit h => exact ⟨_, rfl, h⟩

theorem spells_star {p : α → Bool} {pieces : List (Piece α)} {text rest : List α}
    (h : Spells (.star p :: pieces) text rest) :
    ∃ run text', text = run ++ text' ∧ (∀ c ∈ run, p c = true) ∧ Spells pieces text' rest := by
  cases h with
  | star all h => exact ⟨_, _, rfl, all, h⟩

theorem spells_plus {p : α → Bool} {pieces : List (Piece α)} {text rest : List α}
    (h : Spells (.plus p :: pieces) text rest) : ∃ run text', text = run ++ text' ∧ run ≠ [] ∧
      (∀ c ∈ run, p c = true) ∧ Spells pieces text' rest := by
  cases h with
  | plus some_ all h => exact ⟨_, _, rfl, some_, all, h⟩

theorem spells_capture {p : α → Bool} {pieces : List (Piece α)} {text rest : List α}
    (h : Spells (.capture p :: pieces) text rest) : ∃ run text', text = run ++ text' ∧ run ≠ [] ∧
      (∀ c ∈ run, p c = true) ∧ Spells pieces text' rest := by
  cases h with
  | capture some_ all h => exact ⟨_, _, rfl, some_, all, h⟩

theorem longest_eq_some {f : Nat → Option β} {n : Nat} {b : β} (found : longest f n = some b) :
    ∃ m, 0 < m ∧ m ≤ n ∧ f m = some b := by
  induction n with
  | zero => cases found
  | succ n ih =>
      rw [longest, Option.or_eq_some_iff] at found
      obtain here | ⟨-, later⟩ := found
      · exact ⟨n + 1, Nat.succ_pos n, le_rfl, here⟩
      · obtain ⟨m, pos, le, here⟩ := ih later
        exact ⟨m, pos, by omega, here⟩

theorem isSome_longest {f : Nat → Option β} {n m : Nat} (pos : 0 < m) (le : m ≤ n)
    (here : (f m).isSome) : (longest f n).isSome := by
  induction n with
  | zero => omega
  | succ n ih =>
      rw [longest, Option.isSome_or, Bool.or_eq_true]
      obtain rfl | lt := Nat.eq_or_lt_of_le le
      · exact .inl here
      · exact .inr (ih (by omega))

theorem take_takeWhile {p : α → Bool} {text : List α} {n : Nat}
    (le : n ≤ (text.takeWhile p).length) : text.take n <+: text.takeWhile p := by
  refine List.prefix_of_prefix_length_le (List.take_prefix n text) (List.takeWhile_prefix p) ?_
  rw [List.length_take]
  omega

theorem mem_take_of_le {p : α → Bool} {text : List α} {n : Nat}
    (le : n ≤ (text.takeWhile p).length) : ∀ c ∈ text.take n, p c = true := by
  intro c mem
  have front := (take_takeWhile le).subset mem
  have all := List.all_takeWhile (p := p) (l := text)
  exact List.all_eq_true.mp all c front

/-- A run at the head of the text is among the lengths that are tried. -/
theorem length_le_takeWhile {p : α → Bool} {run text : List α} (all : ∀ c ∈ run, p c = true) :
    run.length ≤ ((run ++ text).takeWhile p).length := by
  rw [List.takeWhile_append_of_pos all, List.length_append]
  omega

theorem length_takeWhile_run {p : α → Bool} {run rest : List α} (all : ∀ c ∈ run, p c = true)
    (stop : ∀ c ∈ rest.head?, p c = false) :
    ((run ++ rest).takeWhile p).length = run.length := by
  rw [List.takeWhile_append_of_pos all]
  cases rest with
  | nil => simp
  | cons c rest => rw [List.takeWhile_cons_of_neg (by simp [stop c rfl]), List.append_nil]

theorem Found.after_split {n : Nat} {text : List α} {found : Found α}
    (split : text.drop n = found.matched ++ found.rest) :
    text = (found.after (text.take n)).matched ++ found.rest := by
  show text = (text.take n ++ found.matched) ++ found.rest
  rw [List.append_assoc, ← split, List.take_append_drop]

variable [DecidableEq α]

/-- What is found is the head of the text, and the pieces spell it. -/
theorem spells_of_matchAt {pieces : List (Piece α)} {text : List α} {found : Found α}
    (here : matchAt pieces text = some found) :
    text = found.matched ++ found.rest ∧ Spells pieces text found.rest ∧
      ∀ run ∈ found.captures, run ≠ [] := by
  induction pieces generalizing text found with
  | nil =>
      cases here
      exact ⟨rfl, .nil, by simp⟩
  | cons piece pieces ih =>
      have nonempty : ∀ {p : α → Bool} {n : Nat}, 0 < n → n ≤ (text.takeWhile p).length →
          text.take n ≠ [] := by
        intro p n pos le empty
        have length := (take_takeWhile le).length_le
        have short := congrArg List.length empty
        have within := (List.takeWhile_prefix p (l := text)).length_le
        rw [List.length_take, List.length_nil] at short
        omega
      cases piece with
      | lit word =>
          rw [matchAt_cons_lit] at here
          split at here
          · rename_i front
            obtain ⟨tail, rfl⟩ := List.isPrefixOf_iff_prefix.mp front
            obtain ⟨later, there, rfl⟩ := Option.map_eq_some_iff.mp here
            rw [List.drop_left] at there
            obtain ⟨split, spells, captures⟩ := ih there
            refine ⟨?_, .lit spells, captures⟩
            show word ++ tail = (word ++ later.matched) ++ later.rest
            rw [List.append_assoc, ← split]
          · cases here
      | star p =>
          rw [matchAt_cons_star, Option.or_eq_some_iff] at here
          obtain ⟨n, le, run⟩ : ∃ n, n ≤ (text.takeWhile p).length ∧
              (matchAt pieces (text.drop n)).map (Found.after (text.take n)) = some found := by
            obtain longer | ⟨-, empty⟩ := here
            · obtain ⟨n, -, le, run⟩ := longest_eq_some longer
              exact ⟨n, le, run⟩
            · exact ⟨0, Nat.zero_le _, empty⟩
          obtain ⟨later, there, rfl⟩ := Option.map_eq_some_iff.mp run
          obtain ⟨split, spells, captures⟩ := ih there
          refine ⟨Found.after_split split, ?_, captures⟩
          have spells' := Spells.star (mem_take_of_le le) spells
          rwa [List.take_append_drop] at spells'
      | plus p =>
          rw [matchAt_cons_plus] at here
          obtain ⟨n, pos, le, run⟩ := longest_eq_some here
          obtain ⟨later, there, rfl⟩ := Option.map_eq_some_iff.mp run
          obtain ⟨split, spells, captures⟩ := ih there
          refine ⟨Found.after_split split, ?_, captures⟩
          have spells' := Spells.plus (nonempty pos le) (mem_take_of_le le) spells
          rwa [List.take_append_drop] at spells'
      | capture p =>
          rw [matchAt_cons_capture] at here
          obtain ⟨n, pos, le, run⟩ := longest_eq_some here
          obtain ⟨later, there, rfl⟩ := Option.map_eq_some_iff.mp run
          obtain ⟨split, spells, captures⟩ := ih there
          refine ⟨Found.after_split split, ?_, ?_⟩
          · have spells' := Spells.capture (nonempty pos le) (mem_take_of_le le) spells
            rwa [List.take_append_drop] at spells'
          · intro run mem
            obtain rfl | mem := List.mem_cons.mp mem
            · exact nonempty pos le
            · exact captures run mem

/-- The number of captured runs. -/
def groups : List (Piece α) → Nat
  | [] => 0
  | .capture _ :: pieces => groups pieces + 1
  | _ :: pieces => groups pieces

theorem length_captures {pieces : List (Piece α)} {text : List α} {found : Found α}
    (here : matchAt pieces text = some found) : found.captures.length = groups pieces := by
  induction pieces generalizing text found with
  | nil =>
      cases here
      rfl
  | cons piece pieces ih =>
      cases piece with
      | lit word =>
          rw [matchAt_cons_lit] at here
          split at here
          · obtain ⟨later, there, rfl⟩ := Option.map_eq_some_iff.mp here
            have count := ih there
            exact count
          · cases here
      | star p =>
          rw [matchAt_cons_star, Option.or_eq_some_iff] at here
          obtain longer | ⟨-, empty⟩ := here
          · obtain ⟨n, -, -, run⟩ := longest_eq_some longer
            obtain ⟨later, there, rfl⟩ := Option.map_eq_some_iff.mp run
            have count := ih there
            exact count
          · obtain ⟨later, there, rfl⟩ := Option.map_eq_some_iff.mp empty
            have count := ih there
            exact count
      | plus p =>
          rw [matchAt_cons_plus] at here
          obtain ⟨n, -, -, run⟩ := longest_eq_some here
          obtain ⟨later, there, rfl⟩ := Option.map_eq_some_iff.mp run
          have count := ih there
          exact count
      | capture p =>
          rw [matchAt_cons_capture] at here
          obtain ⟨n, -, -, run⟩ := longest_eq_some here
          obtain ⟨later, there, rfl⟩ := Option.map_eq_some_iff.mp run
          exact congrArg (· + 1) (ih there)

/-- Where the pieces spell the head of the text a match is found. -/
theorem isSome_matchAt {pieces : List (Piece α)} {text rest : List α}
    (spells : Spells pieces text rest) : (matchAt pieces text).isSome := by
  induction spells with
  | nil => rfl
  | @lit word pieces text rest _ ih =>
      have front : word.isPrefixOf (word ++ text) = true :=
        List.isPrefixOf_iff_prefix.mpr (List.prefix_append word text)
      rw [matchAt_cons_lit, if_pos front, List.drop_left, Option.isSome_map]
      exact ih
  | @star p run pieces text rest all _ ih =>
      have here : ((matchAt pieces ((run ++ text).drop run.length)).map
          (Found.after ((run ++ text).take run.length))).isSome := by
        rw [List.drop_left, Option.isSome_map]
        exact ih
      rw [matchAt_cons_star, Option.isSome_or, Bool.or_eq_true]
      obtain zero | pos := Nat.eq_zero_or_pos run.length
      · rw [zero] at here
        exact .inr here
      · exact .inl (isSome_longest pos (length_le_takeWhile all) here)
  | @plus p run pieces text rest some_ all _ ih =>
      rw [matchAt_cons_plus]
      refine isSome_longest (List.length_pos_of_ne_nil some_) (length_le_takeWhile all) ?_
      rw [List.drop_left, Option.isSome_map]
      exact ih
  | @capture p run pieces text rest some_ all _ ih =>
      rw [matchAt_cons_capture]
      refine isSome_longest (List.length_pos_of_ne_nil some_) (length_le_takeWhile all) ?_
      rw [List.drop_left, Option.isSome_map]
      exact ih

/-- A run goes up to the first character that is not of the class, if the pieces after it match
there. -/
theorem matchAt_star {p : α → Bool} {pieces : List (Piece α)} {run rest : List α}
    {found : Found α} (all : ∀ c ∈ run, p c = true) (stop : ∀ c ∈ rest.head?, p c = false)
    (here : matchAt pieces rest = some found) :
    matchAt (.star p :: pieces) (run ++ rest) = some (found.after run) := by
  have whole : (matchAt pieces ((run ++ rest).drop run.length)).map
      (Found.after ((run ++ rest).take run.length)) = some (found.after run) := by
    rw [List.drop_left, List.take_left, here]
    rfl
  rw [matchAt_cons_star, length_takeWhile_run all stop]
  cases run with
  | nil => exact whole
  | cons c run =>
      rw [List.length_cons] at whole ⊢
      simp only [longest, whole, Option.some_or]

theorem matchAt_plus {p : α → Bool} {pieces : List (Piece α)} {run rest : List α}
    {found : Found α} (some_ : run ≠ []) (all : ∀ c ∈ run, p c = true)
    (stop : ∀ c ∈ rest.head?, p c = false) (here : matchAt pieces rest = some found) :
    matchAt (.plus p :: pieces) (run ++ rest) = some (found.after run) := by
  have whole : (matchAt pieces ((run ++ rest).drop run.length)).map
      (Found.after ((run ++ rest).take run.length)) = some (found.after run) := by
    rw [List.drop_left, List.take_left, here]
    rfl
  rw [matchAt_cons_plus, length_takeWhile_run all stop]
  cases run with
  | nil => exact absurd rfl some_
  | cons c run =>
      rw [List.length_cons] at whole ⊢
      simp only [longest, whole, Option.some_or]

theorem matchAt_lit (word : List α) (pieces : List (Piece α)) (text : List α) :
    matchAt (.lit word :: pieces) (word ++ text) =
      (matchAt pieces text).map (Found.after word) := by
  have front : word.isPrefixOf (word ++ text) = true :=
    List.isPrefixOf_iff_prefix.mpr (List.prefix_append word text)
  rw [matchAt_cons_lit, if_pos front, List.drop_left]

theorem matchAt_capture {p : α → Bool} {pieces : List (Piece α)} {run rest : List α}
    {found : Found α} (some_ : run ≠ []) (all : ∀ c ∈ run, p c = true)
    (stop : ∀ c ∈ rest.head?, p c = false) (here : matchAt pieces rest = some found) :
    matchAt (.capture p :: pieces) (run ++ rest) =
      some { found.after run with captures := run :: found.captures } := by
  have whole : (matchAt pieces ((run ++ rest).drop run.length)).map (fun found =>
      { found.after ((run ++ rest).take run.length) with
        captures := (run ++ rest).take run.length :: found.captures }) =
      some { found.after run with captures := run :: found.captures } := by
    rw [List.drop_left, List.take_left, here]
    rfl
  rw [matchAt_cons_capture, length_takeWhile_run all stop]
  cases run with
  | nil => exact absurd rfl some_
  | cons c run =>
      rw [List.length_cons] at whole ⊢
      simp only [longest, whole, Option.some_or]

@[simp] theorem matchHere_singleton (pieces : List (Piece α)) (text : List α) :
    matchHere [pieces] text = matchAt pieces text := by
  rw [matchHere, List.findSome?_cons]
  cases matchAt pieces text <;> rfl

/-- The first alternative that matches is taken. -/
theorem matchHere_append {before after : List (List (Piece α))} {pieces : List (Piece α)}
    {text : List α} {found : Found α} (none : ∀ pieces ∈ before, matchAt pieces text = none)
    (here : matchAt pieces text = some found) :
    matchHere (before ++ pieces :: after) text = some found := by
  rw [matchHere, List.findSome?_append, List.findSome?_eq_none_iff.mpr none, Option.none_or,
    List.findSome?_cons, here]

variable {pattern : List (List (Piece α))} {text : List α}

theorem isSome_search {pieces : List (Piece α)} {before rest : List α} (mem : pieces ∈ pattern)
    (spells : Spells pieces text rest) : (search pattern (before ++ text)).isSome := by
  have here : (matchHere pattern text).isSome := by
    rw [matchHere, List.findSome?_isSome_iff]
    exact ⟨pieces, mem, isSome_matchAt spells⟩
  induction before with
  | nil =>
      cases text with
      | nil => exact here
      | cons c text =>
          rw [List.nil_append, search, Option.isSome_or, Bool.or_eq_true]
          exact .inl here
  | cons c before ih =>
      rw [List.cons_append, search, Option.isSome_or, Bool.or_eq_true]
      exact .inr ih

/-- A search finds what is matched at the first place where anything is. -/
theorem search_eq_some_iff {found : Found α} : search pattern text = some found ↔
    ∃ before here, text = before ++ here ∧ matchHere pattern here = some found ∧
      ∀ earlier later, text = earlier ++ later → earlier.length < before.length →
        matchHere pattern later = none := by
  induction text with
  | nil =>
      constructor
      · intro matched
        exact ⟨[], [], rfl, matched, by simp⟩
      · rintro ⟨before, here, split, matched, -⟩
        obtain ⟨rfl, rfl⟩ := List.nil_eq_append_iff.mp split
        exact matched
  | cons c text ih =>
      rw [search, Option.or_eq_some_iff]
      constructor
      · rintro (matched | ⟨none_, later⟩)
        · exact ⟨[], c :: text, rfl, matched, by simp⟩
        · obtain ⟨before, here, rfl, matched, first⟩ := ih.mp later
          refine ⟨c :: before, here, rfl, matched, ?_⟩
          intro earlier later split lt
          cases earlier with
          | nil => rwa [← List.nil_append later, ← split]
          | cons d earlier =>
              obtain ⟨-, split⟩ := List.cons.inj split
              exact first earlier later split (Nat.lt_of_succ_lt_succ lt)
      · rintro ⟨before, here, split, matched, first⟩
        cases before with
        | nil =>
            rw [List.nil_append] at split
            rw [split]
            exact .inl matched
        | cons d before =>
            obtain ⟨rfl, rfl⟩ := List.cons.inj split
            refine .inr ⟨first [] _ rfl (Nat.succ_pos _), ih.mpr ⟨before, here, rfl, matched, ?_⟩⟩
            intro earlier later split lt
            exact first (c :: earlier) later (congrArg (c :: ·) split) (Nat.succ_lt_succ lt)

theorem findAll_cons_of_none {c : α} (here : matchHere pattern (c :: text) = none) :
    findAll pattern (c :: text) = findAll pattern text := by
  rw [findAll, findAllFrom, here]
  rfl

/-- The characters of a match are passed over. -/
theorem findAllFrom_append (run text : List α) :
    findAllFrom pattern run.length (run ++ text) = findAll pattern text := by
  induction run with
  | nil => rfl
  | cons c run ih => exact ih

theorem findAll_of_match (found : Found α) (some_ : found.matched ≠ [])
    (here : matchHere pattern (found.matched ++ found.rest) = some found) :
    findAll pattern (found.matched ++ found.rest) =
      found.matched :: findAll pattern found.rest := by
  cases run : found.matched with
  | nil => exact absurd run some_
  | cons c run' =>
      rw [run, List.cons_append] at here
      rw [List.cons_append, findAll, findAllFrom, here]
      simp only [run, List.length_cons, Nat.add_sub_cancel]
      rw [findAllFrom_append]

end Pattern

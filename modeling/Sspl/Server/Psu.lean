import Mathlib.Tactic.FinCases
import Sspl.Foundation.Dict
import Sspl.Foundation.Pattern
import Sspl.Iem.Message

/-!
# The power supplies

`get_psus` finds the lines of all power supplies in the output of `dmidecode` and takes them from
the end, down to the header of each one. Key and value of a line are separated at the colons, of
which there must be one.
-/

namespace Sspl

namespace Server

open Iem (Text strip rstrip)
open Pattern (Piece Found findAll matchHere matchAt)

/-- `.`, which does not match the end of a line. -/
def dot (c : Char) : Bool := c != '\n'

def psuHeader : Text := "System Power Supply".toList

/-- A word followed by `.*`. -/
def restOfLine (word : String) : List (Piece Char) := [.lit word.toList, .star dot]

def psuPattern : List (List (Piece Char)) :=
  [[.lit psuHeader], restOfLine "Power Unit Group:", restOfLine "Location:", restOfLine "Name:",
    restOfLine "Serial Number:", restOfLine "Max Power Capacity:", restOfLine "Status: ",
    restOfLine "Plugged:", restOfLine "Hot Replaceable:"]

/-- `key, value = item.strip().split(":")` and `psu[key] = value.strip()`. -/
def addItem (psu : Dict Text Text) (item : Text) : Except PyErr (Dict Text Text) :=
  match (strip item).splitOn ':' with
  | [key, value] => .ok (psu.set key (strip value))
  | _ => .error .valueError

/-- The loops over `matches`, which are given from the last to the first: those that are no header
go to the stack, and a header takes them from there. -/
def collectPsus : List Text → List Text → List (Dict Text Text) →
    Except PyErr (List (Dict Text Text))
  | [], [], psus => .ok psus
  | [], _ :: _, _ => .error .other
  | item :: rest, stack, psus =>
    if item = psuHeader then do collectPsus rest [] (psus ++ [← stack.foldlM addItem .empty])
    else collectPsus rest (item :: stack) psus

def getPsus (response : Text) : Except PyErr (List (Dict Text Text)) :=
  collectPsus (findAll psuPattern response).reverse [] []

inductive PsuKey where
  | powerUnitGroup
  | location
  | name
  | serialNumber
  | maxPowerCapacity
  | status
  | plugged
  | hotReplaceable
  deriving DecidableEq

def PsuKey.label : PsuKey → String
  | powerUnitGroup => "Power Unit Group"
  | location => "Location"
  | name => "Name"
  | serialNumber => "Serial Number"
  | maxPowerCapacity => "Max Power Capacity"
  | status => "Status"
  | plugged => "Plugged"
  | hotReplaceable => "Hot Replaceable"

def PsuKey.text (key : PsuKey) : Text := key.label.toList

/-- A recognised line; its value stands on this line. -/
structure PsuLine where
  key : PsuKey
  value : Text
  single : '\n' ∉ value
  deriving DecidableEq

namespace PsuLine

/-- `Key: value`. -/
def item (line : PsuLine) : Text := line.key.text ++ ':' :: ' ' :: line.value

/-- The line as it is printed. -/
def text (line : PsuLine) : Text := '\t' :: line.item ++ ['\n']

end PsuLine

/-- The lines below a header. -/
abbrev Section := List PsuLine

namespace Section

def text (s : Section) : Text := psuHeader ++ '\n' :: s.flatMap PsuLine.text

/-- The dictionary of a section. -/
def dict (s : Section) : Dict Text Text :=
  Dict.empty.update (s.map (fun line => (line.key.text, strip line.value)))

end Section

def psuText (sections : List Section) : Text := sections.flatMap Section.text

/-- There is one dictionary for each section, with the keys and the values of the section, in some
order. -/
def ParsesPsus (sections : List Section) : Prop :=
  ∃ psus, getPsus (psuText sections) = .ok psus ∧ psus.Perm (sections.map Section.dict)

theorem findAll_newline (rest : Text) :
    findAll psuPattern ('\n' :: rest) = findAll psuPattern rest :=
  Pattern.findAll_cons_of_none rfl

theorem findAll_tab (rest : Text) :
    findAll psuPattern ('\t' :: rest) = findAll psuPattern rest :=
  Pattern.findAll_cons_of_none rfl

theorem psuHeader_ne_nil : psuHeader ≠ [] := by decide

theorem findAll_header (rest : Text) :
    findAll psuPattern (psuHeader ++ rest) = psuHeader :: findAll psuPattern rest :=
  Pattern.findAll_of_match ⟨[], psuHeader, rest⟩ psuHeader_ne_nil rfl

/-- An item that begins with a word of the pattern is found with the rest of its line. -/
theorem findAll_restOfLine (i : Nat) (word : String) {run item : Text} (rest : Text)
    (split : item = word.toList ++ run) (single : '\n' ∉ run) (some_ : word.toList ≠ [])
    (pattern : psuPattern = psuPattern.take i ++ restOfLine word :: psuPattern.drop (i + 1))
    (none : ∀ pieces ∈ psuPattern.take i,
      matchAt pieces (word.toList ++ (run ++ '\n' :: rest)) = none) :
    findAll psuPattern (item ++ '\n' :: rest) = item :: findAll psuPattern rest := by
  subst split
  have all : ∀ c ∈ run, dot c = true := by
    intro c mem
    rw [dot, bne_iff_ne]
    rintro rfl
    exact single mem
  have stop : ∀ c ∈ ('\n' :: rest).head?, dot c = false := by
    intro c mem
    cases mem
    rfl
  have here : matchAt (restOfLine word) (word.toList ++ (run ++ '\n' :: rest)) =
      some ⟨[], word.toList ++ run, '\n' :: rest⟩ := by
    have front : word.toList.isPrefixOf (word.toList ++ (run ++ '\n' :: rest)) = true :=
      List.isPrefixOf_iff_prefix.mpr (List.prefix_append _ _)
    have run : matchAt [.star dot] (run ++ '\n' :: rest) =
        some (Found.after run ⟨[], [], '\n' :: rest⟩) := Pattern.matchAt_star all stop rfl
    rw [restOfLine, matchAt, if_pos front, List.drop_left, run]
    simp [Found.after]
  have matched : matchHere psuPattern (word.toList ++ (run ++ '\n' :: rest)) =
      some ⟨[], word.toList ++ run, '\n' :: rest⟩ := by
    rw [pattern]
    exact Pattern.matchHere_append none here
  rw [← List.append_assoc] at matched
  refine (Pattern.findAll_of_match ⟨[], word.toList ++ run, '\n' :: rest⟩ ?_ matched).trans ?_
  · simp [some_]
  · rw [findAll_newline]

theorem findAll_line (line : PsuLine) (rest : Text) :
    findAll psuPattern (line.text ++ rest) = line.item :: findAll psuPattern rest := by
  obtain ⟨key, value, single⟩ := line
  have single' : '\n' ∉ ' ' :: value := by simp [single]
  have text : PsuLine.text ⟨key, value, single⟩ ++ rest =
      '\t' :: (PsuLine.item ⟨key, value, single⟩ ++ '\n' :: rest) := by
    simp [PsuLine.text]
  rw [text, findAll_tab]
  cases key with
  | powerUnitGroup =>
      refine findAll_restOfLine 1 "Power Unit Group:" rest
        (by simp [PsuLine.item, PsuKey.text, PsuKey.label]) single' (by simp) rfl ?_
      intro pieces mem
      fin_cases mem
      rfl
  | location =>
      refine findAll_restOfLine 2 "Location:" rest
        (by simp [PsuLine.item, PsuKey.text, PsuKey.label]) single' (by simp) rfl ?_
      intro pieces mem
      fin_cases mem <;> rfl
  | name =>
      refine findAll_restOfLine 3 "Name:" rest
        (by simp [PsuLine.item, PsuKey.text, PsuKey.label]) single' (by simp) rfl ?_
      intro pieces mem
      fin_cases mem <;> rfl
  | serialNumber =>
      refine findAll_restOfLine 4 "Serial Number:" rest
        (by simp [PsuLine.item, PsuKey.text, PsuKey.label]) single' (by simp) rfl ?_
      intro pieces mem
      fin_cases mem <;> rfl
  | maxPowerCapacity =>
      refine findAll_restOfLine 5 "Max Power Capacity:" rest
        (by simp [PsuLine.item, PsuKey.text, PsuKey.label]) single' (by simp) rfl ?_
      intro pieces mem
      fin_cases mem <;> rfl
  | status =>
      refine findAll_restOfLine 6 "Status: " rest
        (by simp [PsuLine.item, PsuKey.text, PsuKey.label]) single (by simp) rfl ?_
      intro pieces mem
      fin_cases mem <;> rfl
  | plugged =>
      refine findAll_restOfLine 7 "Plugged:" rest
        (by simp [PsuLine.item, PsuKey.text, PsuKey.label]) single' (by simp) rfl ?_
      intro pieces mem
      fin_cases mem <;> rfl
  | hotReplaceable =>
      refine findAll_restOfLine 8 "Hot Replaceable:" rest
        (by simp [PsuLine.item, PsuKey.text, PsuKey.label]) single' (by simp) rfl ?_
      intro pieces mem
      fin_cases mem <;> rfl

theorem findAll_lines (lines : List PsuLine) (rest : Text) :
    findAll psuPattern (lines.flatMap PsuLine.text ++ rest) =
      lines.map PsuLine.item ++ findAll psuPattern rest := by
  induction lines with
  | nil => rfl
  | cons line lines ih =>
      rw [List.flatMap_cons, List.append_assoc, findAll_line, ih, List.map_cons, List.cons_append]

/-- What is found in a section. -/
def Section.items (s : Section) : List Text := psuHeader :: s.map PsuLine.item

theorem findAll_psuText (sections : List Section) :
    findAll psuPattern (psuText sections) = sections.flatMap Section.items := by
  induction sections with
  | nil => rfl
  | cons s sections ih =>
      have text : psuText (s :: sections) =
          psuHeader ++ ('\n' :: (s.flatMap PsuLine.text ++ psuText sections)) := by
        simp [psuText, Section.text]
      rw [text, findAll_header, findAll_newline, findAll_lines, ih, List.flatMap_cons,
        Section.items, List.cons_append]

theorem rstrip_append_cons {c : Char} (plain : isSpace c = false) (front back : Text) :
    rstrip (front ++ c :: back) = front ++ c :: rstrip back := by
  have split : (front ++ c :: back).reverse.dropWhile isSpace =
      back.reverse.dropWhile isSpace ++ c :: front.reverse := by
    rw [List.reverse_append, List.reverse_cons, List.append_assoc, List.singleton_append,
      List.dropWhile_append]
    split
    · rename_i empty
      rw [List.isEmpty_iff] at empty
      rw [empty, List.dropWhile_cons_of_neg (by simp [plain]), List.nil_append]
    · rfl
  rw [rstrip, split]
  simp [rstrip]

theorem PsuKey.colon_notMem (key : PsuKey) : ':' ∉ key.text := by
  cases key <;> simp [PsuKey.text, PsuKey.label]

/-- A key begins with a letter. -/
theorem PsuKey.dropWhile_isSpace (key : PsuKey) (rest : Text) :
    (key.text ++ rest).dropWhile isSpace = key.text ++ rest := by
  cases key <;> rfl

theorem strip_item (line : PsuLine) :
    strip line.item = line.key.text ++ ':' :: rstrip (' ' :: line.value) := by
  rw [PsuLine.item, strip, rstrip_append_cons (by decide), PsuKey.dropWhile_isSpace]

theorem strip_rstrip_blank (text : Text) : strip (rstrip (' ' :: text)) = strip text := by
  have closed : rstrip (rstrip (' ' :: text)) = rstrip (' ' :: text) :=
    List.rdropWhile_idempotent isSpace _
  have blank : (' ' :: text).reverse = text.reverse ++ [' '] := List.reverse_cons
  rw [strip, closed, strip, rstrip, rstrip, blank, List.dropWhile_append]
  split
  · rename_i empty
    rw [List.isEmpty_iff] at empty
    rw [empty]
    rfl
  · rw [List.reverse_append, List.reverse_singleton, List.singleton_append,
      List.dropWhile_cons_of_pos (by decide)]

theorem colon_mem_rstrip {text : Text} : ':' ∈ rstrip (' ' :: text) ↔ ':' ∈ text := by
  constructor
  · intro mem
    have front := (List.rdropWhile_prefix isSpace (l := ' ' :: text)).subset mem
    simpa using front
  · intro mem
    obtain ⟨before, after, rfl⟩ := List.append_of_mem mem
    rw [← List.cons_append, rstrip_append_cons (by decide)]
    simp

/-- A line is taken apart at its colon, if it has no other. -/
theorem addItem_item {line : PsuLine} (plain : ':' ∉ line.value) (psu : Dict Text Text) :
    addItem psu line.item = .ok (psu.set line.key.text (strip line.value)) := by
  have parts : (strip line.item).splitOn ':' =
      [line.key.text, rstrip (' ' :: line.value)] := by
    rw [strip_item, List.splitOn_append_cons_self,
      List.splitOn_eq_singleton line.key.colon_notMem,
      List.splitOn_eq_singleton (fun mem => plain (colon_mem_rstrip.mp mem))]
    rfl
  rw [addItem, parts]
  simp only [strip_rstrip_blank]

theorem addItem_error {line : PsuLine} (colon : ':' ∈ line.value) (psu : Dict Text Text) :
    addItem psu line.item = .error .valueError := by
  obtain ⟨before, after, split⟩ := List.append_of_mem (colon_mem_rstrip.mpr colon)
  obtain ⟨first, second, rest, parts⟩ : ∃ first second rest,
      (strip line.item).splitOn ':' = line.key.text :: first :: second :: rest := by
    rw [strip_item, List.splitOn_append_cons_self, List.splitOn_eq_singleton line.key.colon_notMem,
      split, List.splitOn_append_cons_self]
    cases front : before.splitOn ':' with
    | nil => exact absurd front (List.splitOn_ne_nil _ _)
    | cons first front' =>
        cases back : after.splitOn ':' with
        | nil => exact absurd back (List.splitOn_ne_nil _ _)
        | cons second rest =>
            cases front' with
            | nil => exact ⟨first, second, rest, rfl⟩
            | cons third front' => exact ⟨first, third, front' ++ second :: rest, rfl⟩
  rw [addItem, parts]

theorem foldlM_addItem {lines : List PsuLine} (plain : ∀ line ∈ lines, ':' ∉ line.value)
    (psu : Dict Text Text) : (lines.map PsuLine.item).foldlM addItem psu =
      .ok (psu.update (lines.map (fun line => (line.key.text, strip line.value)))) := by
  induction lines generalizing psu with
  | nil => rfl
  | cons line lines ih =>
      rw [List.map_cons, List.foldlM_cons, addItem_item (plain line List.mem_cons_self)]
      exact ih (fun line' mem => plain line' (List.mem_cons_of_mem line mem)) _

theorem foldlM_addItem_error {lines : List PsuLine} {line : PsuLine} (mem : line ∈ lines)
    (colon : ':' ∈ line.value) (psu : Dict Text Text) :
    ∃ err, (lines.map PsuLine.item).foldlM addItem psu = .error err := by
  induction lines generalizing psu with
  | nil => cases mem
  | cons first lines ih =>
      rw [List.map_cons, List.foldlM_cons]
      cases step : addItem psu first.item with
      | error err => exact ⟨err, rfl⟩
      | ok psu' =>
          obtain rfl | later := List.mem_cons.mp mem
          · rw [addItem_error colon] at step
            cases step
          · exact ih later psu'

theorem item_ne_header (line : PsuLine) : line.item ≠ psuHeader := by
  intro same
  have colon : ':' ∈ psuHeader := by
    rw [← same, PsuLine.item]
    simp
  exact absurd colon (by decide)

/-- The lines of a section go to the stack, the last one first. -/
theorem collectPsus_items (lines : List PsuLine) (rest stack : List Text)
    (psus : List (Dict Text Text)) :
    collectPsus ((lines.map PsuLine.item).reverse ++ rest) stack psus =
      collectPsus rest (lines.map PsuLine.item ++ stack) psus := by
  induction lines using List.reverseRecOn generalizing stack with
  | nil => rfl
  | append_singleton lines line ih =>
      have first : ((lines ++ [line]).map PsuLine.item).reverse ++ rest =
          line.item :: ((lines.map PsuLine.item).reverse ++ rest) := by simp
      rw [first, collectPsus, if_neg (item_ne_header line), ih]
      simp

theorem collectPsus_section (s : Section) (rest : List Text) (psus : List (Dict Text Text)) :
    collectPsus (s.items.reverse ++ rest) [] psus =
      ((s.map PsuLine.item).foldlM addItem .empty >>=
        fun psu => collectPsus rest [] (psus ++ [psu])) := by
  have split : s.items.reverse ++ rest =
      (s.map PsuLine.item).reverse ++ (psuHeader :: rest) := by
    simp [Section.items]
  rw [split, collectPsus_items, collectPsus, if_pos rfl, List.append_nil]

theorem collectPsus_sections {sections : List Section}
    (plain : ∀ s ∈ sections, ∀ line ∈ s, ':' ∉ line.value) (psus : List (Dict Text Text)) :
    collectPsus (sections.flatMap Section.items).reverse [] psus =
      .ok (psus ++ (sections.map Section.dict).reverse) := by
  induction sections using List.reverseRecOn generalizing psus with
  | nil => simp [collectPsus]
  | append_singleton sections s ih =>
      have last : ((sections ++ [s]).flatMap Section.items).reverse =
          s.items.reverse ++ (sections.flatMap Section.items).reverse := by simp
      have psu := foldlM_addItem (plain s (by simp)) .empty
      rw [last, collectPsus_section, psu]
      show collectPsus (sections.flatMap Section.items).reverse [] (psus ++ [s.dict]) = _
      rw [ih (fun s' mem => plain s' (List.mem_append_left _ mem))]
      simp

theorem collectPsus_sections_error {sections : List Section} {s : Section} {line : PsuLine}
    (mem : s ∈ sections) (listed : line ∈ s) (colon : ':' ∈ line.value)
    (psus : List (Dict Text Text)) :
    ∃ err, collectPsus (sections.flatMap Section.items).reverse [] psus = .error err := by
  induction sections using List.reverseRecOn generalizing psus with
  | nil => cases mem
  | append_singleton sections s' ih =>
      have last : ((sections ++ [s']).flatMap Section.items).reverse =
          s'.items.reverse ++ (sections.flatMap Section.items).reverse := by simp
      rw [last, collectPsus_section]
      cases step : (s'.map PsuLine.item).foldlM addItem .empty with
      | error err => exact ⟨err, rfl⟩
      | ok psu =>
          obtain earlier | here := List.mem_append.mp mem
          · exact ih earlier _
          · obtain rfl := List.mem_singleton.mp here
            obtain ⟨err, raised⟩ := foldlM_addItem_error listed colon .empty
            rw [raised] at step
            cases step

/-- Of what `dmidecode` prints on power supplies every line of every section is returned under its
name exactly when no value has a colon in it. -/
theorem parsesPsus_iff (sections : List Section) :
    ParsesPsus sections ↔ ∀ s ∈ sections, ∀ line ∈ s, ':' ∉ line.value := by
  rw [ParsesPsus, getPsus, findAll_psuText]
  constructor
  · rintro ⟨psus, ran, -⟩ s mem line listed colon
    obtain ⟨err, raised⟩ := collectPsus_sections_error mem listed colon []
    rw [raised] at ran
    cases ran
  · intro plain
    refine ⟨_, collectPsus_sections plain [], ?_⟩
    rw [List.nil_append]
    exact List.reverse_perm _

/-- A supply whose location has a colon in it. -/
def colonSection : Section := [⟨.location, "PSU:1".toList, by decide⟩]

/-- A location with a colon in it makes the whole call fail. -/
theorem colonSection_not_parsed :
    psuText [colonSection] = "System Power Supply\n\tLocation: PSU:1\n".toList ∧
    getPsus (psuText [colonSection]) = .error .valueError ∧ ¬ ParsesPsus [colonSection] := by
  have raised : getPsus (psuText [colonSection]) = .error .valueError := by rfl
  refine ⟨by decide +kernel, raised, ?_⟩
  rintro ⟨psus, ran, -⟩
  cases raised.symm.trans ran

end Server

end Sspl

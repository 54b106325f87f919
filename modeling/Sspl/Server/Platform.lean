import Sspl.Foundation.Dict
import Sspl.Foundation.Pattern
import Sspl.Iem.Message

/-!
# The details of the platform

`get_server_details` reads fields of the builtin FRU device. It looks for the section of the
device with a pattern in which the parentheses of `(ID 0)` form a group, so that the pattern
matches the whole output instead, and it looks for the values in the whole output anyway. A field
that is named somewhere and has no value keeps the value of the field before it.
-/

namespace Sspl

namespace Server

open Iem (Text strip)
open Pattern (Piece Found Spells search matchHere matchAt)

/-- `get_os_info`, from the text of `/etc/os-release`. -/
def getOsInfo (lower : Text → Text) (osRelease : Text) : Dict Text Text :=
  (osRelease.splitOn '\n').foldl (fun osInfo line =>
    match line.splitOn '=' with
    | key :: value :: _ =>
      if strip value ≠ [] then
        osInfo.set ((lower (strip key)).map (fun c => if c = ' ' then '_' else c))
          ((strip value).filter (· ≠ '"'))
      else osInfo
    | _ => osInfo) .empty

/-- The characters that `\w` matches; no blank is one. -/
structure Word where
  mem : Char → Bool
  notBlank : ∀ c, mem c = true → isSpace c = false

/-- `.`. -/
def anyInLine (c : Char) : Bool := c != '\n'

/-- What a subcommand of `ipmitool` prints, and its return code. -/
structure Printed where
  out : Text
  retcode : Int

/-- `%s[\s]+:[\s]+([p]+)(.*)`. -/
def valuePattern (p : Char → Bool) (key : Text) : List (List (Piece Char)) :=
  [[.lit key, .plus isSpace, .lit [':'], .plus isSpace, .capture p, .star anyInLine]]

/-- `groups()[0]` of the match, if there is one. -/
def groupOf (found : Option (Found Char)) : Option Text := found.bind (·.captures.head?)

/-- `get_manufacturer_name`, from what `bmc info` prints. -/
def getManufacturerName (word : Word) (bmcInfo : Printed) : Text :=
  if bmcInfo.retcode = 0 then
    (groupOf (search (valuePattern word.mem "Manufacturer Name".toList) bmcInfo.out)).getD []
  else []

inductive FruField where
  | chassisType
  | chassisPartNumber
  | chassisSerial
  | chassisExtra
  | boardMfgDate
  | boardMfg
  | boardProduct
  | boardSerial
  | boardPartNumber
  | boardExtra
  | productManufacturer
  | productName
  | productPartNumber
  | productVersion
  | productSerial
  | productAssetTag
  | productExtra
  deriving DecidableEq

def FruField.label : FruField → String
  | chassisType => "Chassis Type"
  | chassisPartNumber => "Chassis Part Number"
  | chassisSerial => "Chassis Serial"
  | chassisExtra => "Chassis Extra"
  | boardMfgDate => "Board Mfg Date"
  | boardMfg => "Board Mfg"
  | boardProduct => "Board Product"
  | boardSerial => "Board Serial"
  | boardPartNumber => "Board Part Number"
  | boardExtra => "Board Extra"
  | productManufacturer => "Product Manufacturer"
  | productName => "Product Name"
  | productPartNumber => "Product Part Number"
  | productVersion => "Product Version"
  | productSerial => "Product Serial"
  | productAssetTag => "Product Asset Tag"
  | productExtra => "Product Extra"

def FruField.text (field : FruField) : Text := field.label.toList

/-- The board and product fields among the keys of `specifics`. -/
def requested : List FruField :=
  [.boardMfg, .boardProduct, .boardPartNumber, .productName, .productPartNumber]

def manufacturerKey : Text := "Manufacturer".toList
def osKey : Text := "OS".toList

/-- The keys of `specifics`. -/
def detailKeys : List Text := requested.map FruField.text ++ [manufacturerKey, osKey]

/-- The pattern of the section; the parentheses of the prefix are a group of it. -/
def sectionPattern : List (List (Piece Char)) :=
  [[.star anyInLine, .lit "FRU Device Description : Builtin FRU Device ID 0".toList,
      .plus (fun _ => true), .lit "ID 1)".toList, .star anyInLine],
    [.star anyInLine, .plus (fun _ => true)]]

/-- `search_res.group() if search_res else ""`. -/
def sectionOfOutput (out : Text) : Text :=
  match search sectionPattern out with
  | some found => found.matched
  | none => []

/-- `[\w-]`. -/
def valueChar (word : Word) (c : Char) : Bool := word.mem c || c == '-'

/-- The first value that follows the key in a text. -/
def valueIn (word : Word) (out key : Text) : Option Text :=
  groupOf (search (valuePattern (valueChar word) key) out)

/-- The body of the loop, on `value`, which is not bound at first, and `specifics`. -/
def readDetail (word : Word) (searchRes out : Text) (acc : Option Text × Dict Text Text)
    (key : Text) : Except PyErr (Option Text × Dict Text Text) :=
  if key <:+: searchRes then
    match (valueIn word out key).or acc.1 with
    | some value => .ok (some value, acc.2.set key value)
    | none => .error .nameError
  else .ok acc

def initialDetails (manufacturer os : Text) : Dict Text Text :=
  ((Dict.empty.update (requested.map (fun field => (field.text, [])))).set manufacturerKey
    manufacturer).set osKey os

def getServerDetails (word : Word) (lower : Text → Text) (osRelease : Text)
    (bmcInfo fruPrint : Printed) : Except PyErr (Dict Text Text) := do
  let osInfo := getOsInfo lower osRelease
  let os := (osInfo.get? "id".toList).getD [] ++ (osInfo.get? "version_id".toList).getD []
  let specifics := initialDetails (getManufacturerName word bmcInfo) os
  let searchRes := if fruPrint.retcode = 0 then sectionOfOutput fruPrint.out else []
  return (← detailKeys.foldlM (readDetail word searchRes fruPrint.out) (none, specifics)).2

/-- The builtin device, or one that a sensor record describes; the name in a record has at most
sixteen characters. -/
inductive FruDevice where
  | builtin
  | located (name : Text) (short : name.length ≤ 16) (id : Nat)
  deriving DecidableEq

def builtinDescription : Text := "Builtin FRU Device (ID 0)".toList

def FruDevice.description : FruDevice → Text
  | builtin => builtinDescription
  | located name _ id => name ++ [' ', '(', 'I', 'D', ' '] ++ Nat.toDigits 10 id ++ [')']

/-- The section of a device, with the fields that it has. -/
structure FruSection where
  device : FruDevice
  fields : List (FruField × Text)

/-- The names of the fields are padded. -/
def fieldLine (field : FruField × Text) : Text :=
  ' ' :: field.1.text ++ ' ' :: List.replicate (21 - field.1.text.length) ' ' ++
    ':' :: ' ' :: field.2 ++ ['\n']

def FruSection.text (s : FruSection) : Text :=
  "FRU Device Description : ".toList ++ s.device.description ++ '\n' ::
    s.fields.flatMap fieldLine ++ ['\n']

def fruText (sections : List FruSection) : Text := sections.flatMap FruSection.text

def leadingWord (word : Word) (value : Text) : Text :=
  (value.dropWhile isSpace).takeWhile (valueChar word)

/-- The value of the field in the section of the builtin device. -/
def builtinValue (sections : List FruSection) (field : FruField) : Option Text :=
  (sections.find? (fun s => s.device = .builtin)).bind fun s =>
    (s.fields.find? (fun item => item.1 = field)).map Prod.snd

def expected (word : Word) (sections : List FruSection) (field : FruField) : Text :=
  ((builtinValue sections field).map (leadingWord word)).getD []

/-- The call returns, and has for each requested field the word that the section of the builtin
device prints, or nothing. -/
def Details (word : Word) (lower : Text → Text) (osRelease : Text) (bmcInfo : Printed)
    (sections : List FruSection) : Prop :=
  ∃ specifics, getServerDetails word lower osRelease bmcInfo ⟨fruText sections, 0⟩ = .ok specifics ∧
    ∀ field ∈ requested, specifics.get? field.text = some (expected word sections field)

theorem infix_split {word front back : Text} {c : Char} (plain : c ∉ word)
    (h : word <:+: front ++ c :: back) : word <:+: front ∨ word <:+: back := by
  obtain ⟨before, after, split⟩ := h
  rw [List.append_eq_append_iff] at split
  obtain ⟨middle, first, second⟩ | ⟨middle, first, second⟩ := split
  · exact .inl ⟨before, middle, first.symm⟩
  · cases middle with
    | nil =>
        rw [List.append_nil] at first
        exact .inl ⟨before, [], by rw [List.append_nil, first]⟩
    | cons d middle =>
        obtain ⟨rfl, rfl⟩ := List.cons.inj (by simpa using second)
        rw [List.append_eq_append_iff] at first
        obtain ⟨inner, third, fourth⟩ | ⟨inner, third, fourth⟩ := first
        · exact absurd (by rw [fourth]; simp) plain
        · cases inner with
          | nil =>
              rw [List.nil_append] at fourth
              exact absurd (by rw [← fourth]; simp) plain
          | cons e inner =>
              obtain ⟨rfl, rfl⟩ := List.cons.inj (by simpa using fourth)
              exact .inr ⟨inner, after, by simp⟩

/-- What stands for the prefix in the pattern. -/
def prefixWord : Text := "FRU Device Description : Builtin FRU Device ID 0".toList

def descriptionLine (device : FruDevice) : Text :=
  "FRU Device Description : ".toList ++ device.description

/-- The prefix is in no line that names a device. -/
theorem prefixWord_not_infix (device : FruDevice) : ¬ prefixWord <:+: descriptionLine device := by
  cases device with
  | builtin => decide +kernel
  | located name short id =>
      intro h
      have split : descriptionLine (.located name short id) =
          ("FRU Device Description : ".toList ++ name ++ [' ']) ++
            '(' :: (['I', 'D', ' '] ++ Nat.toDigits 10 id ++ [')']) := by
        show "FRU Device Description : ".toList ++
          (name ++ [' ', '(', 'I', 'D', ' '] ++ Nat.toDigits 10 id ++ [')']) = _
        simp only [List.append_assoc, List.cons_append, List.nil_append]
      rw [split] at h
      obtain front | back := infix_split (by decide) h
      · have length := front.length_le
        have word : prefixWord.length = 48 := by decide
        have line : ("FRU Device Description : ".toList ++ name ++ [' ']).length =
            26 + name.length := by
          simp
          omega
        omega
      · have letter : 'F' ∈ prefixWord := by decide
        have mem := back.subset letter
        simp only [List.mem_append, List.mem_cons, List.not_mem_nil, or_false] at mem
        obtain ((clash | clash | clash) | digit) | clash := mem
        · cases clash
        · cases clash
        · cases clash
        · have isDigit := Nat.isDigit_of_mem_toDigits (by decide) (by decide) digit
          cases isDigit
        · cases clash

/-- The pattern with the prefix matches nothing where a device is named. -/
theorem matchAt_section (device : FruDevice) (rest : Text) :
    matchAt [.star anyInLine, .lit prefixWord, .plus (fun _ => true), .lit "ID 1)".toList,
      .star anyInLine] (descriptionLine device ++ '\n' :: rest) = none := by
  rw [Option.eq_none_iff_forall_ne_some]
  intro found here
  obtain ⟨-, spells, -⟩ := Pattern.spells_of_matchAt here
  obtain ⟨run, text, split, all, spells⟩ := Pattern.spells_star spells
  obtain ⟨text, rfl, -⟩ := Pattern.spells_lit spells
  have front : run ++ prefixWord <+: descriptionLine device ++ '\n' :: rest :=
    ⟨text, by rw [split, List.append_assoc]⟩
  have line : descriptionLine device ++ ['\n'] <+: descriptionLine device ++ '\n' :: rest :=
    ⟨rest, by rw [List.append_assoc]; rfl⟩
  obtain within | beyond := List.prefix_or_prefix_of_prefix front line
  · obtain ⟨after, same⟩ := within
    have inside : prefixWord <:+: descriptionLine device ++ '\n' :: [] := ⟨run, after, same⟩
    obtain h | h := infix_split (by decide) inside
    · exact prefixWord_not_infix device h
    · exact absurd h (by decide)
  · have newline : '\n' ∈ run ++ prefixWord := beyond.subset (by simp)
    obtain mem | mem := List.mem_append.mp newline
    · exact absurd (all _ mem) (by decide)
    · exact absurd mem (by decide)

/-- A line and what follows it are matched by the other pattern. -/
theorem matchAt_whole {out : Text} (newline : '\n' ∈ out) :
    matchAt [.star anyInLine, .plus (fun _ => true)] out = some ⟨[], out, []⟩ := by
  have split := List.takeWhile_append_dropWhile (p := anyInLine) (l := out)
  have rest : out.dropWhile anyInLine ≠ [] := by
    intro empty
    exact absurd (List.dropWhile_eq_nil_iff.mp empty '\n' newline) (by decide)
  have stop : ∀ c ∈ (out.dropWhile anyInLine).head?, anyInLine c = false := by
    intro c head
    have first := List.head?_dropWhile_not anyInLine out
    rw [Option.mem_def.mp head] at first
    exact first
  have last : matchAt [.plus (fun _ => true)] (out.dropWhile anyInLine ++ []) =
      some (Found.after (out.dropWhile anyInLine) ⟨[], [], []⟩) :=
    Pattern.matchAt_plus rest (fun _ _ => rfl) (by simp) rfl
  rw [List.append_nil] at last
  have line : ∀ c ∈ out.takeWhile anyInLine, anyInLine c = true :=
    List.all_eq_true.mp List.all_takeWhile
  have whole := Pattern.matchAt_star line stop last
  rw [split] at whole
  rw [whole]
  simp [Found.after]

/-- What is searched for the names of the fields is the whole output. -/
theorem sectionOfOutput_fruText (sections : List FruSection) :
    sectionOfOutput (fruText sections) = fruText sections := by
  cases sections with
  | nil => decide +kernel
  | cons s rest =>
      obtain ⟨tail, text⟩ : ∃ tail, fruText (s :: rest) =
          descriptionLine s.device ++ '\n' :: tail := by
        refine ⟨s.fields.flatMap fieldLine ++ ['\n'] ++ fruText rest, ?_⟩
        show (descriptionLine s.device ++ '\n' :: s.fields.flatMap fieldLine ++ ['\n']) ++
          fruText rest = _
        simp only [List.append_assoc, List.cons_append]
      have here : matchHere sectionPattern (fruText (s :: rest)) =
          some ⟨[], fruText (s :: rest), []⟩ := by
        show matchHere ([_] ++ [.star anyInLine, .plus (fun _ => true)] :: []) _ = _
        refine Pattern.matchHere_append ?_ (matchAt_whole ?_)
        · intro pieces mem
          obtain rfl := List.mem_singleton.mp mem
          rw [text]
          exact matchAt_section s.device tail
        · rw [text]
          simp
      have found : search sectionPattern (fruText (s :: rest)) =
          some ⟨[], fruText (s :: rest), []⟩ := by
        cases whole : fruText (s :: rest) with
        | nil =>
            rw [whole] at here
            exact here
        | cons c out =>
            rw [whole] at here
            rw [search, here, Option.some_or]
      rw [sectionOfOutput, found]

/-- The text starts with `name blanks : blanks value`, and the value ends there. -/
inductive Reads (word : Word) (name value : Text) : Text → Prop
  | intro {pad pad' rest : Text} (padded : pad ≠ []) (blank : ∀ c ∈ pad, isSpace c = true)
      (padded' : pad' ≠ []) (blank' : ∀ c ∈ pad', isSpace c = true) (some_ : value ≠ [])
      (letters : ∀ c ∈ value, valueChar word c = true)
      (stop : ∀ c ∈ rest.head?, valueChar word c = false) :
      Reads word name value (name ++ (pad ++ (':' :: (pad' ++ (value ++ rest)))))

/-- The first place of the output that reads `name blanks : blanks value` has this value. -/
def FirstReads (word : Word) (out name value : Text) : Prop :=
  ∃ before here, out = before ++ here ∧ Reads word name value here ∧
    ∀ earlier later value', out = earlier ++ later → earlier.length < before.length →
      ¬ Reads word name value' later

/-- Some place of the output reads so. -/
def Valued (word : Word) (out name : Text) : Prop :=
  ∃ value before here, out = before ++ here ∧ Reads word name value here

section Values

variable {word : Word} {out name value : Text}

theorem isSpace_of_valueChar {c : Char} (letter : valueChar word c = true) :
    isSpace c = false := by
  rw [valueChar, Bool.or_eq_true] at letter
  obtain letter | dash := letter
  · exact word.notBlank c letter
  · obtain rfl := eq_of_beq dash
    decide

theorem Reads.nonempty {here : Text} (reads : Reads word name value here) : value ≠ [] := by
  cases reads with
  | intro _ _ _ _ some_ _ _ => exact some_

theorem Reads.name_prefix {here : Text} (reads : Reads word name value here) :
    name <+: here := by
  cases reads with
  | intro => exact List.prefix_append _ _

/-- The pattern captures the value. -/
theorem matchHere_of_reads {here : Text} (reads : Reads word name value here) :
    ∃ found, matchHere (valuePattern (valueChar word) name) here = some found ∧
      found.captures = [value] := by
  cases reads with
  | @intro pad pad' rest padded blank padded' blank' some_ letters stop =>
      obtain ⟨found, last, captures⟩ : ∃ found, matchAt [.star anyInLine] rest = some found ∧
          found.captures = [] := by
        have spells : Spells [.star anyInLine] ([] ++ rest) rest := .star (by simp) .nil
        obtain ⟨found, last⟩ := Option.isSome_iff_exists.mp (Pattern.isSome_matchAt spells)
        exact ⟨found, last, List.length_eq_zero_iff.mp (Pattern.length_captures last)⟩
      have value_ := Pattern.matchAt_capture some_ letters stop last
      have edge : ∀ c ∈ (value ++ rest).head?, isSpace c = false := by
        intro c head
        cases value with
        | nil => exact absurd rfl some_
        | cons d value =>
            obtain rfl := Option.some.inj (Option.mem_def.mp head)
            exact isSpace_of_valueChar (letters d List.mem_cons_self)
      have blanks' := Pattern.matchAt_plus padded' blank' edge value_
      have colon := Pattern.matchAt_lit [':'] (.plus isSpace :: .capture (valueChar word) ::
        [.star anyInLine]) (pad' ++ (value ++ rest))
      rw [blanks'] at colon
      have blanks := Pattern.matchAt_plus padded blank (by
        rintro d ⟨⟩
        decide) colon
      have whole := Pattern.matchAt_lit name (.plus isSpace :: .lit [':'] :: .plus isSpace ::
        .capture (valueChar word) :: [.star anyInLine])
        (pad ++ ([':'] ++ (pad' ++ (value ++ rest))))
      rw [blanks] at whole
      refine ⟨_, (Pattern.matchHere_singleton _ _).trans whole, ?_⟩
      simp [Found.after, captures]

/-- The run of value characters at a place can be taken to its end. -/
theorem exists_reads {pad pad' run : Text} (name rest : Text) (padded : pad ≠ [])
    (blank : ∀ c ∈ pad, isSpace c = true) (padded' : pad' ≠ [])
    (blank' : ∀ c ∈ pad', isSpace c = true) (some_ : run ≠ [])
    (letters : ∀ c ∈ run, valueChar word c = true) :
    Reads word name (run ++ rest.takeWhile (valueChar word))
      (name ++ (pad ++ (':' :: (pad' ++ (run ++ rest))))) := by
  have stop : ∀ c ∈ (rest.dropWhile (valueChar word)).head?, valueChar word c = false := by
    intro c head
    have first := List.head?_dropWhile_not (valueChar word) rest
    rw [Option.mem_def.mp head] at first
    exact first
  have all : ∀ c ∈ run ++ rest.takeWhile (valueChar word), valueChar word c = true := by
    intro c mem
    obtain mem | mem := List.mem_append.mp mem
    · exact letters c mem
    · exact List.all_eq_true.mp List.all_takeWhile c mem
  have nonempty : run ++ rest.takeWhile (valueChar word) ≠ [] := by simp [some_]
  have reads : Reads word name _ _ := .intro padded blank padded' blank' nonempty all stop
  rwa [List.append_assoc, List.takeWhile_append_dropWhile] at reads

/-- What the pattern matches reads so. -/
theorem reads_of_matchHere {here : Text} {found : Found Char}
    (matched : matchHere (valuePattern (valueChar word) name) here = some found) :
    ∃ value, Reads word name value here := by
  rw [valuePattern, Pattern.matchHere_singleton] at matched
  obtain ⟨-, spells, -⟩ := Pattern.spells_of_matchAt matched
  obtain ⟨_, rfl, spells₁⟩ := Pattern.spells_lit spells
  obtain ⟨pad, _, rfl, padded, blank, spells₂⟩ := Pattern.spells_plus spells₁
  obtain ⟨_, rfl, spells₃⟩ := Pattern.spells_lit spells₂
  obtain ⟨pad', _, rfl, padded', blank', spells₄⟩ := Pattern.spells_plus spells₃
  obtain ⟨run, rest, rfl, some_, letters, -⟩ := Pattern.spells_capture spells₄
  have reads := exists_reads name rest padded blank padded' blank' some_ letters
  exact ⟨_, reads⟩

theorem matchHere_eq_none_iff {here : Text} :
    matchHere (valuePattern (valueChar word) name) here = none ↔
      ∀ value, ¬ Reads word name value here := by
  constructor
  · intro none_ value reads
    obtain ⟨found, matched, -⟩ := matchHere_of_reads reads
    rw [none_] at matched
    cases matched
  · intro none_
    rw [Option.eq_none_iff_forall_ne_some]
    intro found matched
    obtain ⟨value, reads⟩ := reads_of_matchHere matched
    exact none_ value reads

/-- The search for a value finds the first place of the output that has one. -/
theorem valueIn_eq_some_iff :
    valueIn word out name = some value ↔ FirstReads word out name value := by
  rw [valueIn, groupOf, Option.bind_eq_some_iff]
  constructor
  · rintro ⟨found, searched, head⟩
    obtain ⟨before, here, split, matched, first⟩ := Pattern.search_eq_some_iff.mp searched
    obtain ⟨value', reads⟩ := reads_of_matchHere matched
    obtain ⟨found', matched', captures⟩ := matchHere_of_reads reads
    obtain rfl := Option.some.inj (matched.symm.trans matched')
    rw [captures] at head
    obtain rfl := Option.some.inj head
    refine ⟨before, here, split, reads, ?_⟩
    intro earlier later value'' split' lt
    exact matchHere_eq_none_iff.mp (first earlier later split' lt) value''
  · rintro ⟨before, here, split, reads, first⟩
    obtain ⟨found, matched, captures⟩ := matchHere_of_reads reads
    refine ⟨found, Pattern.search_eq_some_iff.mpr ⟨before, here, split, matched, ?_⟩, ?_⟩
    · intro earlier later split' lt
      exact matchHere_eq_none_iff.mpr (fun value' => first earlier later value' split' lt)
    · rw [captures]
      rfl

theorem isSome_valueIn : (valueIn word out name).isSome ↔ Valued word out name := by
  constructor
  · intro some_
    obtain ⟨value, found⟩ := Option.isSome_iff_exists.mp some_
    obtain ⟨before, here, split, reads, -⟩ := valueIn_eq_some_iff.mp found
    exact ⟨value, before, here, split, reads⟩
  · rintro ⟨value, before, here, rfl, reads⟩
    obtain ⟨found, matched, -⟩ := matchHere_of_reads reads
    rw [valuePattern, Pattern.matchHere_singleton] at matched
    obtain ⟨-, spells, -⟩ := Pattern.spells_of_matchAt matched
    have some_ : (search (valuePattern (valueChar word) name) (before ++ here)).isSome :=
      Pattern.isSome_search List.mem_cons_self spells
    obtain ⟨found, searched⟩ := Option.isSome_iff_exists.mp some_
    obtain ⟨_, here, _, matched, -⟩ := Pattern.search_eq_some_iff.mp searched
    obtain ⟨value, reads⟩ := reads_of_matchHere matched
    obtain ⟨found', matched', captures⟩ := matchHere_of_reads reads
    obtain rfl := Option.some.inj (matched.symm.trans matched')
    rw [valueIn, searched, groupOf, Option.bind_some, captures]
    rfl

/-- A value that is found is not empty, and its name is there. -/
theorem of_valueIn (found : valueIn word out name = some value) : value ≠ [] ∧ name <:+: out := by
  obtain ⟨before, here, rfl, reads, -⟩ := valueIn_eq_some_iff.mp found
  obtain ⟨after, rfl⟩ := reads.name_prefix
  exact ⟨reads.nonempty, before, after, by rw [List.append_assoc]⟩

/-- The field of the builtin device stands in the output. -/
theorem line_of_builtinValue {sections : List FruSection} {field : FruField}
    (here : builtinValue sections field = some value) : ∃ before after,
      fruText sections = before ++ (field.text ++ ((' ' ::
        List.replicate (21 - field.text.length) ' ') ++ (':' :: ' ' :: (value ++ after)))) := by
  obtain ⟨s, first, here⟩ := Option.bind_eq_some_iff.mp here
  obtain ⟨⟨field', value'⟩, first', rfl⟩ := Option.map_eq_some_iff.mp here
  have same : field' = field := by simpa using List.find?_some first'
  subst same
  obtain ⟨sections₁, sections₂, rfl⟩ := List.append_of_mem (List.mem_of_find?_eq_some first)
  obtain ⟨fields₁, fields₂, fields⟩ := List.append_of_mem (List.mem_of_find?_eq_some first')
  refine ⟨fruText sections₁ ++ (descriptionLine s.device ++ ('\n' ::
    (fields₁.flatMap fieldLine ++ [' ']))), ['\n'] ++ (fields₂.flatMap fieldLine ++ (['\n'] ++
      fruText sections₂)), ?_⟩
  rw [fruText, List.flatMap_append, List.flatMap_cons]
  show fruText sections₁ ++ ((descriptionLine s.device ++ '\n' :: s.fields.flatMap fieldLine ++
    ['\n']) ++ fruText sections₂) = _
  rw [fields, List.flatMap_append, List.flatMap_cons]
  simp only [fieldLine, List.append_assoc, List.cons_append, List.nil_append]

/-- A line of the builtin device that has a word is one such place. -/
theorem valued_of_expected {sections : List FruSection} {field : FruField}
    (some_ : expected word sections field ≠ []) :
    Valued word (fruText sections) field.text := by
  rw [expected] at some_
  cases here : builtinValue sections field with
  | none =>
      rw [here] at some_
      exact absurd rfl some_
  | some value =>
      rw [here, Option.map_some, Option.getD_some] at some_
      have letters : ∀ c ∈ leadingWord word value, valueChar word c = true :=
        List.all_eq_true.mp List.all_takeWhile
      have padding : ∀ c ∈ ' ' :: List.replicate (21 - field.text.length) ' ',
          isSpace c = true := by
        intro c mem
        obtain rfl | mem := List.mem_cons.mp mem
        · decide
        · obtain rfl := List.eq_of_mem_replicate mem
          decide
      have blanks : ∀ c ∈ ' ' :: value.takeWhile isSpace, isSpace c = true := by
        intro c mem
        obtain rfl | mem := List.mem_cons.mp mem
        · decide
        · exact List.all_eq_true.mp List.all_takeWhile c mem
      obtain ⟨before, after, line⟩ := line_of_builtinValue here
      have reads := exists_reads field.text
        ((value.dropWhile isSpace).dropWhile (valueChar word) ++ after)
        (List.cons_ne_nil _ _) padding (List.cons_ne_nil _ _) blanks some_ letters
      have parts : value ++ after = value.takeWhile isSpace ++ (leadingWord word value ++
          ((value.dropWhile isSpace).dropWhile (valueChar word) ++ after)) := by
        rw [leadingWord, ← List.append_assoc (List.takeWhile (valueChar word) _),
          List.takeWhile_append_dropWhile, ← List.append_assoc, List.takeWhile_append_dropWhile]
      refine ⟨_, before, _, ?_, reads⟩
      rw [line, parts]
      rfl

end Values

section Loop

variable {word : Word} {out key : Text}

/-- Whenever a key stands in the output there is a value for it, its own or the one of a key
before it. -/
def Supplied (word : Word) (out : Text) : Bool → List Text → Prop
  | _, [] => True
  | bound, key :: keys =>
    (key <:+: out → (valueIn word out key).isSome ∨ bound = true) ∧
      Supplied word out (bound || (valueIn word out key).isSome) keys

theorem supplied_append {bound : Bool} {first second : List Text} :
    Supplied word out bound (first ++ second) ↔ Supplied word out bound first ∧
      Supplied word out (bound || first.any (fun key => (valueIn word out key).isSome)) second := by
  induction first generalizing bound with
  | nil => simp [Supplied]
  | cons key first ih =>
      rw [List.cons_append, Supplied, Supplied, ih, List.any_cons, Bool.or_assoc, and_assoc]

theorem supplied_of_forall {bound : Bool} {keys : List Text}
    (all : ∀ key ∈ keys, key <:+: out → (valueIn word out key).isSome) :
    Supplied word out bound keys := by
  induction keys generalizing bound with
  | nil => trivial
  | cons key keys ih =>
      refine ⟨fun here => .inl (all key List.mem_cons_self here), ih ?_⟩
      intro key mem
      exact all key (List.mem_cons_of_mem _ mem)

theorem readDetail_of_found {acc : Option Text × Dict Text Text} (here : key <:+: out) :
    readDetail word out out acc key = match (valueIn word out key).or acc.1 with
      | some value => .ok (some value, acc.2.set key value)
      | none => .error .nameError := if_pos here

theorem readDetail_of_absent {acc : Option Text × Dict Text Text} (absent : ¬ key <:+: out) :
    readDetail word out out acc key = .ok acc := if_neg absent

/-- The loop ends without an exception when each key is supplied. -/
theorem foldlM_readDetail_ok {keys : List Text} {acc : Option Text × Dict Text Text} :
    (∃ result, keys.foldlM (readDetail word out out) acc = .ok result) ↔
      Supplied word out acc.1.isSome keys := by
  induction keys generalizing acc with
  | nil => exact ⟨fun _ => trivial, fun _ => ⟨acc, rfl⟩⟩
  | cons key keys ih =>
      rw [List.foldlM_cons, Supplied]
      by_cases here : key <:+: out
      · rw [readDetail_of_found here]
        cases found : valueIn word out key with
        | some value =>
            rw [Option.some_or]
            exact Iff.trans ih (by simp)
        | none =>
            rw [Option.none_or]
            cases bound : acc.1 with
            | some value => exact Iff.trans ih (by simp)
            | none =>
                constructor
                · rintro ⟨result, ran⟩
                  cases ran
                · rintro ⟨own, -⟩
                  simpa using own here
      · have none_ : valueIn word out key = none := by
          rw [Option.eq_none_iff_forall_ne_some]
          intro value found
          exact here (of_valueIn found).2
        rw [readDetail_of_absent here, none_]
        exact Iff.trans ih (by simp [here])

/-- What one turn does to the carried value and to the details. -/
theorem readDetail_eq_ok {acc result : Option Text × Dict Text Text}
    (ran : readDetail word out out acc key = .ok result) :
    (¬ key <:+: out ∧ result = acc) ∨ (key <:+: out ∧ ∃ value,
      (valueIn word out key).or acc.1 = some value ∧
        result = (some value, acc.2.set key value)) := by
  by_cases here : key <:+: out
  · rw [readDetail_of_found here] at ran
    cases either : (valueIn word out key).or acc.1 with
    | some value =>
        rw [either] at ran
        cases ran
        exact .inr ⟨here, value, rfl, rfl⟩
    | none =>
        rw [either] at ran
        cases ran
  · rw [readDetail_of_absent here] at ran
    cases ran
    exact .inl ⟨here, rfl⟩

theorem get?_foldlM_of_notMem {keys : List Text} {acc result : Option Text × Dict Text Text}
    (ran : keys.foldlM (readDetail word out out) acc = .ok result) (other : key ∉ keys) :
    result.2.get? key = acc.2.get? key := by
  induction keys generalizing acc with
  | nil =>
      cases ran
      rfl
  | cons first keys ih =>
      rw [List.foldlM_cons] at ran
      obtain ⟨middle, step, rest⟩ := bind_eq_ok.mp ran
      rw [ih rest (List.not_mem_of_not_mem_cons other)]
      obtain ⟨-, rfl⟩ | ⟨-, value, -, rfl⟩ := readDetail_eq_ok step
      · rfl
      · exact Dict.get?_set_of_ne _ _ (List.ne_of_not_mem_cons other)

/-- A key that stands in the output gets a value that is not empty, its own if it has one; the
others keep theirs. -/
theorem get?_foldlM {keys : List Text} {acc result : Option Text × Dict Text Text}
    (nodup : keys.Nodup) (nonempty : ∀ value ∈ acc.1, value ≠ [])
    (ran : keys.foldlM (readDetail word out out) acc = .ok result) (mem : key ∈ keys) :
    (¬ key <:+: out → result.2.get? key = acc.2.get? key) ∧
      (key <:+: out → ∃ value, value ≠ [] ∧ result.2.get? key = some value ∧
        ∀ own, valueIn word out key = some own → own = value) := by
  induction keys generalizing acc with
  | nil => cases mem
  | cons first keys ih =>
      rw [List.foldlM_cons] at ran
      obtain ⟨middle, step, rest⟩ := bind_eq_ok.mp ran
      obtain ⟨other, nodup⟩ := List.nodup_cons.mp nodup
      have carried : ∀ value, (valueIn word out first).or acc.1 = some value → value ≠ [] := by
        intro value either
        obtain own | ⟨-, before⟩ := Option.or_eq_some_iff.mp either
        · exact (of_valueIn own).1
        · exact nonempty value before
      obtain rfl | mem := List.mem_cons.mp mem
      · rw [get?_foldlM_of_notMem rest other]
        obtain ⟨absent, rfl⟩ | ⟨here, value, either, rfl⟩ := readDetail_eq_ok step
        · exact ⟨fun _ => rfl, fun here => absurd here absent⟩
        · refine ⟨fun absent => absurd here absent, fun _ =>
            ⟨value, carried value either, Dict.get?_set_self _ _ _, ?_⟩⟩
          intro own found
          rw [found, Option.some_or] at either
          exact Option.some.inj either
      · obtain ⟨-, rfl⟩ | ⟨here, value, either, rfl⟩ := readDetail_eq_ok step
        · exact ih nodup nonempty rest mem
        · have kept : (acc.2.set first value).get? key = acc.2.get? key :=
            Dict.get?_set_of_ne _ _ (fun same => other (same ▸ mem))
          rw [← kept]
          refine ih nodup ?_ rest mem
          rintro own ⟨⟩
          exact carried _ either

end Loop

/-- The fields that the builtin device prints come first where their names are read, those it does
not print are named nowhere, and no other key is named before there is a value. -/
structure Clear (word : Word) (sections : List FruSection) : Prop where
  printed : ∀ field ∈ requested, expected word sections field ≠ [] →
    FirstReads word (fruText sections) field.text (expected word sections field)
  absent : ∀ field ∈ requested, expected word sections field = [] →
    ¬ field.text <:+: fruText sections
  manufacturer : manufacturerKey <:+: fruText sections →
    Valued word (fruText sections) manufacturerKey ∨
      ∃ field ∈ requested, expected word sections field ≠ []
  os : osKey <:+: fruText sections → Valued word (fruText sections) osKey ∨
    Valued word (fruText sections) manufacturerKey ∨
      ∃ field ∈ requested, expected word sections field ≠ []

theorem detailKeys_nodup : detailKeys.Nodup := by decide

theorem mem_detailKeys {field : FruField} (mem : field ∈ requested) :
    field.text ∈ detailKeys := List.mem_append_left _ (List.mem_map_of_mem mem)

/-- The details of the requested fields are empty at first. -/
theorem get?_initialDetails {field : FruField} (mem : field ∈ requested)
    (manufacturer os : Text) :
    (initialDetails manufacturer os).get? field.text = some [] := by
  have ne : field.text ≠ osKey ∧ field.text ≠ manufacturerKey := by
    have all : ∀ field ∈ requested, field.text ≠ osKey ∧ field.text ≠ manufacturerKey := by decide
    exact all field mem
  have nodup : ((requested.map (fun field => (field.text, ([] : Text)))).map Prod.fst).Nodup := by
    decide
  rw [initialDetails, Dict.get?_set_of_ne _ _ ne.1, Dict.get?_set_of_ne _ _ ne.2]
  exact Dict.get?_update _ nodup (List.mem_map_of_mem mem)

section Details

variable {word : Word} {lower : Text → Text} {osRelease : Text} {bmcInfo : Printed}
  {sections : List FruSection}

/-- A field whose name stands in the output of a clear one has a word there. -/
theorem Clear.valued {field : FruField} (clear : Clear word sections) (mem : field ∈ requested)
    (here : field.text <:+: fruText sections) :
    valueIn word (fruText sections) field.text = some (expected word sections field) := by
  refine valueIn_eq_some_iff.mpr (clear.printed field mem ?_)
  intro empty
  exact clear.absent field mem empty here

/-- The keys of a clear output are supplied. -/
theorem Clear.supplied (clear : Clear word sections) :
    Supplied word (fruText sections) false detailKeys := by
  have named : ∀ field ∈ requested, expected word sections field ≠ [] →
      (valueIn word (fruText sections) field.text).isSome := by
    intro field mem some_
    rw [valueIn_eq_some_iff.mpr (clear.printed field mem some_)]
    rfl
  rw [detailKeys, supplied_append]
  constructor
  · refine supplied_of_forall ?_
    intro key mem here
    obtain ⟨field, mem', rfl⟩ := List.mem_map.mp mem
    rw [clear.valued mem' here]
    rfl
  · have earlier : (∃ field ∈ requested, expected word sections field ≠ []) →
        (requested.map FruField.text).any
          (fun key => (valueIn word (fruText sections) key).isSome) = true := by
      rintro ⟨field, mem, some_⟩
      exact List.any_eq_true.mpr ⟨_, List.mem_map_of_mem mem, named field mem some_⟩
    refine ⟨fun here => ?_, fun here => ?_, trivial⟩
    · obtain own | before := clear.manufacturer here
      · exact .inl (isSome_valueIn.mpr own)
      · exact .inr (earlier before)
    · obtain own | own | before := clear.os here
      · exact .inl (isSome_valueIn.mpr own)
      · refine .inr ?_
        rw [isSome_valueIn.mpr own, Bool.or_true]
      · refine .inr ?_
        rw [Bool.false_or, earlier before, Bool.true_or]

/-- The loop ends with what is expected of the requested fields. -/
def LoopDelivers (word : Word) (sections : List FruSection) (specifics : Dict Text Text) : Prop :=
  ∃ result, detailKeys.foldlM (readDetail word (fruText sections) (fruText sections))
      (none, specifics) = .ok result ∧
    ∀ field ∈ requested, result.2.get? field.text = some (expected word sections field)

variable {specifics : Dict Text Text}

theorem loopDelivers_of_clear (empty : ∀ field ∈ requested, specifics.get? field.text = some [])
    (clear : Clear word sections) : LoopDelivers word sections specifics := by
  have supplied : Supplied word (fruText sections)
      ((none, specifics) : Option Text × Dict Text Text).1.isSome detailKeys := clear.supplied
  obtain ⟨result, ran⟩ := foldlM_readDetail_ok.mpr supplied
  refine ⟨result, ran, ?_⟩
  intro field mem
  obtain ⟨absent, named⟩ := get?_foldlM detailKeys_nodup (by simp) ran (mem_detailKeys mem)
  by_cases here : field.text <:+: fruText sections
  · obtain ⟨value, -, stands, own⟩ := named here
    rw [stands, own _ (clear.valued mem here)]
  · have unprinted : expected word sections field = [] := by
      by_contra some_
      have first := valueIn_eq_some_iff.mpr (clear.printed field mem some_)
      exact here (of_valueIn first).2
    rw [absent here, empty field mem, unprinted]

theorem clear_of_loopDelivers (delivers : LoopDelivers word sections specifics) :
    Clear word sections := by
  obtain ⟨result, ran, all⟩ := delivers
  have lookup : ∀ field ∈ requested, field.text <:+: fruText sections →
      expected word sections field ≠ [] ∧
        ∀ own, valueIn word (fruText sections) field.text = some own →
          own = expected word sections field := by
    intro field mem here
    obtain ⟨value, some_, stands, own⟩ :=
      (get?_foldlM detailKeys_nodup (by simp) ran (mem_detailKeys mem)).2 here
    obtain rfl := Option.some.inj ((all field mem).symm.trans stands)
    exact ⟨some_, own⟩
  have supplied : Supplied word (fruText sections) false detailKeys :=
    foldlM_readDetail_ok.mp ⟨result, ran⟩
  rw [detailKeys, supplied_append] at supplied
  obtain ⟨-, manufacturer, os, -⟩ := supplied
  have earlier : (requested.map FruField.text).any
      (fun key => (valueIn word (fruText sections) key).isSome) = true →
      ∃ field ∈ requested, expected word sections field ≠ [] := by
    intro any
    obtain ⟨key, mem, some_⟩ := List.any_eq_true.mp any
    obtain ⟨field, mem', rfl⟩ := List.mem_map.mp mem
    obtain ⟨value, found⟩ := Option.isSome_iff_exists.mp some_
    exact ⟨field, mem', (lookup field mem' (of_valueIn found).2).1⟩
  constructor
  · intro field mem some_
    obtain ⟨own, found⟩ := Option.isSome_iff_exists.mp
      (isSome_valueIn.mpr (valued_of_expected some_))
    obtain rfl := (lookup field mem (of_valueIn found).2).2 own found
    exact valueIn_eq_some_iff.mp found
  · intro field mem empty here
    exact (lookup field mem here).1 empty
  · intro here
    obtain own | before := manufacturer here
    · exact .inl (isSome_valueIn.mp own)
    · exact .inr (earlier (by simpa using before))
  · intro here
    obtain own | before := os here
    · exact .inl (isSome_valueIn.mp own)
    · refine .inr ?_
      rw [Bool.false_or, Bool.or_eq_true] at before
      obtain before | own := before
      · exact .inr (earlier before)
      · exact .inl (isSome_valueIn.mp own)

end Details

/-- The call returns the words of the builtin device, and nothing for a field that it does not
print, when the output is clear: the search goes over all sections, and the first place of a name
in the whole output has to be that of the builtin device. -/
theorem details_iff (word : Word) (lower : Text → Text) (osRelease : Text) (bmcInfo : Printed)
    (sections : List FruSection) :
    Details word lower osRelease bmcInfo sections ↔ Clear word sections := by
  have call : ∀ specifics, getServerDetails word lower osRelease bmcInfo ⟨fruText sections, 0⟩ =
      .ok specifics ↔ ∃ result, detailKeys.foldlM
        (readDetail word (fruText sections) (fruText sections))
        (none, initialDetails (getManufacturerName word bmcInfo)
          (((getOsInfo lower osRelease).get? "id".toList).getD [] ++
            ((getOsInfo lower osRelease).get? "version_id".toList).getD [])) = .ok result ∧
          result.2 = specifics := by
    intro specifics
    rw [getServerDetails, if_pos rfl, sectionOfOutput_fruText, bind_eq_ok]
    simp only [pure, Except.pure, Except.ok.injEq]
  constructor
  · rintro ⟨specifics, ran, all⟩
    obtain ⟨result, loop, rfl⟩ := (call specifics).mp ran
    exact clear_of_loopDelivers ⟨result, loop, all⟩
  · intro clear
    obtain ⟨result, ran, all⟩ := loopDelivers_of_clear
      (fun field mem => get?_initialDetails mem _ _) clear
    exact ⟨result.2, (call result.2).mpr ⟨result, ran, rfl⟩, all⟩

/-- The letters, digits and underscores of ASCII. -/
def asciiWord : Word where
  mem c := c.isAlphanum || c == '_'
  notBlank := by
    intro c letter
    have range : 48 ≤ c.toNat ∧ c.toNat ≤ 122 := by
      have cases_ : (c.isAlphanum || c == '_') =
          ((decide (65 ≤ c.val ∧ c.val ≤ 90) ||
            decide (97 ≤ c.val) && decide (c.val ≤ 122)) ||
            (decide (48 ≤ c.val) && decide (c.val ≤ 57)) || c == '_') := rfl
      simp only [cases_, Bool.or_eq_true, Bool.and_eq_true, decide_eq_true_eq, beq_iff_eq,
        UInt32.le_iff_toNat_le] at letter
      obtain ((⟨low, high⟩ | ⟨low, high⟩) | ⟨low, high⟩) | rfl := letter
      · exact ⟨le_trans (by decide) low, le_trans high (by decide)⟩
      · exact ⟨le_trans (by decide) low, le_trans high (by decide)⟩
      · exact ⟨low, le_trans high (by decide)⟩
      · decide
    rw [isSpace]
    simp
    omega

/-- A power supply with a board of its own is printed before the builtin device. -/
def psuFirst : List FruSection :=
  [⟨.located "PSU1".toList (by decide) 1, [(.boardMfg, "DELTA".toList)]⟩,
    ⟨.builtin, [(.boardMfg, "Supermicro".toList)]⟩]

/-- The manufacturer of the power supply's board is returned. -/
theorem psuFirst_not_detailed : ¬ Details asciiWord id [] ⟨[], 1⟩ psuFirst := by
  rintro ⟨specifics, ran, all⟩
  have value := all .boardMfg (by decide)
  have call : (getServerDetails asciiWord id [] ⟨[], 1⟩ ⟨fruText psuFirst, 0⟩).toOption.bind
      (·.get? FruField.boardMfg.text) = some "DELTA".toList := by decide +kernel
  rw [ran] at call
  have same := value.symm.trans call
  exact absurd same (by decide +kernel)

end Server

end Sspl


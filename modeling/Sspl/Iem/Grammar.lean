import Sspl.Iem.Message

/-!
# What the sensor takes for an IEC

    -- Field lengths ----1---|---1----|------3----|----3---|---4---

The code of an IEM has fields of fixed lengths: two letters and three hexadecimal numbers. The
sensor cuts it at these positions, but it leaves the numbers to `int`, which reads more than
digits, and takes whatever is left of the code for the event.

What follows the keyword and one more character is the text of the IEM, without the spaces
around it.
-/

namespace Sspl

namespace Iem

namespace Grammar

def isHexDigit (c : Char) : Bool := (digitValue 16 c).isSome

/-- The value of hexadecimal digits. -/
def hexValue (text : Text) : Nat :=
  text.foldl (fun value c => value * 16 + (digitValue 16 c).getD 0) 0

/-- A field of this many hexadecimal digits, with a value from one to the bound. -/
structure Field (length bound : Nat) (text : Text) : Prop where
  fixed : text.length = length
  digits : text.all isHexDigit = true
  one_le : 1 ≤ hexValue text
  le_bound : hexValue text ≤ bound

def code (c : Components) : Text :=
  c.severity :: c.sourceId :: (c.componentId ++ c.moduleId ++ c.eventId)

/-- The grammar: the text is an IEC with these fields, a colon and the description. -/
structure Spells (iem : Text) (c : Components) : Prop where
  text : iem = code c ++ ':' :: c.description
  severity : c.severity ∈ severityLevels
  sourceId : c.sourceId ∈ sourceIds
  componentId : Field 3 0x100 c.componentId
  moduleId : Field 3 0x100 c.moduleId
  eventId : Field 4 0x2710 c.eventId

/-- The code before the first colon. -/
def codeOf (iem : Text) : Text := iem.takeWhile (· ≠ ':')

/-- The fields at the positions that the sensor cuts at. -/
def slices (iem : Text) : Components :=
  ⟨(codeOf iem).getD 0 ' ', (codeOf iem).getD 1 ' ', ((codeOf iem).drop 2).take 3,
    ((codeOf iem).drop 5).take 3, (codeOf iem).drop 8, iem.drop ((codeOf iem).length + 1)⟩

/-- What the sensor tests of a text, each part at the position at which it cuts it out. -/
structure Passes (iem : Text) : Prop where
  colon : ':' ∈ iem
  length : 12 ≤ (codeOf iem).length
  severity : (slices iem).severity ∈ severityLevels
  sourceId : (slices iem).sourceId ∈ sourceIds
  range : areComponentsInRange (slices iem) = true

/-- The code has the length that the format gives it, and nothing but hexadecimal digits after its
two letters. -/
def FixedWidth (iem : Text) : Prop :=
  (codeOf iem).length = 12 ∧ ((codeOf iem).drop 2).all isHexDigit = true

instance (iem : Text) : Decidable (FixedWidth iem) := inferInstanceAs (Decidable (_ ∧ _))

/-- The message for a line of the log. -/
def forwarded (env : Environment) (log : Text) : Option Info :=
  match processIem env log with
  | .ok (message, _) => message
  | .error _ => none

/-- The names that the rows of the mapping files have for the three ids. -/
inductive Named (env : Environment) (c : Components) : Text × Text × Text → Prop
  | none (unnamed : ∀ component, getComponent env c.componentId = some component → component = []) :
      Named env c (c.componentId, c.moduleId, c.eventId)
  | component {component : Text} (named : getComponent env c.componentId = some component)
      (some_ : component ≠ []) (unmapped : ∀ rows, env.mapping component = some rows →
        ∀ row ∈ rows, row.code ≠ c.componentId ++ c.moduleId ++ c.eventId) :
      Named env c (component, c.moduleId, c.eventId)
  | event {component : Text} {rows : List EventRow} {row : EventRow}
      (named : getComponent env c.componentId = some component) (some_ : component ≠ [])
      (mapped : env.mapping component = some rows) (mem : row ∈ rows)
      (same : row.code = c.componentId ++ c.moduleId ++ c.eventId) :
      Named env c (component, row.moduleName, row.eventName)

section Numbers

variable {c : Char} {text : Text}

theorem ne_of_isHexDigit {other : Char} (digit : isHexDigit c = true)
    (differ : isHexDigit other = false) : c ≠ other := by
  rintro rfl
  cases digit.symm.trans differ

theorem dropHexPrefix_digits (digits : ∀ c ∈ text, isHexDigit c = true) :
    dropHexPrefix text = text := by
  have lower : 'x' ∉ text := fun mem => ne_of_isHexDigit (digits _ mem) (by decide) rfl
  have upper : 'X' ∉ text := fun mem => ne_of_isHexDigit (digits _ mem) (by decide) rfl
  unfold dropHexPrefix
  split <;> simp_all

/-- Digits alone are read as the number that they are. -/
theorem hexInt_digits (some_ : text ≠ []) (digits : text.all isHexDigit = true) :
    hexInt text = some (hexValue text : Int) := by
  have all : ∀ c ∈ text, (digitValue 16 c).isSome := List.all_eq_true.mp digits
  rw [hexInt, stripBlanks_of_digits all, parseSigned_of_digits all, dropHexPrefix_digits all,
    parseDigits_of_digits some_ all]
  rfl

end Numbers

section Cutting

variable {iem : Text} {c : Components}

theorem codeOf_of_append {front back : Text} (plain : ':' ∉ front) :
    codeOf (front ++ ':' :: back) = front := by
  rw [codeOf, List.takeWhile_append_of_pos]
  · simp
  · intro first mem
    have differ : first ≠ ':' := fun same => plain (same ▸ mem)
    simpa using differ

/-- The text is cut at its first colon. -/
theorem eq_append_of_colon (colon : ':' ∈ iem) :
    iem = codeOf iem ++ ':' :: (slices iem).description ∧ ':' ∉ codeOf iem := by
  obtain ⟨front, back, rfl, plain⟩ := List.eq_append_cons_of_mem colon
  have cut : codeOf (front ++ ':' :: back) = front := codeOf_of_append plain
  have rest : (slices (front ++ ':' :: back)).description = back := by
    rw [slices, cut, List.drop_append]
    simp
  rw [cut, rest]
  exact ⟨rfl, plain⟩

/-- The fields of the code have their widths. -/
structure Widths (c : Components) : Prop where
  componentId : c.componentId.length = 3
  moduleId : c.moduleId.length = 3
  eventId : c.eventId.length = 4

/-- The ids stand at their places in the code that is looked up. -/
theorem Widths.cut (widths : Widths c) :
    (c.componentId ++ c.moduleId ++ c.eventId).take 3 = c.componentId ∧
      ((c.componentId ++ c.moduleId ++ c.eventId).drop 3).take 3 = c.moduleId ∧
      (c.componentId ++ c.moduleId ++ c.eventId).drop 6 = c.eventId := by
  have component := widths.componentId
  have module_ := widths.moduleId
  refine ⟨?_, ?_, ?_⟩
  · rw [List.append_assoc, List.take_left' component]
  · rw [List.append_assoc, List.drop_left' component, List.take_left' module_]
  · exact List.drop_left' (by rw [List.length_append]; omega)

theorem Spells.widths (spells : Spells iem c) : Widths c :=
  ⟨spells.componentId.fixed, spells.moduleId.fixed, spells.eventId.fixed⟩

/-- The first row decides, of the components and of the events of a component. -/
theorem Widths.named (widths : Widths c) (env : Environment) :
    Named env c (decodeMsg env (c.componentId ++ c.moduleId ++ c.eventId)) := by
  obtain ⟨first, second, third⟩ := widths.cut
  rw [decodeMsg]
  simp only [first, second, third]
  cases named : getComponent env c.componentId with
  | none =>
      refine .none fun component same => ?_
      rw [named] at same
      cases same
  | some component =>
      by_cases empty : component = []
      · simp only [if_pos empty]
        refine .none fun other same => ?_
        rw [named] at same
        cases same
        exact empty
      · simp only [if_neg empty]
        cases found : (env.mapping component).bind (·.find? fun row =>
            row.code = c.componentId ++ c.moduleId ++ c.eventId) with
        | none =>
            refine .component named empty fun rows mapped row mem same => ?_
            rw [mapped, Option.bind_some, List.find?_eq_none] at found
            exact found row mem (decide_eq_true same)
        | some row =>
            obtain ⟨rows, mapped, find⟩ := Option.bind_eq_some_iff.mp found
            have same := List.find?_some find
            exact .event named empty mapped (List.mem_of_find?_eq_some find)
              (of_decide_eq_true same)

/-- The fields of a spelled text are the slices of it. -/
theorem Spells.slices_eq (spells : Spells iem c) : codeOf iem = code c ∧ slices iem = c := by
  have noColon : ':' ∉ code c := by
    have letters : ':' ∉ severityLevels ∧ ':' ∉ sourceIds := by decide
    have digits : ∀ {length bound text}, Field length bound text → ':' ∉ text := by
      intro length bound text field mem
      exact ne_of_isHexDigit (List.all_eq_true.mp field.digits _ mem) (by decide) rfl
    simp only [code, List.mem_cons, List.mem_append, not_or]
    exact ⟨fun same => letters.1 (same ▸ spells.severity),
      fun same => letters.2 (same ▸ spells.sourceId),
      ⟨digits spells.componentId, digits spells.moduleId⟩, digits spells.eventId⟩
  have cut : codeOf iem = code c := by rw [spells.text, codeOf_of_append noColon]
  refine ⟨cut, ?_⟩
  have description : iem.drop ((code c).length + 1) = c.description := by
    rw [spells.text, List.drop_append]
    simp
  rw [slices, cut, description]
  obtain ⟨first, second, third⟩ := spells.widths.cut
  calc
    _ = (⟨c.severity, c.sourceId, (c.componentId ++ c.moduleId ++ c.eventId).take 3,
        ((c.componentId ++ c.moduleId ++ c.eventId).drop 3).take 3,
        (c.componentId ++ c.moduleId ++ c.eventId).drop 6, c.description⟩ : Components) := rfl
    _ = c := by rw [first, second, third]

/-- Three numbers that are spelled with digits are in range if their values are. -/
theorem areComponentsInRange_digits (widths : Widths c)
    (digits : (c.componentId ++ c.moduleId ++ c.eventId).all isHexDigit = true) :
    areComponentsInRange c = true ↔ Field 3 0x100 c.componentId ∧ Field 3 0x100 c.moduleId ∧
      Field 4 0x2710 c.eventId := by
  rw [List.all_append, List.all_append, Bool.and_eq_true, Bool.and_eq_true] at digits
  obtain ⟨⟨component, module_⟩, event⟩ := digits
  rw [areComponentsInRange,
    hexInt_digits (List.ne_nil_of_length_eq_add_one widths.componentId) component,
    hexInt_digits (List.ne_nil_of_length_eq_add_one widths.moduleId) module_,
    hexInt_digits (List.ne_nil_of_length_eq_add_one widths.eventId) event]
  simp only [Bool.and_eq_true, decide_eq_true_eq]
  constructor
  · intro range
    exact ⟨⟨widths.componentId, component, by omega, by omega⟩,
      ⟨widths.moduleId, module_, by omega, by omega⟩, widths.eventId, event, by omega, by omega⟩
  · rintro ⟨first, second, third⟩
    have bounds := And.intro first.one_le first.le_bound
    have bounds' := And.intro second.one_le second.le_bound
    have bounds'' := And.intro third.one_le third.le_bound
    omega

/-- A code of twelve characters is made of its slices, which have the widths of the fields. -/
theorem code_slices (length : (codeOf iem).length = 12) :
    code (slices iem) = codeOf iem ∧ Widths (slices iem) := by
  constructor
  · cases shape : codeOf iem with
    | nil => simp [shape] at length
    | cons severity short =>
        cases short with
        | nil => simp [shape] at length
        | cons sourceId rest =>
            have parts : rest.take 3 ++ (rest.drop 3).take 3 ++ (rest.drop 3).drop 3 = rest := by
              rw [List.append_assoc, List.take_append_drop, List.take_append_drop]
            rw [List.drop_drop] at parts
            rw [code, slices, shape]
            exact congrArg (severity :: sourceId :: ·) parts
  · constructor <;> simp [slices, length]

/-- What is in the grammar passes and has a code of fixed width. -/
theorem Spells.passes (spells : Spells iem c) : Passes iem ∧ FixedWidth iem := by
  obtain ⟨cut, same⟩ := spells.slices_eq
  have widths : Widths c :=
    ⟨spells.componentId.fixed, spells.moduleId.fixed, spells.eventId.fixed⟩
  have digits : (c.componentId ++ c.moduleId ++ c.eventId).all isHexDigit = true := by
    rw [List.all_append, List.all_append, spells.componentId.digits, spells.moduleId.digits,
      spells.eventId.digits]
    rfl
  have length : (codeOf iem).length = 12 := by
    rw [cut, code]
    simp only [List.length_cons, List.length_append, widths.componentId, widths.moduleId,
      widths.eventId]
  constructor
  · constructor
    · rw [spells.text]
      simp
    · omega
    · rw [same]
      exact spells.severity
    · rw [same]
      exact spells.sourceId
    · rw [same]
      exact (areComponentsInRange_digits widths digits).mpr
        ⟨spells.componentId, spells.moduleId, spells.eventId⟩
  · refine ⟨length, ?_⟩
    rw [cut]
    exact digits

/-- What passes and has a code of fixed width is in the grammar. -/
theorem Passes.spells (passes : Passes iem) (fixed : FixedWidth iem) : Spells iem (slices iem) := by
  obtain ⟨length, digits⟩ := fixed
  obtain ⟨cut, widths⟩ := code_slices length
  rw [← cut] at digits
  obtain ⟨component, module_, event⟩ :=
    (areComponentsInRange_digits widths digits).mp passes.range
  obtain ⟨text, -⟩ := eq_append_of_colon passes.colon
  rw [← cut] at text
  exact ⟨text, passes.severity, passes.sourceId, component, module_, event⟩

end Cutting

section Forwarding

variable {env : Environment} {log timestamp iem : Text} {eventTime : Int}

end Forwarding

namespace Example

/-- Some node with a mapping file of one component, and lines of its log. -/
def env : Environment where
  mktime _ := some 1588767854
  components := some [("100".toList, "motr".toList)]
  mapping name :=
    if name = "motr".toList then
      some [⟨"1001000001".toList, "io".toList, "connect".toList⟩]
    else none

def documented : String := "2020-05-06T12:24:14.123456+00:00 node IEC: BO1001000001:Error"

end Example

end Grammar

end Iem

end Sspl

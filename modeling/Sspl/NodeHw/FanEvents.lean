import Sspl.NodeHw.MadeUp

/-!
# Made-up events of a fan

The name of a threshold is two words of an event, one after the other. The exchange of `low` and
`high` makes `higher` of a `lower` that comes after a blank, and `lower` of a `higher`, so that it
may take the name of a threshold from the event of a fan or put one into it.
-/

namespace Sspl

namespace NodeHw

namespace Resources

open Iem (Text strip)

def sides : List Text := ["lower".toList, "upper".toList]

def levels : List Text := ["non-recoverable".toList, "non-critical".toList, "critical".toList]

/-- The word ends as the name of a threshold begins. -/
def Side (word : Text) : Prop := ∃ side ∈ sides, side <:+ word.map Char.toLower

/-- The word begins as the name of a threshold ends. -/
def Level (word : Text) : Prop := ∃ level ∈ levels, level <+: word.map Char.toLower

/-- The word is `lower` or `higher`, begins with the last word of the event and is not the first
one. -/
def Comparative (event : String) (i : Nat) (word : Text) : Prop :=
  0 < i ∧ (lastWord event).toList <+: word ∧
    word.map Char.toLower = lower (lastWord event) ++ "er".toList

/-- The event that was recorded has an inverse in the table of its handler, once its words are
exchanged. -/
def Invertible (resource : FaultyResource) : Prop :=
  match resource.fruType with
  | .fan => Goes resource.event →
    (resource.status = "Asserted" → lastWord resource.event = "low" →
      ∃ i left right, Words.Adjacent (words resource.event) i left right ∧
        Side left ∧ Level right ∧ ¬Comparative resource.event i left) ∧
    (resource.status = "Deasserted" → lower (lastWord resource.event) = "high".toList →
      ¬∃ i left right, Words.Adjacent (words resource.event) i left right ∧
        Level right ∧ Comparative resource.event i left)
  | .powerUnit => resource.event ∉ oneWay
  | _ => True

theorem adjacent_madeUpEvent {event : String} (goes : Goes event) {i : Nat} {left right : Text} :
    Words.Adjacent (words (madeUpEvent event)) i left right ↔
      ∃ l r, Words.Adjacent (words event) i l r ∧ left = changed event i l ∧
        right = changed event (i + 1) r := by
  constructor
  · rintro ⟨first, second⟩
    rw [getElem?_words_madeUpEvent goes] at first second
    obtain ⟨l, here, rfl⟩ := Option.map_eq_some_iff.mp first
    obtain ⟨r, next, rfl⟩ := Option.map_eq_some_iff.mp second
    exact ⟨l, r, ⟨here, next⟩, rfl, rfl⟩
  · rintro ⟨l, r, ⟨first, second⟩, rfl, rfl⟩
    constructor
    · rw [getElem?_words_madeUpEvent goes, first, Option.map_some]
    · rw [getElem?_words_madeUpEvent goes, second, Option.map_some]

/-- A word changes only behind the last word, if it begins with it. -/
theorem changed_cases (event : String) (i : Nat) (word : Text) :
    (changed event i word = word ∧ ¬Comparative event i word) ∨
      ∃ rest, 0 < i ∧ word = (lastWord event).toList ++ rest ∧
        changed event i word = exchanged (lastWord event) ++ rest := by
  by_cases first : i = 0
  · refine .inl ⟨by rw [changed, if_pos first], fun comparative => ?_⟩
    have later := comparative.1
    omega
  · by_cases begins : (lastWord event).toList <+: word
    · obtain ⟨rest, rfl⟩ := begins
      refine .inr ⟨rest, Nat.pos_of_ne_zero first, rfl, ?_⟩
      rw [changed, if_neg first, Replace.swap_append]
    · refine .inl ⟨?_, fun comparative => begins comparative.2.1⟩
      rw [changed, if_neg first, Replace.swap_eq_self begins]

/-- The words that are exchanged, in lower case. -/
theorem exchange_cases {event : String} (goes : Goes event) :
    (lastWord event = "low" ∧ lower (lastWord event) = "low".toList ∧
      (exchanged (lastWord event)).map Char.toLower = "high".toList) ∨
    (lastWord event ≠ "low" ∧ lower (lastWord event) = "low".toList ∧
      (exchanged (lastWord event)).map Char.toLower = "low".toList) ∨
    (lastWord event ≠ "low" ∧ lower (lastWord event) = "high".toList ∧
      (exchanged (lastWord event)).map Char.toLower = "low".toList) := by
  have last := goes.lastWord
  simp only [List.mem_cons, List.not_mem_nil, or_false] at last
  by_cases low : lastWord event = "low"
  · refine .inl ⟨low, by rw [low]; decide, ?_⟩
    rw [exchanged, if_pos low]
    decide
  · have new : (exchanged (lastWord event)).map Char.toLower = "low".toList := by
      rw [exchanged, if_neg low]
      decide
    obtain high | low' := last
    · exact .inr (.inr ⟨low, high, new⟩)
    · exact .inr (.inl ⟨low, low', new⟩)

theorem suffix_map_append_iff {a front rest : Text} :
    a <:+ (front ++ rest).map Char.toLower ↔
      a <:+ rest.map Char.toLower ∨
        ∃ n < a.length, a.take (n + 1) <:+ front.map Char.toLower ∧
          rest.map Char.toLower = a.drop (n + 1) := by
  rw [List.map_append, Words.suffix_append_iff]

/-- A word that overlaps neither `low` nor `high` stays. -/
theorem suffix_changed_iff {event : String} (goes : Goes event) {a : Text}
    (apart : ∀ n < a.length, ¬a.take (n + 1) <:+ "high".toList ∧ ¬a.take (n + 1) <:+ "low".toList)
    (i : Nat) (word : Text) :
    a <:+ (changed event i word).map Char.toLower ↔ a <:+ word.map Char.toLower := by
  obtain ⟨same, -⟩ | ⟨rest, -, rfl, same⟩ := changed_cases event i word
  · rw [same]
  · have none : ∀ front : Text, front = "high".toList ∨ front = "low".toList →
        ¬∃ n < a.length, a.take (n + 1) <:+ front ∧ rest.map Char.toLower = a.drop (n + 1) := by
      rintro front (rfl | rfl) ⟨n, bound, overlap, -⟩
      · exact (apart n bound).1 overlap
      · exact (apart n bound).2 overlap
    rw [same, suffix_map_append_iff, suffix_map_append_iff]
    obtain ⟨-, old, new⟩ | ⟨-, old, new⟩ | ⟨-, old, new⟩ := exchange_cases goes
    · rw [new, ← lower, old]
      simp only [none _ (.inl rfl), none _ (.inr rfl)]
    · rw [new, ← lower, old]
    · rw [new, ← lower, old]
      simp only [none _ (.inl rfl), none _ (.inr rfl)]

theorem prefix_changed_iff {event : String} (goes : Goes event) {c : Char} {b : Text}
    (other : c ∉ ['h', 'l']) (i : Nat) (word : Text) :
    c :: b <+: (changed event i word).map Char.toLower ↔
      c :: b <+: word.map Char.toLower := by
  obtain ⟨same, -⟩ | ⟨rest, -, rfl, same⟩ := changed_cases event i word
  · rw [same]
  · have none : ∀ front : Text, front = "high".toList ∨ front = "low".toList →
        ¬c :: b <+: front ++ rest.map Char.toLower := by
      rintro front (rfl | rfl) occurs
      · have first : c = 'h' := (List.cons_prefix_cons.mp occurs).1
        exact other (by simp [first])
      · have first : c = 'l' := (List.cons_prefix_cons.mp occurs).1
        exact other (by simp [first])
    rw [same, List.map_append, List.map_append]
    obtain ⟨-, old, new⟩ | ⟨-, old, new⟩ | ⟨-, old, new⟩ := exchange_cases goes
    · rw [new, ← lower, old]
      simp only [none _ (.inl rfl), none _ (.inr rfl)]
    · rw [new, ← lower, old]
    · rw [new, ← lower, old]
      simp only [none _ (.inl rfl), none _ (.inr rfl)]

theorem level_changed_iff {event : String} (goes : Goes event) (i : Nat) (word : Text) :
    Level (changed event i word) ↔ Level word := by
  have each : ∀ level ∈ levels, (level <+: (changed event i word).map Char.toLower ↔
      level <+: word.map Char.toLower) := by
    intro level mem
    simp only [levels, List.mem_cons, List.not_mem_nil, or_false] at mem
    obtain rfl | rfl | rfl := mem
    · exact prefix_changed_iff goes (by decide) i word
    · exact prefix_changed_iff goes (by decide) i word
    · exact prefix_changed_iff goes (by decide) i word
  constructor
  · rintro ⟨level, mem, begins⟩
    exact ⟨level, mem, (each level mem).mp begins⟩
  · rintro ⟨level, mem, begins⟩
    exact ⟨level, mem, (each level mem).mpr begins⟩

/-- `lower` overlaps `low` only. -/
theorem lower_suffix_low {rest : Text} :
    "lower".toList <:+ "low".toList ++ rest ↔
      "lower".toList <:+ rest ∨ rest = "er".toList := by
  have overlaps : ∀ n < "lower".toList.length,
      "lower".toList.take (n + 1) <:+ "low".toList ↔ n = 2 := by decide
  rw [Words.suffix_append_iff]
  refine or_congr_right ⟨?_, fun same => ⟨2, by decide, by decide, same⟩⟩
  rintro ⟨n, bound, overlap, same⟩
  obtain rfl := (overlaps n bound).mp overlap
  exact same

theorem lower_suffix_high {rest : Text} :
    "lower".toList <:+ "high".toList ++ rest ↔ "lower".toList <:+ rest := by
  have overlaps : ∀ n < "lower".toList.length,
      ¬"lower".toList.take (n + 1) <:+ "high".toList := by decide
  rw [Words.suffix_append_iff, or_iff_left]
  rintro ⟨n, bound, overlap, -⟩
  exact overlaps n bound overlap

theorem lower_changed_iff {event : String} (goes : Goes event) (i : Nat) (word : Text) :
    "lower".toList <:+ (changed event i word).map Char.toLower ↔
      "lower".toList <:+ word.map Char.toLower ∧
          ¬(lastWord event = "low" ∧ Comparative event i word) ∨
        lower (lastWord event) = "high".toList ∧ Comparative event i word := by
  obtain ⟨same, none⟩ | ⟨rest, later, rfl, same⟩ := changed_cases event i word
  · rw [same]
    simp only [none, and_false, not_false_eq_true, and_true, or_false]
  · have comparative : Comparative event i ((lastWord event).toList ++ rest) ↔
        rest.map Char.toLower = "er".toList := by
      rw [Comparative, List.map_append, lower]
      simp [later]
    have short : rest.map Char.toLower = "er".toList →
        ¬"lower".toList <:+ rest.map Char.toLower := by
      intro er
      rw [er]
      decide
    have other : ¬"low".toList = "high".toList := by decide
    rw [same, comparative, List.map_append, List.map_append]
    obtain ⟨low, old, new⟩ | ⟨low, old, new⟩ | ⟨low, old, new⟩ := exchange_cases goes
    · rw [new, ← lower, old, lower_suffix_low, lower_suffix_high]
      simp only [low, other, true_and, false_and, or_false]
      constructor
      · exact fun ends => ⟨.inl ends, fun er => short er ends⟩
      · exact fun ends => ends.1.resolve_right ends.2
    · rw [new, ← lower, old]
      simp only [low, other, false_and, not_false_eq_true, and_true, or_false]
    · rw [new, ← lower, old, lower_suffix_low, lower_suffix_high]
      simp only [low, false_and, not_false_eq_true, and_true, true_and]

theorem side_iff {word : Text} :
    Side word ↔ "lower".toList <:+ word.map Char.toLower ∨
      "upper".toList <:+ word.map Char.toLower := by
  simp only [Side, sides, List.mem_cons, List.not_mem_nil, or_false, exists_eq_or_imp,
    exists_eq_left]

theorem side_changed_iff {event : String} (goes : Goes event) (i : Nat) (word : Text) :
    Side (changed event i word) ↔
      Side word ∧ ¬(lastWord event = "low" ∧ Comparative event i word) ∨
        lower (lastWord event) = "high".toList ∧ Comparative event i word := by
  have upper : "upper".toList <:+ word.map Char.toLower →
      ¬(lastWord event = "low" ∧ Comparative event i word) := by
    rintro ends ⟨low, -, -, same⟩
    rw [same, low] at ends
    revert ends
    decide
  rw [side_iff, side_iff, lower_changed_iff goes, suffix_changed_iff goes (by decide)]
  constructor
  · rintro ((⟨ends, stays⟩ | higher) | ends)
    · exact .inl ⟨.inl ends, stays⟩
    · exact .inr higher
    · exact .inl ⟨.inr ends, upper ends⟩
  · rintro (⟨ends | ends, stays⟩ | higher)
    · exact .inl (.inl ⟨ends, stays⟩)
    · exact .inr ends
    · exact .inl (.inr higher)

/-- The event has the name of a threshold in it. -/
def OverThreshold (event : String) : Prop :=
  ∃ i left right, Words.Adjacent (words event) i left right ∧ Side left ∧ Level right

theorem overThreshold_madeUpEvent_iff {event : String} (goes : Goes event) :
    OverThreshold (madeUpEvent event) ↔
      ∃ i left right, Words.Adjacent (words event) i left right ∧ Level right ∧
        (Side left ∧ ¬(lastWord event = "low" ∧ Comparative event i left) ∨
          lower (lastWord event) = "high".toList ∧ Comparative event i left) := by
  constructor
  · rintro ⟨i, left, right, next, side, level⟩
    obtain ⟨l, r, here, rfl, rfl⟩ := (adjacent_madeUpEvent goes).mp next
    exact ⟨i, l, r, here, (level_changed_iff goes _ _).mp level,
      (side_changed_iff goes _ _).mp side⟩
  · rintro ⟨i, l, r, next, level, side⟩
    exact ⟨i, _, _, (adjacent_madeUpEvent goes).mpr ⟨l, r, next, rfl, rfl⟩,
      (side_changed_iff goes _ _).mpr side, (level_changed_iff goes _ _).mpr level⟩

/-- The name is in the event, in any case. -/
abbrev Named (name event : String) : Prop := lower name <:+: lower event

theorem infix_lower_iff {event : String} {a b : Text} (freshLeft : ' ' ∉ a)
    (freshRight : ' ' ∉ b) :
    a ++ ' ' :: b <:+: lower event ↔
      ∃ i left right, Words.Adjacent (words event) i left right ∧
        a <:+ left.map Char.toLower ∧ b <+: right.map Char.toLower := by
  rw [Words.infix_iff_splitOn freshLeft freshRight, splitOn_lower]
  constructor
  · rintro ⟨i, left, right, next, both⟩
    obtain ⟨l, r, here, rfl, rfl⟩ := Words.adjacent_map.mp next
    exact ⟨i, l, r, here, both⟩
  · rintro ⟨i, l, r, next, both⟩
    exact ⟨i, _, _, Words.adjacent_map.mpr ⟨l, r, next, rfl, rfl⟩, both⟩

/-- A name that overlaps neither of the words stays in the event. -/
theorem infix_lower_madeUpEvent_iff {event : String} (goes : Goes event) {a b : Text} {c : Char}
    (freshLeft : ' ' ∉ a) (freshRight : ' ' ∉ c :: b)
    (apart : ∀ n < a.length, ¬a.take (n + 1) <:+ "high".toList ∧ ¬a.take (n + 1) <:+ "low".toList)
    (other : c ∉ ['h', 'l']) :
    a ++ ' ' :: c :: b <:+: lower (madeUpEvent event) ↔ a ++ ' ' :: c :: b <:+: lower event := by
  rw [infix_lower_iff freshLeft freshRight, infix_lower_iff freshLeft freshRight]
  constructor
  · rintro ⟨i, left, right, next, ends, begins⟩
    obtain ⟨l, r, here, rfl, rfl⟩ := (adjacent_madeUpEvent goes).mp next
    exact ⟨i, l, r, here, (suffix_changed_iff goes apart _ _).mp ends,
      (prefix_changed_iff goes other _ _).mp begins⟩
  · rintro ⟨i, l, r, next, ends, begins⟩
    exact ⟨i, _, _, (adjacent_madeUpEvent goes).mpr ⟨l, r, next, rfl, rfl⟩,
      (suffix_changed_iff goes apart _ _).mpr ends, (prefix_changed_iff goes other _ _).mpr begins⟩

def fanThresholds : List String :=
  ["Lower Non-Recoverable", "Upper Non-Recoverable", "Upper Non-Critical", "Lower Critical",
    "Lower Non-Critical", "Upper Critical"]

theorem exists_named_iff (event : String) :
    (∃ name ∈ fanThresholds, Named name event) ↔ OverThreshold event := by
  have names : ∀ text, text ∈ fanThresholds.map lower ↔
      text ∈ sides.flatMap (fun side => levels.map fun level => side ++ ' ' :: level) := by
    have perm : (fanThresholds.map lower).Perm
        (sides.flatMap (fun side => levels.map fun level => side ++ ' ' :: level)) := by
      decide +kernel
    exact fun text => perm.mem_iff
  have fresh : ∀ side ∈ sides, ∀ level ∈ levels, ' ' ∉ side ∧ ' ' ∉ level := by decide +kernel
  constructor
  · rintro ⟨name, mem, named⟩
    obtain ⟨side, side_, mem⟩ := List.mem_flatMap.mp
      ((names _).mp (List.mem_map.mpr ⟨name, mem, rfl⟩))
    obtain ⟨level, level_, same⟩ := List.mem_map.mp mem
    rw [Named, ← same] at named
    obtain ⟨i, left, right, next, ends, begins⟩ :=
      (infix_lower_iff (fresh side side_ level level_).1 (fresh side side_ level level_).2).mp named
    exact ⟨i, left, right, next, ⟨side, side_, ends⟩, ⟨level, level_, begins⟩⟩
  · rintro ⟨i, left, right, next, ⟨side, side_, ends⟩, ⟨level, level_, begins⟩⟩
    obtain ⟨name, mem, same⟩ := List.mem_map.mp ((names (side ++ ' ' :: level)).mpr
      (List.mem_flatMap.mpr ⟨side, side_, List.mem_map.mpr ⟨level, level_, rfl⟩⟩))
    refine ⟨name, mem, ?_⟩
    rw [Named, same]
    exact (infix_lower_iff (fresh side side_ level level_).1 (fresh side side_ level level_).2).mpr
      ⟨i, left, right, next, ends, begins⟩

/-- The event of a fan that is below or above its limits, and of one that has been. -/
structure ThresholdEvent (event : String) : Prop where
  reading : ¬Named "Sensor Reading" event
  beyond : OverThreshold event

/-- The event of a redundancy that is there or has been lost. -/
structure RedundancyEvent (event : String) : Prop where
  reading : ¬Named "Sensor Reading" event
  beyond : ¬OverThreshold event
  redundant : Named "Fully Redundant" event

theorem fanState_of_reading {event : String} (reading : ¬Named "Sensor Reading" event) :
    fanState event = (fanThresholds.find? fun name => decide (Named name event)).or
      (["Fully Redundant", "State Asserted", "State Deasserted"].find?
        fun name => decide (Named name event)) := by
  have split : fanSpecificList = "Sensor Reading" :: (fanThresholds ++
      ["Fully Redundant", "State Asserted", "State Deasserted"]) := rfl
  rw [fanState, split, List.find?_cons_of_neg (by simpa using reading), List.find?_append]

theorem fanState_of_threshold {event : String} (h : ThresholdEvent event) :
    ∃ name ∈ fanThresholds, fanState event = some name := by
  obtain ⟨name, mem, named⟩ := (exists_named_iff event).mpr h.beyond
  have there : (fanThresholds.find? fun name => decide (Named name event)).isSome :=
    List.find?_isSome.mpr ⟨name, mem, decide_eq_true named⟩
  obtain ⟨first, found⟩ := Option.isSome_iff_exists.mp there
  refine ⟨first, List.mem_of_find?_eq_some found, ?_⟩
  rw [fanState_of_reading h.reading, found, Option.some_or]

theorem find?_fanThresholds {event : String} (beyond : ¬OverThreshold event) :
    (fanThresholds.find? fun name => decide (Named name event)) = none := by
  rw [List.find?_eq_none]
  intro name mem named
  exact beyond ((exists_named_iff event).mp ⟨name, mem, of_decide_eq_true named⟩)

theorem fanState_of_redundancy {event : String} (h : RedundancyEvent event) :
    fanState event = some "Fully Redundant" := by
  rw [fanState_of_reading h.reading, find?_fanThresholds h.beyond, Option.none_or]
  exact List.find?_cons_of_pos (decide_eq_true h.redundant)

/-- Any other event names no state, or one without alerts. -/
theorem fanState_of_neither {event name : String} (threshold : ¬ThresholdEvent event)
    (redundancy : ¬RedundancyEvent event) (found : fanState event = some name) :
    name ∈ ["Sensor Reading", "State Asserted", "State Deasserted"] := by
  by_cases reading : Named "Sensor Reading" event
  · have first : fanState event = some "Sensor Reading" :=
      List.find?_cons_of_pos (decide_eq_true reading)
    cases first.symm.trans found
    exact List.mem_cons_self
  · have beyond : ¬OverThreshold event := fun beyond => threshold ⟨reading, beyond⟩
    have redundant : ¬Named "Fully Redundant" event :=
      fun redundant => redundancy ⟨reading, beyond, redundant⟩
    rw [fanState_of_reading reading, find?_fanThresholds beyond, Option.none_or,
      List.find?_cons_of_neg (by simpa using redundant)] at found
    exact List.mem_cons_of_mem _ (List.mem_of_find?_eq_some found)

/-- What the handler of a fan does in a state. -/
theorem judge_of_fanState {event status name : String} (fixed : stripped event = event)
    (status_ : stripped status = status) (state : fanState event = some name) :
    judge .fan event status = (lookup fanAlerts name status).map (fanVerdict ·.type) := by
  rw [judge, fixed, status_, state, Option.bind_some]

theorem judge_of_threshold {event : String} (fixed : stripped event = event)
    (h : ThresholdEvent event) :
    judge .fan event "Asserted" = some .fault ∧ judge .fan event "Deasserted" = some .recovery := by
  have rows : ∀ name ∈ fanThresholds,
      (lookup fanAlerts name "Asserted").map (fanVerdict ·.type) = some .fault ∧
        (lookup fanAlerts name "Deasserted").map (fanVerdict ·.type) = some .recovery := by
    decide +kernel
  obtain ⟨name, mem, state⟩ := fanState_of_threshold h
  rw [judge_of_fanState fixed (by decide +kernel) state,
    judge_of_fanState fixed (by decide +kernel) state]
  exact rows name mem

theorem judge_of_redundancy {event : String} (fixed : stripped event = event)
    (h : RedundancyEvent event) :
    judge .fan event "Asserted" = some .recovery ∧ judge .fan event "Deasserted" = some .fault := by
  rw [judge_of_fanState fixed (by decide +kernel) (fanState_of_redundancy h),
    judge_of_fanState fixed (by decide +kernel) (fanState_of_redundancy h)]
  decide +kernel

theorem judge_of_neither {event status : String} (fixed : stripped event = event)
    (status_ : stripped status = status) (threshold : ¬ThresholdEvent event)
    (redundancy : ¬RedundancyEvent event) : judge .fan event status = none := by
  have rows : ∀ name ∈ ["Sensor Reading", "State Asserted", "State Deasserted"],
      fanAlerts.find? (fun row => name ∈ row.events) = none := by
    decide +kernel
  cases state : fanState event with
  | none => rw [judge, fixed, state, Option.bind_none, Option.map_none]
  | some name =>
      have unknown := rows name (fanState_of_neither threshold redundancy state)
      rw [judge_of_fanState fixed status_ state, lookup, unknown, Option.bind_none,
        Option.map_none]

/-- Which events put a fan into `faulty_resources`. -/
theorem fan_fault_cases {event status : String} (fixed : stripped event = event)
    (status_ : stripped status = status) (fault : judge .fan event status = some .fault) :
    status = "Asserted" ∧ ThresholdEvent event ∨ status = "Deasserted" ∧ RedundancyEvent event := by
  have known : status ∈ ["Asserted", "Deasserted"] := by
    rw [judge_fan] at fault
    obtain ⟨alert, found, -⟩ := Option.map_eq_some_iff.mp fault
    obtain ⟨name, -, looked⟩ := Option.bind_eq_some_iff.mp found
    exact status_ ▸ (mem_of_lookup looked).2
  simp only [List.mem_cons, List.not_mem_nil, or_false] at known
  by_cases threshold : ThresholdEvent event
  · obtain rfl | rfl := known
    · exact .inl ⟨rfl, threshold⟩
    · cases fault.symm.trans (judge_of_threshold fixed threshold).2
  · by_cases redundancy : RedundancyEvent event
    · obtain rfl | rfl := known
      · cases fault.symm.trans (judge_of_redundancy fixed redundancy).1
      · exact .inr ⟨rfl, redundancy⟩
    · cases fault.symm.trans (judge_of_neither fixed status_ threshold redundancy)

theorem fan_recovery_iff {event status : String} (fixed : stripped event = event)
    (known : status ∈ ["Asserted", "Deasserted"]) :
    judge .fan event status = some .recovery ↔
      status = "Deasserted" ∧ ThresholdEvent event ∨
        status = "Asserted" ∧ RedundancyEvent event := by
  have status_ : stripped status = status := by
    simp only [List.mem_cons, List.not_mem_nil, or_false] at known
    obtain rfl | rfl := known <;> decide +kernel
  constructor
  · intro recovery
    simp only [List.mem_cons, List.not_mem_nil, or_false] at known
    by_cases threshold : ThresholdEvent event
    · obtain rfl | rfl := known
      · cases recovery.symm.trans (judge_of_threshold fixed threshold).1
      · exact .inl ⟨rfl, threshold⟩
    · by_cases redundancy : RedundancyEvent event
      · obtain rfl | rfl := known
        · exact .inr ⟨rfl, redundancy⟩
        · cases recovery.symm.trans (judge_of_redundancy fixed redundancy).2
      · cases recovery.symm.trans (judge_of_neither fixed status_ threshold redundancy)
  · rintro (⟨rfl, threshold⟩ | ⟨rfl, redundancy⟩)
    · exact (judge_of_threshold fixed threshold).2
    · exact (judge_of_redundancy fixed redundancy).1

theorem strip_eq_self {text : Text} (first : ∀ c ∈ text.head?, isSpace c = false)
    (last : ∀ c ∈ text.getLast?, isSpace c = false) : strip text = text := by
  have closed : Iem.rstrip text = text := by
    refine List.rdropWhile_eq_self_iff.mpr fun some_ => ?_
    simp [last _ (List.getLast_mem_getLast? some_)]
  rw [strip, closed, List.dropWhile_eq_self_iff]
  intro some_
  simp [first _ (List.head?_eq_getElem? ▸ List.getElem?_eq_getElem some_)]

theorem stripped_madeUpEvent {event : String} (goes : Goes event)
    (fixed : stripped event = event) : stripped (madeUpEvent event) = madeUpEvent event := by
  have text : strip event.toList = event.toList := by
    have same := congrArg String.toList fixed
    rwa [stripped, String.toList_ofList] at same
  rw [stripped, strip_eq_self, String.ofList_toList]
  · -- the first character is no blank, so that nothing that is replaced begins there
    cases chars : event.toList with
    | nil =>
        rw [toList_madeUpEvent goes, chars]
        simp
    | cons c rest =>
        have space := List.head?_dropWhile_not isSpace (Iem.rstrip event.toList)
        rw [← strip, text, chars, List.head?_cons] at space
        have other : ' ' ∉ [c] := by
          intro mem
          obtain rfl := List.mem_singleton.mp mem
          revert space
          decide
        have begins : Replace.replaceAll (' ' :: (lastWord event).toList)
            (' ' :: exchanged (lastWord event)) ([c] ++ rest) = _ :=
          Replace.replaceAll_append other
        rw [toList_madeUpEvent goes, chars, ← List.singleton_append (l := rest), begins]
        simpa using space
  · obtain ⟨before, same⟩ := lastWord_isSuffix (madeUpEvent event)
    rw [lastWord_madeUpEvent goes, exchanged] at same
    rw [← same]
    split <;> simp <;> decide

theorem thresholdEvent_madeUpEvent_iff {event : String} (goes : Goes event)
    (h : ThresholdEvent event) :
    ThresholdEvent (madeUpEvent event) ↔
      (lastWord event = "low" → ∃ i left right, Words.Adjacent (words event) i left right ∧
        Side left ∧ Level right ∧ ¬Comparative event i left) := by
  have reading : Named "Sensor Reading" (madeUpEvent event) ↔ Named "Sensor Reading" event :=
    infix_lower_madeUpEvent_iff goes (a := "sensor".toList) (c := 'r') (b := "eading".toList)
      (by decide) (by decide) (by decide) (by decide)
  constructor
  · rintro ⟨-, beyond⟩ low
    obtain ⟨i, left, right, next, level, ⟨side, stays⟩ | ⟨high, -⟩⟩ :=
      (overThreshold_madeUpEvent_iff goes).mp beyond
    · exact ⟨i, left, right, next, side, level, fun comparative => stays ⟨low, comparative⟩⟩
    · rw [low] at high
      exact absurd high (by decide)
  · intro stays
    refine ⟨fun named => h.reading (reading.mp named), ?_⟩
    rw [overThreshold_madeUpEvent_iff goes]
    by_cases low : lastWord event = "low"
    · obtain ⟨i, left, right, next, side, level, same⟩ := stays low
      exact ⟨i, left, right, next, level, .inl ⟨side, fun both => same both.2⟩⟩
    · obtain ⟨i, left, right, next, side, level⟩ := h.beyond
      exact ⟨i, left, right, next, level, .inl ⟨side, fun both => low both.1⟩⟩

theorem redundancyEvent_madeUpEvent_iff {event : String} (goes : Goes event)
    (h : RedundancyEvent event) :
    RedundancyEvent (madeUpEvent event) ↔
      (lower (lastWord event) = "high".toList →
        ¬∃ i left right, Words.Adjacent (words event) i left right ∧
          Level right ∧ Comparative event i left) := by
  have reading : Named "Sensor Reading" (madeUpEvent event) ↔ Named "Sensor Reading" event :=
    infix_lower_madeUpEvent_iff goes (a := "sensor".toList) (c := 'r') (b := "eading".toList)
      (by decide) (by decide) (by decide) (by decide)
  have redundant : Named "Fully Redundant" (madeUpEvent event) ↔ Named "Fully Redundant" event :=
    infix_lower_madeUpEvent_iff goes (a := "fully".toList) (c := 'r') (b := "edundant".toList)
      (by decide) (by decide) (by decide) (by decide)
  constructor
  · rintro other high ⟨i, left, right, next, level, comparative⟩
    exact other.beyond ((overThreshold_madeUpEvent_iff goes).mpr
      ⟨i, left, right, next, level, .inr ⟨high, comparative⟩⟩)
  · intro stays
    refine ⟨fun named => h.reading (reading.mp named), fun beyond => ?_, redundant.mpr h.redundant⟩
    obtain ⟨i, left, right, next, level, ⟨side, -⟩ | ⟨high, comparative⟩⟩ :=
      (overThreshold_madeUpEvent_iff goes).mp beyond
    · exact h.beyond ⟨i, left, right, next, side, level⟩
    · exact stays high ⟨i, left, right, next, level, comparative⟩

/-- The condition of `Invertible` for a fan. -/
theorem fan_inverse_iff {resource : FaultyResource} (fan : resource.fruType = .fan)
    (recorded : Recorded resource) :
    judge .fan (madeUpEvent resource.event) (madeUpStatus resource.status) = some .recovery ↔
      Invertible resource := by
  obtain ⟨status, event, deviceId, fruType⟩ := resource
  cases fan
  obtain ⟨fixed, status_⟩ := recorded.stripped rfl
  have fixedNew : stripped (madeUpEvent event) = madeUpEvent event := by
    by_cases goes : Goes event
    · exact stripped_madeUpEvent goes fixed
    · rw [madeUpEvent_of_not_goes goes]
      exact fixed
  have other : "Deasserted" ≠ "Asserted" := by decide
  obtain ⟨rfl, h⟩ | ⟨rfl, h⟩ := fan_fault_cases fixed status_ recorded.fault
  · have new : madeUpStatus "Asserted" = "Deasserted" := by decide +kernel
    rw [new, fan_recovery_iff fixedNew (by decide)]
    simp only [Invertible, other, other.symm, true_and, false_and, or_false, false_implies,
      and_true, true_implies]
    by_cases goes : Goes event
    · rw [thresholdEvent_madeUpEvent_iff goes h]
      simp only [goes, true_implies]
    · rw [madeUpEvent_of_not_goes goes]
      simp only [h, goes, false_implies]
  · have new : madeUpStatus "Deasserted" = "Asserted" := by decide +kernel
    rw [new, fan_recovery_iff fixedNew (by decide)]
    simp only [Invertible, other, other.symm, true_and, false_and, false_or, false_implies,
      true_implies]
    by_cases goes : Goes event
    · rw [redundancyEvent_madeUpEvent_iff goes h]
      simp only [goes, true_implies]
    · rw [madeUpEvent_of_not_goes goes]
      simp only [h, goes, false_implies]

/-- Which events that were recorded have an inverse in the table of their handler. -/
theorem inverse_iff {resource : FaultyResource} (recorded : Recorded resource) :
    judge resource.fruType (madeUpEvent resource.event) (madeUpStatus resource.status) =
      some .recovery ↔ Invertible resource := by
  have fault := recorded.fault
  cases fru : resource.fruType with
  | fan => exact fan_inverse_iff fru recorded
  | powerUnit =>
      rw [fru] at fault
      rw [powerUnit_inverse_iff fault, Invertible, fru]
  | powerSupply =>
      rw [fru] at fault
      simp only [powerSupply_inverse fault, Invertible, fru]
  | disk =>
      rw [fru] at fault
      simp only [disk_inverse fault, Invertible, fru]
  | temperature =>
      rw [fru] at fault
      simp only [threshold_inverse (by decide) fault, Invertible, fru]
  | voltage =>
      rw [fru] at fault
      simp only [threshold_inverse (by decide) fault, Invertible, fru]
  | current =>
      rw [fru] at fault
      simp only [threshold_inverse (by decide) fault, Invertible, fru]

end Resources

end NodeHw

end Sspl

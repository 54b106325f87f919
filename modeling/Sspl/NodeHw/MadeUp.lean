import Sspl.Foundation.Replace
import Sspl.NodeHw.Verdicts

/-!
# Made-up events

The check makes up an event with the other status, and with `low` and `high` exchanged at the end
of an event of a threshold. The handler looks it up in its table, or looks for a threshold in it:
what has put the resource into `faulty_resources` was found there, but its inverse need not be.

The words of an event are what is between its blanks. The exchange replaces the last word wherever
it begins a word after a blank, so that it makes `higher` of `lower` as well.
-/

namespace Sspl

namespace NodeHw

namespace Resources

open Iem (Text strip)

def madeUpStatus (status : String) : String :=
  if lower status = "asserted".toList then "Deasserted" else "Asserted"

/-- The event ends as one of a sensor that went over a threshold. -/
def Goes (event : String) : Prop :=
  "going high".toList <:+ lower event ∨ "going low".toList <:+ lower event

instance (event : String) : Decidable (Goes event) :=
  inferInstanceAs (Decidable (_ ∨ _))

def thresholdNew (thresholdOld : String) : String :=
  if thresholdOld = "low" then " high" else " low"

def madeUpEvent (event : String) : String :=
  if Goes event then replace (" " ++ lastWord event) (thresholdNew (lastWord event)) event
  else event

/-- The resource was entered for its event. -/
structure Recorded (resource : FaultyResource) : Prop where
  fault : judge resource.fruType resource.event resource.status = some .fault
  stripped : resource.fruType = .fan →
    stripped resource.event = resource.event ∧ stripped resource.status = resource.status

theorem judge_stripped (event status : String) :
    judge .fan (stripped event) (stripped status) = judge .fan event status := by
  rw [judge, judge, stripped_stripped, stripped_stripped]

theorem recorded_resource {fru : Fru} {call : Call}
    (fault : judge fru call.event call.status = some .fault) : Recorded (call.resource fru) := by
  by_cases fan : fru = .fan
  · subst fan
    exact ⟨(judge_stripped _ _).trans fault, fun _ => ⟨stripped_stripped _, stripped_stripped _⟩⟩
  · have raw : call.resource fru = ⟨call.status, call.event, call.deviceId, fru⟩ := by
      cases fru <;> first | rfl | exact absurd rfl fan
    rw [raw]
    exact ⟨fault, fun same => absurd same fan⟩

/-- The events of a power unit without an inverse. -/
def oneWay : List String :=
  ["240VA power down", "Non-Redundant: Sufficient from Insufficient",
    "Non-Redundant: Sufficient from Redundant"]

theorem madeUpStatus_asserted : madeUpStatus "Asserted" = "Deasserted" := by decide +kernel

theorem madeUpStatus_deasserted : madeUpStatus "Deasserted" = "Asserted" := by decide +kernel

theorem mem_of_lookup {table : List Row} {event status : String} {alert : Alert}
    (found : lookup table event status = some alert) :
    (∃ row ∈ table, event ∈ row.events) ∧ status ∈ ["Asserted", "Deasserted"] := by
  obtain ⟨row, first, read⟩ := Option.bind_eq_some_iff.mp found
  refine ⟨⟨row, List.mem_of_find?_eq_some first, ?_⟩, ?_⟩
  · simpa using List.find?_some first
  · rw [Row.alert] at read
    split at read
    · simp [*]
    · split at read
      · simp [*]
      · cases read

/-- The two alerts of a row are one another's inverse, if one of them is a fault, and no event of
the table is changed. -/
theorem lookup_inverse {table : List Row} {verdict : AlertType → Verdict} {event status : String}
    (fixed : ∀ row ∈ table, ∀ event ∈ row.events, ¬Goes event)
    (paired : ∀ row ∈ table,
      (verdict row.asserted.type = .fault → verdict row.deasserted.type = .recovery) ∧
        (verdict row.deasserted.type = .fault → verdict row.asserted.type = .recovery))
    (fault : (lookup table event status).map (verdict ·.type) = some .fault) :
    (lookup table (madeUpEvent event) (madeUpStatus status)).map (verdict ·.type) =
      some .recovery := by
  obtain ⟨alert, found, judged⟩ := Option.map_eq_some_iff.mp fault
  obtain ⟨row, first, read⟩ := Option.bind_eq_some_iff.mp found
  have mem := List.mem_of_find?_eq_some first
  have here : event ∈ row.events := by simpa using List.find?_some first
  have same : madeUpEvent event = event := if_neg (fixed row mem event here)
  have looked : ∀ status, lookup table event status = row.alert status := by
    intro status
    rw [lookup, first, Option.bind_some]
  rw [same, looked]
  rw [Row.alert] at read
  split at read
  · rename_i asserted
    cases read
    rw [asserted, madeUpStatus_asserted]
    exact congrArg some ((paired row mem).1 judged)
  · split at read
    · rename_i deasserted
      cases read
      rw [deasserted, madeUpStatus_deasserted]
      exact congrArg some ((paired row mem).2 judged)
    · cases read

theorem powerSupply_inverse {event status : String}
    (fault : judge .powerSupply event status = some .fault) :
    judge .powerSupply (madeUpEvent event) (madeUpStatus status) = some .recovery := by
  rw [judge_powerSupply] at fault ⊢
  exact lookup_inverse (by decide +kernel) (by decide) fault

theorem disk_inverse {event status : String} (fault : judge .disk event status = some .fault) :
    judge .disk (madeUpEvent event) (madeUpStatus status) = some .recovery := by
  rw [judge_disk] at fault ⊢
  exact lookup_inverse (by decide +kernel) (by decide) fault

theorem powerUnit_inverse_iff {event status : String}
    (fault : judge .powerUnit event status = some .fault) :
    judge .powerUnit (madeUpEvent event) (madeUpStatus status) = some .recovery ↔
      event ∉ oneWay := by
  have rows : ∀ row ∈ powerUnitAlerts, judge .powerUnit row.1.1 row.1.2 = some .fault →
      (judge .powerUnit (madeUpEvent row.1.1) (madeUpStatus row.1.2) = some .recovery ↔
        row.1.1 ∉ oneWay) := by
    decide +kernel
  have judged := fault
  rw [judge_powerUnit] at judged
  obtain ⟨alert, found, -⟩ := Option.map_eq_some_iff.mp judged
  obtain ⟨row, first, -⟩ := Option.map_eq_some_iff.mp found
  have same : row.1 = (event, status) := by simpa using List.find?_some first
  have here := rows row (List.mem_of_find?_eq_some first)
  rw [same] at here
  exact here fault

def words (event : String) : List Text := event.toList.splitOn ' '

theorem toLower_eq_blank_iff (c : Char) : c.toLower = ' ' ↔ c = ' ' := by
  unfold Char.toLower
  split
  · rename_i upper
    constructor
    · intro h
      have code : (c.val + ('a'.val - 'A'.val)).toNat = 32 := congrArg (fun c => c.val.toNat) h
      have low : 65 ≤ c.val.toNat := UInt32.le_iff_toNat_le.mp upper.1
      have high : c.val.toNat ≤ 90 := UInt32.le_iff_toNat_le.mp upper.2
      have gap : ('a'.val - 'A'.val).toNat = 32 := by decide
      rw [UInt32.toNat_add, gap] at code
      omega
    · rintro rfl
      exact absurd upper (by decide)
  · rfl

theorem splitOn_lower (event : String) :
    (lower event).splitOn ' ' = (words event).map (List.map Char.toLower) :=
  Words.splitOn_map toLower_eq_blank_iff

theorem getLast?_words (event : String) :
    (words event).getLast? = some (lastWord event).toList := by
  rw [words, Words.getLast?_splitOn, lastWord, String.toList_ofList]

theorem blank_notMem_lastWord (event : String) : ' ' ∉ (lastWord event).toList := by
  rw [lastWord, String.toList_ofList, List.mem_reverse]
  intro mem
  simpa using List.mem_takeWhile_imp mem

theorem lastWord_isSuffix (event : String) : (lastWord event).toList <:+ event.toList := by
  rw [lastWord, String.toList_ofList]
  exact List.reverse_prefix.mp (by rw [List.reverse_reverse]; exact List.takeWhile_prefix _)

/-- The last two words of an event that goes over a threshold. -/
theorem Goes.words {event : String} (goes : Goes event) :
    ∃ front word, front ≠ [] ∧ word ∈ ["high".toList, "low".toList] ∧
      (words event).map (List.map Char.toLower) = front ++ [word] := by
  have split : ∀ (before word : Text), ' ' ∉ word → before ++ ' ' :: word <:+ lower event →
      ∃ front, front ≠ [] ∧
        (Resources.words event).map (List.map Char.toLower) = front ++ [word] := by
    rintro before word fresh ⟨front, same⟩
    refine ⟨(front ++ before).splitOn ' ', List.splitOn_ne_nil _ _, ?_⟩
    rw [← splitOn_lower, ← same, ← List.append_assoc, List.splitOn_append_cons_self,
      List.splitOn_eq_singleton fresh]
  obtain high | low := goes
  · obtain ⟨front, some_, same⟩ := split "going".toList "high".toList (by decide) high
    exact ⟨front, _, some_, List.mem_cons_self, same⟩
  · obtain ⟨front, some_, same⟩ := split "going".toList "low".toList (by decide) low
    exact ⟨front, _, some_, List.mem_cons_of_mem _ List.mem_cons_self, same⟩

theorem Goes.lastWord {event : String} (goes : Goes event) :
    lower (lastWord event) ∈ ["high".toList, "low".toList] := by
  obtain ⟨front, word, -, mem, same⟩ := goes.words
  have last := congrArg List.getLast? same
  rw [List.getLast?_concat, List.getLast?_map, getLast?_words] at last
  have here : lower (Resources.lastWord event) = word := Option.some.inj last
  exact here ▸ mem

/-- What the last word is replaced by. -/
def exchanged (thresholdOld : String) : Text :=
  if thresholdOld = "low" then "high".toList else "low".toList

/-- What becomes of the word with the number `i`. -/
def changed (event : String) (i : Nat) (word : Text) : Text :=
  if i = 0 then word
  else Replace.swap (lastWord event).toList (exchanged (lastWord event)) word

theorem toList_madeUpEvent {event : String} (goes : Goes event) :
    (madeUpEvent event).toList = Replace.replaceAll (' ' :: (lastWord event).toList)
      (' ' :: exchanged (lastWord event)) event.toList := by
  have old : (" " ++ lastWord event).toList = ' ' :: (lastWord event).toList := by simp
  have new : (thresholdNew (lastWord event)).toList = ' ' :: exchanged (lastWord event) := by
    rw [thresholdNew, exchanged]
    split <;> rfl
  rw [madeUpEvent, if_pos goes, replace, String.toList_ofList, old, new]

theorem words_madeUpEvent {event : String} (goes : Goes event) :
    ∃ first rest, words event = first :: rest ∧ words (madeUpEvent event) = first ::
      rest.map (Replace.swap (lastWord event).toList (exchanged (lastWord event))) := by
  have freshNew : ' ' ∉ exchanged (lastWord event) := by
    rw [exchanged]
    split <;> decide
  rw [words, words, toList_madeUpEvent goes]
  exact Replace.splitOn_replaceAll (blank_notMem_lastWord event) freshNew

theorem getElem?_words_madeUpEvent {event : String} (goes : Goes event) (i : Nat) :
    (words (madeUpEvent event))[i]? = (words event)[i]?.map (changed event i) := by
  obtain ⟨first, rest, before, after⟩ := words_madeUpEvent goes
  rw [before, after]
  cases i with
  | zero => rfl
  | succ i =>
      have behind : changed event (i + 1) =
          Replace.swap (lastWord event).toList (exchanged (lastWord event)) := by
        funext word
        rw [changed, if_neg (Nat.succ_ne_zero i)]
      rw [List.getElem?_cons_succ, List.getElem?_cons_succ, List.getElem?_map, behind]

/-- The event that is made up ends in the other word. -/
theorem lastWord_madeUpEvent {event : String} (goes : Goes event) :
    (lastWord (madeUpEvent event)).toList = exchanged (lastWord event) := by
  obtain ⟨first, rest, before, after⟩ := words_madeUpEvent goes
  obtain ⟨front, word, some_, -, same⟩ := goes.words
  obtain ⟨second, rest, rfl⟩ := List.exists_cons_of_ne_nil (l := rest) (by
    rintro rfl
    have sizes := congrArg List.length same
    rw [before] at sizes
    simp only [List.map_cons, List.map_nil, List.length_cons, List.length_nil,
      List.length_append] at sizes
    exact some_ (List.length_eq_zero_iff.mp (by omega)))
  have last := getLast?_words event
  have new := getLast?_words (madeUpEvent event)
  rw [before, List.getLast?_cons_cons] at last
  rw [after, List.map_cons, List.getLast?_cons_cons, ← List.map_cons, List.getLast?_map, last,
    Option.map_some] at new
  have whole := Replace.swap_append (lastWord event).toList (exchanged (lastWord event)) []
  rw [List.append_nil, List.append_nil] at whole
  rw [← Option.some.inj new, whole]

theorem madeUpEvent_of_not_goes {event : String} (goes : ¬Goes event) :
    madeUpEvent event = event := if_neg goes

theorem lastWord_madeUpEvent_mem {event : String} (mem : lastWord event ∈ ["low", "high"]) :
    lastWord (madeUpEvent event) ∈ ["low", "high"] := by
  by_cases goes : Goes event
  · have last := lastWord_madeUpEvent goes
    rw [exchanged] at last
    split at last
    · rw [String.toList_inj.mp last]
      exact List.mem_cons_of_mem _ List.mem_cons_self
    · rw [String.toList_inj.mp last]
      exact List.mem_cons_self
  · rw [madeUpEvent_of_not_goes goes]
    exact mem

theorem threshold_inverse {fru : Fru} (sensor : fru ∈ thresholdTypes) {event status : String}
    (fault : judge fru event status = some .fault) :
    judge fru (madeUpEvent event) (madeUpStatus status) = some .recovery := by
  rw [judge_threshold sensor] at fault ⊢
  split at fault
  · rename_i mem
    rw [if_pos (lastWord_madeUpEvent_mem mem)]
    have asserted : lower status = "asserted".toList := by
      have verdict := Option.some.inj fault
      rw [thresholdVerdict] at verdict
      split at verdict
      · assumption
      · split at verdict <;> cases verdict
    have other : madeUpStatus status = "Deasserted" := if_pos asserted
    rw [other]
    decide +kernel
  · cases fault

end Resources

end NodeHw

end Sspl

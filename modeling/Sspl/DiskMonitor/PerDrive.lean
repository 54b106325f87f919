import Sspl.DiskMonitor.Turns
import Sspl.Foundation.Alternation

/-!
# Faults, drive by drive

The loop of a round keeps its verdict in a variable that a drive does not always set, and
some outputs end it. So what a round finds of a drive also depends on the drives before it,
and how is said here exactly. Whatever it finds, the alerts on a drive alternate.
-/

namespace Sspl

namespace DiskMonitor

open Iem (Text)

variable {o o' : Outside} {s s' t : State} {path : Text} {faultDetected : Option Bool}

/-- The alerts of a turn, on the drive whose turn it is. -/
def news (path : Text) (s t : State) : List (Text × Output) :=
  (t.alerts.drop s.alerts.length).map (Prod.mk path)

/-- The loop, with the alerts that it sends. -/
def loop (o : Outside) : Option Bool → List Text → State → State × List (Text × Output)
  | _, [], s => (s, [])
  | faultDetected, path :: rest, s =>
    match (turn o path faultDetected).run s with
    | (.ok (some next), t) =>
      let later := loop o next rest t
      (later.1, news path s t ++ later.2)
    | (_, t) => (t, news path s t)

def roundOf (o : Outside) (s : State) : State × List (Text × Output) :=
  if s.smartSupported then loop o none s.drives.keys s else (s, [])

theorem loop_run (o : Outside) (faultDetected : Option Bool) (paths : List Text) (s : State) :
    ((updateFaults o faultDetected paths).run s).2 = (loop o faultDetected paths s).1 := by
  induction paths generalizing faultDetected s with
  | nil => rfl
  | cons path rest ih =>
      rw [updateFaults_cons, loop]
      cases ended : (turn o path faultDetected).run s with
      | mk result t =>
          cases result with
          | error err => rw [Try.run_bind_of_error ended]
          | ok next =>
              rw [Try.run_bind_of_ok ended]
              cases next with
              | none => rfl
              | some next => exact ih next t

theorem roundOf_run (o : Outside) (s : State) :
    ((updateDriveFaults o).run s).2 = (roundOf o s).1 := by
  rw [updateDriveFaults, Try.run_bind_of_ok (Try.run_get s), roundOf]
  split
  · exact loop_run o none s.drives.keys s
  · rfl

/-- How a turn ends, and how the loop goes on from there. -/
theorem loop_cons (o : Outside) (faultDetected : Option Bool) (path : Text) (rest : List Text)
    (s : State) : ∃ t,
      Turned o s t path (decided (o.command path) (known s path) faultDetected) ∧
      (Continues (o.command path) (known s path) faultDetected →
        loop o faultDetected (path :: rest) s =
          let later := loop o ((ownVerdict (o.command path) (known s path)).or faultDetected) rest t
          (later.1, news path s t ++ later.2)) ∧
      (¬ Continues (o.command path) (known s path) faultDetected →
        loop o faultDetected (path :: rest) s = (t, news path s t)) := by
  have left := turn_leaves o path faultDetected s
  rw [loop]
  unfold Try.Leaves at left
  cases ended : (turn o path faultDetected).run s with
  | mk result t =>
      rw [ended] at left
      refine ⟨t, ?_⟩
      cases result with
      | error err => exact ⟨left.1, fun goes => absurd goes left.2, fun _ => rfl⟩
      | ok next =>
          obtain ⟨turned, ⟨goes, rfl⟩ | ⟨ends, rfl⟩⟩ := left
          · exact ⟨turned, fun _ => rfl, fun ends => absurd goes ends⟩
          · exact ⟨turned, fun goes => absurd goes ends, fun _ => rfl⟩

theorem Turned.news_eq {changed : Option Bool} (h : Turned o s t path changed) :
    news path s t = (changed.bind (alertOf o s path)).toList.map (Prod.mk path) := by
  rw [news, h.alerts, List.drop_left]

/-- The alerts that are noted are those that are sent. -/
theorem loop_alerts (o : Outside) (faultDetected : Option Bool) (paths : List Text) (s : State) :
    (loop o faultDetected paths s).1.alerts =
      s.alerts ++ (loop o faultDetected paths s).2.map Prod.snd := by
  induction paths generalizing faultDetected s with
  | nil => exact (List.append_nil _).symm
  | cons path rest ih =>
      obtain ⟨t, turned, goes, ends⟩ := loop_cons o faultDetected path rest s
      have sent : t.alerts = s.alerts ++ (news path s t).map Prod.snd := by
        rw [turned.news_eq, turned.alerts, List.map_map]
        exact congrArg _ (List.map_id _).symm
      by_cases more : Continues (o.command path) (known s path) faultDetected
      · rw [goes more, List.map_append, ← List.append_assoc, ← sent]
        exact ih _ t
      · rw [ends more]
        exact sent

theorem roundOf_alerts (o : Outside) (s : State) :
    ((updateDriveFaults o).run s).2.alerts = s.alerts ++ (roundOf o s).2.map Prod.snd := by
  rw [roundOf_run, roundOf]
  split
  · exact loop_alerts o none s.drives.keys s
  · exact (List.append_nil _).symm

/-- The verdict of the last of these drives whose output gives one. -/
def lastVerdict (o : Outside) (s : State) (paths : List Text) : Option Bool :=
  paths.reverse.findSome? fun path => ownVerdict (o.command path) (known s path)

/-- None of these drives ends the loop. -/
def Reached (o : Outside) (s : State) (faultDetected : Option Bool) (paths : List Text) : Prop :=
  ∀ before path, before ++ [path] <+: paths →
    Continues (o.command path) (known s path) ((lastVerdict o s before).or faultDetected)

theorem lastVerdict_cons (o : Outside) (s : State) (path : Text) (rest : List Text)
    (faultDetected : Option Bool) :
    (lastVerdict o s (path :: rest)).or faultDetected =
      (lastVerdict o s rest).or
        ((ownVerdict (o.command path) (known s path)).or faultDetected) := by
  rw [lastVerdict, List.reverse_cons, List.findSome?_append, Option.or_assoc, lastVerdict]
  congr 2
  rw [List.findSome?_cons, List.findSome?_nil]
  split <;> simp [*]

theorem reached_cons {rest : List Text} :
    Reached o s faultDetected (path :: rest) ↔
      Continues (o.command path) (known s path) faultDetected ∧
        Reached o s ((ownVerdict (o.command path) (known s path)).or faultDetected) rest := by
  constructor
  · intro reached
    constructor
    · exact reached [] path ⟨rest, rfl⟩
    · intro before other earlier
      have goes := reached (path :: before) other ((List.prefix_cons_inj path).mpr earlier)
      rwa [lastVerdict_cons] at goes
  · rintro ⟨first, later⟩ before other earlier
    cases before with
    | nil =>
        obtain ⟨rfl, -⟩ := List.cons_prefix_cons.mp earlier
        exact first
    | cons q before =>
        obtain ⟨rfl, inRest⟩ := List.cons_prefix_cons.mp earlier
        rw [lastVerdict_cons]
        exact later before other inRest

theorem lastVerdict_congr {paths : List Text}
    (same : ∀ path ∈ paths, known t path = known s path) :
    lastVerdict o t paths = lastVerdict o s paths := by
  induction paths with
  | nil => rfl
  | cons path rest ih =>
      rw [← Option.or_none (o := lastVerdict o t _), ← Option.or_none (o := lastVerdict o s _),
        lastVerdict_cons, lastVerdict_cons, same path List.mem_cons_self,
        ih fun q later => same q (List.mem_cons_of_mem path later)]

theorem reached_congr {paths : List Text}
    (same : ∀ path ∈ paths, known t path = known s path) :
    Reached o t faultDetected paths ↔ Reached o s faultDetected paths := by
  refine forall₃_congr fun before path earlier => ?_
  have mem : ∀ q ∈ before ++ [path], q ∈ paths := fun q here => earlier.subset here
  rw [same path (mem path (by simp)),
    lastVerdict_congr fun q first => same q (mem q (List.mem_append_left _ first))]

/-- The round leaves the drive with this change, and sends the alert on it. -/
structure Settles (o : Outside) (s : State) (path : Text) (changed : Option Bool)
    (left : State × List (Text × Output)) : Prop where
  faulty : (known left.1 path).faulty = changed.or (known s path).faulty
  alerts : entries path left.2 = (changed.bind (alertOf o s path)).toList

/-- The turns of the other drives are nothing to this one. -/
theorem loop_other {paths : List Text} (other : path ∉ paths) (faultDetected : Option Bool)
    (s : State) :
    known (loop o faultDetected paths s).1 path = known s path ∧
      entries path (loop o faultDetected paths s).2 = [] := by
  induction paths generalizing faultDetected s with
  | nil => exact ⟨rfl, rfl⟩
  | cons q rest ih =>
      obtain ⟨different, other⟩ := not_or.mp (mt List.mem_cons.mpr other)
      obtain ⟨t, turned, goes, ends⟩ := loop_cons o faultDetected q rest s
      have same := turned.others path different
      have none : entries path (news q s t) = [] := by
        rw [turned.news_eq, entries_map, if_neg (Ne.symm different)]
      by_cases more : Continues (o.command q) (known s q) faultDetected
      · rw [goes more]
        obtain ⟨later, alerts⟩ := ih other _ t
        exact ⟨later.trans same, by rw [entries_append, none, alerts, List.append_nil]⟩
      · rw [ends more]
        exact ⟨same, none⟩

/-- The drive's own turn, after which the loop does not come back to it. -/
theorem loop_own {rest : List Text} (once : path ∉ rest) (faultDetected : Option Bool)
    (s : State) :
    Settles o s path (decided (o.command path) (known s path) faultDetected)
      (loop o faultDetected (path :: rest) s) := by
  obtain ⟨t, turned, goes, ends⟩ := loop_cons o faultDetected path rest s
  have own : entries path (news path s t) =
      ((decided (o.command path) (known s path) faultDetected).bind (alertOf o s path)).toList := by
    rw [turned.news_eq, entries_map, if_pos rfl]
  by_cases more : Continues (o.command path) (known s path) faultDetected
  · rw [goes more]
    obtain ⟨later, alerts⟩ := loop_other (o := o) once
      ((ownVerdict (o.command path) (known s path)).or faultDetected) t
    constructor
    · rw [later, turned.faulty]
    · rw [entries_append, own, alerts, List.append_nil]
  · rw [ends more]
    exact ⟨turned.faulty, own⟩

theorem Settles.of_known {changed : Option Bool} {left : State × List (Text × Output)}
    (h : Settles o t path changed left) (same : known t path = known s path)
    (earlier : List (Text × Output)) (none : entries path earlier = []) :
    Settles o s path changed (left.1, earlier ++ left.2) where
  faulty := by rw [h.faulty, same]
  alerts := by
    have told : alertOf o t path = alertOf o s path :=
      funext fun fault => alertOf_congr rfl same fault
    rw [entries_append, none, List.nil_append, h.alerts, told]

/-- The loop comes to the drive if none of those before it ends it. -/
theorem loop_settles {front rest : List Text} (nodup : (front ++ path :: rest).Nodup)
    (faultDetected : Option Bool) (s : State) :
    (Reached o s faultDetected front →
      Settles o s path (decided (o.command path) (known s path)
          ((lastVerdict o s front).or faultDetected))
        (loop o faultDetected (front ++ path :: rest) s)) ∧
    (¬ Reached o s faultDetected front →
      Settles o s path none (loop o faultDetected (front ++ path :: rest) s)) := by
  induction front generalizing faultDetected s with
  | nil =>
      have once : path ∉ rest := (List.nodup_cons.mp nodup).1
      refine ⟨fun _ => loop_own once faultDetected s, fun missed => absurd ?_ missed⟩
      intro before q earlier
      simp at earlier
  | cons q front ih =>
      obtain ⟨fresh, nodup⟩ := List.nodup_cons.mp nodup
      obtain ⟨t, turned, goes, ends⟩ := loop_cons o faultDetected q (front ++ path :: rest) s
      have different : path ≠ q := by
        rintro rfl
        exact fresh (by simp)
      have inFront : ∀ other ∈ front, known t other = known s other := by
        refine fun other mem => turned.others other ?_
        rintro rfl
        exact fresh (List.mem_append_left _ mem)
      have same := turned.others path different
      have none : entries path (news q s t) = [] := by
        rw [turned.news_eq, entries_map, if_neg (Ne.symm different)]
      rw [reached_cons, lastVerdict_cons, List.cons_append]
      by_cases more : Continues (o.command q) (known s q) faultDetected
      · rw [goes more]
        obtain ⟨reached, missed⟩ := ih nodup
          ((ownVerdict (o.command q) (known s q)).or faultDetected) t
        rw [reached_congr inFront, lastVerdict_congr inFront, same] at reached
        rw [reached_congr inFront] at missed
        constructor
        · exact fun both => (reached both.2).of_known same _ none
        · exact fun either => (missed fun later => either ⟨more, later⟩).of_known same _ none
      · rw [ends more]
        refine ⟨fun both => absurd both.1 more, fun _ => ⟨?_, none⟩⟩
        rw [same]
        rfl

/-- The drives that a round looks at before this one. -/
def before (s : State) (path : Text) : List Text := s.drives.keys.takeWhile fun q => q ≠ path

/-- The round comes to the drive. -/
def Comes (o : Outside) (s : State) (path : Text) : Prop :=
  s.smartSupported = true ∧ Reached o s none (before s path)

theorem before_eq {front rest : List Text} (keys : s.drives.keys = front ++ path :: rest)
    (fresh : path ∉ front) : before s path = front := by
  have others : ∀ q ∈ front, decide (q ≠ path) = true := by
    refine fun q mem => decide_eq_true ?_
    rintro rfl
    exact fresh mem
  rw [before, keys, List.takeWhile_append_of_pos others, List.takeWhile_cons_of_neg (by simp),
    List.append_nil]

theorem decided_eq_some {command : Text → Answer} {k : Known} {fault : Bool} :
    decided command k faultDetected = some fault ↔ k.faulty = some !fault ∧
      ∃ found, finding command k = some found ∧ found.used faultDetected = some fault := by
  simp only [decided, Option.bind_eq_some_iff, change_eq_some]
  tauto

/-- What a round does to a drive. -/
theorem roundOf_settles (o : Outside) (s : State) (path : Text) : ∃ changed,
    Settles o s path changed (roundOf o s) ∧
      ∀ fault, changed = some fault ↔ Comes o s path ∧
        decided (o.command path) (known s path) (lastVerdict o s (before s path)) =
          some fault := by
  rw [roundOf]
  split
  · rename_i supported
    by_cases mem : path ∈ s.drives.keys
    · obtain ⟨front, rest, keys, fresh⟩ := List.eq_append_cons_of_mem mem
      have nodup : (front ++ path :: rest).Nodup := keys ▸ s.drives.nodup
      obtain ⟨reached, missed⟩ := loop_settles (o := o) nodup none s
      rw [Comes, before_eq keys fresh, keys]
      rw [Option.or_none] at reached
      by_cases comes : Reached o s none front
      · exact ⟨_, reached comes, fun fault => (and_iff_right ⟨supported, comes⟩).symm⟩
      · refine ⟨none, missed comes, fun fault => ?_⟩
        exact iff_of_false (Option.some_ne_none fault).symm fun h => comes h.1.2
    · have absent : (known s path).entry = none := by
        refine Option.eq_none_iff_forall_ne_some.mpr fun drive entry => ?_
        exact mem (Dict.mem_keys.mpr ⟨drive, entry⟩)
      obtain ⟨same, nothing⟩ := loop_other (o := o) mem none s
      refine ⟨none, ⟨by rw [same]; rfl, nothing⟩, fun fault => ?_⟩
      refine iff_of_false (Option.some_ne_none fault).symm ?_
      rintro ⟨-, changes⟩
      obtain ⟨-, found, finds, -⟩ := decided_eq_some.mp changes
      obtain ⟨drive, -, -, entry, -⟩ := finding_known finds
      rw [absent] at entry
      cases entry
  · rename_i unsupported
    refine ⟨none, ⟨rfl, rfl⟩, fun fault => ?_⟩
    exact iff_of_false (Option.some_ne_none fault).symm fun h => unsupported h.1.1

/-- What a round leaves of a drive: its flag, and the alerts sent on it. -/
def outcome (o : Outside) (s : State) (path : Text) : Option Bool × List Output :=
  ((known ((updateDriveFaults o).run s).2 path).faulty, entries path (roundOf o s).2)

/-- The drive is in the same state in two rounds, and `smartctl` says the same of it, whatever the
other drives are. -/
structure SameDrive (o o' : Outside) (s s' : State) (path : Text) : Prop where
  command : o.command path = o'.command path
  drive : known s path = known s' path
  smartSupported : s.smartSupported = s'.smartSupported

theorem outcome_eq {changed : Option Bool} (settles : Settles o s path changed (roundOf o s)) :
    outcome o s path =
      (changed.or (known s path).faulty, (changed.bind (alertOf o s path)).toList) := by
  rw [outcome, roundOf_run, settles.faulty, settles.alerts]

/-- A change of a flag can be told from the flag after it. -/
theorem changed_inj {changed changed' flag : Option Bool}
    (flips : ∀ fault, changed = some fault → flag = some !fault)
    (flips' : ∀ fault, changed' = some fault → flag = some !fault)
    (same : changed.or flag = changed'.or flag) : changed = changed' := by
  cases changed with
  | none =>
      cases changed' with
      | none => rfl
      | some fault' =>
          rw [flips' fault' rfl] at same
          cases fault' <;> cases same
  | some fault =>
      cases changed' with
      | none =>
          rw [flips fault rfl] at same
          cases fault <;> cases same
      | some fault' => exact same

/-- Two rounds do the same to a drive if they come to the same change. -/
theorem sameOutcome_iff (same : SameDrive o o' s s' path) :
    outcome o s path = outcome o' s' path ↔ ∀ fault,
      (Comes o s path ∧ decided (o.command path) (known s path)
          (lastVerdict o s (before s path)) = some fault ↔
        Comes o' s' path ∧ decided (o.command path) (known s path)
          (lastVerdict o' s' (before s' path)) = some fault) := by
  obtain ⟨changed, settles, changes⟩ := roundOf_settles o s path
  obtain ⟨changed', settles', changes'⟩ := roundOf_settles o' s' path
  rw [← same.command, ← same.drive] at changes'
  have alerts : alertOf o s path = alertOf o' s' path :=
    funext fun fault => alertOf_congr same.command same.drive fault
  rw [outcome_eq settles, outcome_eq settles', ← same.drive, ← alerts]
  simp only [← changes, ← changes', ← Option.ext_iff]
  constructor
  · intro equal
    refine changed_inj ?_ ?_ (congrArg Prod.fst equal)
    · exact fun fault change => (decided_eq_some.mp ((changes fault).mp change).2).1
    · exact fun fault change => (decided_eq_some.mp ((changes' fault).mp change).2).1
  · rintro rfl
    rfl

/-- The drives before this one leave it this verdict. -/
def Inherits (o : Outside) (s : State) (path : Text) (fault : Bool) : Prop :=
  Comes o s path ∧ lastVerdict o s (before s path) = some fault

/-- The other drives make no difference to this one: its output asks for no change; or it does,
and both rounds come to the drive or neither does; or it has a message and leaves the verdict to
the drives before it, and these ask for a change in both rounds or in neither. -/
def Unaffected (o o' : Outside) (s s' : State) (path : Text) : Prop :=
  match finding (o.command path) (known s path) with
  | some (.detected fault) =>
    (known s path).faulty = some (!fault) → (Comes o s path ↔ Comes o' s' path)
  | some .unchanged => ∀ fault, (known s path).faulty = some (!fault) →
    (Inherits o s path fault ↔ Inherits o' s' path fault)
  | some .gone | none => True

theorem sameOutcome_iff_unaffected (same : SameDrive o o' s s' path) :
    outcome o s path = outcome o' s' path ↔ Unaffected o o' s s' path := by
  rw [sameOutcome_iff same, Unaffected]
  simp only [decided_eq_some]
  cases finding (o.command path) (known s path) with
  | none => simp
  | some found =>
      simp only [Option.some.injEq, exists_eq_left']
      cases found with
      | gone => simp [Verdict.used]
      | unchanged =>
          simp only [Verdict.used, Inherits]
          refine forall_congr' fun fault => ?_
          tauto
      | detected fault =>
          simp only [Verdict.used, Option.some.injEq]
          constructor
          · intro equal flag
            have both := equal fault
            tauto
          · intro equal wanted
            constructor
            · rintro ⟨comes, flag, rfl⟩
              exact ⟨(equal flag).mp comes, flag, rfl⟩
            · rintro ⟨comes, flag, rfl⟩
              exact ⟨(equal flag).mpr comes, flag, rfl⟩

/-- What rounds have told of a drive since the start; between them anything may be done that
leaves its flag. -/
inductive Rounds (path : Text) (start : State) : State → List Output → Prop
  | start : Rounds path start start []
  | round {s : State} {told : List Output} (o : Outside) : Rounds path start s told →
    Rounds path start ((updateDriveFaults o).run s).2 (told ++ (outcome o s path).2)
  | between {s t : State} {told : List Output} : Rounds path start s told →
    (known t path).faulty = (known s path).faulty → Rounds path start t told

def alertTypes (told : List Output) : List AlertType := told.filterMap Output.alertType

/-- A round tells of a drive what its flag changes to, or nothing. -/
theorem outcome_tells (o : Outside) (s : State) (path : Text) :
    (outcome o s path).1 = (known s path).faulty ∧ (outcome o s path).2 = [] ∨
    ∃ fault, (known s path).faulty = some !fault ∧ (outcome o s path).1 = some fault ∧
      alertTypes (outcome o s path).2 = [tell fault] := by
  obtain ⟨changed, settles, changes⟩ := roundOf_settles o s path
  rw [outcome_eq settles]
  cases changed with
  | none => exact .inl ⟨rfl, rfl⟩
  | some fault =>
      obtain ⟨flag, found, finds, -⟩ := decided_eq_some.mp ((changes fault).mp rfl).2
      obtain ⟨drive, onNode, deviceName, entry, node, device⟩ := finding_known finds
      obtain ⟨output, -, sends, type⟩ := alertOf_some (o := o) entry node device fault
      refine .inr ⟨fault, flag, rfl, ?_⟩
      simp only [Option.bind_some, sends, Option.toList_some, alertTypes, List.filterMap_cons,
        type, List.filterMap_nil]

/-- After the alert on a change the opposite one is due. -/
theorem alternating_tell {first fault : Bool} {types : List AlertType}
    (alternating : Alternating (tell !first) (tell first) types)
    (next : due (tell !first) (tell first) types = tell fault) :
    Alternating (tell !first) (tell first) (types ++ [tell fault]) ∧
      due (tell !first) (tell first) (types ++ [tell fault]) = tell !fault := by
  refine ⟨Alternating.concat.mpr ⟨alternating, next.symm⟩, ?_⟩
  rw [due_concat]
  obtain ⟨now, later⟩ | ⟨now, later⟩ := due_swap (tell !first) (tell first) types
  all_goals
    rw [later]
    have same := next.symm.trans now
    cases first <;> cases fault <;> first | rfl | cases same

theorem Rounds.alternating {told : List Output} (rounds : Rounds path s t told) {faulty : Bool}
    (start : (known s path).faulty = some faulty) : ∃ now, (known t path).faulty = some now ∧
      Alternating (tell !faulty) (tell faulty) (alertTypes told) ∧
      due (tell !faulty) (tell faulty) (alertTypes told) = tell !now := by
  induction rounds with
  | start => exact ⟨faulty, start, trivial, rfl⟩
  | between _ same ih => rwa [same]
  | round o _ ih =>
      rename_i u told _
      obtain ⟨now, flag, alternating, next⟩ := ih
      rw [alertTypes, List.filterMap_append]
      show ∃ now, (outcome o u path).1 = some now ∧ _
      obtain ⟨same, nothing⟩ | ⟨fault, before, after, tells⟩ := outcome_tells o u path
      · rw [same, nothing, List.filterMap_nil, List.append_nil]
        exact ⟨now, flag, alternating, next⟩
      · rw [alertTypes] at tells
        rw [tells, after]
        have last : now = !fault := Option.some.inj (flag.symm.trans before)
        rw [last, Bool.not_not] at next
        exact ⟨fault, rfl, alternating_tell alternating next⟩

/-- The detection of faults is a matter of the drive alone: two rounds that find it in the same
state with the same output do the same to it, and in all rounds the alerts on it alternate. -/
structure PerDrive (o o' : Outside) (s s' : State) (path : Text) : Prop where
  same : SameDrive o o' s s' path → outcome o s path = outcome o' s' path
  alternates : ∀ t told faulty, Rounds path s t told → (known s path).faulty = some faulty →
    Alternating (tell !faulty) (tell faulty) (alertTypes told)

/-- What a round does to a drive is decided by the drive's own output exactly where the other
drives make no difference. They do by a verdict that is carried over and by an output that ends the
loop. -/
theorem perDrive_iff (o o' : Outside) (s s' : State) (path : Text) :
    PerDrive o o' s s' path ↔ (SameDrive o o' s s' path → Unaffected o o' s s' path) := by
  constructor
  · intro h same
    exact (sameOutcome_iff_unaffected same).mp (h.same same)
  · intro h
    constructor
    · exact fun same => (sameOutcome_iff_unaffected same).mpr (h same)
    · intro t told faulty rounds start
      obtain ⟨now, -, alternating, -⟩ := rounds.alternating start
      exact alternating

namespace Example

def firstPath : Text := "/drives/A".toList

def secondPath : Text := "/drives/B".toList

/-- Two healthy drives of the server. -/
def twoDrives : State :=
  let drive (id : String) : Entry :=
    { dbusInfo := ⟨id.toList, id.toList, "0x5000c5".toList, 1000, .nil⟩, nodeDisk := some true }
  let existing (id : String) : Existing := ⟨id.toList, "node:os:disk".toList, .nil, false⟩
  { initialState true false ((Dict.empty.set firstPath (existing "A")).set secondPath
      (existing "B")) with
    drives := (Dict.empty.set firstPath (drive "A")).set secondPath (drive "B")
    driveByDeviceName :=
      (Dict.empty.set firstPath "/dev/sda".toList).set secondPath "/dev/sdb".toList }

def smartStatus (passed : Bool) : Fields :=
  .cons "smart_status" (.dict (.cons "passed" (.bool passed) .nil)) .nil

def report (passed : Bool) : Answer where
  response := ("\x7b\"smart_status\": \x7b\"passed\": " ++
    (if passed then "true" else "false") ++ "\x7d\x7d").toList
  json := .ok (.dict (smartStatus passed))
  err := []
  retcode := if passed then 0 else 8

/-- A report with a warning. -/
def warning : Answer where
  response := ("\x7b\"smartctl\": \x7b\"message\": [\x7b\"string\": " ++
    "\"Warning: This result is based on an Attribute check.\"\x7d]\x7d, " ++
    "\"smart_status\": \x7b\"passed\": true\x7d\x7d").toList
  json := .ok (.dict (.cons "smartctl" (.dict (.cons "message" (.list (.cons
    (.dict (.cons "string" (.str "Warning: This result is based on an Attribute check.") .nil))
    .nil)) .nil)) (smartStatus true)))
  err := []
  retcode := 0

def failure : Answer := ⟨[], .error .valueError, "sudo: unable to open audit system".toList, 1⟩

def asked (first second : Answer) : Outside where
  managed := .empty
  command path _ := if path = secondPath then second else first
  selftest _ := .started

theorem asked_same (first first' second : Answer) :
    SameDrive (asked first second) (asked first' second) twoDrives twoDrives secondPath where
  command := by simp [asked]
  drive := rfl
  smartSupported := rfl

/-- The second drive takes over the fault of the first; its own fault is not seen where the
command for the first fails. -/
theorem second_not_perDrive :
    ¬ PerDrive (asked (report false) warning) (asked (report true) warning) twoDrives twoDrives
      secondPath ∧
    ¬ PerDrive (asked failure (report false)) (asked (report true) (report false)) twoDrives
      twoDrives secondPath := by
  constructor
  · intro h
    have flags := congrArg Prod.fst (h.same (asked_same _ _ _))
    exact absurd flags (by decide +kernel)
  · intro h
    have flags := congrArg Prod.fst (h.same (asked_same _ _ _))
    exact absurd flags (by decide +kernel)

end Example

end DiskMonitor

end Sspl

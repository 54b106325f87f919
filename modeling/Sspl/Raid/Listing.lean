import Sspl.Raid.Scan
import Sspl.Raid.StatusLine

/-!
# Arrays as the kernel lists them

The text of `/proc/mdstat` has a line for each array, then a status line, with `[n/m] [s]` at
its end unless the level of the array has no such status, and then further lines. Reading a
text of this form raises nothing, and what the sensor keeps of an array afterwards depends on
its own lines and on what it has kept of it before.
-/

namespace Sspl

namespace Raid

open Iem (Text)

structure Listing where
  device : Text
  line : Text
  status : Text
  /-- `s`, if the status line ends in `[n/m] [s]`. -/
  marks : Option Text
  more : List Text
  named : mdDevice line = some device
  shape : match marks with
    | none => '[' ∉ status
    | some marks => IsMarks marks ∧
      ∃ front working, '[' ∉ front ∧ status = statusText front working marks
  plain : ∀ line ∈ status :: more, mdDevice line = none

def Listing.text (a : Listing) : List Text := a.line :: a.status :: a.more

/-- The lines of the arrays follow some others. No array is listed twice. -/
structure InFormat (contents : Text) (arrays : List Listing) : Prop where
  text : ∃ header, lines contents = header ++ arrays.flatMap Listing.text ∧
    ∀ line ∈ header, mdDevice line = none
  distinct : (arrays.map Listing.device).Nodup

/-- What the sensor keeps of one array. -/
structure Record where
  drives : Option (List Drive)
  totalDrives : Option Nat
  raidStatus : Option Text
  prevAlertType : Option (Option AlertType)
  faultyDrives : Option (Dict Text AlertType)
  /-- The array is in `_faulty_device_list`. -/
  gone : Bool

def Data.record (data : Data) (device : Text) : Record where
  drives := data.drives.get? device
  totalDrives := data.totalDrives.get? device
  raidStatus := data.raidStatus.get? device
  prevAlertType := data.prevAlertType.get? device
  faultyDrives := data.faultyDriveList.get? device
  gone := decide (device ∈ data.faultyDeviceList)

/-- The array has been listed. -/
def Record.seen (r : Record) : Record :=
  { r with
    prevAlertType := some r.prevAlertType.join
    faultyDrives := some (r.faultyDrives.getD .empty) }

namespace Listing

def names (a : Listing) : List Text := driveNames a.line

/-- The number of drives that the sensor takes from the status line. -/
def total (a : Listing) : Nat := (announced a.status).getD 0

/-- What a status line makes of what is kept of its array. -/
def read (o : Outside) (a : Listing) (r : Record) : Record :=
  match a.marks with
  | none => r
  | some marks => { r with
      drives := some (entries (identities o a.line) (markField marks) a.total)
      totalDrives := some a.total
      raidStatus := some (markField marks) }

/-- What is kept of the array after its lines have been read. -/
def parsed (o : Outside) (a : Listing) (r : Record) : Record := a.read o r.seen

/-- Whether the status has changed. -/
def changed (a : Listing) (r : Record) : Bool :=
  match a.marks with
  | none => false
  | some marks => decide (r.raidStatus ≠ some (markField marks))

/-- The number that is read is not above the number of marks. -/
theorem total_spec {a : Listing} {marks : Text} (has : a.marks = some marks) :
    '[' ∈ a.status ∧ lastField a.status = markField marks ∧ IsMarks marks ∧
      digit (firstDigit a.status) = .ok a.total ∧ a.total ≤ marks.length := by
  have shape := a.shape
  rw [has] at shape
  obtain ⟨isMarks, front, working, plain, status⟩ := shape
  obtain ⟨d, le, small, head⟩ := toDigits_head marks.length
  have read : digit (firstDigit a.status) = .ok d := by
    rw [status, firstDigit_statusText plain, head]
    exact digit_digitChar small
  have bracket : '[' ∈ a.status := by
    rw [status]
    simp [statusText]
  have total : a.total = d := by
    rw [Listing.total, announced, totalChar, if_pos bracket]
    show (digit (firstDigit a.status)).toOption.getD 0 = d
    rw [read]
    rfl
  refine ⟨bracket, ?_, isMarks, ?_, ?_⟩
  · rw [status, lastField_statusText front working isMarks]
  · rw [read, total]
  · rw [total]
    exact le

end Listing

section Scanning

variable {o : Outside} {s t : State} {scan scan' : Scan} {a : Listing} {device : Text}

/-- Reading changes the data only. -/
def SameButData (s t : State) : Prop := ∃ data, t = { s with data := data }

instance : IsPreorder State SameButData where
  refl s := ⟨s.data, rfl⟩
  trans _ _ _ := by
    rintro ⟨_, rfl⟩ ⟨data, rfl⟩
    exact ⟨data, rfl⟩

theorem leaves_scanLines_append {first second : List Text} {Q : Scan → State → Prop}
    {E : Raised → State → Prop} : (scanLines o (first ++ second) scan).Leaves Q E s ↔
      (scanLines o first scan).Leaves (fun scan' => (scanLines o second scan').Leaves Q E) E s := by
  induction first generalizing scan s with
  | nil => exact Iff.rfl
  | cons line rest ih =>
      rw [List.cons_append, scanLines, scanLines, Try.leaves_bind, Try.leaves_bind]
      have same : (fun scan' => (scanLines o (rest ++ second) scan').Leaves Q E) =
          fun scan' => (scanLines o rest scan').Leaves
            (fun scan'' => (scanLines o second scan'').Leaves Q E) E := by
        funext scan' t
        exact propext ih
      rw [same]

/-- Lines without an array are passed over, unless one was read just before. -/
theorem scanLines_plain {more : List Text} (plain : ∀ line ∈ more, mdDevice line = none)
    (closed : scan.parsed = none) (s : State) : (scanLines o more scan).run s = (.ok scan, s) := by
  induction more with
  | nil => rfl
  | cons line rest ih =>
      obtain ⟨here, later⟩ := List.forall_mem_cons.mp plain
      have passed : (statusLine line scan).run s = (.ok scan, s) := by
        rw [statusLine, closed]
        rfl
      have read : (scanLine o line scan).run s = (.ok scan, s) := by
        rw [scanLine, Try.run_bind_of_ok passed, here]
        rfl
      rw [scanLines, Try.run_bind_of_ok read]
      exact ih later

theorem record_addDevice (device : Text) (data : Data) (x : Text) :
    (addDevice device data).record x =
      if x = device then (data.record x).seen else data.record x := by
  unfold addDevice Data.record Record.seen
  dsimp only
  by_cases here : x = device
  · subst here
    cases prev : data.prevAlertType.get? x <;>
      cases faulty : data.faultyDriveList.get? x <;> simp [prev, faulty]
  · cases data.prevAlertType.get? device <;> cases data.faultyDriveList.get? device <;>
      simp [here, Dict.get?_set_of_ne]

/-- A status line with a number of drives changes the record of its array. -/
theorem Parsed.record {identity : Dict Int Text} {status : Text} {total : Nat} {changed : Bool}
    (h : Parsed device identity status total s changed t) :
    t.data.record device = { s.data.record device with
      drives := some (entries identity status total)
      totalDrives := some total
      raidStatus := some status } ∧
    ∀ x ≠ device, t.data.record x = s.data.record x := by
  obtain ⟨compared, drives, rfl, own, others⟩ := h
  constructor
  · rw [Data.record, Record.mk.injEq]
    refine ⟨own, Dict.get?_set_self .., ?_, rfl, rfl, rfl⟩
    dsimp only
    split
    · exact Dict.get?_set_self ..
    · rename_i same
      rwa [compared, decide_eq_true_iff, not_not] at same
  · intro x other
    rw [Data.record, Data.record, Record.mk.injEq]
    refine ⟨others x other, Dict.get?_set_of_ne _ _ other, ?_, rfl, rfl, rfl⟩
    dsimp only
    split
    · exact Dict.get?_set_of_ne _ _ other
    · rfl

/-- The status line of an array. -/
theorem leaves_status (a : Listing) (parsed : scan.parsed = some a.device)
    (identity : scan.identity = identities o a.line) (s : State) :
    (scanLine o a.status scan).Leaves
      (fun scan' t => scan' = { scan with
          driveStatusChanged :=
            scan.driveStatusChanged.set a.device (a.changed (s.data.record a.device))
          parsed := none } ∧
        SameButData s t ∧ (∀ x ≠ a.device, t.data.record x = s.data.record x) ∧
        t.data.record a.device = a.read o (s.data.record a.device))
      (fun _ _ => False) s := by
  rw [scanLine, statusLine, parsed, a.plain a.status (.head _)]
  apply Try.leaves_bind.mpr
  apply Try.leaves_bind.mpr
  cases has : a.marks with
  | none =>
      have plain : '[' ∉ a.status := by
        have shape := a.shape
        rwa [has] at shape
      have total : totalChar a.status = none := if_neg plain
      rw [parseRaidStatus, total]
      refine ⟨?_, refl s, fun _ _ => rfl, ?_⟩
      · rw [Listing.changed, has]
      · rw [Listing.read, has]
  | some marks =>
      obtain ⟨bracket, last, isMarks, read, below⟩ := Listing.total_spec has
      apply (leaves_parsed scan.identity bracket a.device s).mono
      · rintro changed t ⟨total, number, kept⟩
        cases read.symm.trans number
        rw [last, identity] at kept
        obtain ⟨own, others⟩ := kept.record
        obtain ⟨compared, _, rfl, -⟩ := kept
        refine ⟨?_, ⟨_, rfl⟩, others, ?_⟩
        · rw [Listing.changed, has, compared]
          rfl
        · rw [Listing.read, has]
          exact own
      · intro _ _ short
        have long := short a.total read
        rw [last, markField, List.length_cons, List.length_append] at long
        omega

/-- What reading the lines of some arrays makes of the local variables and of the data. -/
structure Scanned (o : Outside) (arrays : List Listing) (scan : Scan) (s : State) (scan' : Scan)
    (t : State) : Prop where
  devices : scan'.mdDeviceList = scan.mdDeviceList ++ arrays.map Listing.device
  closed : scan'.parsed = none
  data : SameButData s t
  listed : ∀ a ∈ arrays, scan'.driveDict.get? a.device = some a.names
  changed : ∀ a ∈ arrays,
    scan'.driveStatusChanged.get? a.device = some (a.changed (s.data.record a.device))
  own : ∀ a ∈ arrays, t.data.record a.device = a.parsed o (s.data.record a.device)
  others : ∀ x ∉ arrays.map Listing.device, t.data.record x = s.data.record x ∧
    scan'.driveDict.get? x = scan.driveDict.get? x ∧
    scan'.driveStatusChanged.get? x = scan.driveStatusChanged.get? x

/-- The line of an array. -/
def Listing.begin (o : Outside) (a : Listing) (scan : Scan) : Scan :=
  { scan with
    mdDeviceList := scan.mdDeviceList ++ [a.device]
    driveDict := scan.driveDict.set a.device a.names
    parsed := some a.device
    identity := identities o a.line }

theorem scanLine_named (a : Listing) (closed : scan.parsed = none) (s : State) :
    (scanLine o a.line scan).run s =
      (.ok (a.begin o scan), { s with data := addDevice a.device s.data }) := by
  have passed : (statusLine a.line scan).run s = (.ok scan, s) := by
    rw [statusLine, closed]
    rfl
  rw [scanLine, Try.run_bind_of_ok passed, a.named]
  rfl

theorem leaves_listing (a : Listing) (closed : scan.parsed = none) (s : State) :
    (scanLines o a.text scan).Leaves (Scanned o [a] scan s) (fun _ _ => False) s := by
  have seen := record_addDevice a.device s.data
  rw [Listing.text, scanLines, Try.leaves_bind_of_ok (scanLine_named a closed s), scanLines,
    Try.leaves_bind]
  have status := leaves_status a (o := o) (rfl : (a.begin o scan).parsed = _) rfl
  apply (status _).mono
  · rintro scan' t ⟨same, data, others, own⟩
    have ended : scan'.parsed = none := by rw [same]
    have more := scanLines_plain (o := o) (fun line mem => a.plain line (.tail _ mem)) ended t
    rw [Try.Leaves, more]
    have here := seen a.device
    rw [if_pos rfl] at here
    subst same
    refine ⟨rfl, rfl, IsTrans.trans _ _ _ ⟨_, rfl⟩ data, ?_, ?_, ?_, ?_⟩
    · intro b mem
      rw [List.mem_singleton.mp mem]
      exact Dict.get?_set_self ..
    · intro b mem
      rw [List.mem_singleton.mp mem, here]
      exact Dict.get?_set_self ..
    · intro b mem
      rw [List.mem_singleton.mp mem, own, here]
      rfl
    · intro x other
      have other : x ≠ a.device := by simpa using other
      refine ⟨?_, Dict.get?_set_of_ne _ _ other, Dict.get?_set_of_ne _ _ other⟩
      rw [others x other, seen, if_neg other]
  · exact fun _ _ raised => raised

theorem Scanned.cons {rest : List Listing} {scan₁ : Scan} {s₁ : State}
    (first : Scanned o [a] scan s scan₁ s₁) (second : Scanned o rest scan₁ s₁ scan' t)
    (distinct : a.device ∉ rest.map Listing.device) : Scanned o (a :: rest) scan s scan' t := by
  have later : ∀ b ∈ rest, b.device ∉ [a].map Listing.device := by
    intro b mem here
    rw [List.map_singleton, List.mem_singleton] at here
    exact distinct (here ▸ List.mem_map_of_mem mem)
  obtain ⟨record, listed, changed⟩ := second.others a.device distinct
  constructor
  · rw [second.devices, first.devices, List.append_assoc]
    rfl
  · exact second.closed
  · exact IsTrans.trans _ _ _ first.data second.data
  · refine List.forall_mem_cons.mpr ⟨?_, second.listed⟩
    rw [listed]
    exact first.listed a (.head _)
  · refine List.forall_mem_cons.mpr ⟨?_, fun b mem => ?_⟩
    · rw [changed]
      exact first.changed a (.head _)
    · rw [second.changed b mem, (first.others _ (later b mem)).1]
  · refine List.forall_mem_cons.mpr ⟨?_, fun b mem => ?_⟩
    · rw [record]
      exact first.own a (.head _)
    · rw [second.own b mem, (first.others _ (later b mem)).1]
  · intro x other
    rw [List.map_cons, List.mem_cons, not_or] at other
    obtain ⟨record₁, listed₁, changed₁⟩ := first.others x (by simpa using other.1)
    obtain ⟨record₂, listed₂, changed₂⟩ := second.others x other.2
    exact ⟨record₂.trans record₁, listed₂.trans listed₁, changed₂.trans changed₁⟩

/-- Reading some arrays, one after the other. -/
theorem leaves_listings (arrays : List Listing) (distinct : (arrays.map Listing.device).Nodup)
    (closed : scan.parsed = none) (s : State) :
    (scanLines o (arrays.flatMap Listing.text) scan).Leaves (Scanned o arrays scan s)
      (fun _ _ => False) s := by
  induction arrays generalizing scan s with
  | nil =>
      refine ⟨(List.append_nil _).symm, closed, refl s, nofun, nofun, nofun, fun _ _ => ?_⟩
      exact ⟨rfl, rfl, rfl⟩
  | cons a rest ih =>
      rw [List.map_cons, List.nodup_cons] at distinct
      rw [List.flatMap_cons, leaves_scanLines_append]
      apply (leaves_listing a closed s).mono
      · intro scan₁ s₁ first
        apply (ih distinct.2 first.closed s₁).mono
        · exact fun _ _ second => first.cons second distinct.1
        · exact fun _ _ raised => raised
      · exact fun _ _ raised => raised

/-- Reading a text in the format raises nothing. -/
theorem leaves_inFormat {arrays : List Listing} (format : InFormat s.data.contents arrays) :
    (processMdstat o).Leaves (Scanned o arrays {} s) (fun _ _ => False) s := by
  obtain ⟨header, split, plain⟩ := format.text
  rw [processMdstat, Try.leaves_bind]
  show (scanLines o (lines s.data.contents) {}).Leaves _ _ s
  rw [split, leaves_scanLines_append, Try.Leaves, scanLines_plain plain rfl s]
  exact leaves_listings arrays format.distinct rfl s

end Scanning

end Raid

end Sspl

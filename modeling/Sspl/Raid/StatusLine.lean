import Sspl.Raid.Tracking

/-!
# The status line of an array

The line after the one of an array ends in `[n/m] [s]`, where `s` has a `U` or a `_` for each
of the `n` drives. The sensor takes the first digit of `n` for the number. Below ten drives it
reads what the line says, and the place of each drive from its role.
-/

namespace Sspl

namespace Raid

open Iem (Text)

variable {s t : State} {device line status front marks : Text} {identity : Dict Int Text}
  {o : Outside}

/-- `[s]`. -/
def markField (marks : Text) : Text := '[' :: (marks ++ [']'])

/-- A status line that ends in `[n/m] [s]`. -/
def statusText (front : Text) (working : Nat) (marks : Text) : Text :=
  front ++ '[' :: (Nat.toDigits 10 marks.length ++ '/' :: (Nat.toDigits 10 working ++
    ']' :: ' ' :: markField marks))

def IsMarks (marks : Text) : Prop := ∀ c ∈ marks, c = 'U' ∨ c = '_'

/-- `fields[-1]`. -/
def lastField (line : Text) : Text := (line.splitOn ' ').getLastD []

theorem lastField_append {last : Text} (plain : ' ' ∉ last) (front : Text) :
    lastField (front ++ ' ' :: last) = last := by
  rw [lastField, List.splitOn_eq_splitOnP, List.splitOnP_append_cons _ _ (by simp),
    ← List.splitOn_eq_splitOnP, ← List.splitOn_eq_splitOnP, List.splitOn_eq_singleton plain]
  simp

theorem lastField_statusText (front : Text) (working : Nat) (shape : IsMarks marks) :
    lastField (statusText front working marks) = markField marks := by
  have plain : ' ' ∉ markField marks := by
    intro blank
    simp only [markField, List.mem_cons, List.mem_append, List.not_mem_nil, or_false] at blank
    obtain clash | mark | clash := blank
    · cases clash
    · obtain clash | clash := shape ' ' mark <;> cases clash
    · cases clash
  have split : statusText front working marks =
      (front ++ '[' :: (Nat.toDigits 10 marks.length ++ '/' :: (Nat.toDigits 10 working ++ [']'])))
        ++ ' ' :: markField marks := by
    simp [statusText]
  rw [split]
  exact lastField_append plain _

theorem getElem?_markField {i : Nat} {c : Char} (here : marks[i]? = some c) :
    (markField marks)[i + 1]? = some c := by
  rw [markField, List.getElem?_cons_succ,
    List.getElem?_append_left (List.getElem?_eq_some_iff.mp here).1, here]

/-- The character after the first bracket. -/
def firstDigit (line : Text) : Option Char := (line.dropWhile (· ≠ '['))[1]?

/-- A number begins with a digit that is not above it. -/
theorem toDigits_head (n : Nat) :
    ∃ d ≤ n, d < 10 ∧ (Nat.toDigits 10 n).head? = some (Nat.digitChar d) := by
  induction n using Nat.strongRecOn with
  | ind n ih =>
      by_cases small : n < 10
      · exact ⟨n, le_rfl, small, by rw [Nat.toDigits_of_lt_base small]; rfl⟩
      · obtain ⟨d, le, digit, head⟩ := ih (n / 10) (by omega)
        refine ⟨d, by omega, digit, ?_⟩
        rw [Nat.toDigits_of_base_le (by decide) (by omega), List.head?_append, head]
        rfl

/-- Where there is no bracket before, that is the first digit of the number. -/
theorem firstDigit_statusText (plain : '[' ∉ front) (working : Nat) (marks : Text) :
    firstDigit (statusText front working marks) = (Nat.toDigits 10 marks.length).head? := by
  have before : ∀ c ∈ front, (decide (c ≠ '[')) = true := by
    intro c mem
    rw [decide_eq_true_iff]
    rintro rfl
    exact plain mem
  obtain ⟨d, -, -, head⟩ := toDigits_head marks.length
  rw [firstDigit, statusText, List.dropWhile_append_of_pos before,
    List.dropWhile_cons_of_neg (by simp), List.getElem?_cons_succ, ← List.head?_eq_getElem?,
    List.head?_append, head]
  rfl

theorem digit_eq_ok {c : Option Char} {n : Nat} :
    digit c = .ok n ↔ n < 10 ∧ c.map toAscii = some (Nat.digitChar n) := by
  cases c with
  | none => simp [digit]
  | some c =>
      rw [digit, parseInt_singleton, Option.map_some, Option.some.injEq, ← digitValue_ten_eq_some]
      cases digitValue 10 (toAscii c) <;> simp

theorem toAscii_digitChar {n : Nat} (small : n < 10) :
    toAscii (Nat.digitChar n) = Nat.digitChar n :=
  toAscii_of_digitValue (by rw [digitValue_digitChar small]; rfl)

theorem digit_digitChar {n : Nat} (small : n < 10) : digit (some (Nat.digitChar n)) = .ok n :=
  digit_eq_ok.mpr ⟨small, by rw [Option.map_some, toAscii_digitChar small]⟩

/-- `_drives[device]` once a status has been read. -/
def entries (identity : Dict Int Text) (status : Text) (total : Nat) : List Drive :=
  (List.range total).map fun (i : Nat) =>
    { status := (status[i + 1]?).toList, identity := identity.get? i }

theorem entries_succ {status : Text} {c : Char} {i : Nat} (here : status[i + 1]? = some c) :
    entries identity status (i + 1) =
      entries identity status i ++ [{ status := [c], identity := identity.get? i }] := by
  simp [entries, List.range_succ, here]

/-- Only the drives of the array change. -/
def OwnDrives (device : Text) (s t : State) : Prop :=
  ∃ drives, t = withDrives drives s ∧ ∀ x ≠ device, drives.get? x = s.data.drives.get? x

instance (device : Text) : IsPreorder State (OwnDrives device) where
  refl s := ⟨s.data.drives, rfl, fun _ _ => rfl⟩
  trans _ _ _ := by
    rintro ⟨drives, rfl, same⟩ ⟨drives', rfl, same'⟩
    exact ⟨drives', rfl, fun x other => (same' x other).trans (same x other)⟩

theorem ownDrives_set (device : Text) (drives : List Drive) (s : State) :
    OwnDrives device s (withDrives (s.data.drives.set device drives) s) :=
  ⟨_, rfl, fun _ other => Dict.get?_set_of_ne _ _ other⟩

/-- The loop reads as many characters as there are drives, or raises for the lack of one. -/
theorem leaves_appendDrives (identity : Dict Int Text) (status : Text) (total : Nat)
    (none_ : s.data.drives.get? device = some []) :
    ((List.range total).forM (appendDrive identity status device)).Leaves
      (fun _ t => OwnDrives device s t ∧
        t.data.drives.get? device = some (entries identity status total))
      (fun _ _ => status.length ≤ total) s := by
  apply Try.leaves_forM_range (I := fun i t => OwnDrives device s t ∧
    t.data.drives.get? device = some (entries identity status i)) total
  · rintro i below u ⟨own, drives⟩
    apply Try.leaves_bind.mpr
    apply Try.leaves_ofExcept.mpr
    cases here : status[i + 1]? with
    | none =>
        have short := List.getElem?_eq_none_iff.mp here
        show status.length ≤ total
        omega
    | some c =>
        refine ⟨IsTrans.trans _ _ _ own (ownDrives_set device _ u), ?_⟩
        rw [entries_succ here]
        show (Dict.set _ _ _).get? device = _
        rw [Dict.get?_set_self, drives]
        rfl
  · exact ⟨refl s, none_⟩

/-- What a status line with a number of drives makes of the data. -/
structure Parsed (device : Text) (identity : Dict Int Text) (status : Text) (total : Nat)
    (s : State) (changed : Bool) (t : State) : Prop where
  compared : changed = decide (s.data.raidStatus.get? device ≠ some status)
  data : ∃ drives, t = { s with data := { s.data with
      totalDrives := s.data.totalDrives.set device total
      drives := drives
      raidStatus :=
        if changed then s.data.raidStatus.set device status else s.data.raidStatus } } ∧
    drives.get? device = some (entries identity status total) ∧
    ∀ x ≠ device, drives.get? x = s.data.drives.get? x

theorem leaves_parsed (identity : Dict Int Text) (bracket : '[' ∈ line) (device : Text)
    (s : State) : (parseRaidStatus identity line device).Leaves
      (fun changed t => ∃ total, digit (firstDigit line) = .ok total ∧
        Parsed device identity (lastField line) total s changed t)
      (fun _ _ => ∀ total, digit (firstDigit line) = .ok total →
        (lastField line).length ≤ total) s := by
  have total_ : totalChar line = some (firstDigit line) := if_pos bracket
  rw [parseRaidStatus, total_]
  dsimp only
  apply Try.leaves_bind.mpr
  apply Try.leaves_ofExcept.mpr
  cases read : digit (firstDigit line) with
  | error err => exact nofun
  | ok total =>
      iterate 3 apply Try.leaves_bind.mpr
      apply (leaves_appendDrives identity (lastField line) total (Dict.get?_set_self ..)).mono
      · rintro _ _ ⟨⟨drives, rfl, others⟩, own⟩
        apply Try.leaves_bind.mpr
        apply Try.leaves_ite.mpr
        have elsewhere : ∀ x ≠ device, drives.get? x = s.data.drives.get? x :=
          fun x other => (others x other).trans (Dict.get?_set_of_ne _ _ other)
        split
        · rename_i same
          have unchanged : s.data.raidStatus.get? device = some (lastField line) := same
          exact ⟨total, rfl, by simp [unchanged], drives, rfl, own, elsewhere⟩
        · rename_i other
          have changed : s.data.raidStatus.get? device ≠ some (lastField line) := other
          exact ⟨total, rfl, by simp [changed], drives, rfl, own, elsewhere⟩
      · intro _ _ short total' same
        cases same
        exact short

/-- The role that `mdadm` reports for the drive of a field. -/
def role (o : Outside) (field : Text) : Option Int :=
  (Disk.int (((o.examine ("/dev/".toList ++ driveName field)).splitOn ' ').getLastD [])).toOption

theorem get?_addDrive (o : Outside) (identity : Dict Int Text) (field : Text) (i : Int) :
    (addDrive o identity field).get? i =
      if role o field = some i then some ("/dev/".toList ++ driveName field)
      else identity.get? i := by
  rw [addDrive, role]
  cases Disk.int (((o.examine ("/dev/".toList ++ driveName field)).splitOn ' ').getLastD []) with
  | error err => rfl
  | ok driveIndex => simp [Except.toOption, Dict.get?_set, eq_comm]

/-- The path is that of a listed drive with the role, or there is none. -/
def HasRole (o : Outside) (fields : List Text) (i : Int) : Option Text → Prop
  | some path => ∃ field ∈ fields, role o field = some i ∧ path = "/dev/".toList ++ driveName field
  | none => ∀ field ∈ fields, role o field ≠ some i

theorem hasRole_foldl (o : Outside) (fields : List Text) (i : Int) {identity : Dict Int Text}
    (none_ : identity.get? i = none) :
    HasRole o fields i ((fields.foldl (addDrive o) identity).get? i) := by
  induction fields using List.reverseRecOn with
  | nil =>
      rw [List.foldl_nil, none_]
      exact fun field mem => absurd mem List.not_mem_nil
  | append_singleton fields field ih =>
      rw [List.foldl_append, List.foldl_cons, List.foldl_nil, get?_addDrive]
      split
      · exact ⟨field, by simp, ‹_›, rfl⟩
      · rename_i other
        cases found : (fields.foldl (addDrive o) identity).get? i with
        | none =>
            rw [found] at ih
            intro field' mem
            obtain mem | mem := List.mem_append.mp mem
            · exact ih field' mem
            · rw [List.mem_singleton.mp mem]
              exact other
        | some path =>
            rw [found] at ih
            obtain ⟨field', mem, has⟩ := ih
            exact ⟨field', List.mem_append_left _ mem, has⟩

theorem hasRole_identities (o : Outside) (line : Text) (i : Int) :
    HasRole o (driveFields line) i ((identities o line).get? i) :=
  hasRole_foldl o _ i rfl

section Array

variable {arrayLine : Text} {scan : Scan}

theorem leaves_arrayLine (array : mdDevice line = some device) (scan : Scan) (s : State) :
    (scanLine o line scan).Leaves
      (fun scan' _ => scan'.parsed = some device ∧ scan'.identity = identities o line)
      (fun _ _ => True) s := by
  have all : ∀ t, (statusLine line scan).Leaves (fun _ _ => True) (fun _ _ => True) t :=
    fun t => Try.leaves_iff.mpr trivial
  apply Try.leaves_bind.mpr
  apply (all s).mono
  · intro scan' t _
    rw [array]
    exact ⟨rfl, rfl⟩
  · exact fun _ _ _ => trivial

/-- After the status line of an array the drives are those of the line. -/
theorem leaves_statusText (parsed : scan.parsed = some device) (bracket : '[' ∈ line) (s : State) :
    (scanLine o line scan).Leaves
      (fun _ t => ∃ total, digit (firstDigit line) = .ok total ∧
        t.data.drives.get? device = some (entries scan.identity (lastField line) total))
      (fun _ _ => ∀ total, digit (firstDigit line) = .ok total →
        (lastField line).length ≤ total) s := by
  apply Try.leaves_bind.mpr
  rw [statusLine, parsed]
  apply Try.leaves_bind.mpr
  apply (leaves_parsed scan.identity bracket device s).mono
  · rintro changed _ ⟨total, read, -, drives, rfl, own, -⟩
    dsimp only
    cases mdDevice line with
    | none => exact ⟨total, read, own⟩
    | some device => exact ⟨total, read, own⟩
  · exact fun _ _ short => short

/-- There is a drive for each mark, with the mark and with the path of the drive that has its
place for a role. -/
structure DrivesRead (o : Outside) (arrayLine marks : Text) (drives : List Drive) : Prop where
  length : drives.length = marks.length
  drive : ∀ (i : Nat) c, marks[i]? = some c → ∃ drive, drives[i]? = some drive ∧
    drive.status = [c] ∧ HasRole o (driveFields arrayLine) i drive.identity

theorem drivesRead_entries (o : Outside) (arrayLine marks : Text) :
    DrivesRead o arrayLine marks
      (entries (identities o arrayLine) (markField marks) marks.length) := by
  constructor
  · rw [entries, List.length_map, List.length_range]
  · intro i c mark
    have here : i < marks.length := (List.getElem?_eq_some_iff.mp mark).1
    refine ⟨⟨[c], (identities o arrayLine).get? i⟩, ?_, rfl, hasRole_identities o arrayLine i⟩
    rw [entries, List.getElem?_map, List.getElem?_range here, Option.map_some,
      getElem?_markField mark]
    rfl

/-- After an array line, a status line that ends in `[n/m] [s]` gives the array the drives that
it says exactly if there are less than ten of them and the character after the first bracket of
the line is their number, in the digits of some script. -/
theorem drives_read_iff {scan₀ : Scan} {s₀ : State} (shape : IsMarks marks)
    (array : mdDevice arrayLine = some device)
    (parsed : (scanLine o arrayLine scan₀).run s₀ = (.ok scan, s)) (front : Text)
    (working : Nat) :
    (scanLine o (statusText front working marks) scan).Leaves
        (fun _ t => ∃ drives, t.data.drives.get? device = some drives ∧
          DrivesRead o arrayLine marks drives)
        (fun _ _ => False) s ↔
      marks.length < 10 ∧ (firstDigit (statusText front working marks)).map toAscii =
        some (Nat.digitChar marks.length) := by
  have begun := leaves_arrayLine (o := o) array scan₀ s₀
  rw [Try.Leaves, parsed] at begun
  obtain ⟨known, identity⟩ := begun
  have bracket : '[' ∈ statusText front working marks := by simp [statusText]
  rw [← digit_eq_ok]
  apply (leaves_statusText known bracket s).iff
  · rintro _ t ⟨total, read, own⟩
    rw [own, lastField_statusText front working shape, identity]
    constructor
    · rintro ⟨drives, same, length, -⟩
      cases same
      rw [entries, List.length_map, List.length_range] at length
      rw [read, length]
    · intro number
      cases read.symm.trans number
      exact ⟨_, rfl, drivesRead_entries o arrayLine marks⟩
  · intro _ t short
    refine iff_of_false id fun number => ?_
    have clash := short _ number
    rw [lastField_statusText front working shape, markField, List.length_cons,
      List.length_append] at clash
    omega

/-- Where no bracket stands before, the number of drives decides. -/
theorem single_digit_iff (plain : '[' ∉ front) (working : Nat) (marks : Text) :
    marks.length < 10 ∧ (firstDigit (statusText front working marks)).map toAscii =
      some (Nat.digitChar marks.length) ↔ marks.length < 10 := by
  refine and_iff_left_of_imp fun small => ?_
  rw [firstDigit_statusText plain, Nat.toDigits_of_lt_base small, List.head?_cons, Option.map_some,
    toAscii_digitChar small]

end Array

namespace StatusLine

/-- The first two drives of a server, the second one first. -/
def outside : Outside where
  mdstat := none
  conf := none
  examine path :=
    if path = "/dev/sdb1".toList then "   Device Role : Active device 0".toList
    else "   Device Role : Active device 1".toList
  order := id
  ends _ := false

def pair : Text := "md0 : active raid1 sda1[1] sdb1[0]".toList

def blocks : Text := "      1046528 blocks ".toList

def upDown : Text := ['U', '_']

def up10 : Text := List.replicate 10 'U'

/-- What the sensor knows after the line of the array. -/
def scanned : Scan where
  mdDeviceList := ["/dev/md0".toList]
  driveDict := .set .empty "/dev/md0".toList (driveNames pair)
  parsed := some "/dev/md0".toList
  identity := identities outside pair

def known : State := { start with data := addDevice "/dev/md0".toList start.data }

theorem pair_device : mdDevice pair = some "/dev/md0".toList := by decide +kernel

theorem pair_scanned : (scanLine outside pair {}).run start = (.ok scanned, known) := by
  have begun : (statusLine pair {}).run start = (.ok {}, start) := rfl
  rw [scanLine, Try.run_bind_of_ok begun, pair_device]
  rfl

/-- Both drives of a pair are read, the second one as down. -/
theorem drives_read_iff_pair :
    (scanLine outside (statusText blocks 1 upDown) scanned).Leaves
      (fun _ t => ∃ drives, t.data.drives.get? "/dev/md0".toList = some drives ∧
        DrivesRead outside pair upDown drives)
      (fun _ _ => False) known := by
  have shape : IsMarks upDown := by simp [IsMarks, upDown]
  apply (drives_read_iff shape pair_device pair_scanned blocks 1).mpr
  exact ⟨by decide, by decide +kernel⟩

theorem entries_ten : ((scanLine outside (statusText blocks 10 up10) scanned).run
    known).2.data.drives.get? "/dev/md0".toList =
      some [{ status := "U".toList, identity := some "/dev/sdb1".toList }] := by
  decide +kernel

/-- Of ten drives one is read. -/
theorem ten_drives_not_read : (scanLine outside pair {}).run start = (.ok scanned, known) ∧
    IsMarks up10 ∧ ¬ (scanLine outside (statusText blocks 10 up10) scanned).Leaves
      (fun _ t => ∃ drives, t.data.drives.get? "/dev/md0".toList = some drives ∧
        DrivesRead outside pair up10 drives)
      (fun _ _ => False) known := by
  refine ⟨pair_scanned, fun c mem => .inl (List.eq_of_mem_replicate mem), fun read => ?_⟩
  have one := entries_ten
  unfold Try.Leaves at read
  split at read
  · rename_i ended
    obtain ⟨drives, own, count, -⟩ := read
    rw [ended, own] at one
    cases one
    rw [up10, List.length_replicate] at count
    cases count
  · exact read

end StatusLine

end Raid

end Sspl

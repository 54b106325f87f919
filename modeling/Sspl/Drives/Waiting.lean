import Sspl.Drives.Manager

/-!
# Waiting for the enclosures

Before its scan the drive manager waits until its directory is there, and then until a listing
of it leaves something when the files are removed. The files are removed from the list that the
loop goes over, so what follows a removed file is never looked at: of two files the second one
stays.

What the directory is at each look at it is given as a list of trees. One that is not a
directory stands for a directory that is not there. The waiting goes on where the list ends.
-/

namespace Sspl

namespace Drives

open Files (Node)

namespace DriveManager

/-- What a directory has in it. -/
abbrev Listing := List (String × Node)

inductive Waiting
  | waits
  /-- It returned, with these looks still to come. -/
  | returned (unread : List Node)
  | raised (err : PyErr)

/-- `while not enclosures`; `os.listdir` raises when the directory is gone again. -/
def waitForEnclosures : List Node → Waiting
  | [] => .waits
  | root :: later =>
    match root.listdir [] with
    | none => .raised .other
    | some names => if removeFiles root names = [] then waitForEnclosures later else .returned later

/-- `_validate_drive_manager_dir`, whose first listing is made at the look that finds the
directory. -/
def validateDriveManagerDir : List Node → Waiting
  | [] => .waits
  | root :: later =>
    if root.isdir [] then waitForEnclosures (root :: later) else validateDriveManagerDir later

/-- There is a directory among the entries. -/
def HasEnclosure (listing : Listing) : Prop :=
  ∃ name ∈ listing.map Prod.fst, (Node.dir listing).isdir [name] = true

instance (listing : Listing) : Decidable (HasEnclosure listing) :=
  inferInstanceAs (Decidable (∃ name ∈ listing.map Prod.fst, _))

/-- The looks: at first the directory is missing, then it is there. -/
def looks (missing : Nat) (listings : List Listing) : List Node :=
  List.replicate missing (.file "") ++ listings.map .dir

/-- Only a listing with an enclosure in it ends the waiting, and the first of them does: neither
files nor a missing directory do. -/
structure Awaits (listings : List Listing) (result : Waiting) : Prop where
  only : ∀ unread, result = .returned unread → ∃ seen rest, listings = seen ++ rest ∧
    unread = rest.map .dir ∧ ∃ listing ∈ seen, HasEnclosure listing
  first : ∀ seen listing rest, listings = seen ++ listing :: rest →
    (∀ earlier ∈ seen, ¬ HasEnclosure earlier) → HasEnclosure listing →
      result = .returned (rest.map .dir)

/-- A listing with two entries or more has an enclosure in it, or comes after one that has. -/
def Sparse (listings : List Listing) : Prop :=
  ∀ seen listing rest, listings = seen ++ listing :: rest →
    (∀ earlier ∈ seen, ¬ HasEnclosure earlier) → ¬ HasEnclosure listing → listing.length ≤ 1

section Waiting

variable {root : Node} {listing : Listing} {listings : List Listing}

/-- What is left when the files are removed: nothing, exactly if there was at most one file. -/
theorem removeFiles_eq_nil_iff {names : List String} :
    removeFiles root names = [] ↔ names.length ≤ 1 ∧ ∀ name ∈ names, root.isdir [name] = false := by
  match names with
  | [] => simp [removeFiles]
  | [name] => simp [removeFiles]
  | name :: next :: rest =>
      refine iff_of_false ?_ (by simp)
      rw [removeFiles]
      split <;> exact List.cons_ne_nil _ _

theorem removeFiles_listing : removeFiles (.dir listing) (listing.map Prod.fst) = [] ↔
    listing.length ≤ 1 ∧ ¬ HasEnclosure listing := by
  rw [removeFiles_eq_nil_iff, List.length_map]
  refine and_congr_right fun _ => ?_
  constructor
  · rintro files ⟨name, mem, isDir⟩
    cases (files name mem).symm.trans isDir
  · intro none name mem
    rw [← Bool.not_eq_true]
    exact fun isDir => none ⟨name, mem, isDir⟩

theorem waitForEnclosures_cons : waitForEnclosures (.dir listing :: listings.map .dir) =
    if listing.length ≤ 1 ∧ ¬ HasEnclosure listing then waitForEnclosures (listings.map .dir)
    else .returned (listings.map .dir) := by
  have listed : (Node.dir listing).listdir [] = some (listing.map Prod.fst) := rfl
  rw [waitForEnclosures, listed]
  exact if_congr removeFiles_listing rfl rfl

theorem validateDriveManagerDir_looks (missing : Nat) (listings : List Listing) :
    validateDriveManagerDir (looks missing listings) = waitForEnclosures (listings.map .dir) := by
  induction missing with
  | zero =>
      cases listings with
      | nil => rfl
      | cons listing rest => exact if_pos rfl
  | succ missing ih => exact ih

/-- What holds of the later listings holds of all, when the first one is passed by. -/
theorem awaits_cons {result : Waiting} (none : ¬ HasEnclosure listing) :
    Awaits (listing :: listings) result ↔ Awaits listings result := by
  constructor
  · intro h
    constructor
    · intro unread ended
      obtain ⟨seen, rest, split, same, found, mem, has⟩ := h.only unread ended
      cases seen with
      | nil => cases mem
      | cons own seen =>
          obtain ⟨rfl, others⟩ := List.cons.inj split
          obtain rfl | mem := List.mem_cons.mp mem
          · exact absurd has none
          · exact ⟨seen, rest, others, same, found, mem, has⟩
    · intro seen found rest split earlier has
      refine h.first (listing :: seen) found rest (by rw [split]; rfl) ?_ has
      exact List.forall_mem_cons.mpr ⟨none, earlier⟩
  · intro h
    constructor
    · intro unread ended
      obtain ⟨seen, rest, split, same, found, mem, has⟩ := h.only unread ended
      exact ⟨listing :: seen, rest, by rw [split]; rfl, same, found, .tail _ mem, has⟩
    · intro seen found rest split earlier has
      cases seen with
      | nil =>
          obtain ⟨rfl, -⟩ := List.cons.inj split
          exact absurd has none
      | cons own seen =>
          obtain ⟨rfl, others⟩ := List.cons.inj split
          exact h.first seen found rest others (List.forall_mem_cons.mp earlier).2 has

theorem sparse_cons (none : ¬ HasEnclosure listing) :
    Sparse (listing :: listings) ↔ listing.length ≤ 1 ∧ Sparse listings := by
  constructor
  · intro h
    refine ⟨h [] listing listings rfl (by simp) none, fun seen found rest split earlier => ?_⟩
    exact h (listing :: seen) found rest (by rw [split]; rfl)
      (List.forall_mem_cons.mpr ⟨none, earlier⟩)
  · rintro ⟨small, h⟩ seen found rest split earlier
    cases seen with
    | nil =>
        obtain ⟨rfl, -⟩ := List.cons.inj split
        exact fun _ => small
    | cons own seen =>
        obtain ⟨rfl, others⟩ := List.cons.inj split
        exact h seen found rest others (List.forall_mem_cons.mp earlier).2

/-- The first listing ends the waiting, as it should. -/
theorem awaits_of_enclosure (has : HasEnclosure listing) :
    Awaits (listing :: listings) (.returned (listings.map .dir)) := by
  constructor
  · rintro unread ended
    cases ended
    exact ⟨[listing], listings, rfl, rfl, listing, .head _, has⟩
  · intro seen found rest split earlier _
    cases seen with
    | nil =>
        obtain ⟨-, rfl⟩ := List.cons.inj split
        rfl
    | cons own seen =>
        obtain ⟨rfl, -⟩ := List.cons.inj split
        exact absurd has (earlier _ (.head _))

theorem sparse_of_enclosure (has : HasEnclosure listing) : Sparse (listing :: listings) := by
  intro seen found rest split earlier none
  cases seen with
  | nil =>
      obtain ⟨rfl, -⟩ := List.cons.inj split
      exact absurd has none
  | cons own seen =>
      obtain ⟨rfl, -⟩ := List.cons.inj split
      exact absurd has (earlier _ (.head _))

/-- The first listing ends the waiting, and has files in it only. -/
theorem not_awaits_of_files (none : ¬ HasEnclosure listing) :
    ¬ Awaits (listing :: listings) (.returned (listings.map .dir)) := by
  rw [awaits_cons none]
  intro h
  obtain ⟨seen, rest, split, same, found, mem, -⟩ := h.only _ rfl
  have length := congrArg List.length split
  have counted := congrArg List.length same
  have some_ := List.length_pos_of_mem mem
  simp only [List.length_append, List.length_map] at length counted
  omega

theorem waitForEnclosures_awaits_iff (listings : List Listing) :
    Awaits listings (waitForEnclosures (listings.map .dir)) ↔ Sparse listings := by
  induction listings with
  | nil =>
      refine iff_of_true ⟨fun unread ended => ?_, fun seen _ _ split => ?_⟩ fun seen _ _ split => ?_
      · cases ended
      · simp at split
      · simp at split
  | cons listing rest ih =>
      rw [List.map_cons, waitForEnclosures_cons]
      by_cases has : HasEnclosure listing
      · rw [if_neg fun both => both.2 has]
        exact iff_of_true (awaits_of_enclosure has) (sparse_of_enclosure has)
      · rw [sparse_cons has]
        by_cases small : listing.length ≤ 1
        · rw [if_pos ⟨small, has⟩, awaits_cons has, ih]
          exact (and_iff_right small).symm
        · rw [if_neg fun both => small both.1]
          exact iff_of_false (not_awaits_of_files has) fun both => small both.1

/-- A scan that finds the directory as it is for good waits as long as the waiting does. -/
theorem initDriveStatus_waits_iff (root : Node) :
    initDriveStatus root = .waits ↔
      ∀ n, validateDriveManagerDir (List.replicate n root) = .waits := by
  cases root with
  | file text =>
      refine iff_of_true rfl fun n => ?_
      induction n with
      | zero => rfl
      | succ n ih => exact ih
  | dir listing =>
      have waits : ∀ n, validateDriveManagerDir (List.replicate n (.dir listing)) =
          waitForEnclosures ((List.replicate n listing).map .dir) := by
        intro n
        rw [← validateDriveManagerDir_looks 0, looks, List.map_replicate]
        rfl
      have listed : (Node.dir listing).listdir [] = some (listing.map Prod.fst) := rfl
      rw [initDriveStatus, listed]
      dsimp only
      constructor
      · intro scan n
        have nothing : removeFiles (.dir listing) (listing.map Prod.fst) = [] := by
          by_contra some_
          rw [if_neg some_] at scan
          cases scan
        rw [waits]
        induction n with
        | zero => rfl
        | succ n ih =>
            rw [List.replicate_succ, List.map_cons, waitForEnclosures_cons,
              if_pos (removeFiles_listing.mp nothing), ih]
      · intro always
        have once := always 1
        rw [waits, List.replicate_one, List.map_singleton, ← List.map_nil, waitForEnclosures_cons]
          at once
        by_cases nothing : removeFiles (.dir listing) (listing.map Prod.fst) = []
        · exact if_pos nothing
        · rw [if_neg (mt removeFiles_listing.mpr nothing)] at once
          cases once

/-- For every sequence of listings, the waiting is for the enclosures exactly if, up to the first
listing with one, no listing has two entries: the loop that takes out the files leaves every second
one in. -/
theorem enclosures_awaited_iff (missing : Nat) (listings : List Listing) :
    Awaits listings (validateDriveManagerDir (looks missing listings)) ↔ Sparse listings := by
  rw [validateDriveManagerDir_looks]
  exact waitForEnclosures_awaits_iff listings

end Waiting

namespace Example

/-- Two files and no enclosure. -/
def files : Listing := [("discovery", .file ""), ("lock", .file "")]

/-- Two files in the first listing are taken for an enclosure. -/
theorem files_taken_for_enclosures :
    ¬ ∀ missing listings,
      Awaits listings (validateDriveManagerDir (looks missing listings)) := by
  intro all
  obtain ⟨seen, rest, split, -, listing, mem, has⟩ := (all 0 [files]).only [] rfl
  have among : listing ∈ [files] := by
    rw [split]
    exact List.mem_append_left rest mem
  rw [List.mem_singleton.mp among] at has
  exact absurd has (by decide)

end Example

end DriveManager

end Drives

end Sspl

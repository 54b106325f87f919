import Sspl.Raid.StatusLine

/-!
# The drives of an array

`_map_drive_status` goes through the drives of an array and compares the path of each one with
some names. It does so for drives that are not up only, and raises if such a drive has no
identity, which is the case where `mdadm` has not reported its role. A drive whose status is as
it was read gets an identity when its array lacks drives.
-/

namespace Sspl

namespace Raid

open Iem (Text)

variable {s t : State} {device drvStatus : Text} {drv : Drive}

/-- A key that is there is found. -/
theorem leaves_item {ν α : Type} {table : Dict Text ν} {key : Text} {value : ν}
    {rest : ν → Try State Raised α} {Q : α → State → Prop} {E : Raised → State → Prop}
    (here : table.get? key = some value) :
    (Try.ofExcept (item table key) >>= rest).Leaves Q E s ↔ (rest value).Leaves Q E s := by
  apply Try.leaves_bind_of_ok
  rw [item, here]
  rfl

/-- The drive is up or has an identity. -/
def Drive.Seen (drv : Drive) : Prop := drv.status ∈ up ∨ drv.identity.isSome

/-- The same, or its status is as it was read. -/
def Drive.Sane (drv : Drive) : Prop := drv.status ∈ "_".toList :: up ∨ drv.identity.isSome

theorem Drive.Seen.sane (h : drv.Seen) : drv.Sane := h.imp_left (List.mem_cons_of_mem _)

/-- In a fold over exceptions everything returns if every step does. -/
theorem foldlM_ok {α β ε : Type} {P : β → Prop} {step : β → α → Except ε β} {b : β}
    (each : ∀ b x, P b → ∃ b', step b x = .ok b' ∧ P b') (xs : List α) (start : P b) :
    ∃ b', xs.foldlM step b = .ok b' ∧ P b' := by
  induction xs generalizing b with
  | nil => exact ⟨b, rfl, start⟩
  | cons x rest ih =>
      obtain ⟨next, run, holds⟩ := each b x start
      obtain ⟨last, rest_, done⟩ := ih holds
      refine ⟨last, ?_, done⟩
      rw [List.foldlM_cons, run]
      exact rest_

theorem mapName_seen (seen : drv.Seen) (drvStatus drive : Text) :
    ∃ drv', mapName drvStatus drv drive = .ok drv' ∧ drv'.Seen := by
  rw [mapName]
  split
  · rename_i down
    have known := seen.resolve_left down
    cases identity : drv.identity with
    | none =>
        rw [identity] at known
        cases known
    | some path =>
        refine ⟨_, rfl, .inr ?_⟩
        split
        · rfl
        · exact known
  · exact ⟨drv, rfl, seen⟩

/-- In the missing case it is enough that a drive is sane. -/
theorem mapListed_sane {missingDrv : Option Text} (known : missingDrv.isSome) (sane : drv.Sane)
    (drive : Text) :
    ∃ drv', mapListed missingDrv "Missing".toList drv drive = .ok drv' ∧ drv'.Seen := by
  rw [mapListed]
  split
  · exact ⟨_, rfl, .inr known⟩
  · rename_i other
    refine mapName_seen ?_ _ drive
    obtain status | identity := sane
    · obtain missing | up_ := List.mem_cons.mp status
      · exact absurd ⟨rfl, missing⟩ other
      · exact .inl up_
    · exact .inr identity

theorem mapListed_seen {missingDrv : Option Text}
    (known : drvStatus = "Missing".toList → missingDrv.isSome) (seen : drv.Seen) (drive : Text) :
    ∃ drv', mapListed missingDrv drvStatus drv drive = .ok drv' ∧ drv'.Seen := by
  rw [mapListed]
  split
  · rename_i missing
    exact ⟨_, rfl, .inr (known missing.1)⟩
  · exact mapName_seen seen _ drive

/-- The end of the turn of a drive in `_map_drive_status`. -/
def tidy (drv : Drive) : Drive :=
  if drv.status = "U".toList then { drv with status := "UP".toList } else drv

theorem tidy_seen (seen : drv.Seen) : (tidy drv).Seen := by
  rw [tidy]
  split
  · exact .inl (.tail _ (.head _))
  · exact seen

theorem tidy_sane (sane : drv.Sane) : (tidy drv).Sane := by
  rw [tidy]
  split
  · exact .inl (.tail _ (.tail _ (.head _)))
  · exact sane

theorem tidy_identity (drv : Drive) : (tidy drv).identity = drv.identity := by
  rw [tidy]
  split <;> rfl

section Mapped

variable {missingDrv : Option Text} {driveDict : Dict Text (List Text)} {names : List Text}

theorem mapDrive_name (seen : drv.Seen) (name : Text) :
    ∃ drv', mapDrive missingDrv device (.name name) drvStatus drv = .ok drv' ∧ drv'.Seen := by
  obtain ⟨drv', run, after⟩ := mapName_seen seen drvStatus name
  refine ⟨tidy drv', ?_, tidy_seen after⟩
  rw [mapDrive]
  dsimp only
  rw [run]
  rfl

theorem mapDrive_listed {P : Drive → Prop} (listed : driveDict.get? device = some names)
    (each : ∃ drv', names.foldlM (mapListed missingDrv drvStatus) drv = .ok drv' ∧ P (tidy drv')) :
    ∃ drv', mapDrive missingDrv device (.listed driveDict) drvStatus drv = .ok drv' ∧ P drv' := by
  obtain ⟨drv', run, holds⟩ := each
  refine ⟨tidy drv', ?_, holds⟩
  rw [mapDrive]
  dsimp only
  rw [item, listed, Option.elim_some]
  show (names.foldlM (mapListed missingDrv drvStatus) drv >>= _) = _
  rw [run]
  rfl

/-- No names, nothing to look at. -/
theorem mapDrive_noNames (listed : driveDict.get? device = some []) (sane : drv.Sane) :
    ∃ drv', mapDrive missingDrv device (.listed driveDict) drvStatus drv = .ok drv' ∧
      drv'.Sane ∧ drv'.identity = drv.identity :=
  mapDrive_listed listed ⟨drv, rfl, tidy_sane sane, tidy_identity drv⟩

theorem mapDrive_seen (listed : driveDict.get? device = some names)
    (known : drvStatus = "Missing".toList → missingDrv.isSome) (seen : drv.Seen) :
    ∃ drv', mapDrive missingDrv device (.listed driveDict) drvStatus drv = .ok drv' ∧
      drv'.Seen := by
  apply mapDrive_listed listed
  obtain ⟨drv', run, after⟩ := foldlM_ok (P := Drive.Seen)
    (fun _ x now => mapListed_seen known now x) names seen
  exact ⟨drv', run, tidy_seen after⟩

/-- In the missing case every drive has an identity afterwards, or is up. -/
theorem mapDrive_missing (listed : driveDict.get? device = some names) (some_ : names ≠ [])
    (known : missingDrv.isSome) (sane : drv.Sane) :
    ∃ drv', mapDrive missingDrv device (.listed driveDict) "Missing".toList drv = .ok drv' ∧
      drv'.Seen := by
  apply mapDrive_listed listed
  cases names with
  | nil => exact absurd rfl some_
  | cons name rest =>
      obtain ⟨first, run, seen⟩ := mapListed_sane known sane name
      obtain ⟨drv', later, after⟩ := foldlM_ok (P := Drive.Seen)
        (fun _ x now => mapListed_seen (fun _ => known) now x) rest seen
      refine ⟨drv', ?_, tidy_seen after⟩
      rw [List.foldlM_cons, run]
      exact later

/-- What mapping the drives of an array by the names that are listed makes of a drive. -/
structure Drive.Mapped (names : List Text) (changed : Bool) (drv : Drive) : Prop where
  sane : drv.Sane
  seen : names ≠ [] → drv.Seen
  fresh : changed → names = [] → drv.identity = none

theorem mapDrive_mapped {changed : Bool} (listed : driveDict.get? device = some names)
    (sane : drv.Sane) (fresh : changed → names = [] → drv.identity = none)
    (some_ : names ≠ [] → ∃ drv',
      mapDrive missingDrv device (.listed driveDict) drvStatus drv = .ok drv' ∧ drv'.Seen) :
    ∃ drv', mapDrive missingDrv device (.listed driveDict) drvStatus drv = .ok drv' ∧
      drv'.Mapped names changed := by
  by_cases none_ : names = []
  · subst none_
    obtain ⟨drv', run, sane', identity⟩ := mapDrive_noNames listed sane
    refine ⟨drv', run, sane', fun clash => absurd rfl clash, fun moved _ => ?_⟩
    exact identity.trans (fresh moved rfl)
  · obtain ⟨drv', run, seen⟩ := some_ none_
    exact ⟨drv', run, seen.sane, fun _ => seen, fun _ clash => absurd clash none_⟩

end Mapped

section Each

variable {P : Drive → Prop} {drives : Drives} {drvs : List Drive}

/-- The first drives of the array are mapped. -/
structure Halfway (P : Drive → Prop) (device : Text) (drvs : List Drive) (i : Nat)
    (s t : State) : Prop where
  own : OwnDrives device s t
  mapped : ∃ mapped, t.data.drives.get? device = some (mapped ++ drvs.drop i) ∧
    mapped.length = i ∧ ∀ drv ∈ mapped, P drv

/-- The turn of the next drive. -/
theorem Halfway.turn {i : Nat} (h : Halfway P device drvs i s t) (below : i < drvs.length)
    {drv : Drive} (run : mapDrive s.data.missingDrv device drives drvStatus drvs[i] = .ok drv)
    (after : P drv) :
    (do
      let s ← Try.get
      let drvs ← Try.ofExcept (item s.data.drives device)
      match drvs[i]? with
      | none => return ⟨⟩
      | some drv => do
        let drv ← Try.ofExcept (mapDrive s.data.missingDrv device drives drvStatus drv)
        update fun data => { data with drives := data.drives.set device (drvs.set i drv) }
      : Step).Leaves (fun _ => Halfway P device drvs (i + 1) s) (fun _ _ => False) t := by
  obtain ⟨⟨table, rfl, others⟩, mapped, now, rfl, holds⟩ := h
  have next : (mapped ++ drvs.drop mapped.length)[mapped.length]? = some drvs[mapped.length] := by
    rw [List.getElem?_append_right le_rfl, Nat.sub_self, List.getElem?_drop, Nat.add_zero,
      List.getElem?_eq_getElem below]
  apply Try.leaves_bind.mpr
  apply Try.leaves_get.mpr
  apply (leaves_item now).mpr
  rw [next]
  apply Try.leaves_bind.mpr
  apply Try.leaves_ofExcept.mpr
  have run : mapDrive (withDrives table s).data.missingDrv device drives drvStatus
      drvs[mapped.length] = .ok drv := run
  rw [run]
  refine ⟨IsTrans.trans _ _ _ ⟨table, rfl, others⟩ (ownDrives_set device _ _), mapped ++ [drv],
    ?_, ?_, ?_⟩
  · show (Dict.set _ _ _).get? device = _
    rw [Dict.get?_set_self, List.drop_eq_getElem_cons below, List.set_append_right _ _ le_rfl,
      Nat.sub_self, List.set_cons_zero, List.append_assoc]
    rfl
  · rw [List.length_append, List.length_singleton]
  · intro other mem
    obtain old | new := List.mem_append.mp mem
    · exact holds other old
    · rw [List.mem_singleton.mp new]
      exact after

/-- Each drive of the array is mapped once. -/
theorem leaves_mapDriveStatus_each (here : s.data.drives.get? device = some drvs)
    (each : ∀ drv ∈ drvs, ∃ drv',
      mapDrive s.data.missingDrv device drives drvStatus drv = .ok drv' ∧ P drv') :
    (mapDriveStatus device drives drvStatus).Leaves
      (fun _ t => OwnDrives device s t ∧
        ∃ drvs', t.data.drives.get? device = some drvs' ∧ ∀ drv ∈ drvs', P drv)
      (fun _ _ => False) s := by
  apply Try.leaves_bind.mpr
  apply Try.leaves_get.mpr
  apply (leaves_item here).mpr
  refine (Try.leaves_forM_range (E := fun _ _ => False)
    (I := fun i => Halfway P device drvs i s) drvs.length ?_ ?_).mono ?_ ?_
  · intro i below t halfway
    obtain ⟨drv, run, after⟩ := each _ (List.getElem_mem below)
    exact halfway.turn below run after
  · exact ⟨refl s, [], here, rfl, fun _ mem => absurd mem List.not_mem_nil⟩
  · rintro _ t ⟨own, mapped, now, -, holds⟩
    rw [List.drop_length, List.append_nil] at now
    exact ⟨own, mapped, now, holds⟩
  · exact fun _ _ raised => raised

end Each

end Raid

end Sspl

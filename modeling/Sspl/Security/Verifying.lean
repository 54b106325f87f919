import Sspl.Security.KeyFiles

/-!
# Verification while keys are generated

A verification returns whether a stored key verifies the signature, provided that the directory of
the user exists when it is opened, and that each file has its key when it is read. Otherwise an
assertion fails, or `readdir` is called with a null directory, and the process ends.
-/

namespace Sspl

namespace KeyFiles

variable {ν δ Key Digest : Type} (c : Setting ν δ Key Digest) (r : Request ν)

/-- Some key that is completely stored in the directory of the user verifies the signature. -/
def Stored (s : State ν δ Key) : Prop :=
  ∃ entries, s.dir c r = some entries ∧ ∃ e ∈ entries, ∃ key, e.key = some key ∧
    c.accepts r key = true

/-- A call made in the first state has not failed by the second one: it can go on until it
returns, and what it returns says whether a stored key verifies the signature. Keys that are stored
when it is called count, keys that are stored when it returns may. -/
structure Served [DecidableEq δ] (s t : State ν δ Key) : Prop where
  unaborted : t.verification ≠ .aborted
  result : ∀ ret, t.verification = .returned ret →
    ret = 1 ∧ Stored c r t ∨ ret = 0 ∧ ¬ Stored c r s
  continues : ¬ t.verification.Ended → ∃ a : Action ν Key, a.verifies = true ∧
    (next c r t a).isSome

/-- The directory exists when it is opened, and a key file has its private key when it is read. -/
def Ready (s : State ν δ Key) : Action ν Key → Prop
  | .openDir => s.dir c r ≠ none
  | .readKey => ∀ listed done ret name, s.verification = .reading listed done ret name →
      ∃ entries key, s.dir c r = some entries ∧ ⟨name, some key⟩ ∈ entries
  | _ => True

section Verification

variable [DecidableEq δ] {s t u : State ν δ Key} {c : Setting ν δ Key Digest} {r : Request ν}
  {a : Action ν Key} {v : Verification Key} {entries done : List (DirEntry Key)}
  {listed : List String} {name : String}

theorem next_cases (step : next c r s a = some t) :
    (a.verifies = false ∧ t.verification = s.verification ∧
      ((∃ i username, s.generations i = none ∧ t.dirs = s.dirs ∧
          t.generations = Function.update s.generations i (some ⟨username, .begun⟩)) ∨
        ∃ i g, s.generations i = some g ∧ s.generation c i g a = some t)) ∨
      (a.verifies = true ∧ ∃ v, s.verify c r a = some v ∧ t = { s with verification := v }) := by
  have generation : ∀ i, (s.generations i).bind (fun g => s.generation c i g a) = some t →
      t.verification = s.verification ∧ ∃ i g, s.generations i = some g ∧
        s.generation c i g a = some t := by
    intro i step
    obtain ⟨g, found, step⟩ := Option.bind_eq_some_iff.mp step
    obtain ⟨-, -, same, -⟩ := generation_cases step
    exact ⟨same, i, g, found, step⟩
  have verification : (s.verify c r a).map (fun v => { s with verification := v }) = some t →
      ∃ v, s.verify c r a = some v ∧ t = { s with verification := v } := by
    intro step
    obtain ⟨v, step, same⟩ := Option.map_eq_some_iff.mp step
    exact ⟨v, step, same.symm⟩
  cases a with
  | generate i username =>
      simp only [next] at step
      split at step
      · rename_i unused
        cases step
        exact .inl ⟨rfl, rfl, .inl ⟨i, username, unused, rfl, rfl⟩⟩
      · cases step
  | ensure i => exact .inl ⟨rfl, (generation i step).1, .inr (generation i step).2⟩
  | create i name => exact .inl ⟨rfl, (generation i step).1, .inr (generation i step).2⟩
  | writePublic i key => exact .inl ⟨rfl, (generation i step).1, .inr (generation i step).2⟩
  | writePrivate i => exact .inl ⟨rfl, (generation i step).1, .inr (generation i step).2⟩
  | openDir => exact .inr ⟨rfl, verification step⟩
  | readDir name => exact .inr ⟨rfl, verification step⟩
  | readKey => exact .inr ⟨rfl, verification step⟩
  | endOfDir => exact .inr ⟨rfl, verification step⟩

theorem Filed.step (filed : Filed c.path s) (step : next c r s a = some t) :
    Filed c.path t ∧ Later s t := by
  obtain ⟨-, -, ⟨i, username, unused, dirs, generations⟩ | ⟨i, g, found, step⟩⟩ |
      ⟨-, v, -, rfl⟩ := next_cases step
  · have later : Later s t := by
      rw [Later, dirs]
      exact Later.refl s
    refine ⟨filed.update generations (dirs ▸ filed.wellFormed) ?_ ?_, later⟩
    · intro j h name _ found file
      obtain ⟨entries, here, mem⟩ := filed.empty j h name found file
      exact ⟨entries, dirs ▸ here, mem⟩
    · intro name file
      cases file
  · exact filed.generation found step
  · exact ⟨⟨filed.wellFormed, filed.empty, filed.alone⟩, Later.refl s⟩

/-- What the loop has seen of the directory. -/
structure Scanned (accepts : Key → Bool) (entries : List (DirEntry Key)) (listed : List String)
    (done : List (DirEntry Key)) : Prop where
  listed : ∀ name ∈ listed, name ∈ entries.map DirEntry.name
  names : (done.map DirEntry.name).Nodup
  done : ∀ e ∈ done, e.name ∈ entries.map DirEntry.name ∧ ((e.name = "." ∨ e.name = "..") ∨
    e ∈ entries ∧ ∃ key, e.key = some key ∧ ¬ accepts key = true)

/-- The names include those that the directory had when the verification was called. -/
def Names (c : Setting ν δ Key Digest) (r : Request ν) (s : State ν δ Key)
    (listed : List String) : Prop :=
  ∀ entries, s.dir c r = some entries → ∀ e ∈ entries, e.name ∈ listed

/-- What is known in a state of a verification that was called in the first one. -/
def Sound (c : Setting ν δ Key Digest) (r : Request ν) (s t : State ν δ Key) :
    Verification Key → Prop
  | .scanning listed done ret => ret = 0 ∧ Names c r s listed ∧
      ∃ entries, t.dir c r = some entries ∧ Scanned (c.accepts r) entries listed done
  | .reading listed done _ name => Names c r s listed ∧
      ∃ entries, t.dir c r = some entries ∧ Scanned (c.accepts r) entries listed done ∧
        name ∈ entries.map DirEntry.name ∧ name ∉ done.map DirEntry.name ∧
          ¬ (name = "." ∨ name = "..")
  | .returned ret => ret = 1 ∧ Stored c r t ∨ ret = 0 ∧ ¬ Stored c r s
  | _ => True

structure Invariant (c : Setting ν δ Key Digest) (r : Request ν) (s t : State ν δ Key) :
    Prop where
  filed : Filed c.path t
  later : Later s t
  sound : Sound c r s t t.verification

omit [DecidableEq δ] in
theorem Scanned.extends {accepts : Key → Bool} {after : List (DirEntry Key)}
    (h : Scanned accepts entries listed done) (ext : Extends entries after) :
    Scanned accepts after listed done where
  listed name mem := ext.names (h.listed name mem)
  names := h.names
  done e mem := by
    obtain ⟨named, dots | ⟨mem', key, complete, refused⟩⟩ := h.done e mem
    · exact ⟨ext.names named, .inl dots⟩
    · exact ⟨ext.names named, .inr ⟨ext.complete mem' complete, key, complete, refused⟩⟩

omit [DecidableEq δ] in
theorem Stored.later (h : Stored c r t) (later : Later t u) : Stored c r u := by
  obtain ⟨entries, here, e, mem, key, complete, accepted⟩ := h
  obtain ⟨after, here', ext⟩ := later _ entries here
  exact ⟨after, here', e, ext.complete mem complete, key, complete, accepted⟩

omit [DecidableEq δ] in
theorem Sound.later (h : Sound c r s t v) (later : Later t u) : Sound c r s u v := by
  cases v with
  | called => trivial
  | aborted => trivial
  | returned ret => exact h.imp_left fun ⟨one, stored⟩ => ⟨one, stored.later later⟩
  | scanning listed done ret =>
      obtain ⟨zero, names, entries, here, scanned⟩ := h
      obtain ⟨after, here', ext⟩ := later _ entries here
      exact ⟨zero, names, after, here', scanned.extends ext⟩
  | reading listed done ret name =>
      obtain ⟨names, entries, here, scanned, named, unread, file⟩ := h
      obtain ⟨after, here', ext⟩ := later _ entries here
      exact ⟨names, after, here', scanned.extends ext, ext.names named, unread, file⟩

/-- An entry is done with. -/
theorem Scanned.append {accepts : Key → Bool} {e : DirEntry Key}
    (h : Scanned accepts entries listed done) (named : e.name ∈ entries.map DirEntry.name)
    (unread : e.name ∉ done.map DirEntry.name) (passed : (e.name = "." ∨ e.name = "..") ∨
      e ∈ entries ∧ ∃ key, e.key = some key ∧ ¬ accepts key = true) :
    Scanned accepts entries listed (done ++ [e]) where
  listed := h.listed
  names := by
    rw [List.map_append, List.map_singleton]
    exact List.Nodup.append h.names (List.nodup_singleton _) (by simpa using unread)
  done e' mem := by
    obtain old | new := List.mem_append.mp mem
    · exact h.done e' old
    · cases List.mem_singleton.mp new
      exact ⟨named, passed⟩

omit [DecidableEq δ] in
/-- When every name has been read, no key that was stored at first verifies the signature. -/
theorem Scanned.not_stored (first : Filed c.path s) (filed : Filed c.path t) (later : Later s t)
    (here : t.dir c r = some entries) (h : Scanned (c.accepts r) entries listed done)
    (names : Names c r s listed) (all : ∀ name ∈ listed, name ∈ done.map DirEntry.name) :
    ¬ Stored c r s := by
  rintro ⟨before, here', e, mem, key, complete, accepted⟩
  obtain ⟨e', mem', same⟩ := List.mem_map.mp (all e.name (names before here' e mem))
  have file := (first.wellFormed _ before here').file mem complete
  obtain ⟨after, here'', ext⟩ := later _ before here'
  cases here.symm.trans here''
  obtain ⟨-, dots | ⟨listed', key', complete', refused⟩⟩ := h.done e' mem'
  · rw [same] at dots
    exact dots.elim file.1 file.2
  · cases (filed.wellFormed _ entries here).eq listed' (ext.complete mem complete) same
    cases complete.symm.trans complete'
    exact refused accepted

omit [DecidableEq δ] in
/-- A step of the verification. -/
theorem Sound.verify (first : Filed c.path s) (filed : Filed c.path t) (later : Later s t)
    (h : Sound c r s t t.verification) (step : t.verify c r a = some v) : Sound c r s t v := by
  cases a with
  | openDir =>
      simp only [State.verify] at step
      split at step
      · rename_i entries _ here
        cases step
        refine ⟨rfl, fun before here' e mem => ?_, entries, here,
          ⟨fun _ mem => mem, List.nodup_nil, nofun⟩⟩
        obtain ⟨after, here'', ext⟩ := later _ before here'
        cases here.symm.trans here''
        exact ext.names (List.mem_map_of_mem mem)
      · cases step
        trivial
      · cases step
  | readDir name =>
      simp only [State.verify] at step
      split at step
      · rename_i listed done ret entries scanning here
        rw [scanning] at h
        obtain ⟨zero, names, entries', here', scanned⟩ := h
        cases here.symm.trans here'
        split at step
        · rename_i named
          split at step
          · rename_i dots
            cases step
            exact ⟨zero, names, entries, here, scanned.append named.1 named.2 (.inl dots)⟩
          · rename_i file
            cases step
            exact ⟨names, entries, here, scanned, named.1, named.2, file⟩
        · cases step
      · cases step
  | readKey =>
      simp only [State.verify] at step
      split at step
      · rename_i listed done ret name entries reading here
        rw [reading] at h
        obtain ⟨names, entries', here', scanned, named, unread, file⟩ := h
        cases here.symm.trans here'
        obtain ⟨e, found, rfl⟩ := Option.map_eq_some_iff.mp step
        have mem := List.mem_of_find?_eq_some found
        obtain rfl : e.name = name := by simpa using List.find?_some found
        split
        · trivial
        · rename_i key complete
          split
          · rename_i accepted
            exact .inl ⟨rfl, entries, here, e, mem, key, complete, accepted⟩
          · rename_i refused
            exact ⟨rfl, names, entries, here, scanned.append named unread
              (.inr ⟨mem, key, complete, refused⟩)⟩
      · cases step
  | endOfDir =>
      simp only [State.verify] at step
      split at step
      · rename_i listed done ret scanning
        rw [scanning] at h
        obtain ⟨zero, names, entries, here, scanned⟩ := h
        split at step
        · rename_i all
          cases step
          exact .inr ⟨zero, scanned.not_stored first filed later here names all⟩
        · cases step
      · cases step
  | _ => cases step

theorem Invariant.step (first : Filed c.path s) (h : Invariant c r s t)
    (step : next c r t a = some u) : Invariant c r s u := by
  obtain ⟨filed, later, sound⟩ := h
  obtain ⟨filed', onward⟩ := filed.step step
  refine ⟨filed', later.trans onward, ?_⟩
  obtain ⟨-, same, -⟩ | ⟨-, v, verified, rfl⟩ := next_cases step
  · rw [same]
    exact sound.later onward
  · exact (sound.verify first filed later verified).later onward

/-- What `RSA_verify` returns for a key. -/
def Setting.result (c : Setting ν δ Key Digest) (r : Request ν) (key : Key) : Option Int :=
  some (if c.accepts r key then 1 else 0)

/-- The steps are those of the loop over the entries in the order in which they have been read. -/
def Traced (result : Key → Option Int) : Verification Key → Prop
  | .called => True
  | .scanning _ done ret => ∀ rest,
      Pki.verifyLoop result (done ++ rest) 0 = Pki.verifyLoop result rest ret
  | .reading _ done ret name => ¬ (name = "." ∨ name = "..") ∧ ∀ rest,
      Pki.verifyLoop result (done ++ rest) 0 = Pki.verifyLoop result rest ret
  | .returned ret => ∃ done, Pki.verifyLoop result done 0 = some ret
  | .aborted => True

omit [DecidableEq δ] in
theorem Traced.verify (h : Traced (c.result r) t.verification)
    (step : t.verify c r a = some v) : Traced (c.result r) v := by
  cases a with
  | openDir =>
      simp only [State.verify] at step
      split at step <;> cases step
      · exact fun rest => rfl
      · trivial
  | readDir name =>
      simp only [State.verify] at step
      split at step
      · rename_i listed done ret entries scanning here
        rw [scanning] at h
        split at step
        · split at step
          · rename_i dots
            cases step
            intro rest
            rw [List.append_assoc, List.singleton_append, h, Pki.verifyLoop, if_pos dots]
          · rename_i file
            cases step
            exact ⟨file, h⟩
        · cases step
      · cases step
  | readKey =>
      simp only [State.verify] at step
      split at step
      · rename_i listed done ret name entries reading here
        rw [reading] at h
        obtain ⟨file, h⟩ := h
        obtain ⟨e, found, rfl⟩ := Option.map_eq_some_iff.mp step
        obtain rfl : e.name = name := by simpa using List.find?_some found
        split
        · trivial
        · rename_i key complete
          split
          · rename_i accepted
            refine ⟨done ++ [e], ?_⟩
            rw [h, Pki.verifyLoop, if_neg file]
            simp only [complete, Setting.result, accepted, if_true]
          · rename_i refused
            intro rest
            rw [List.append_assoc, List.singleton_append, h, Pki.verifyLoop, if_neg file]
            simp [complete, Setting.result, refused]
      · cases step
  | endOfDir =>
      simp only [State.verify] at step
      split at step
      · rename_i listed done ret scanning
        rw [scanning] at h
        split at step
        · cases step
          exact ⟨done, by rw [← List.append_nil done, h, Pki.verifyLoop]⟩
        · cases step
      · cases step
  | _ => cases step

/-- A verification that returns has taken the loop over what it has read, whatever happened to the
directory meanwhile. -/
theorem returned_verifyLoop {actions : List (Action ν Key)} {ret : Int}
    (run : (system c r).FreeRuns s actions t) (called : s.verification = .called)
    (returned : t.verification = .returned ret) :
    ∃ done, Pki.verifyLoop (c.result r) done 0 = some ret := by
  have traced : Traced (c.result r) t.verification := by
    refine run.invariant (I := fun t => Traced (c.result r) t.verification) ?_
      (by rw [called]; trivial)
    intro t a u traced _ step
    obtain ⟨-, same, -⟩ | ⟨-, v, verified, rfl⟩ := next_cases step
    · rw [same]
      exact traced
    · exact traced.verify verified
  rw [returned] at traced
  exact traced

/-- A verification that has not ended can take a step. -/
theorem Invariant.continues (h : Invariant c r s t) (unfinished : ¬ t.verification.Ended) :
    ∃ a : Action ν Key, a.verifies = true ∧ (next c r t a).isSome := by
  have sound := h.sound
  cases at_ : t.verification with
  | called =>
      refine ⟨.openDir, rfl, ?_⟩
      cases here : t.dir c r <;> simp [next, State.verify, at_, here]
  | scanning listed done ret =>
      rw [at_] at sound
      obtain ⟨-, -, entries, here, scanned⟩ := sound
      by_cases all : ∀ name ∈ listed, name ∈ done.map DirEntry.name
      · refine ⟨.endOfDir, rfl, ?_⟩
        simp only [next, State.verify, at_, if_pos all, Option.map_some, Option.isSome_some]
      · obtain ⟨name, missing⟩ := not_forall.mp all
        obtain ⟨mem, unread⟩ := Classical.not_imp.mp missing
        refine ⟨.readDir name, rfl, ?_⟩
        have named := scanned.listed name mem
        simp only [next, State.verify, at_, here, if_pos (And.intro named unread)]
        split <;> rfl
  | reading listed done ret name =>
      rw [at_] at sound
      obtain ⟨-, entries, here, scanned, named, -⟩ := sound
      refine ⟨.readKey, rfl, ?_⟩
      obtain ⟨e, mem, same⟩ := List.mem_map.mp named
      have found : (entries.find? fun e => e.name = name).isSome := by
        rw [List.find?_isSome]
        exact ⟨e, mem, decide_eq_true same⟩
      simp only [next, State.verify, at_, here, Option.isSome_map, found]
  | returned ret =>
      rw [at_] at unfinished
      exact absurd trivial unfinished
  | aborted =>
      rw [at_] at unfinished
      exact absurd trivial unfinished

theorem Invariant.served (h : Invariant c r s t) (unaborted : t.verification ≠ .aborted) :
    Served c r s t where
  unaborted := unaborted
  result ret returned := by
    have sound := h.sound
    rw [returned] at sound
    exact sound
  continues := h.continues

/-- The steps that do not abort. -/
theorem Invariant.unaborted_iff (h : Invariant c r s t) (before : t.verification ≠ .aborted)
    (step : next c r t a = some u) : u.verification ≠ .aborted ↔ Ready c r t a := by
  obtain ⟨generates, same, -⟩ | ⟨verifies, v, verified, rfl⟩ := next_cases step
  · rw [same]
    refine iff_of_true before ?_
    cases a with
    | openDir => cases generates
    | readKey => cases generates
    | _ => trivial
  · cases a with
    | openDir =>
        simp only [State.verify] at verified
        split at verified
        · rename_i entries _ here
          cases verified
          exact iff_of_true nofun (by simp [Ready, here])
        · rename_i missing
          cases verified
          exact iff_of_false (fun other => other rfl) (fun ready => ready missing)
        · cases verified
    | readDir name =>
        refine iff_of_true ?_ trivial
        simp only [State.verify] at verified
        split at verified
        · split at verified
          · split at verified <;> cases verified <;> exact nofun
          · cases verified
        · cases verified
    | readKey =>
        have wellFormed := h.filed.wellFormed
        simp only [State.verify] at verified
        split at verified
        · rename_i listed done ret name entries reading here
          obtain ⟨e, found, rfl⟩ := Option.map_eq_some_iff.mp verified
          have mem := List.mem_of_find?_eq_some found
          obtain rfl : e.name = name := by simpa using List.find?_some found
          cases complete : e.key with
          | none =>
              refine iff_of_false (fun other => other rfl) fun ready => ?_
              obtain ⟨entries', key, here', mem'⟩ := ready listed done ret _ reading
              cases here.symm.trans here'
              rw [(wellFormed _ entries here).eq mem mem' rfl] at complete
              cases complete
          | some key =>
              refine iff_of_true ?_ ?_
              · dsimp only
                split <;> exact nofun
              · rintro listed' done' ret' name' reading'
                cases reading.symm.trans reading'
                refine ⟨entries, key, here, ?_⟩
                rw [← complete]
                exact mem
        · cases verified
    | endOfDir =>
        refine iff_of_true ?_ trivial
        simp only [State.verify] at verified
        split at verified
        · split at verified
          · cases verified
            exact nofun
          · cases verified
        · cases verified
    | _ => cases verifies

theorem aborted_step (aborted : s.verification = .aborted) (step : next c r s a = some t) :
    t.verification = .aborted := by
  obtain ⟨-, same, -⟩ | ⟨-, v, verified, -⟩ := next_cases step
  · exact same.trans aborted
  · cases a <;> simp [State.verify, aborted] at verified

theorem aborted_run {actions : List (Action ν Key)} (aborted : s.verification = .aborted)
    (run : (system c r).FreeRuns s actions t) : t.verification = .aborted :=
  run.invariant (I := fun s => s.verification = .aborted)
    (fun _ _ _ aborted _ step => aborted_step aborted step) aborted

/-- A run whose verification has not aborted in the end. -/
theorem Invariant.ready {actions : List (Action ν Key)} (first : Filed c.path s)
    (h : Invariant c r s t) (run : (system c r).FreeRuns t actions u)
    (unaborted : u.verification ≠ .aborted) : (system c r).Runs (Ready c r) t actions u := by
  induction run with
  | nil => exact .nil _
  | cons _ step tail ih =>
      have kept : _ ≠ _ := fun aborted => unaborted (aborted_run aborted (.cons trivial step tail))
      have kept' : _ ≠ _ := fun aborted => unaborted (aborted_run aborted tail)
      exact .cons ((h.unaborted_iff kept step).mp kept') step (ih (h.step first step) unaborted)

/-- The number of entries of the directory that is read. -/
def State.size (c : Setting ν δ Key Digest) (r : Request ν) (s : State ν δ Key) : Nat :=
  ((s.dir c r).getD []).length

/-- How many steps a verification can still take, when the directory has grown to this size. -/
def Verification.left (size : Nat) : Verification Key → Nat
  | .called => 2 * size + 2
  | .scanning _ done _ => 2 * (size - done.length) + 1
  | .reading _ done _ _ => 2 * (size - done.length)
  | _ => 0

omit [DecidableEq δ] in
theorem Later.size (later : Later s t) (filed : Filed c.path s) : s.size c r ≤ t.size c r := by
  cases here : s.dir c r with
  | none => simp [State.size, here]
  | some entries =>
      obtain ⟨after, here', ext⟩ := later _ entries here
      have there : t.dir c r = some after := here'
      simp only [State.size, here, there, Option.getD_some]
      exact length_le_of_extends (filed.wellFormed _ entries here) ext

/-- There is an entry for every one that is done with, and one more for the file that is read. -/
theorem Scanned.length_lt {accepts : Key → Bool} (h : Scanned accepts entries listed done)
    (named : name ∈ entries.map DirEntry.name) (unread : name ∉ done.map DirEntry.name) :
    done.length < entries.length := by
  have names : (name :: done.map DirEntry.name).Nodup := List.nodup_cons.mpr ⟨unread, h.names⟩
  have covered : name :: done.map DirEntry.name ⊆ entries.map DirEntry.name := by
    intro other mem
    obtain rfl | mem := List.mem_cons.mp mem
    · exact named
    · obtain ⟨e, done, rfl⟩ := List.mem_map.mp mem
      exact (h.done e done).1
  have bound := (List.subperm_of_subset names covered).length_le
  simp only [List.length_cons, List.length_map] at bound
  omega

omit [DecidableEq δ] in
theorem verify_left {size : Nat} (sound : Sound c r s t t.verification)
    (bound : t.size c r ≤ size) (step : t.verify c r a = some v) :
    v.left size < t.verification.left size := by
  cases a with
  | openDir =>
      simp only [State.verify] at step
      split at step
      · rename_i called _
        cases step
        rw [called]
        simp [Verification.left]
      · rename_i called _
        cases step
        rw [called]
        simp [Verification.left]
      · cases step
  | readDir name =>
      simp only [State.verify] at step
      split at step
      · rename_i listed done ret entries scanning here
        rw [scanning] at sound ⊢
        obtain ⟨-, -, entries', here', scanned⟩ := sound
        cases here.symm.trans here'
        rw [State.size, here, Option.getD_some] at bound
        split at step
        · rename_i named
          have more := scanned.length_lt named.1 named.2
          split at step <;> cases step
          · simp only [Verification.left, List.length_append, List.length_singleton]
            omega
          · simp only [Verification.left]
            omega
        · cases step
      · cases step
  | readKey =>
      simp only [State.verify] at step
      split at step
      · rename_i listed done ret name entries reading here
        rw [reading] at sound ⊢
        obtain ⟨-, entries', here', scanned, named, unread, -⟩ := sound
        cases here.symm.trans here'
        rw [State.size, here, Option.getD_some] at bound
        have more := scanned.length_lt named unread
        obtain ⟨e, -, rfl⟩ := Option.map_eq_some_iff.mp step
        split
        · simp only [Verification.left]
          omega
        · split
          · simp only [Verification.left]
            omega
          · simp only [Verification.left, List.length_append, List.length_singleton]
            omega
      · cases step
  | endOfDir =>
      simp only [State.verify] at step
      split at step
      · rename_i listed done ret scanning
        rw [scanning]
        split at step
        · cases step
          simp [Verification.left]
        · cases step
      · cases step
  | _ => cases step

theorem Filed.run {actions : List (Action ν Key)} (filed : Filed c.path s)
    (run : (system c r).FreeRuns s actions t) : Filed c.path t ∧ Later s t := by
  refine run.invariant (I := fun t => Filed c.path t ∧ Later s t) ?_ ⟨filed, Later.refl s⟩
  rintro t a u ⟨filed, later⟩ - step
  obtain ⟨filed', onward⟩ := filed.step step
  exact ⟨filed', later.trans onward⟩

/-- The verification takes at most as many steps as are left. -/
theorem Invariant.bounded {actions : List (Action ν Key)} {size : Nat} (first : Filed c.path s)
    (h : Invariant c r s t) (run : (system c r).FreeRuns t actions u)
    (bound : u.size c r ≤ size) :
    actions.countP Action.verifies + u.verification.left size ≤ t.verification.left size := by
  induction run with
  | nil => simp
  | @cons t t' u a rest _ step tail ih =>
      have taken : next c r t a = some t' := step
      have h' := h.step first taken
      have rest := ih h' bound
      obtain ⟨generates, same, -⟩ | ⟨verifies, v, verified, rfl⟩ := next_cases taken
      · rw [List.countP_cons_of_neg (by simp [generates]), ← same]
        exact rest
      · have later := (h.filed.step taken).2.trans (h'.filed.run tail).2
        have grown : t.size c r ≤ u.size c r := later.size h.filed
        have lower := verify_left h.sound (grown.trans bound) verified
        rw [List.countP_cons_of_pos verifies]
        simp only at rest
        omega

theorem reached_called {before : List (Action ν Key)}
    (reached : (system c r).FreeRuns fresh before s) (called : s.verification = .called) :
    Filed c.path s ∧ Invariant c r s s := by
  have filed : Filed c.path (fresh : State ν δ Key) := ⟨nofun, nofun, nofun⟩
  have first : Filed c.path s := (filed.run reached).1
  exact ⟨first, first, Later.refl s, by rw [called]; trivial⟩

/-- A verification is served in every state of a run exactly when the directory exists and the
files have their keys; and it takes no more steps than there are entries to read. -/
theorem verification_total_iff {before actions : List (Action ν Key)}
    (reached : (system c r).FreeRuns fresh before s) (called : s.verification = .called)
    (run : (system c r).FreeRuns s actions t) :
    ((system c r).Always (Served c r s) s actions ↔ (system c r).Runs (Ready c r) s actions t) ∧
      actions.countP Action.verifies ≤ 2 * t.size c r + 2 := by
  obtain ⟨first, start⟩ := reached_called reached called
  have unaborted : s.verification ≠ .aborted := by
    rw [called]
    exact nofun
  constructor
  · refine run.always_iff
      (I := fun t => Invariant c r s t ∧ t.verification ≠ .aborted)
      (fun t h => h.1.served h.2) ?_ ?_ ⟨start, unaborted⟩
    · rintro t a u ⟨h, kept⟩ ready step
      exact ⟨h.step first step, (h.unaborted_iff kept step).mpr ready⟩
    · rintro t a u ⟨h, kept⟩ step served
      exact (h.unaborted_iff kept step).mp served.unaborted
  · have bounded := start.bounded first run (Nat.le_refl (t.size c r))
    rw [called, Verification.left] at bounded
    omega

end Verification

namespace Example

/-- Users, directories and keys by number; a signature is a key. -/
def setting : Setting Nat Nat UInt8 Unit := ⟨id, fun _ => (), fun _ sig key => sig == [key]⟩

def request : Request Nat := ⟨[], 1, [7]⟩

/-- One whole call of `sspl_generate_session_token`. -/
def session (i : Nat) (name : String) (key : UInt8) : List (Action Nat UInt8) :=
  [.generate i 1, .ensure i, .create i name, .writePublic i key, .writePrivate i]

/-- A second session begins while the signature of the first one is verified. -/
def interleaved : List (Action Nat UInt8) :=
  [.openDir, .readDir ".", .generate 1 1, .ensure 1, .create 1 "bbbbbb", .readDir "..",
    .readDir "aaaaaa", .readKey, .writePublic 1 9, .writePrivate 1]

inductive Outcome
  | called
  | running
  | returned (ret : Int)
  | aborted
  deriving DecidableEq

def outcome (s : State Nat Nat UInt8) : Outcome :=
  match s.verification with
  | .called => .called
  | .returned ret => .returned ret
  | .aborted => .aborted
  | _ => .running

theorem interleaved_replay :
    ((system setting request).run fresh (session 0 "aaaaaa" 7)).map (fun s =>
      (outcome s, ((system setting request).run s interleaved).map outcome)) =
        some (.called, some (.returned 1)) := by
  decide +kernel

/-- A verification goes on while another session is generated. -/
theorem interleaved_served : ∃ s t : State Nat Nat UInt8, t.verification = .returned 1 ∧
    (system setting request).Always (Served setting request s) s interleaved := by
  obtain ⟨s, replay, found⟩ := Option.map_eq_some_iff.mp interleaved_replay
  obtain ⟨before, after⟩ := Prod.mk.inj found
  obtain ⟨t, replay', after⟩ := Option.map_eq_some_iff.mp after
  have reached := (Transition.System.run_eq_some_iff _).mp replay
  have run := (Transition.System.run_eq_some_iff _).mp replay'
  have called : s.verification = .called := by
    unfold outcome at before
    split at before <;> first | assumption | cases before
  have returned : t.verification = .returned 1 := by
    unfold outcome at after
    split at after <;> cases after
    assumption
  obtain ⟨first, start⟩ := reached_called reached called
  have ready := start.ready first run (returned.trans_ne nofun)
  exact ⟨s, t, returned, (verification_total_iff reached called run).1.mpr ready⟩

/-- The user is not known. -/
theorem unknown_replay :
    ((system setting request).run fresh [.openDir]).map outcome = some .aborted := by
  decide +kernel

/-- The file of a session that has begun is read. -/
def halfWritten : List (Action Nat UInt8) :=
  [.generate 0 1, .ensure 0, .create 0 "aaaaaa", .openDir, .readDir "aaaaaa", .readKey]

example : ((system setting request).run fresh halfWritten).map outcome = some .aborted := by
  decide +kernel

/-- A message of a user who never had a session aborts the process. -/
theorem unknown_user_aborts : ¬ ∀ (before actions : List (Action Nat UInt8))
    (s t : State Nat Nat UInt8), (system setting request).FreeRuns fresh before s →
      s.verification = .called → (system setting request).FreeRuns s actions t →
        (system setting request).Always (Served setting request s) s actions := by
  intro all
  obtain ⟨t, replay, after⟩ := Option.map_eq_some_iff.mp unknown_replay
  have run := (Transition.System.run_eq_some_iff _).mp replay
  have served := all [] [.openDir] fresh t (.nil _) rfl run _ [] t (List.append_nil _).symm run
  have aborted : t.verification = .aborted := by
    unfold outcome at after
    split at after <;> first | assumption | cases after
  exact served.unaborted aborted

end Example

end KeyFiles

end Sspl

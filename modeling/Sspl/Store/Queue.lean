import Mathlib.Logic.Function.Basic
import Sspl.Foundation.Call
import Sspl.Python.Value

/-!
# The store queue

`StoreQueue` keeps the messages that could not be sent under the numbered keys
`MESSAGES/<n>` of the persistent store, with three further keys for the head
index, the tail index and the charged size. Its objects hold no data of their
own: every property access is a `store.get` and every assignment a `store.put`.

The methods are translated as `Atomic.Call`s over the content of the store, one
atomic access for each `store.get`, `store.put` and `store.delete`, in the order
in which Python evaluates them. Reading an attribute twice is two accesses.

A counter is pickled and read back as an integer. A message is written as the
bytes of its text; `FileStore.get` first offers the file to `pickle.load`, which
refuses the `{` every message starts with without consuming it, and then returns
the bytes. A text put in the queue is therefore what `get` gives back.
-/

namespace Sspl

/-- The keys of the store that the queue uses, with what they hold. -/
structure Store (M : Type) where
  memoryUsage : Option Int
  headIndex : Option Nat
  tailIndex : Option Nat
  messages : Nat → Option M

namespace Store

variable {M : Type}

/-- A store no queue was ever created over. -/
def empty : Store M := ⟨none, none, none, fun _ => none⟩

/-- `__init__` has written the three counters, so the default is never used. -/
def currentSize (s : Store M) : Int := s.memoryUsage.getD 0
def head (s : Store M) : Nat := s.headIndex.getD 0
def tail (s : Store M) : Nat := s.tailIndex.getD 0

def setCurrentSize (size : Int) (s : Store M) : Store M := { s with memoryUsage := some size }
def setHead (index : Nat) (s : Store M) : Store M := { s with headIndex := some index }
def setTail (index : Nat) (s : Store M) : Store M := { s with tailIndex := some index }

def putMessage (index : Nat) (item : M) (s : Store M) : Store M :=
  { s with messages := Function.update s.messages index (some item) }

def deleteMessage (index : Nat) (s : Store M) : Store M :=
  { s with messages := Function.update s.messages index none }

@[simp] theorem head_setHead (i : Nat) (s : Store M) : (s.setHead i).head = i := rfl
@[simp] theorem head_setTail (i : Nat) (s : Store M) : (s.setTail i).head = s.head := rfl
@[simp] theorem head_setCurrentSize (n : Int) (s : Store M) :
    (s.setCurrentSize n).head = s.head := rfl
@[simp] theorem head_putMessage (i : Nat) (m : M) (s : Store M) :
    (s.putMessage i m).head = s.head := rfl
@[simp] theorem head_deleteMessage (i : Nat) (s : Store M) :
    (s.deleteMessage i).head = s.head := rfl

@[simp] theorem tail_setTail (i : Nat) (s : Store M) : (s.setTail i).tail = i := rfl
@[simp] theorem tail_setHead (i : Nat) (s : Store M) : (s.setHead i).tail = s.tail := rfl
@[simp] theorem tail_setCurrentSize (n : Int) (s : Store M) :
    (s.setCurrentSize n).tail = s.tail := rfl
@[simp] theorem tail_putMessage (i : Nat) (m : M) (s : Store M) :
    (s.putMessage i m).tail = s.tail := rfl
@[simp] theorem tail_deleteMessage (i : Nat) (s : Store M) :
    (s.deleteMessage i).tail = s.tail := rfl

@[simp] theorem currentSize_setCurrentSize (n : Int) (s : Store M) :
    (s.setCurrentSize n).currentSize = n := rfl
@[simp] theorem currentSize_setHead (i : Nat) (s : Store M) :
    (s.setHead i).currentSize = s.currentSize := rfl
@[simp] theorem currentSize_setTail (i : Nat) (s : Store M) :
    (s.setTail i).currentSize = s.currentSize := rfl
@[simp] theorem currentSize_putMessage (i : Nat) (m : M) (s : Store M) :
    (s.putMessage i m).currentSize = s.currentSize := rfl
@[simp] theorem currentSize_deleteMessage (i : Nat) (s : Store M) :
    (s.deleteMessage i).currentSize = s.currentSize := rfl

@[simp] theorem messages_setHead (i : Nat) (s : Store M) :
    (s.setHead i).messages = s.messages := rfl
@[simp] theorem messages_setTail (i : Nat) (s : Store M) :
    (s.setTail i).messages = s.messages := rfl
@[simp] theorem messages_setCurrentSize (n : Int) (s : Store M) :
    (s.setCurrentSize n).messages = s.messages := rfl
@[simp] theorem messages_putMessage (i : Nat) (m : M) (s : Store M) :
    (s.putMessage i m).messages = Function.update s.messages i (some m) := rfl
@[simp] theorem messages_deleteMessage (i : Nat) (s : Store M) :
    (s.deleteMessage i).messages = Function.update s.messages i none := rfl

end Store

/-- What the queue reads from its surroundings: the configured memory limit,
`sys.getsizeof` of the text given to `put` and of the bytes `get` returns, and
the number of frames the interpreter still allows when `put` is called. -/
structure QueueConf (M : Type) where
  maxSize : Int := 50000000
  sizeOfText : M → Int
  sizeOfBytes : M → Int
  stackDepth : Nat

namespace QueueConf

variable {M : Type}

/-- `sys.getsizeof` of what `store.get` returned; it is 16 for `None`. -/
def getsizeof (conf : QueueConf M) : Option M → Int
  | some item => conf.sizeOfBytes item
  | none => 16

end QueueConf

namespace StoreQueue

open Atomic

variable {M : Type}

/-- `__init__`: each counter that the store does not have yet starts at zero. -/
def init : Call (Store M) Unit := do
  let size ← Call.read Store.memoryUsage
  if size = none then Call.write (Store.setCurrentSize 0)
  let head ← Call.read Store.headIndex
  if head = none then Call.write (Store.setHead 0)
  let tail ← Call.read Store.tailIndex
  if tail = none then Call.write (Store.setTail 0)

def isEmpty : Call (Store M) Bool := do
  let tail ← Call.read Store.tail
  let head ← Call.read Store.head
  if tail = head then
    Call.write (Store.setHead 0)
    Call.write (Store.setTail 0)
    Call.write (Store.setCurrentSize 0)
    return true
  else
    return false

def isFull (conf : QueueConf M) (sizeOfItem : Int) : Call (Store M) Bool := do
  let currentSize ← Call.read Store.currentSize
  return decide (conf.maxSize ≤ currentSize + sizeOfItem)

def get : Call (Store M) (Option M) := do
  if ← isEmpty then
    return none
  else
    let head ← Call.read Store.head
    let item ← Call.read (fun s => s.messages head)
    return item

def delete (conf : QueueConf M) : Call (Store M) Unit := do
  if ← isEmpty then
    return ()
  else
    let head ← Call.read Store.head
    let item ← Call.read (fun s => s.messages head)
    let head ← Call.read Store.head
    Call.write (Store.deleteMessage head)
    let head ← Call.read Store.head
    Call.write (Store.setHead (head + 1))
    let currentSize ← Call.read Store.currentSize
    Call.write (Store.setCurrentSize (currentSize - conf.getsizeof item))

/-- `_create_space` looks at the head again and again but removes nothing; it
ends when the sizes it has added up make room, or when the recursion runs out of
frames, of which the first argument counts those that are left. -/
def createSpace (conf : QueueConf M) (sizeOfItem : Int) :
    Nat → Int → Call (Store M) (Except PyErr Unit)
  | 0, _ => return .error .recursionError
  | frames + 1, reclaimedSpace => do
    let currentSize ← Call.read Store.currentSize
    if conf.maxSize ≤ currentSize - reclaimedSpace + sizeOfItem then
      let item ← get
      createSpace conf sizeOfItem frames (reclaimedSpace + conf.getsizeof item)
    else
      return .ok ()

/-- The part of `put` behind the check of the memory limit. -/
def append (conf : QueueConf M) (item : M) : Call (Store M) Unit := do
  let tail ← Call.read Store.tail
  Call.write (Store.putMessage tail item)
  let tail ← Call.read Store.tail
  Call.write (Store.setTail (tail + 1))
  let currentSize ← Call.read Store.currentSize
  Call.write (Store.setCurrentSize (currentSize + conf.sizeOfText item))
  let _ ← Call.read Store.currentSize

def put (conf : QueueConf M) (item : M) : Call (Store M) (Except PyErr Unit) := do
  if ← isFull conf (conf.sizeOfText item) then
    match ← createSpace conf (conf.sizeOfText item) conf.stackDepth 0 with
    | .error err => return .error err
    | .ok () =>
      append conf item
      return .ok ()
  else
    append conf item
    return .ok ()

end StoreQueue

end Sspl

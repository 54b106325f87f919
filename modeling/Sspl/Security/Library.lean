import Sspl.Foundation.Wide
import Sspl.Python.Value

/-!
# The verification functions of libsspl_sec

`sspl_verify_message` exists once for every signing method; the library forwards
each call to the method it has loaded. Both functions return 1 when the signature
verifies and 0 when it does not. A failing assertion, a null directory and a read
from unmapped memory end the process, which is the result `none` here.

Python calls the library through ctypes without declared argument types: a string
becomes a wide character buffer, `None` the null pointer and an integer an
address. RSA and the hash are parameters, and so is what the memory holds outside
the buffers made for the call.
-/

namespace Sspl

/-- A pointer argument of a foreign call. -/
inductive CArg
  | null
  | address (n : Int)
  | wide (text : List Char)

/-- The conversion of a text; one with a character zero in it is refused. -/
def CArg.ofText (text : List Char) : Except PyErr CArg :=
  if text.contains (Char.ofNat 0) then .error .argumentError else .ok (.wide text)

/-- The conversion of a Python value without declared type. -/
def CArg.ofPython : Json → Except PyErr CArg
  | .null => .ok .null
  | .bool b => .ok (.address (if b then 1 else 0))
  | .int n => .ok (.address (n.bmod (2 ^ 32)))
  | .str s => CArg.ofText s.toList
  | _ => .error .argumentError

/-- An argument of type `unsigned int`. -/
def unsignedInt (n : Nat) : Nat := n % 2 ^ 32

/-- The memory of the process, as far as it is not made of the call's buffers:
what is readable from an address on, and from the end of a buffer on. -/
structure Memory where
  mapped : Int → List UInt8
  beyond : List Char → List UInt8

namespace Memory

variable (memory : Memory)

/-- All bytes that can be read from the pointer on. -/
def readable : CArg → List UInt8
  | .null => []
  | .address n => memory.mapped n
  | .wide text => Wide.bytes text ++ memory.beyond text

/-- Read `n` bytes. -/
def readBytes (n : Nat) (arg : CArg) : Option (List UInt8) :=
  if n ≤ (memory.readable arg).length then some ((memory.readable arg).take n) else none

/-- Read a string up to its terminating zero. -/
def readString (arg : CArg) : Option (List UInt8) :=
  if (memory.readable arg).contains 0 then
    some ((memory.readable arg).takeWhile (fun b => b ≠ 0))
  else none

/-- A read within a wide buffer sees the buffer only. -/
theorem readBytes_wide {n : Nat} {text : List Char} (h : n ≤ 4 * text.length + 4) :
    memory.readBytes n (.wide text) = some ((Wide.bytes text).take n) := by
  have length := Wide.bytes_length text
  rw [readBytes, readable, if_pos (by rw [List.length_append]; omega),
    List.take_append_of_le_length (by omega)]

end Memory

/-- The signing methods of the library. -/
inductive SecMethod
  | none
  | pki

/-- A directory entry, with the private key that can be read from the file. -/
structure DirEntry (Key : Type) where
  name : String
  key : Option Key

/-- What the pki method uses: the hash, RSA with its result convention, and the
entries of `/tmp/pki/<username>/pri` in the order of `readdir`, if it exists. -/
structure Pki (Key Digest : Type) where
  hash : List UInt8 → Digest
  rsaVerify : Digest → List UInt8 → Key → Int
  keyDir : List UInt8 → Option (List (DirEntry Key))

structure SecLib (Key Digest : Type) where
  method : SecMethod
  memory : Memory
  pki : Pki Key Digest

variable {Key Digest : Type}

/-- The bytes of the constant that stands for every signature of the method none. -/
def noneSig : List UInt8 := [78, 111, 110, 101]

def NoneMethod.ssplVerifyMessage (memory : Memory) (sig : CArg) : Option Int := do
  let read ← memory.readBytes noneSig.length sig
  return if read = noneSig then 1 else 0

/-- `sspl_get_sig_length` of the pki method. -/
def Pki.sigLength : Nat := 1024 / 8

/-- The loop over the key files: the last result of `RSA_verify`, left at the
first key that verifies. -/
def Pki.verifyLoop (rsaVerify : Key → Option Int) : List (DirEntry Key) → Int → Option Int
  | [], ret => some ret
  | entry :: rest, ret =>
    if entry.name = "." ∨ entry.name = ".." then verifyLoop rsaVerify rest ret
    else match entry.key with
      | none => none
      | some key => match rsaVerify key with
        | none => none
        | some ret => if ret = 1 then some ret else verifyLoop rsaVerify rest ret

def Pki.ssplVerifyMessage (pki : Pki Key Digest) (memory : Memory) (msgLen : Nat)
    (msg username sig : CArg) : Option Int := do
  let message ← memory.readBytes msgLen msg
  let digest := pki.hash message
  let user ← memory.readString username
  let dir ← pki.keyDir user
  verifyLoop (fun key => do
    let signature ← memory.readBytes sigLength sig
    return pki.rsaVerify digest signature key) dir 0

/-- The dispatcher. -/
def SecLib.ssplVerifyMessage (lib : SecLib Key Digest) (msgLen : Nat)
    (msg username sig : CArg) : Option Int :=
  match lib.method with
  | .none => NoneMethod.ssplVerifyMessage lib.memory sig
  | .pki => lib.pki.ssplVerifyMessage lib.memory msgLen msg username sig

end Sspl

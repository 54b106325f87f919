import Sspl.Threads.Mailbox
import Sspl.Foundation.Try
import Sspl.Python.Value

/-!
# The internal message queues and the debug flags

The modules of the daemon run on threads of their own and write to each other through one
queue a module. A module that reads its queue examines the debug section of the message
first: that changes its two debug flags and may withhold the message. A message that turns
debug mode off and names no component is a request for all modules, and its reader writes to
every queue before it goes on.

`readMyMsgQ`, `readMyMsgQNoWait` and `writeInternalMsgQ` are the methods in one piece.
`network` has them as the threads run them, where the writes of one reader interleave with
what the others do. `pieces` runs the methods in one piece, in any order, and every run of it
is one of the network (`pieces_refine`).
-/

namespace Sspl

namespace Threads

open Mailbox Transition

/-- A message with the event its sender waits for, if any. -/
abbrev Entry := Json × Option Nat

/-- What a module has of `Debug`. -/
structure Module where
  debug : Bool
  debugPersist : Bool

abbrev Block (α : Type) := Try Module PyErr α

namespace Module

def setDebug (debug : Bool) (m : Module) : Module :=
  if m.debugPersist = false then { m with debug := debug } else m

def setDebugPersist (debugPersist : Bool) (m : Module) : Module :=
  { m with debugPersist := debugPersist }

def disableDebugIfPersistFalse (m : Module) : Module :=
  if m.debugPersist = false then { m with debug := false } else m

@[simp] theorem setDebug_debugPersist (debug : Bool) (m : Module) :
    (m.setDebug debug).debugPersist = m.debugPersist := by
  unfold setDebug
  split <;> rfl

@[simp] theorem disableDebugIfPersistFalse_debugPersist (m : Module) :
    m.disableDebugIfPersistFalse.debugPersist = m.debugPersist := by
  unfold disableDebugIfPersistFalse
  split <;> rfl

end Module

/-- The queues there are, and how a text is read. -/
structure Daemon where
  msgQlist : List String
  loads : String → Except PyErr Json

/-- The message that turns debug mode off in a module. -/
def debugOff : Json :=
  .dict (.cons "sspl_ll_debug"
    (.dict (.cons "debug_component" (.str "all") (.cons "debug_enabled" (.bool false) .nil))) .nil)

/-- The message that has the thread controller bounce the threads. -/
def bounce : Json :=
  .dict (.cons "sspl_ll_debug" (.dict (.cons "debug_component" (.str "all") .nil)) .nil)

abbrev State := Mailbox.State String Entry Module

namespace Daemon

variable (d : Daemon)

/-- The message as a dictionary, with `debug_enabled` and `debug_component` of its debug
section. -/
def debugFields (jsonMsgRaw : Json) : Except PyErr (Json × Json × Json) := do
  let jsonMsg ← match jsonMsgRaw with
    | .dict fields => .ok (.dict fields)
    | .str text => d.loads text
    | _ => .error .typeError
  let debugSection ← jsonMsg.get "sspl_ll_debug"
  if debugSection.isNone then return (jsonMsg, .null, .null)
  else
    return (jsonMsg, ← debugSection.get "debug_enabled", ← debugSection.get "debug_component")

def checkDebug (jsonMsgRaw : Json) : Block (Bool × Json) := do
  let (jsonMsg, debugEnabled, debugComponent) ← .ofExcept (d.debugFields jsonMsgRaw)
  if debugEnabled.isNone then
    .modify (Module.setDebug (!debugComponent.isNone))
    return (false, jsonMsg)
  else if debugEnabled = .bool false then
    .modify (Module.setDebugPersist false)
    -- no component: debug mode is to go off everywhere
    if debugComponent.isNone then return (true, .null)
    -- what the reader of such a request writes to the other modules
    else if debugComponent = .str "all" then return (false, .null)
    else return (false, jsonMsg)
  else if debugEnabled = .bool true then
    .modify fun m => (m.setDebug true).setDebugPersist true
    return (false, jsonMsg)
  else return (false, jsonMsg)

def writeInternalMsgQ (toModule : String) (jsonMsg : Json) (event : Option Nat) :
    Try State PyErr PUnit := do
  Try.ofExcept (if toModule ∈ d.msgQlist then .ok ⟨⟩ else .error .keyError)
  .modify fun s => s.put d.msgQlist.toFinset toModule (jsonMsg, event)

def debugOffGlobally : Try State PyErr PUnit := do
  (d.msgQlist.filter (· ≠ "ThreadController")).forM fun msgQ =>
    d.writeInternalMsgQ msgQ debugOff none
  d.writeInternalMsgQ "ThreadController" bounce none

def become (s : State) (name : String) (m : Module) : State :=
  { s with memory := Function.update s.memory name m }

/-- A method that only touches the module itself. -/
def onModule (name : String) {α : Type} (block : Block α) : Try State PyErr α := fun s =>
  ((block.run (s.memory name)).1, become s name (block.run (s.memory name)).2)

/-- `_read_my_msgQ` behind `q.get()`. -/
def examineFront (name : String) (jsonMsg : Json) (event : Option Nat) :
    Try State PyErr Entry := do
  if jsonMsg.isNone then return (.null, none)
  else
    let (globalDebugOff, checked) ← onModule name (d.checkDebug jsonMsg)
    if globalDebugOff then d.debugOffGlobally
    return (checked, event)

/-- The front entry is no longer in the queue. -/
def got (s : State) (name : String) (entry : Entry) (rest : List Entry) : State :=
  { s with
    box := Function.update s.box name rest
    taken := Function.update s.taken name (s.taken name ++ [entry]) }

/-- What `_read_my_msgQ` returns; `none` where it blocks. After an exception it returns
`(None, None)`. -/
def readMyMsgQ (name : String) (s : State) : Option (Entry × State) :=
  if name ∈ d.msgQlist then
    match s.box name with
    | [] => none
    | (jsonMsg, event) :: rest =>
        match (d.examineFront name jsonMsg event).run (got s name (jsonMsg, event) rest) with
        | (.ok entry, t) => some (entry, t)
        | (.error _, t) => some ((.null, none), t)
  else some ((.null, none), s)

/-- What `_read_my_msgQ_noWait` returns: `(None, None)` from an empty queue, and after an
exception `None`, for which the model has `none`. -/
def readMyMsgQNoWait (name : String) (s : State) : Option Entry × State :=
  if name ∈ d.msgQlist then
    match s.box name with
    | [] => (some (.null, none), s)
    | (jsonMsg, event) :: rest =>
        match (d.examineFront name jsonMsg event).run (got s name (jsonMsg, event) rest) with
        | (.ok entry, t) => (some entry, t)
        | (.error _, t) => (none, t)
  else (none, s)

/-- What examining an entry comes to, whatever the flags of the reader are. -/
def outcome (entry : Entry) : Except PyErr Entry :=
  if entry.1.isNone then .ok (.null, none)
  else match ((d.checkDebug entry.1).run ⟨false, false⟩).1 with
    | .ok (true, checked) =>
        if "ThreadController" ∈ d.msgQlist then .ok (checked, entry.2) else .error .keyError
    | .ok (false, checked) => .ok (checked, entry.2)
    | .error err => .error err

/-- The entry asks for debug mode to go off in all modules. -/
def asksForAll (entry : Entry) : Bool :=
  !entry.1.isNone && match ((d.checkDebug entry.1).run ⟨false, false⟩).1 with
    | .ok (globalDebugOff, _) => globalDebugOff
    | .error _ => false

/-- What reading an entry does to the flags of the reader. -/
def flagged (entry : Entry) (m : Module) : Module :=
  if entry.1.isNone then m else ((d.checkDebug entry.1).run m).2

/-- The writes of `_debug_off_globally`. -/
def notifications : List (String × Entry) :=
  (d.msgQlist.filter (· ≠ "ThreadController")).map (·, (debugOff, none)) ++
    [("ThreadController", (bounce, none))]

/-- What a module does to its own flags outside of `_read_my_msgQ`. -/
inductive Move
  | setDebug (debug : Bool)
  | setDebugPersist (debugPersist : Bool)
  | disableDebugIfPersistFalse

def Move.run : Move → Module → Module
  | .setDebug debug => Module.setDebug debug
  | .setDebugPersist debugPersist => Module.setDebugPersist debugPersist
  | .disableDebugIfPersistFalse => Module.disableDebugIfPersistFalse

/-- The modules, each of which reads its own queue and may write to any. -/
def network : Protocol String Entry Module Move where
  parties := d.msgQlist.toFinset
  react _ entry m := d.flagged entry m
  replies entry := if d.asksForAll entry then d.notifications else []
  move := Move.run

/-- The daemon at its start, with the flags its modules were made with. -/
def start (debug debugPersist : String → Bool) : State where
  memory name := ⟨debug name, debugPersist name⟩
  box _ := []
  outgoing _ := []
  written _ := []
  taken _ := []

/-- The entry turns debug mode on for good. -/
def enables (entry : Entry) : Bool :=
  match d.debugFields entry.1 with
  | .ok (_, debugEnabled, _) => debugEnabled = .bool true
  | .error _ => false

variable {d}

theorem checkDebug_error {jsonMsgRaw : Json} {err : PyErr}
    (failed : d.debugFields jsonMsgRaw = .error err) (m : Module) :
    (d.checkDebug jsonMsgRaw).run m = (.error err, m) := by
  simp only [checkDebug, failed]
  rfl

/-- What a module that has read the debug section returns, and what it does to its flags. -/
theorem checkDebug_ok {jsonMsgRaw jsonMsg enabled component : Json}
    (read : d.debugFields jsonMsgRaw = .ok (jsonMsg, enabled, component)) (m : Module) :
    (d.checkDebug jsonMsgRaw).run m =
      if enabled.isNone then (.ok (false, jsonMsg), m.setDebug (!component.isNone))
      else if enabled = .bool false then
        (.ok (if component.isNone then (true, .null)
          else if component = .str "all" then (false, .null)
          else (false, jsonMsg)), m.setDebugPersist false)
      else if enabled = .bool true then
        (.ok (false, jsonMsg), (m.setDebug true).setDebugPersist true)
      else (.ok (false, jsonMsg), m) := by
  simp only [checkDebug, read, Try.run_ofExcept_bind_ok]
  split
  · rfl
  · split
    · split
      · rfl
      · split <;> rfl
    · split <;> rfl

theorem flagged_debugPersist {entry : Entry} {m : Module} (plain : d.enables entry = false)
    (off : m.debugPersist = false) : (d.flagged entry m).debugPersist = false := by
  unfold flagged
  split
  · exact off
  · cases read : d.debugFields entry.1 with
    | error err =>
        rw [checkDebug_error read]
        exact off
    | ok parts =>
        obtain ⟨jsonMsg, enabled, component⟩ := parts
        simp only [enables, read, decide_eq_false_iff_not] at plain
        rw [checkDebug_ok read]
        split
        · simpa using off
        · split
          · rfl
          · exact off

/-- The front entry is examined: the flags of the reader have changed. -/
def examined (d : Daemon) (s : State) (name : String) (entry : Entry) (rest : List Entry) :
    State :=
  become (got s name entry rest) name (d.flagged entry (s.memory name))

theorem start_accounted (debug debugPersist : String → Bool) :
    d.network.Accounted (start debug debugPersist) :=
  ⟨fun _ => rfl, fun _ _ => rfl⟩

/-- A method of a module in one piece: a read of its queue with everything that the read sets off,
a write to a queue, or a change of its own flags. -/
inductive Piece
  | readMyMsgQ (name : String)
  | readMyMsgQNoWait (name : String)
  | writeInternalMsgQ (toModule : String) (jsonMsg : Json) (event : Option Nat)
  | move (name : String) (how : Move)

/-- The state a method leaves, unless it blocks. -/
def runPiece (d : Daemon) (s : State) : Piece → Option State
  | .readMyMsgQ name => (d.readMyMsgQ name s).map Prod.snd
  | .readMyMsgQNoWait name => some (d.readMyMsgQNoWait name s).2
  | .writeInternalMsgQ toModule jsonMsg event =>
      some ((d.writeInternalMsgQ toModule jsonMsg event).run s).2
  | .move name how => some (become s name (how.run (s.memory name)))

/-- The methods in one piece, one after the other. -/
def pieces (d : Daemon) : System State Piece where
  init s := ∃ debug debugPersist, s = start debug debugPersist
  next := d.runPiece

/-- Nothing waits to be sent: the method that was executed last has written all its messages. -/
def Settled (s : State) : Prop := ∀ name, s.outgoing name = []

end Daemon

end Threads

end Sspl

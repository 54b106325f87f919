import Mathlib.Logic.Function.Basic
import Sspl.Foundation.Alternation
import Sspl.Foundation.System
import Sspl.Node.Alert

/-!
# The alerts of the network interfaces

`_generate_if_data` raises two kinds of alerts for an interface: one for the interface itself
and one for its cable. For each kind the handler keeps the status it has last told, and both
maps are written to a file with every alert.

An interface that is down without its cable being disconnected has a fault of its own. The
branches are nested so that the cable of such an interface is told to be connected again
first, but only if it is said to be connected.
-/

namespace Sspl

namespace Node

namespace Network

/-- An element of `if_data`, as far as the alerts depend on it. -/
structure Interface where
  ifId : String
  nwStatus : String
  nwCableConnStatus : String

/-- What an alert is about: `node:interface:nw` or `node:interface:nw:cable`. -/
inductive Resource
  | interface
  | cable
  deriving DecidableEq

/-- The status that is kept for a faulty one. -/
def Resource.faulty : Resource → String
  | interface => "DOWN"
  | cable => "DISCONNECTED"

/-- The status that is kept for one whose fault is resolved. -/
def Resource.resolved : Resource → String
  | interface => "UP"
  | cable => "CONNECTED"

/-- `nw_alert_desc` and `cable_alert_desc`. -/
def Resource.event (resource : Resource) (ifName status : String) : String :=
  match resource with
  | interface => "Network interface " ++ ifName ++ " is " ++ status ++ "."
  | cable => "Newtork Cable for interface " ++ ifName ++ " is " ++ status ++ "."

structure IfDataMsg where
  resourceId : String
  resourceType : Resource
  state : AlertType
  event : String

/-- `prev_nw_if_status` and `prev_cable_status`. -/
abbrev Prev := Resource → String → Option String

/-- The maps of the handler, those in the file and the messages for the egress processor. -/
structure State where
  prev : Prev
  file : Prev
  sent : List IfDataMsg

/-- The first start: `init_from_persistent_cache` finds no file and writes one. -/
def start : State := ⟨fun _ _ => none, fun _ _ => none, []⟩

namespace State

/-- `_send_ifdata_json_msg`, after the status in the map has been changed. The message and the
file that is written after it are one step: a restart comes before both or after both. -/
def tell (s : State) (resource : Resource) (ifName status : String) (state : AlertType) : State :=
  let prev := Function.update s.prev resource
    (Function.update (s.prev resource) ifName (some status))
  { prev := prev
    file := prev
    sent := s.sent ++ [⟨ifName, resource, state, resource.event ifName status⟩] }

/-- Raise a fault unless it has been told. -/
def raiseFault (s : State) (resource : Resource) (ifName : String) : State :=
  if s.prev resource ifName ≠ some resource.faulty then
    s.tell resource ifName resource.faulty .fault
  else s

/-- Resolve a fault that has been told. -/
def resolveFault (s : State) (resource : Resource) (ifName : String) : State :=
  if s.prev resource ifName = some resource.faulty then
    s.tell resource ifName resource.resolved .faultResolved
  else s

/-- The body of the loop in `_generate_if_data`. -/
def report (upper : String → String) (s : State) (i : Interface) : State :=
  let nwIfStatus := upper i.nwStatus
  if nwIfStatus = "DOWN" ∨ nwIfStatus = "UNKNOWN" then
    let nwCableStatus := upper i.nwCableConnStatus
    if nwCableStatus = "DISCONNECTED" then s.raiseFault .cable i.ifId
    else if nwCableStatus = "CONNECTED" then
      (s.resolveFault .cable i.ifId).raiseFault .interface i.ifId
    else s.raiseFault .interface i.ifId
  else (s.resolveFault .interface i.ifId).resolveFault .cable i.ifId

/-- `_generate_if_data` with what the node sensor has read. -/
def generateIfData (upper : String → String) (interfaces : List Interface) (s : State) : State :=
  interfaces.foldl (report upper) s

/-- A new handler reads the file. -/
def restart (s : State) : State := { s with prev := s.file }

/-- The alerts sent, by what they are about. -/
def alerts (s : State) : List ((Resource × String) × AlertType) :=
  s.sent.map (fun msg => ((msg.resourceType, msg.resourceId), msg.state))

/-- The last alert about this is a fault. -/
def Outstanding (s : State) (resource : Resource) (ifName : String) : Prop :=
  (entries (resource, ifName) s.alerts).getLast? = some .fault

end State

/-- The interfaces of the node are polled, or a new process begins with what the file holds. -/
inductive Action where
  | poll (interfaces : List Interface)
  | restart

/-- The handler; `upper` is the method of the texts. -/
def system (upper : String → String) : Transition.System State Action where
  init s := s = start
  next s a := match a with
    | .poll interfaces => some (s.generateIfData upper interfaces)
    | .restart => some s.restart

/-- What the alerts of an interface have to be after it was reported: nothing is outstanding if it
is up, and otherwise the fault of the cable or the one of the interface is. -/
structure Told (upper : String → String) (s : State) (i : Interface) : Prop where
  up : upper i.nwStatus ≠ "DOWN" → upper i.nwStatus ≠ "UNKNOWN" →
    ¬ s.Outstanding .interface i.ifId ∧ ¬ s.Outstanding .cable i.ifId
  disconnected : upper i.nwStatus = "DOWN" ∨ upper i.nwStatus = "UNKNOWN" →
    upper i.nwCableConnStatus = "DISCONNECTED" → s.Outstanding .cable i.ifId
  down : upper i.nwStatus = "DOWN" ∨ upper i.nwStatus = "UNKNOWN" →
    upper i.nwCableConnStatus ≠ "DISCONNECTED" → s.Outstanding .interface i.ifId

/-- The status kept for a resource says whether its fault is outstanding. -/
def Pending (s : State) (key : Resource × String) : Prop := s.prev key.1 key.2 = some key.1.faulty

structure Invariant (s : State) : Prop where
  file : s.file = s.prev
  alerts : Tracks .fault .faultResolved s.alerts (Pending s)

theorem Invariant.start : Invariant start where
  file := rfl
  alerts := .nil (fun key held => by cases held)

section Report

variable {s : State} {resource : Resource} {ifName : String}

theorem alerts_tell (status : String) (state : AlertType) :
    (s.tell resource ifName status state).alerts =
      s.alerts ++ [((resource, ifName), state)] := by
  simp [State.alerts, State.tell]

theorem pending_tell (status : String) (state : AlertType) (key : Resource × String) :
    Pending (s.tell resource ifName status state) key ↔
      if key = (resource, ifName) then status = resource.faulty else Pending s key := by
  obtain ⟨resource', ifName'⟩ := key
  show Function.update s.prev resource (Function.update (s.prev resource) ifName (some status))
    resource' ifName' = _ ↔ _
  by_cases same : resource' = resource
  · subst same
    by_cases name : ifName' = ifName <;> simp [name, Pending]
  · simp [same, Pending]

/-- The invariant holds, and these are the faults that are pending. -/
structure Leaves (t : State) (pending : Resource × String → Prop) : Prop where
  invariant : Invariant t
  pending_iff : ∀ key, Pending t key ↔ pending key

theorem leaves_raiseFault (h : Invariant s) : Leaves (s.raiseFault resource ifName)
    (fun key => key = (resource, ifName) ∨ Pending s key) := by
  unfold State.raiseFault
  split
  · rename_i free
    have now : ∀ key, Pending (s.tell resource ifName resource.faulty .fault) key ↔
        key = (resource, ifName) ∨ Pending s key := by
      intro key
      rw [pending_tell]
      split
      · exact iff_of_true rfl (.inl ‹_›)
      · exact (or_iff_right ‹_›).symm
    refine ⟨⟨rfl, ?_⟩, now⟩
    rw [alerts_tell]
    exact h.alerts.raise free now
  · rename_i held
    refine ⟨h, fun key => (or_iff_right_of_imp ?_).symm⟩
    rintro rfl
    exact not_not.mp held

theorem leaves_resolveFault (h : Invariant s) : Leaves (s.resolveFault resource ifName)
    (fun key => key ≠ (resource, ifName) ∧ Pending s key) := by
  unfold State.resolveFault
  split
  · rename_i held
    have now : ∀ key, Pending (s.tell resource ifName resource.resolved .faultResolved) key ↔
        key ≠ (resource, ifName) ∧ Pending s key := by
      intro key
      rw [pending_tell]
      split
      · refine iff_of_false ?_ (fun both => both.1 ‹_›)
        cases resource <;> decide
      · exact (and_iff_right ‹_›).symm
    refine ⟨⟨rfl, ?_⟩, now⟩
    rw [alerts_tell]
    exact h.alerts.settle (by decide) held now
  · rename_i free
    refine ⟨h, fun key => (and_iff_right_of_imp ?_).symm⟩
    rintro held rfl
    exact free held

variable {upper : String → String} {i : Interface}

theorem Leaves.outstanding {t : State} {pending : Resource × String → Prop} (h : Leaves t pending)
    (resource : Resource) (ifName : String) :
    t.Outstanding resource ifName ↔ pending (resource, ifName) :=
  (h.invariant.alerts.pending_iff _).symm.trans (h.pending_iff _)

/-- The faults of an interface that are pending after a report of it, when `held` were. -/
def After (upper : String → String) (i : Interface) (held : Resource → Prop) : Resource → Prop
  | .interface => (upper i.nwStatus = "DOWN" ∨ upper i.nwStatus = "UNKNOWN") ∧
    (upper i.nwCableConnStatus ≠ "DISCONNECTED" ∨ held .interface)
  | .cable => (upper i.nwStatus = "DOWN" ∨ upper i.nwStatus = "UNKNOWN") ∧
    (upper i.nwCableConnStatus = "DISCONNECTED" ∨
      upper i.nwCableConnStatus ≠ "CONNECTED" ∧ held .cable)

/-- A report changes what is pending for its interface and nothing else. -/
theorem leaves_report (h : Invariant s) : Leaves (s.report upper i) (fun key =>
    if key.2 = i.ifId then After upper i (fun resource => Pending s (resource, i.ifId)) key.1
    else Pending s key) := by
  simp only [State.report]
  split
  · rename_i down
    split
    · rename_i disconnected
      have left := @leaves_raiseFault s .cable i.ifId h
      refine ⟨left.invariant, fun key => (left.pending_iff key).trans ?_⟩
      obtain ⟨resource, ifName⟩ := key
      by_cases same : ifName = i.ifId <;> cases resource <;> simp [same, After, down, disconnected]
    · rename_i plugged
      split
      · rename_i connected
        have first := @leaves_resolveFault s .cable i.ifId h
        have left := @leaves_raiseFault _ .interface i.ifId first.invariant
        refine ⟨left.invariant, fun key => (left.pending_iff key).trans ?_⟩
        rw [first.pending_iff key]
        obtain ⟨resource, ifName⟩ := key
        by_cases same : ifName = i.ifId <;> cases resource <;> simp [same, After, down, connected]
      · rename_i unknown
        have left := @leaves_raiseFault s .interface i.ifId h
        refine ⟨left.invariant, fun key => (left.pending_iff key).trans ?_⟩
        obtain ⟨resource, ifName⟩ := key
        by_cases same : ifName = i.ifId <;> cases resource <;>
          simp [same, After, down, plugged, unknown]
  · rename_i up
    have first := @leaves_resolveFault s .interface i.ifId h
    have left := @leaves_resolveFault _ .cable i.ifId first.invariant
    refine ⟨left.invariant, fun key => (left.pending_iff key).trans ?_⟩
    rw [first.pending_iff key]
    obtain ⟨resource, ifName⟩ := key
    by_cases same : ifName = i.ifId <;> cases resource <;> simp [same, After, up]

theorem told_report (h : Invariant s) : Told upper (s.report upper i) i := by
  have left := @leaves_report s upper i h
  constructor
  · intro notDown notUnknown
    rw [left.outstanding, left.outstanding]
    simp [After, notDown, notUnknown]
  · intro down disconnected
    rw [left.outstanding]
    simp [After, down, disconnected]
  · intro down plugged
    rw [left.outstanding]
    simp [After, down, plugged]

/-- Reports of other interfaces leave what was told of this one. -/
theorem Told.report {other : Interface} (h : Invariant s) (told : Told upper s i)
    (different : other.ifId ≠ i.ifId) : Told upper (s.report upper other) i := by
  have left := @leaves_report s upper other h
  have same : ∀ resource,
      (s.report upper other).Outstanding resource i.ifId ↔ s.Outstanding resource i.ifId := by
    intro resource
    rw [left.outstanding, if_neg (Ne.symm different)]
    exact h.alerts.pending_iff _
  constructor
  · rw [same, same]
    exact told.up
  · rw [same]
    exact told.disconnected
  · rw [same]
    exact told.down

theorem invariant_generateIfData (interfaces : List Interface) (h : Invariant s) :
    Invariant (s.generateIfData upper interfaces) := by
  induction interfaces generalizing s with
  | nil => exact h
  | cons i rest ih => exact ih (leaves_report h).invariant

theorem Told.generateIfData {interfaces : List Interface} (h : Invariant s)
    (told : Told upper s i) (others : ∀ other ∈ interfaces, other.ifId ≠ i.ifId) :
    Told upper (s.generateIfData upper interfaces) i := by
  induction interfaces generalizing s with
  | nil => exact told
  | cons other rest ih =>
      refine ih (leaves_report h).invariant (told.report h (others other (.head _))) ?_
      exact fun later mem => others later (.tail _ mem)

/-- The last report of an interface in a poll is the one that counts. -/
theorem told_generateIfData {before after : List Interface} (h : Invariant s)
    (last : ∀ later ∈ after, later.ifId ≠ i.ifId) :
    Told upper (s.generateIfData upper (before ++ i :: after)) i := by
  have first := @invariant_generateIfData s upper before h
  rw [State.generateIfData, List.foldl_append, List.foldl_cons]
  exact (told_report first).generateIfData (leaves_report first).invariant last

end Report

theorem Invariant.step {upper : String → String} {s t : State} {a : Action} (h : Invariant s)
    (step : (system upper).next s a = some t) : Invariant t := by
  cases a with
  | poll interfaces =>
      cases step
      exact invariant_generateIfData interfaces h
  | restart =>
      cases step
      refine ⟨rfl, h.alerts.congr (fun key => ?_)⟩
      show s.file key.1 key.2 = _ ↔ s.prev key.1 key.2 = _
      rw [h.file]

/-- In every state that polls and restarts lead to, the alerts of every interface and of every
cable alternate, and after the next poll those of an interface in it are what its last report
wants them to be. -/
theorem alerts_of_polls {upper : String → String} {actions : List Action} {s : State}
    (runs : (system upper).FreeRuns start actions s) :
    (∀ resource ifName,
      Alternating .fault .faultResolved (entries (resource, ifName) s.alerts)) ∧
    ∀ before i after, (∀ later ∈ after, later.ifId ≠ i.ifId) →
      Told upper (s.generateIfData upper (before ++ i :: after)) i := by
  have h : Invariant s := runs.invariant (fun _ _ _ h _ step => h.step step) .start
  exact ⟨fun resource ifName => h.alerts.alternating _,
    fun before i after last => told_generateIfData h last⟩

/-- The cable of `eth0` is pulled and plugged in again while the interface stays down. -/
def cablePulled : List Action :=
  [.poll [⟨"eth0", "Down", "Disconnected"⟩], .restart, .poll [⟨"eth0", "unknown", "Connected"⟩]]

def afterPulled : State :=
  (start.generateIfData String.toUpper [⟨"eth0", "Down", "Disconnected"⟩]).restart.generateIfData
    String.toUpper [⟨"eth0", "unknown", "Connected"⟩]

/-- The cable is pulled and put back, and the interface does not come up again. -/
theorem alerts_of_polls_cablePulled :
    afterPulled.alerts = [((.cable, "eth0"), .fault), ((.cable, "eth0"), .faultResolved),
      ((.interface, "eth0"), .fault)] ∧
    (∀ resource ifName,
      Alternating .fault .faultResolved (entries (resource, ifName) afterPulled.alerts)) ∧
    ∀ before i after, (∀ later ∈ after, later.ifId ≠ i.ifId) →
      Told String.toUpper (afterPulled.generateIfData String.toUpper (before ++ i :: after)) i := by
  refine ⟨by decide +kernel, @alerts_of_polls _ cablePulled _ ?_⟩
  exact .cons trivial rfl (.cons trivial rfl (.cons trivial rfl (.nil _)))

end Network

end Node

end Sspl

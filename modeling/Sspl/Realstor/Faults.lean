import Mathlib.Data.Finset.Basic
import Mathlib.Data.Finset.Dedup
import Mathlib.Data.List.AList
import Sspl.Foundation.System
import Sspl.Realstor.Fru

/-!
# The faults of the enclosure and the alerts for its disks

The enclosure object polls the list of the system's faults and keeps the list it last
recorded, in memory and in the store. The disk sensor compares the two: it raises an alert
for each disk fault that is not recorded and for each recorded one that is gone, waits for
the acknowledgement of each, and has the polled list recorded as a whole when all of them
were acknowledged. A fault is alerted only when the disk list says, too, that the disk is
not well.

When nothing is recorded, the first polled list is recorded at once, and the flag
`existing_faults` has all its faults alerted.

A fault is known by its component, its health and the reason. The state records, for each
fault, whether its alert was acknowledged or timed out while the polls kept listing it, and
what was known of it when the round of the sensor began, so that the alerts of a round can be
compared with the poll the round began with.
-/

namespace Sspl

namespace Realstor

namespace Faults

variable {ν χ : Type}

inductive DiskHealth (χ : Type)
  | ok
  | text (value : χ)
  deriving DecidableEq

/-- What the component-id names. -/
inductive Component (ν χ : Type)
  | disk (slot : ν)
  | other (name : χ)
  deriving DecidableEq

/-- What `check_new_fault` compares. -/
structure Key (ν χ : Type) where
  component : Component ν χ
  health : DiskHealth χ
  healthReason : χ
  deriving DecidableEq

/-- A fault as it is listed and recorded: the key it is told apart by, and its other fields. -/
structure Fault (ν χ : Type) where
  key : Key ν χ
  /-- The other fields. -/
  rest : χ
  deriving DecidableEq

/-- An alert, with the fault it is raised for. -/
structure Alert (ν χ : Type) where
  alertType : FruAlert
  fault : Key ν χ
  deriving DecidableEq

inductive Stage (ν χ : Type)
  | idle
  /-- The faults and the cached faults that are still to be looked at. -/
  | checking (faults cached : List (Fault ν χ))
  | waiting (alert : Alert ν χ) (faults cached : List (Fault ν χ))

/-- The attributes of the disk sensor that have to do with system faults, what the store and the
disk list hold, and what is remembered of the alerts to say what should be booked. -/
structure State (ν χ : Type) where
  memcacheFaults : List (Fault ν χ)
  latestFaults : List (Fault ν χ)
  /-- The two lists are the same object. -/
  aliased : Bool
  existingFaults : Bool
  /-- The faults in the store. -/
  persisted : Option (List (Fault ν χ))
  /-- The health of each disk in the disk list. -/
  latestDisks : AList (fun _ : ν => DiskHealth χ)
  eventWaitResults : Finset Bool
  stage : Stage ν χ
  event : Bool
  /-- The messages of this check that are not acknowledged yet. -/
  outstanding : List (Alert ν χ)
  /-- The messages of earlier checks that are not acknowledged yet. -/
  stray : List (Alert ν χ)
  alerts : List (Alert ν χ)
  acknowledged : List (Alert ν χ)
  /-- A poll has listed the faults since the process started. -/
  polled : Bool
  /-- The faults listed since the wait for their alert ended with an acknowledgement. -/
  handled : Finset (Key ν χ)
  /-- The faults listed since the wait for their alert timed out. -/
  refused : Finset (Key ν χ)
  /-- The number of alerts raised before this round. -/
  earlier : Nat
  /-- What was `handled` when this round began. -/
  before : Finset (Key ν χ)
  /-- What was `refused` when this round began. -/
  due : Finset (Key ν χ)

/-- A poll with what the enclosure lists, the steps of the check that follows, and what happens
while it waits for an acknowledgement. -/
inductive Action (ν χ : Type)
  /-- `run`, with the disk list and the answer to the poll of the faults, if there was one:
  no faults at all or a list of them. -/
  | run (disks : AList (fun _ : ν => DiskHealth χ)) (answer : Option (Option (List (Fault ν χ))))
  | advance
  | acknowledge (alert : Alert ν χ)
  | wake
  | timeOut
  /-- A disk that is not well was inserted. -/
  | insertion (slot : ν)

/-- The list has the fault with the key. -/
def Lists (faults : List (Fault ν χ)) (key : Key ν χ) : Prop := ∃ fault ∈ faults, fault.key = key

section Methods

variable [DecidableEq ν] [DecidableEq χ]

instance (faults : List (Fault ν χ)) (key : Key ν χ) : Decidable (Lists faults key) :=
  inferInstanceAs (Decidable (∃ fault ∈ faults, fault.key = key))

/-- Health of the cached faults of an inserted disk. -/
def reset (slot : ν) (fault : Fault ν χ) : Fault ν χ :=
  if fault.key.component = .disk slot then { fault with key := { fault.key with health := .ok } }
  else fault

namespace State

/-- A poll lists these faults. -/
def listed (s : State ν χ) (faults : List (Fault ν χ)) : State ν χ :=
  { s with
    latestFaults := faults, aliased := false, polled := true
    handled := s.handled.filter (Lists faults), refused := s.refused.filter (Lists faults) }

def getSystemStatus (s : State ν χ) : Option (Option (List (Fault ν χ))) → State ν χ
  | none => s
  | some none => s.listed []
  | some (some faults) =>
    if s.memcacheFaults ≠ [] then { s.listed faults with existingFaults := false }
    else if s.persisted.getD [] ≠ [] then
      { s.listed faults with memcacheFaults := s.persisted.getD [] }
    else
      { s.listed faults with
        memcacheFaults := faults, aliased := true, existingFaults := true
        persisted := some faults }

/-- The alerts of this round. -/
def round (s : State ν χ) : List (Alert ν χ) := s.alerts.drop s.earlier

/-- A round of the sensor begins. -/
def newRound (s : State ν χ) : State ν χ :=
  { s with earlier := s.alerts.length, before := s.handled, due := s.refused }

/-- The disk list has the disk of the fault and does not say that it is well. -/
def unwell (s : State ν χ) (key : Key ν χ) : Bool :=
  match key.component with
  | .other _ => false
  | .disk slot =>
    match s.latestDisks.lookup slot with
    | some (.text _) => true
    | _ => false

def checkSystemFaultsChanged (s : State ν χ) : Bool :=
  s.existingFaults || decide (s.latestFaults ≠ s.memcacheFaults)

def checkNewFault (s : State ν χ) (fault : Fault ν χ) : Bool :=
  s.existingFaults ||
    decide (fault ∉ s.memcacheFaults ∧ ¬ ∃ cached ∈ s.memcacheFaults, cached.key = fault.key)

/-- The cached fault is gone from the polled list. -/
def resolved (s : State ν χ) (cached : Fault ν χ) : Bool :=
  !s.latestFaults.any fun fault => fault.key.component = cached.key.component

/-- `_rss_check_disk_faults` up to its loops, with a new event. -/
def checkDiskFaults (s : State ν χ) : State ν χ :=
  if s.checkSystemFaultsChanged then
    { s with
      stage := .checking s.latestFaults s.memcacheFaults, event := false
      stray := s.stray ++ s.outstanding, outstanding := [] }
  else s

def updateMemcacheFaults (s : State ν χ) : State ν χ :=
  { s with
    memcacheFaults := s.latestFaults, aliased := true, persisted := some s.latestFaults }

def raise (s : State ν χ) (alert : Alert ν χ) (faults cached : List (Fault ν χ)) : State ν χ :=
  { s with
    alerts := s.alerts ++ [alert], outstanding := s.outstanding ++ [alert]
    stage := .waiting alert faults cached }

/-- One turn of the two loops of `_rss_check_disk_faults`, or their end. -/
def advance (s : State ν χ) : List (Fault ν χ) → List (Fault ν χ) → State ν χ
  | fault :: faults, cached =>
    match fault.key.component with
    | .other _ => { s with stage := .checking faults cached }
    | .disk slot =>
      if s.checkNewFault fault then
        match s.latestDisks.lookup slot with
        | some .ok => { s with stage := .checking faults cached }
        | some (.text _) => s.raise ⟨.fault, fault.key⟩ faults cached
        -- a KeyError ends the check
        | none => { s with stage := .idle }
      else { s with stage := .checking faults cached }
  | [], cached :: rest =>
    match cached.key.component with
    | .other _ => { s with stage := .checking [] rest }
    | .disk slot =>
      if s.resolved cached then
        match s.latestDisks.lookup slot with
        | some .ok => s.raise ⟨.faultResolved, cached.key⟩ [] rest
        | some (.text _) => { s with stage := .checking [] rest }
        | none => { s with stage := .idle }
      else { s with stage := .checking [] rest }
  | [], [] =>
    { (if true ∈ s.eventWaitResults ∧ false ∉ s.eventWaitResults then s.updateMemcacheFaults
        else s) with
      eventWaitResults := ∅, stage := .idle }

/-- The wait for an alert is over. -/
def waited (s : State ν χ) (alert : Alert ν χ) (faults cached : List (Fault ν χ)) (set : Bool) :
    State ν χ :=
  { s with
    eventWaitResults := insert set s.eventWaitResults, event := false
    stage := .checking faults cached
    handled :=
      if alert.alertType ≠ .fault then s.handled
      else if set then insert alert.fault s.handled else s.handled.erase alert.fault
    refused :=
      if alert.alertType ≠ .fault then s.refused
      else if set then s.refused.erase alert.fault else insert alert.fault s.refused }

def next (s : State ν χ) : Action ν χ → Option (State ν χ)
  | .run disks answer =>
    match s.stage with
    | .idle =>
      some (({ s with latestDisks := disks } : State ν χ).getSystemStatus
        answer).newRound.checkDiskFaults
    | _ => none
  | .advance =>
    match s.stage with
    | .checking faults cached => some (s.advance faults cached)
    | _ => none
  | .acknowledge alert =>
    if alert ∈ s.outstanding then
      some { s with
        outstanding := s.outstanding.erase alert
        acknowledged := s.acknowledged ++ [alert]
        event := true }
    else if alert ∈ s.stray then
      some { s with
        stray := s.stray.erase alert
        acknowledged := s.acknowledged ++ [alert] }
    else none
  | .wake =>
    match s.stage with
    | .waiting alert faults cached =>
      if s.event then some (s.waited alert faults cached true) else none
    | _ => none
  | .timeOut =>
    match s.stage with
    | .waiting alert faults cached =>
      if s.event then none else some (s.waited alert faults cached false)
    | _ => none
  | .insertion slot =>
    match s.stage with
    | .idle => some { s with
        memcacheFaults := s.memcacheFaults.map (reset slot)
        latestFaults :=
          if s.aliased then s.latestFaults.map (reset slot) else s.latestFaults }
    | _ => none

end State

/-- The process starts, with the faults an earlier one has recorded. -/
def start (stored : Option (List (Fault ν χ))) : State ν χ :=
  ⟨[], [], false, false, stored, ∅, ∅, .idle, false, [], [], [],
    (stored.getD []).map fun fault => ⟨.fault, fault.key⟩, false,
    ((stored.getD []).map Fault.key).toFinset, ∅, 0, ∅, ∅⟩

/-- The sensor from the start of a process on, whatever faults an earlier one has recorded. -/
def system : Transition.System (State ν χ) (Action ν χ) where
  init s := ∃ stored, s = start stored
  next := State.next

end Methods

section Runs

variable {s t : State ν χ} {a : Action ν χ} {base done faults : List (Fault ν χ)}

def Key.OnDisk (key : Key ν χ) : Prop := ∃ slot, key.component = .disk slot

/-- The recorded faults, as soon as they are read from the store. -/
def cached (s : State ν χ) : List (Fault ν χ) :=
  if s.memcacheFaults = [] then s.persisted.getD [] else s.memcacheFaults

section Conditions

variable [DecidableEq ν] [DecidableEq χ]

/-- The condition on a turn of a check. -/
def CleanTurn (s : State ν χ) : Stage ν χ → Prop
  | .checking (fault :: _) _ => ∀ slot, fault.key.component = .disk slot →
      s.checkNewFault fault = true → s.latestDisks.lookup slot ≠ none ∧
        (fault.key ∈ s.due → s.latestDisks.lookup slot ≠ some .ok)
  | .checking [] (cached :: _) => ∀ slot, cached.key.component = .disk slot →
      s.resolved cached = true → s.latestDisks.lookup slot ≠ none
  | .checking [] [] => true ∈ s.eventWaitResults →
      ∀ fault ∈ s.latestFaults, ∀ slot, fault.key.component = .disk slot →
        s.checkNewFault fault = true → s.latestDisks.lookup slot ≠ some .ok
  | _ => True

/-- All waits of a check end the same way, and with an acknowledgement while the existing
faults are alerted; each fault that is looked at is on a disk of the disk list, which does
not call it well when its alert has timed out; a check whose alerts were acknowledged has
left out no new fault, and at the first poll no fault is going to be left out; the existing
faults are polled once more before the next check; no poll lists a fault twice, nor one that
is still recorded but was not listed by the poll before; no disk with a recorded fault is
replaced. -/
def Clean (s : State ν χ) : Action ν χ → Prop
  | .run _ none => s.existingFaults = true → ∀ fault ∈ s.latestFaults, ¬ fault.key.OnDisk
  | .run disks (some (some faults)) =>
    (faults.map Fault.key).Nodup ∧
      (s.memcacheFaults = [] → s.persisted.getD [] = [] →
        ∀ fault ∈ faults, ∀ slot, fault.key.component = .disk slot →
          disks.lookup slot ≠ some .ok) ∧
      (s.polled = true → ∀ fault ∈ faults, fault.key.OnDisk → Lists (cached s) fault.key →
        Lists s.latestFaults fault.key)
  | .advance => CleanTurn s s.stage
  | .wake => false ∉ s.eventWaitResults
  | .timeOut => true ∉ s.eventWaitResults ∧
    (s.existingFaults = true → ∀ fault ∈ s.latestFaults, ¬ fault.key.OnDisk)
  | .insertion slot => ∀ fault ∈ s.memcacheFaults, fault.key.component ≠ .disk slot
  | _ => True

/-- The disk list and the faults that were listed last. -/
def heard : AList (fun _ : ν => DiskHealth χ) × List (Fault ν χ) → Action ν χ →
    AList (fun _ : ν => DiskHealth χ) × List (Fault ν χ)
  | (_, faults), .run disks none => (disks, faults)
  | _, .run disks (some answer) => (disks, answer.getD [])
  | last, _ => last

/-- The steps of the sensor within a round. -/
def Action.own : Action ν χ → Bool
  | .advance | .wake | .timeOut => true
  | _ => false

/-- A bound for the steps of the sensor until the round is over. -/
def Stage.turns : Stage ν χ → Nat
  | .idle => 0
  | .checking faults cached => 2 * (faults.length + cached.length) + 1
  | .waiting _ faults cached => 2 * (faults.length + cached.length) + 2

/-- What the bookkeeping is for: a disk fault is recorded only if its alert was acknowledged,
a listed fault is alerted as long as it was not and no more often, and each round comes to its
end. -/
structure Booked (s : State ν χ) : Prop where
  /-- Between two rounds, and within those that do not alert the existing faults, a disk fault
  is recorded only if its alert was acknowledged. -/
  recorded : s.stage = .idle ∨ s.existingFaults = false →
    ∀ fault ∈ s.memcacheFaults, fault.key.OnDisk → ⟨.fault, fault.key⟩ ∈ s.acknowledged
  /-- At the end of a round, an alert was raised for each listed fault of a disk that is not
  well, unless its alert was acknowledged before. -/
  alerted : s.stage = .idle → ∀ fault ∈ s.latestFaults, s.unwell fault.key = true →
    fault.key ∉ s.before → ⟨.fault, fault.key⟩ ∈ s.round
  /-- At the end of a round, each listed fault whose alert had timed out was raised again. -/
  again : s.stage = .idle → ∀ key ∈ s.due, ⟨.fault, key⟩ ∈ s.round
  /-- A round raises at most one alert for a fault. -/
  single : ∀ key, s.round.count ⟨.fault, key⟩ ≤ 1
  /-- No alert is raised for a fault that was listed ever since its alert was acknowledged. -/
  once : ∀ key, ⟨.fault, key⟩ ∈ s.round → Lists s.latestFaults key ∧ key ∉ s.before
  /-- A round that is not over goes on. -/
  goes_on : s.stage ≠ .idle → ∃ a : Action ν χ, a.own = true ∧ (s.next a).isSome = true
  /-- A round is over after so many steps of the sensor. -/
  ends : ∀ (own : List (Action ν χ)) (t : State ν χ), (∀ a ∈ own, a.own = true) →
    system.FreeRuns s own t → own.length ≤ s.stage.turns

end Conditions

/-- What is known of the faults whether or not a check is going on, given the faults it is
compared with and those looked at already. -/
structure Facts (s : State ν χ) (base done : List (Fault ν χ)) : Prop where
  acknowledged : ∀ fault ∈ base, fault.key.OnDisk → ⟨.fault, fault.key⟩ ∈ s.acknowledged
  known : ∀ key ∈ s.handled, Lists base key ∨ true ∈ s.eventWaitResults ∧ Lists done key
  recorded : ∀ key : Key ν χ, key.OnDisk → Lists base key →
    (s.polled = true → Lists s.latestFaults key) → key ∈ s.handled
  new : ∀ key ∈ s.refused, ¬ Lists base key
  apart : ∀ key ∈ s.handled, key ∉ s.refused
  handled : ∀ key ∈ s.handled, (s.polled = true → Lists s.latestFaults key) ∧
    ⟨.fault, key⟩ ∈ s.acknowledged
  refused : ∀ key ∈ s.refused, Lists s.latestFaults key ∧ key.OnDisk
  distinct : (s.latestFaults.map Fault.key).Nodup
  aliased : s.aliased = true → s.latestFaults = s.memcacheFaults
  fresh : s.memcacheFaults = [] → s.persisted.getD [] ≠ [] → s.existingFaults = false

theorem Facts.framed {stage : Stage ν χ} {event : Bool}
    {outstanding stray alerts : List (Alert ν χ)} {earlier : Nat} {before due : Finset (Key ν χ)}
    (h : Facts s base done) :
    Facts { s with
      stage := stage, event := event, outstanding := outstanding, stray := stray
      alerts := alerts, earlier := earlier, before := before, due := due } base done :=
  ⟨h.acknowledged, h.known, h.recorded, h.new, h.apart, h.handled, h.refused, h.distinct,
    h.aliased, h.fresh⟩

theorem Facts.acknowledge (h : Facts s base done) (alert : Alert ν χ) :
    Facts { s with acknowledged := s.acknowledged ++ [alert] } base done :=
  { h with
    acknowledged := fun fault mem onDisk =>
      List.mem_append_left _ (h.acknowledged fault mem onDisk)
    handled := fun key mem =>
      ⟨(h.handled key mem).1, List.mem_append_left _ (h.handled key mem).2⟩ }

/-- The polled list is recorded, or it was recorded before the check, when each of its disk
faults is recorded already or was acknowledged. -/
theorem Facts.commit (h : Facts s base done) (polled : s.polled = true)
    (covered : ∀ fault ∈ s.latestFaults, fault.key.OnDisk → fault.key ∈ s.handled) :
    Facts s s.latestFaults [] where
  acknowledged fault listed onDisk := (h.handled _ (covered fault listed onDisk)).2
  known key mem := .inl ((h.handled key mem).1 polled)
  recorded key onDisk listed _ := by
    obtain ⟨fault, inside, rfl⟩ := listed
    exact covered fault inside onDisk
  new key mem listed := by
    obtain ⟨fault, inside, rfl⟩ := listed
    exact h.apart _ (covered fault inside (h.refused _ mem).2) mem
  apart := h.apart
  handled := h.handled
  refused := h.refused
  distinct := h.distinct
  aliased := h.aliased
  fresh := h.fresh

theorem cached_of_memcache (recorded : s.memcacheFaults ≠ []) : cached s = s.memcacheFaults :=
  if_neg recorded

theorem lists_append {first second : List (Fault ν χ)} {key : Key ν χ} :
    Lists (first ++ second) key ↔ Lists first key ∨ Lists second key := by
  simp [Lists, or_and_right, exists_or]

theorem lists_singleton {fault : Fault ν χ} {key : Key ν χ} :
    Lists [fault] key ↔ fault.key = key := by
  simp [Lists]

theorem round_raise (s : State ν χ) (counted : s.earlier ≤ s.alerts.length) (alert : Alert ν χ)
    (faults cached : List (Fault ν χ)) :
    (s.raise alert faults cached).round = s.round ++ [alert] :=
  List.drop_append_of_le_length counted

/-- The listed faults that are recorded are those that were handled before the round. -/
def Compared (s : State ν χ) (base : List (Fault ν χ)) : Prop :=
  ∀ key : Key ν χ, key.OnDisk → Lists s.latestFaults key → (Lists base key ↔ key ∈ s.before)

/-- When a round begins, the recorded faults that are listed are the handled ones. -/
theorem Facts.compared (h : Facts s base []) (results : s.eventWaitResults = ∅) :
    Compared s.newRound base := by
  intro key onDisk listed
  refine ⟨fun recorded => h.recorded key onDisk recorded fun _ => listed, fun handled => ?_⟩
  obtain known | ⟨result, -⟩ := h.known key handled
  · exact known
  · simp [results] at result

variable [DecidableEq ν]

/-- The faults a check of the sensor compares the polled list with: the recorded ones, or
none when the polled list itself was recorded. -/
inductive Base (s : State ν χ) (base : List (Fault ν χ)) : Prop
  | recorded (same : base = cached s)
      (settled : s.existingFaults = true → ∀ fault ∈ s.latestFaults, ¬ fault.key.OnDisk)
      (nonempty : s.latestFaults ≠ [] → s.memcacheFaults ≠ [])
  | existing (none : base = []) (existing : s.existingFaults = true)
      (same : s.memcacheFaults = s.latestFaults)
      (unwell : ∀ fault ∈ s.latestFaults, ∀ slot, fault.key.component = .disk slot →
        s.latestDisks.lookup slot ≠ some .ok)

/-- Within a check, before the turn for the first of the faults. -/
structure Check (s : State ν χ) (base done faults : List (Fault ν χ)) : Prop where
  facts : Facts s base done
  against : Base s base
  compared : Compared s base
  polled : s.polled = true
  split : s.latestFaults = done ++ faults
  uniform : true ∈ s.eventWaitResults → false ∉ s.eventWaitResults
  timed : false ∈ s.eventWaitResults → s.existingFaults = true →
    ∀ fault ∈ s.latestFaults, ¬ fault.key.OnDisk
  looked : ∀ fault ∈ done, ∀ slot, fault.key.component = .disk slot →
    Lists base fault.key ∨ s.latestDisks.lookup slot = some .ok ∨ fault.key ∈ s.handled ∨
      false ∈ s.eventWaitResults

/-- The alert a check waits for, with the faults that are looked at when the wait is over. -/
inductive Awaited (s : State ν χ) (base : List (Fault ν χ)) :
    List (Fault ν χ) → Alert ν χ → List (Fault ν χ) → Prop
  | fault (done : List (Fault ν χ)) (fault : Fault ν χ) (faults : List (Fault ν χ))
      (onDisk : fault.key.OnDisk) (new : ¬ Lists base fault.key)
      (check : Check s base done (fault :: faults)) :
      Awaited s base (done ++ [fault]) ⟨.fault, fault.key⟩ faults
  | resolved (done : List (Fault ν χ)) (key : Key ν χ) (faults : List (Fault ν χ))
      (check : Check s base done faults) :
      Awaited s base done ⟨.faultResolved, key⟩ faults

theorem Base.framed {stage : Stage ν χ} {event : Bool}
    {outstanding stray alerts acknowledged : List (Alert ν χ)} {results : Finset Bool}
    {handled refused before due : Finset (Key ν χ)} {earlier : Nat} (h : Base s base) :
    Base { s with
      stage := stage, event := event, outstanding := outstanding, stray := stray
      alerts := alerts, acknowledged := acknowledged, eventWaitResults := results
      handled := handled, refused := refused, earlier := earlier, before := before
      due := due } base := by
  cases h with
  | recorded same settled nonempty => exact .recorded same settled nonempty
  | existing none existing same unwell => exact .existing none existing same unwell

theorem Check.framed {stage : Stage ν χ} {event : Bool}
    {outstanding stray alerts : List (Alert ν χ)}
    (h : Check s base done faults) :
    Check { s with
      stage := stage, event := event, outstanding := outstanding, stray := stray
      alerts := alerts } base done faults :=
  ⟨h.facts.framed, h.against.framed, h.compared, h.polled, h.split, h.uniform, h.timed, h.looked⟩

theorem Awaited.framed {stage : Stage ν χ} {event : Bool}
    {outstanding stray alerts : List (Alert ν χ)} {awaited : Alert ν χ}
    (h : Awaited s base done awaited faults) :
    Awaited { s with
      stage := stage, event := event, outstanding := outstanding, stray := stray
      alerts := alerts } base done awaited faults := by
  cases h with
  | fault done fault faults onDisk new check =>
      exact .fault done fault faults onDisk new check.framed
  | resolved done key faults check => exact .resolved done key faults check.framed

theorem Check.acknowledge (h : Check s base done faults) (alert : Alert ν χ) :
    Check { s with acknowledged := s.acknowledged ++ [alert] } base done faults :=
  ⟨h.facts.acknowledge alert, h.against.framed, h.compared, h.polled, h.split, h.uniform, h.timed,
    h.looked⟩

theorem Awaited.acknowledge {awaited : Alert ν χ} (h : Awaited s base done awaited faults)
    (alert : Alert ν χ) :
    Awaited { s with acknowledged := s.acknowledged ++ [alert] } base done awaited faults := by
  cases h with
  | fault done fault faults onDisk new check =>
      exact .fault done fault faults onDisk new (check.acknowledge alert)
  | resolved done key faults check => exact .resolved done key faults (check.acknowledge alert)

/-- The fault needs no alert, or the wait for its alert is over. -/
theorem Check.pass {fault : Fault ν χ} (h : Check s base done (fault :: faults))
    (passed : ∀ slot, fault.key.component = .disk slot →
      Lists base fault.key ∨ s.latestDisks.lookup slot = some .ok) :
    Check s base (done ++ [fault]) faults where
  facts :=
    { h.facts with
      known := by
        intro key mem
        obtain known | ⟨result, listed⟩ := h.facts.known key mem
        · exact .inl known
        · exact .inr ⟨result, lists_append.mpr (.inl listed)⟩ }
  against := h.against
  compared := h.compared
  polled := h.polled
  split := by rw [h.split, List.append_assoc, List.singleton_append]
  uniform := h.uniform
  timed := h.timed
  looked := by
    intro other mem slot onDisk
    rw [List.mem_append, List.mem_singleton] at mem
    obtain mem | rfl := mem
    · exact h.looked other mem slot onDisk
    · obtain recorded | well := passed slot onDisk
      · exact .inl recorded
      · exact .inr (.inl well)

/-- A listed fault is looked at once. -/
theorem Check.unlooked {fault : Fault ν χ} (h : Check s base done (fault :: faults)) :
    ¬ Lists done fault.key := by
  rintro ⟨other, inside, same⟩
  have distinct := h.facts.distinct
  rw [h.split, List.map_append, List.map_cons, List.nodup_append] at distinct
  exact distinct.2.2 _ (List.mem_map_of_mem inside) _ List.mem_cons_self same

/-- Outside the round that alerts the existing faults, the recorded faults are those the polled
ones are compared with. -/
theorem Check.recorded (h : Check s base done faults) (settled : s.existingFaults = false) :
    ∀ fault ∈ s.memcacheFaults, fault.key.OnDisk → ⟨.fault, fault.key⟩ ∈ s.acknowledged := by
  intro fault mem onDisk
  refine h.facts.acknowledged fault ?_ onDisk
  have against := h.against
  cases against with
  | recorded same _ _ =>
      rw [same, cached_of_memcache (List.ne_nil_of_mem mem)]
      exact mem
  | existing _ existing _ _ => cases settled.symm.trans existing

variable [DecidableEq χ]

/-- The alerts of the round are those of the faults looked at already. -/
structure Round (s : State ν χ) (looked : List (Fault ν χ)) : Prop where
  counted : s.earlier ≤ s.alerts.length
  raised : ∀ key, s.round.count ⟨.fault, key⟩ =
    if Lists looked key ∧ s.unwell key = true ∧ key ∉ s.before then 1 else 0
  fresh : ∀ key ∈ s.due, key ∉ s.before
  listed : ∀ key ∈ s.due, Lists s.latestFaults key ∧ key.OnDisk
  redone : ∀ key ∈ s.due, Lists looked key → s.unwell key = true

/-- Between two rounds. -/
structure Idle (s : State ν χ) : Prop where
  facts : Facts s (cached s) []
  round : Round s s.latestFaults
  results : s.eventWaitResults = ∅
  nonempty : s.latestFaults ≠ [] → s.memcacheFaults ≠ []
  unpolled : s.polled = false → s.latestFaults = s.memcacheFaults ∧ s.existingFaults = false

/-- What is known at each stage. -/
def Staged (s : State ν χ) : Prop :=
  match s.stage with
  | .idle => Idle s
  | .checking faults _ => (∃ base done, Check s base done faults ∧ Round s done) ∧
      (false ∉ s.eventWaitResults → s.event = false ∧ s.outstanding = [])
  | .waiting alert faults _ => (∃ base looked, Awaited s base looked alert faults ∧
        Round s looked) ∧
      (false ∉ s.eventWaitResults →
        s.event = true ∧ s.outstanding = [] ∧ alert ∈ s.acknowledged ∨
          s.event = false ∧ s.outstanding = [alert])

/-- The alerts of a round do not change at the steps that raise none. -/
theorem Round.framed {looked : List (Fault ν χ)} {stage : Stage ν χ} {event : Bool}
    {outstanding stray acknowledged : List (Alert ν χ)} {results : Finset Bool}
    {handled refused : Finset (Key ν χ)} (h : Round s looked) :
    Round { s with
      stage := stage, event := event, outstanding := outstanding, stray := stray
      acknowledged := acknowledged, eventWaitResults := results, handled := handled
      refused := refused } looked :=
  ⟨h.counted, h.raised, h.fresh, h.listed, h.redone⟩

/-- The turn of a fault that is not alerted. -/
theorem Round.pass {looked : List (Fault ν χ)} (h : Round s looked) {fault : Fault ν χ}
    (silent : s.unwell fault.key = true → fault.key ∈ s.before)
    (redone : fault.key ∈ s.due → s.unwell fault.key = true) :
    Round s (looked ++ [fault]) where
  counted := h.counted
  raised key := by
    rw [h.raised key]
    refine if_congr ?_ rfl rfl
    rw [lists_append, lists_singleton]
    constructor
    · rintro ⟨listed, unwell, new⟩
      exact ⟨.inl listed, unwell, new⟩
    · rintro ⟨listed | rfl, unwell, new⟩
      · exact ⟨listed, unwell, new⟩
      · exact absurd (silent unwell) new
  fresh := h.fresh
  listed := h.listed
  redone key due listed := by
    obtain listed | listed := lists_append.mp listed
    · exact h.redone key due listed
    · obtain rfl := lists_singleton.mp listed
      exact redone due

/-- The turn of a fault that is alerted. -/
theorem Round.raise {looked : List (Fault ν χ)} (h : Round s looked) {fault : Fault ν χ}
    (unlisted : ¬ Lists looked fault.key) (unwell : s.unwell fault.key = true)
    (new : fault.key ∉ s.before) (faults cached : List (Fault ν χ)) :
    Round (s.raise ⟨.fault, fault.key⟩ faults cached) (looked ++ [fault]) where
  counted := by
    have counted := h.counted
    simp only [State.raise, List.length_append]
    omega
  raised key := by
    rw [round_raise s h.counted, List.count_append, h.raised key]
    simp only [lists_append, lists_singleton]
    change _ = if _ ∧ s.unwell key = true ∧ key ∉ s.before then 1 else 0
    by_cases same : fault.key = key
    · subst same
      simp [unlisted, unwell, new]
    · have other : (⟨.fault, key⟩ : Alert ν χ) ≠ ⟨.fault, fault.key⟩ := by
        intro alike
        cases alike
        exact same rfl
      simp [same, other.symm]
  fresh := h.fresh
  listed := h.listed
  redone key due listed := by
    obtain listed | listed := lists_append.mp listed
    · exact h.redone key due listed
    · obtain rfl := lists_singleton.mp listed
      exact unwell

/-- The alert of a fault that is gone is no alert of a fault. -/
theorem Round.resolve {looked : List (Fault ν χ)} (h : Round s looked) (key : Key ν χ)
    (faults cached : List (Fault ν χ)) :
    Round (s.raise ⟨.faultResolved, key⟩ faults cached) looked where
  counted := by
    have counted := h.counted
    simp only [State.raise, List.length_append]
    omega
  raised other := by
    rw [round_raise s h.counted, List.count_append, List.count_singleton, if_neg (by simp),
      Nat.add_zero]
    exact h.raised other
  fresh := h.fresh
  listed := h.listed
  redone := h.redone

theorem start_staged (stored : Option (List (Fault ν χ))) : Staged (start stored) where
  facts :=
    { acknowledged := fun _ mem _ => List.mem_map_of_mem mem
      known := by
        intro key mem
        obtain ⟨fault, inside, same⟩ := List.mem_map.mp (List.mem_toFinset.mp mem)
        exact .inl ⟨fault, inside, same⟩
      recorded := by
        rintro key - ⟨fault, inside, rfl⟩ -
        exact List.mem_toFinset.mpr (List.mem_map_of_mem inside)
      new := by simp [start]
      apart := by simp [start]
      handled := by
        intro key mem
        obtain ⟨fault, inside, rfl⟩ := List.mem_map.mp (List.mem_toFinset.mp mem)
        exact ⟨nofun, List.mem_map_of_mem inside⟩
      refused := by simp [start]
      distinct := List.nodup_nil
      aliased := by simp [start]
      fresh := fun _ _ => rfl }
  round :=
    { counted := Nat.le_refl 0
      raised := by simp [start, State.round, Lists]
      fresh := by simp [start]
      listed := by simp [start]
      redone := by simp [start] }
  results := rfl
  nonempty := fun nonempty => absurd rfl nonempty
  unpolled := fun _ => ⟨rfl, rfl⟩

theorem checkNewFault_iff (compared : Base s base) {fault : Fault ν χ}
    (listed : fault ∈ s.latestFaults) (onDisk : fault.key.OnDisk) :
    s.checkNewFault fault = true ↔ ¬ Lists base fault.key := by
  cases compared with
  | recorded same settled nonempty =>
      have existing : s.existingFaults = false := by
        by_contra existing
        exact settled (Bool.eq_true_of_not_eq_false existing) fault listed onDisk
      rw [same, cached_of_memcache (nonempty (List.ne_nil_of_mem listed)), State.checkNewFault,
        existing, Bool.false_or, decide_eq_true_iff]
      refine ⟨And.right, fun new => ⟨fun mem => new ⟨fault, mem, rfl⟩, new⟩⟩
  | existing none existing same unwell =>
      simp [State.checkNewFault, existing, Lists, none]

/-- Every disk fault of the polled list was acknowledged, in this check or before. -/
theorem Check.covered (h : Check s base done []) (acknowledged : false ∉ s.eventWaitResults)
    (unwell : ∀ fault ∈ s.latestFaults, ∀ slot, fault.key.component = .disk slot →
      s.checkNewFault fault = true → s.latestDisks.lookup slot ≠ some .ok)
    {fault : Fault ν χ} (listed : fault ∈ s.latestFaults) (onDisk : fault.key.OnDisk) :
    fault.key ∈ s.handled := by
  obtain ⟨slot, component⟩ := onDisk
  have inside : fault ∈ done := by simpa [h.split] using listed
  have recorded : Lists base fault.key → fault.key ∈ s.handled := fun recorded =>
    h.facts.recorded _ ⟨slot, component⟩ recorded fun _ => ⟨fault, listed, rfl⟩
  obtain old | well | handled | timedOut := h.looked fault inside slot component
  · exact recorded old
  · by_contra missed
    exact unwell fault listed slot component
      ((checkNewFault_iff h.against listed ⟨slot, component⟩).mpr fun old => missed (recorded old))
      well
  · exact handled
  · exact absurd timedOut acknowledged

/-- The faults of a poll, compared with the recorded ones. -/
theorem Idle.listed (h : Idle s) (disks : AList (fun _ : ν => DiskHealth χ))
    (faults : List (Fault ν χ)) (distinct : (faults.map Fault.key).Nodup)
    (kept : s.polled = true → ∀ fault ∈ faults, fault.key.OnDisk →
      Lists (cached s) fault.key → Lists s.latestFaults fault.key)
    {existing : Bool} {memcache : List (Fault ν χ)}
    (fresh : memcache = [] → s.persisted.getD [] ≠ [] → existing = false) :
    Facts { ({ s with latestDisks := disks } : State ν χ).listed faults with
      memcacheFaults := memcache, existingFaults := existing } (cached s) [] where
  acknowledged := h.facts.acknowledged
  known key mem := by
    obtain known | ⟨result, -⟩ := h.facts.known key (Finset.mem_of_mem_filter key mem)
    · exact .inl known
    · simp [h.results] at result
  recorded key onDisk recorded listed := by
    obtain ⟨fault, inside, rfl⟩ := listed rfl
    refine Finset.mem_filter.mpr ⟨h.facts.recorded _ onDisk recorded fun polled => ?_,
      fault, inside, rfl⟩
    exact kept polled fault inside onDisk recorded
  new key mem := h.facts.new key (Finset.mem_of_mem_filter key mem)
  apart key handled refused := h.facts.apart key (Finset.mem_of_mem_filter key handled)
    (Finset.mem_of_mem_filter key refused)
  handled key mem := ⟨fun _ => (Finset.mem_filter.mp mem).2,
    (h.facts.handled key (Finset.mem_of_mem_filter key mem)).2⟩
  refused key mem := ⟨(Finset.mem_filter.mp mem).2,
    (h.facts.refused key (Finset.mem_of_mem_filter key mem)).2⟩
  distinct := distinct
  aliased := by simp [State.listed]
  fresh := fresh

theorem getSystemStatus_compared (h : Idle s)
    {disks : AList (fun _ : ν => DiskHealth χ)} {answer : Option (Option (List (Fault ν χ)))}
    (clean : Clean s (.run disks answer)) {r : State ν χ}
    (polled : r = ({ s with latestDisks := disks } : State ν χ).getSystemStatus answer) :
    r.eventWaitResults = ∅ ∧
      (r.polled = false → r.latestFaults = r.memcacheFaults ∧ r.existingFaults = false) ∧
      ∃ base, Facts r base [] ∧ Base r base := by
  cases answer with
  | none =>
      subst polled
      obtain ⟨acknowledged, known, recorded, new, apart, handled, refused, distinct, aliased,
        fresh⟩ := h.facts
      exact ⟨h.results, h.unpolled, cached s, ⟨acknowledged, known, recorded, new, apart, handled,
        refused, distinct, aliased, fresh⟩, .recorded rfl clean h.nonempty⟩
  | some listed =>
      cases listed with
      | none =>
          subst polled
          exact ⟨h.results, nofun, cached s,
            h.listed disks [] List.nodup_nil (by simp) h.facts.fresh,
            .recorded rfl (fun _ => by simp [State.getSystemStatus, State.listed])
              (fun nonempty => absurd rfl nonempty)⟩
      | some faults =>
          obtain ⟨distinct, unwell, kept⟩ := clean
          simp only [State.getSystemStatus] at polled
          split at polled
          · rename_i recorded
            subst polled
            exact ⟨h.results, nofun, cached s, h.listed disks faults distinct kept fun _ _ => rfl,
              .recorded rfl (fun existing => by cases existing) fun _ => recorded⟩
          · rename_i unrecorded
            rw [not_not] at unrecorded
            split at polled
            · rename_i stored
              have same : cached s = s.persisted.getD [] := if_pos unrecorded
              have existing := h.facts.fresh unrecorded stored
              subst polled
              exact ⟨h.results, nofun, cached s,
                h.listed disks faults distinct kept fun _ _ => existing,
                .recorded (same.trans (if_neg stored).symm)
                  (fun set => absurd (existing.symm.trans set) (by decide)) fun _ => stored⟩
            · rename_i unstored
              rw [not_not] at unstored
              have nothing : cached s = [] := (if_pos unrecorded).trans unstored
              have forgotten : ∀ key, key ∉ s.handled := by
                intro key mem
                obtain ⟨fault, inside, -⟩ | ⟨result, -⟩ := h.facts.known key mem
                · simp [nothing] at inside
                · simp [h.results] at result
              subst polled
              refine ⟨h.results, nofun, [],
                ⟨by simp, fun key mem => ?_, by simp [Lists], by simp [Lists], fun key mem => ?_,
                 fun key mem => ?_, fun key mem => ?_, distinct, fun _ => rfl, ?_⟩, ?_⟩
              · exact absurd (Finset.mem_of_mem_filter key mem) (forgotten key)
              · exact absurd (Finset.mem_of_mem_filter key mem) (forgotten key)
              · exact absurd (Finset.mem_of_mem_filter key mem) (forgotten key)
              · exact ⟨(Finset.mem_filter.mp mem).2,
                  (h.facts.refused key (Finset.mem_of_mem_filter key mem)).2⟩
              · exact fun recorded persisted => absurd recorded persisted
              · exact .existing rfl rfl rfl (unwell unrecorded unstored)

@[simp] theorem getSystemStatus_stage (s : State ν χ)
    (answer : Option (Option (List (Fault ν χ)))) :
    (s.getSystemStatus answer).stage = s.stage := by
  unfold State.getSystemStatus
  split
  · rfl
  · rfl
  · split
    · rfl
    · split <;> rfl

/-- A round begins without alerts. -/
theorem Facts.newRound (h : Facts s base []) : Round s.newRound [] where
  counted := Nat.le_refl _
  raised key := by simp [State.newRound, State.round, Lists]
  fresh key due before := h.apart key before due
  listed := h.refused
  redone key _ listed := by simp [Lists] at listed

/-- A round that finds nothing changed has no fault to alert. -/
theorem Facts.unchanged (h : Facts s base []) (compared : Base s base)
    (results : s.eventWaitResults = ∅) (same : s.latestFaults = s.memcacheFaults)
    (settled : s.existingFaults = false) : Round s.newRound s.latestFaults := by
  have recorded : ∀ key, Lists s.latestFaults key → Lists base key := by
    rintro key ⟨fault, inside, rfl⟩
    cases compared with
    | recorded cached _ nonempty =>
        rw [cached, cached_of_memcache (nonempty (List.ne_nil_of_mem inside)), ← same]
        exact ⟨fault, inside, rfl⟩
    | existing _ existing _ _ => cases settled.symm.trans existing
  refine ⟨Nat.le_refl _, fun key => ?_, fun key due before => h.apart key before due, h.refused,
    fun key due listed => absurd (recorded key listed) (h.new key due)⟩
  rw [if_neg]
  · simp [State.newRound, State.round]
  · rintro ⟨listed, unwell, new⟩
    have onDisk : key.OnDisk := by
      cases component : key.component with
      | disk slot => exact ⟨slot, component⟩
      | other name => simp [State.unwell, component] at unwell
    exact new ((h.compared results key onDisk listed).mp (recorded key listed))

theorem Idle.run (h : Idle s) (idle : s.stage = .idle)
    {disks : AList (fun _ : ν => DiskHealth χ)} {answer : Option (Option (List (Fault ν χ)))}
    (clean : Clean s (.run disks answer)) (step : s.next (.run disks answer) = some t) :
    Staged t := by
  obtain ⟨results, unpolled, base, facts, compared⟩ := getSystemStatus_compared h clean rfl
  have stage := (getSystemStatus_stage { s with latestDisks := disks } answer).trans idle
  simp only [State.next] at step
  split at step
  case h_2 busy => exact absurd idle busy
  cases step
  generalize State.getSystemStatus _ answer = r at results unpolled facts compared stage
  unfold State.checkDiskFaults
  split
  · rename_i changed
    have polled : r.polled = true := by
      by_contra polled
      obtain ⟨same, settled⟩ := unpolled (Bool.eq_false_of_not_eq_true polled)
      simp [State.checkSystemFaultsChanged, State.newRound, same, settled] at changed
    have check : Check r.newRound base [] r.latestFaults :=
      ⟨facts.framed, compared.framed, facts.compared results, polled, rfl,
        by simp [State.newRound, results], by simp [State.newRound, results], by simp⟩
    exact ⟨⟨base, [], check.framed, facts.newRound.framed⟩, fun _ => ⟨rfl, rfl⟩⟩
  · rename_i unchanged
    simp only [State.checkSystemFaultsChanged, State.newRound, Bool.or_eq_true, not_or,
      Bool.not_eq_true] at unchanged
    have same := not_not.mp (of_decide_eq_false unchanged.2)
    have round := facts.unchanged compared results same unchanged.1
    have staged : Idle r.newRound := by
      cases compared with
      | recorded same settled nonempty =>
          subst same
          exact ⟨facts.framed, round, results, nonempty, unpolled⟩
      | existing none existing same unwell => cases unchanged.1.symm.trans existing
    simpa only [Staged, State.newRound, stage] using staged

/-- Between two rounds, with the polled list recorded. -/
theorem Idle.of_recorded (facts : Facts s s.latestFaults []) (round : Round s s.latestFaults)
    (polled : s.polled = true) {memcache : List (Fault ν χ)}
    (same : memcache = s.latestFaults) {persisted : Option (List (Fault ν χ))}
    (stored : s.latestFaults = [] → persisted.getD [] = []) (aliased : Bool) :
    Idle { s with
      memcacheFaults := memcache, persisted := persisted, aliased := aliased
      eventWaitResults := ∅, stage := .idle } where
  facts := by
    have recorded : cached ({ s with
        memcacheFaults := memcache, persisted := persisted, aliased := aliased
        eventWaitResults := ∅, stage := .idle } : State ν χ) = s.latestFaults := by
      by_cases empty : memcache = []
      · rw [cached, if_pos empty, ← same, empty]
        exact stored (same.symm.trans empty)
      · exact (if_neg empty).trans same
    rw [recorded]
    exact ⟨facts.acknowledged, fun key mem => .inl ((facts.handled key mem).1 polled),
      facts.recorded, facts.new, facts.apart, facts.handled, facts.refused, facts.distinct,
      fun _ => same.symm, fun empty nonempty => absurd (stored (same.symm.trans empty)) nonempty⟩
  round := ⟨round.counted, round.raised, round.fresh, round.listed, round.redone⟩
  results := rfl
  nonempty nonempty := same ▸ nonempty
  unpolled unpolled := by cases polled.symm.trans unpolled

theorem Check.finish (h : Check s base done []) (round : Round s done)
    (clean : true ∈ s.eventWaitResults →
      ∀ fault ∈ s.latestFaults, ∀ slot, fault.key.component = .disk slot →
        s.checkNewFault fault = true → s.latestDisks.lookup slot ≠ some .ok) :
    Staged (s.advance [] []) := by
  have round : Round s s.latestFaults := by rwa [h.split, List.append_nil]
  simp only [State.advance]
  split
  · rename_i acknowledged
    have facts := h.facts.commit h.polled fun fault listed onDisk =>
      h.covered acknowledged.2 (clean acknowledged.1) listed onDisk
    exact Idle.of_recorded facts round h.polled rfl id true
  · rename_i unfinished
    have unacknowledged : true ∉ s.eventWaitResults :=
      fun acknowledged => unfinished ⟨acknowledged, h.uniform acknowledged⟩
    have known : ∀ key ∈ s.handled, Lists base key := by
      intro key mem
      obtain known | ⟨acknowledged, -⟩ := h.facts.known key mem
      · exact known
      · exact absurd acknowledged unacknowledged
    have against := h.against
    cases against with
    | recorded same settled nonempty =>
        subst same
        exact ⟨⟨h.facts.acknowledged, fun key mem => .inl (known key mem), h.facts.recorded,
          h.facts.new, h.facts.apart, h.facts.handled, h.facts.refused, h.facts.distinct,
          h.facts.aliased, h.facts.fresh⟩, round.framed, rfl, nonempty,
          fun unpolled => by cases h.polled.symm.trans unpolled⟩
    | existing none existing same unwell =>
        have forgotten : s.handled = ∅ := by
          refine Finset.eq_empty_of_forall_notMem fun key mem => ?_
          obtain ⟨fault, inside, -⟩ := known key mem
          simp [none] at inside
        have elsewhere : ∀ fault ∈ s.latestFaults, ¬ fault.key.OnDisk := by
          intro fault listed onDisk
          by_cases timedOut : false ∈ s.eventWaitResults
          · exact h.timed timedOut existing fault listed onDisk
          · have handled := h.covered timedOut
              (fun fault listed slot component _ => unwell fault listed slot component) listed
              onDisk
            simp [forgotten] at handled
        have facts := h.facts.commit h.polled fun fault listed onDisk =>
          absurd onDisk (elsewhere fault listed)
        refine Idle.of_recorded facts round h.polled same (fun empty => ?_) s.aliased
        by_contra stored
        exact absurd ((h.facts.fresh (same.trans empty) stored).symm.trans existing) (by decide)

theorem staged_raise {alert : Alert ν χ} {looked faults cached : List (Fault ν χ)}
    (quiet : false ∉ s.eventWaitResults → s.event = false ∧ s.outstanding = [])
    (awaited : Awaited (s.raise alert faults cached) base looked alert faults)
    (round : Round (s.raise alert faults cached) looked) :
    Staged (s.raise alert faults cached) := by
  refine ⟨⟨base, looked, awaited, round⟩, fun untimed => .inr ?_⟩
  obtain ⟨event, outstanding⟩ := quiet untimed
  exact ⟨event, by simp [State.raise, outstanding]⟩

/-- A listed fault is passed over, because it is recorded, on no disk or on one that is well, or
its alert is raised. -/
theorem Check.lookAtFault {fault : Fault ν χ} {cached : List (Fault ν χ)}
    (h : Check s base done (fault :: faults)) (round : Round s done)
    (quiet : false ∉ s.eventWaitResults → s.event = false ∧ s.outstanding = [])
    (clean : CleanTurn s (.checking (fault :: faults) cached)) :
    Staged (s.advance (fault :: faults) cached) := by
  have listed : fault ∈ s.latestFaults := by simp [h.split]
  have passed (passed : ∀ slot, fault.key.component = .disk slot →
      Lists base fault.key ∨ s.latestDisks.lookup slot = some .ok)
      (silent : s.unwell fault.key = true → fault.key ∈ s.before)
      (redone : fault.key ∈ s.due → s.unwell fault.key = true) :
      Staged { s with stage := .checking faults cached } :=
    ⟨⟨base, done ++ [fault], (h.pass passed).framed, (round.pass silent redone).framed⟩, quiet⟩
  simp only [State.advance]
  split
  · rename_i name component
    refine passed (fun slot onDisk => ?_) (fun unwell => ?_) fun due => ?_
    · cases component.symm.trans onDisk
    · simp [State.unwell, component] at unwell
    · obtain ⟨slot, onDisk⟩ := (round.listed _ due).2
      cases component.symm.trans onDisk
  · rename_i slot component
    have isNew := checkNewFault_iff h.against listed ⟨slot, component⟩
    have isOld := h.compared fault.key ⟨slot, component⟩ ⟨fault, listed, rfl⟩
    split
    · rename_i new
      split
      · rename_i well
        refine passed (fun other onDisk => .inr ?_) (fun unwell => ?_) fun due => ?_
        · cases component.symm.trans onDisk
          exact well
        · simp [State.unwell, component, well] at unwell
        · exact absurd well ((clean slot component new).2 due)
      · rename_i value sick
        have unwell : s.unwell fault.key = true := by simp [State.unwell, component, sick]
        exact staged_raise quiet
          (.fault done fault faults ⟨slot, component⟩ (isNew.mp new) h.framed)
          (round.raise h.unlooked unwell (fun old => isNew.mp new (isOld.mpr old)) _ _)
      · rename_i unlisted
        exact absurd unlisted (clean slot component new).1
    · rename_i old
      have recorded : Lists base fault.key := by
        by_contra new
        exact old (isNew.mpr new)
      exact passed (fun _ _ => .inl recorded) (fun _ => isOld.mp recorded) fun due =>
        absurd (isOld.mp recorded) (round.fresh _ due)

/-- A recorded fault that is no longer listed is resolved when its disk is well. -/
theorem Check.lookAtCached {first : Fault ν χ} {rest : List (Fault ν χ)}
    (h : Check s base done []) (round : Round s done)
    (quiet : false ∉ s.eventWaitResults → s.event = false ∧ s.outstanding = [])
    (clean : CleanTurn s (.checking [] (first :: rest))) :
    Staged (s.advance [] (first :: rest)) := by
  have passed : Staged { s with stage := .checking [] rest } :=
    ⟨⟨base, done, h.framed, round.framed⟩, quiet⟩
  simp only [State.advance]
  split
  · exact passed
  · rename_i slot component
    split
    · rename_i resolved
      split
      · exact staged_raise quiet (.resolved done first.key [] h.framed) (round.resolve _ _ _)
      · exact passed
      · rename_i unlisted
        exact absurd unlisted (clean slot component resolved)
    · exact passed

theorem Check.advance {cached : List (Fault ν χ)} (h : Check s base done faults)
    (round : Round s done) (stage : s.stage = .checking faults cached)
    (quiet : false ∉ s.eventWaitResults → s.event = false ∧ s.outstanding = [])
    (clean : Clean s .advance) : Staged (s.advance faults cached) := by
  simp only [Clean, stage] at clean
  cases faults with
  | cons fault faults => exact h.lookAtFault round quiet clean
  | nil =>
      cases cached with
      | nil => exact h.finish round clean
      | cons first rest => exact h.lookAtCached round quiet clean

theorem Awaited.wake {alert : Alert ν χ} {looked : List (Fault ν χ)}
    (h : Awaited s base looked alert faults) (acknowledged : alert ∈ s.acknowledged)
    (untimed : false ∉ s.eventWaitResults) (cached : List (Fault ν χ)) :
    Check (s.waited alert faults cached true) base looked faults := by
  have stillUntimed : false ∉ insert true s.eventWaitResults := by simpa using untimed
  cases h with
  | resolved done key faults check =>
      refine ⟨{ check.facts with known := fun key mem => ?_ }, check.against.framed, check.compared,
        check.polled, check.split, fun _ => stillUntimed, fun timedOut => ?_,
        fun fault mem slot onDisk => ?_⟩
      · obtain known | ⟨-, known⟩ := check.facts.known key mem
        · exact .inl known
        · exact .inr ⟨Finset.mem_insert_self _ _, known⟩
      · exact absurd timedOut stillUntimed
      · obtain recorded | well | handled | timedOut := check.looked fault mem slot onDisk
        · exact .inl recorded
        · exact .inr (.inl well)
        · exact .inr (.inr (.inl handled))
        · exact absurd timedOut untimed
  | fault done fault faults onDisk new check =>
      have listed : Lists s.latestFaults fault.key := ⟨fault, by simp [check.split], rfl⟩
      refine ⟨⟨check.facts.acknowledged, fun key mem => ?_, fun key onDisk recorded listed => ?_,
        fun key mem => ?_, fun key mem => ?_, fun key mem => ?_, fun key mem => ?_,
        check.facts.distinct, check.facts.aliased, check.facts.fresh⟩, check.against.framed,
        check.compared, check.polled, ?_, fun _ => stillUntimed, fun timedOut => ?_,
        fun other mem slot component => ?_⟩
      · obtain rfl | mem := Finset.mem_insert.mp mem
        · exact .inr ⟨Finset.mem_insert_self _ _, lists_append.mpr (.inr ⟨fault, by simp, rfl⟩)⟩
        · obtain known | ⟨-, known⟩ := check.facts.known key mem
          · exact .inl known
          · exact .inr ⟨Finset.mem_insert_self _ _, lists_append.mpr (.inl known)⟩
      · exact Finset.mem_insert_of_mem (check.facts.recorded key onDisk recorded listed)
      · exact check.facts.new key (Finset.mem_of_mem_erase mem)
      · intro refused
        obtain rfl | mem := Finset.mem_insert.mp mem
        · exact Finset.notMem_erase _ _ refused
        · exact check.facts.apart key mem (Finset.mem_of_mem_erase refused)
      · obtain rfl | mem := Finset.mem_insert.mp mem
        · exact ⟨fun _ => listed, acknowledged⟩
        · exact check.facts.handled key mem
      · exact check.facts.refused key (Finset.mem_of_mem_erase mem)
      · simp [State.waited, check.split]
      · exact absurd timedOut stillUntimed
      · rw [List.mem_append, List.mem_singleton] at mem
        obtain mem | rfl := mem
        · obtain recorded | well | handled | timedOut := check.looked other mem slot component
          · exact .inl recorded
          · exact .inr (.inl well)
          · exact .inr (.inr (.inl (Finset.mem_insert_of_mem handled)))
          · exact absurd timedOut untimed
        · exact .inr (.inr (.inl (Finset.mem_insert_self _ _)))

theorem Awaited.timeOut {alert : Alert ν χ} {looked : List (Fault ν χ)}
    (h : Awaited s base looked alert faults) (clean : Clean s .timeOut)
    (cached : List (Fault ν χ)) :
    Check (s.waited alert faults cached false) base looked faults := by
  obtain ⟨unacknowledged, settled⟩ := clean
  have timedOut : ∀ slot key, Lists base key ∨ s.latestDisks.lookup slot = some .ok ∨
      key ∈ (s.waited alert faults cached false).handled ∨
        false ∈ insert false s.eventWaitResults :=
    fun _ _ => .inr (.inr (.inr (Finset.mem_insert_self _ _)))
  have same : true ∉ insert false s.eventWaitResults := by simpa using unacknowledged
  cases h with
  | resolved done key faults check =>
      refine ⟨{ check.facts with known := fun key mem => ?_ }, check.against.framed, check.compared,
        check.polled, check.split, fun acknowledged => absurd acknowledged same, fun _ => settled,
        fun fault _ slot _ => timedOut slot fault.key⟩
      obtain known | ⟨acknowledged, -⟩ := check.facts.known key mem
      · exact .inl known
      · exact absurd acknowledged unacknowledged
  | fault done fault faults onDisk new check =>
      have listed : Lists s.latestFaults fault.key := ⟨fault, by simp [check.split], rfl⟩
      refine ⟨⟨check.facts.acknowledged, fun key mem => ?_, fun key onDisk recorded listed => ?_,
        fun key mem => ?_, fun key mem => ?_, fun key mem => ?_, fun key mem => ?_,
        check.facts.distinct, check.facts.aliased, check.facts.fresh⟩, check.against.framed,
        check.compared, check.polled, ?_, fun acknowledged => absurd acknowledged same,
        fun _ => settled, fun other _ slot _ => timedOut slot other.key⟩
      · obtain known | ⟨acknowledged, -⟩ := check.facts.known key (Finset.mem_of_mem_erase mem)
        · exact .inl known
        · exact absurd acknowledged unacknowledged
      · refine Finset.mem_erase.mpr ⟨?_, check.facts.recorded key onDisk recorded listed⟩
        rintro rfl
        exact new recorded
      · obtain rfl | mem := Finset.mem_insert.mp mem
        · exact new
        · exact check.facts.new key mem
      · intro refused
        obtain rfl | refused := Finset.mem_insert.mp refused
        · exact Finset.notMem_erase _ _ mem
        · exact check.facts.apart key (Finset.mem_of_mem_erase mem) refused
      · exact check.facts.handled key (Finset.mem_of_mem_erase mem)
      · obtain rfl | mem := Finset.mem_insert.mp mem
        · exact ⟨listed, onDisk⟩
        · exact check.facts.refused key mem
      · simp [State.waited, check.split]

/-- An acknowledgement of this check. -/
theorem Staged.acknowledge (h : Staged s) {alert : Alert ν χ} (mem : alert ∈ s.outstanding) :
    Staged { s with
      outstanding := s.outstanding.erase alert, acknowledged := s.acknowledged ++ [alert]
      event := true } := by
  unfold Staged at h
  cases stage : s.stage with
  | idle =>
      simp only [stage] at h
      simp only [Staged]
      exact ⟨(h.facts.acknowledge alert).framed, h.round.framed, h.results, h.nonempty, h.unpolled⟩
  | checking faults cached =>
      simp only [stage] at h
      simp only [Staged]
      obtain ⟨⟨base, done, check, round⟩, quiet⟩ := h
      refine ⟨⟨base, done, (check.acknowledge alert).framed, round.framed⟩, fun untimed => ?_⟩
      simp [(quiet untimed).2] at mem
  | waiting awaited faults cached =>
      simp only [stage] at h
      simp only [Staged]
      obtain ⟨⟨base, looked, check, round⟩, answer⟩ := h
      refine ⟨⟨base, looked, (check.acknowledge alert).framed, round.framed⟩,
        fun untimed => .inl ?_⟩
      obtain ⟨-, outstanding, -⟩ | ⟨-, outstanding⟩ := answer untimed
      · simp [outstanding] at mem
      · simp only [outstanding, List.mem_singleton] at mem
        subst mem
        exact ⟨trivial, by simp [outstanding], by simp⟩

/-- An acknowledgement of an earlier check. -/
theorem Staged.acknowledgeStray (h : Staged s) (alert : Alert ν χ) :
    Staged { s with
      stray := s.stray.erase alert, acknowledged := s.acknowledged ++ [alert] } := by
  unfold Staged at h
  cases stage : s.stage with
  | idle =>
      simp only [stage] at h
      simp only [Staged]
      exact ⟨(h.facts.acknowledge alert).framed, h.round.framed, h.results, h.nonempty, h.unpolled⟩
  | checking faults cached =>
      simp only [stage] at h
      simp only [Staged]
      obtain ⟨⟨base, done, check, round⟩, quiet⟩ := h
      exact ⟨⟨base, done, (check.acknowledge alert).framed, round.framed⟩, quiet⟩
  | waiting awaited faults cached =>
      simp only [stage] at h
      simp only [Staged]
      obtain ⟨⟨base, looked, check, round⟩, answer⟩ := h
      refine ⟨⟨base, looked, (check.acknowledge alert).framed, round.framed⟩, fun untimed => ?_⟩
      obtain ⟨event, outstanding, acknowledged⟩ | pending := answer untimed
      · exact .inl ⟨event, outstanding, List.mem_append_left _ acknowledged⟩
      · exact .inr pending

theorem reset_of_elsewhere {slot : ν} {fault : Fault ν χ}
    (elsewhere : fault.key.component ≠ .disk slot) : reset slot fault = fault :=
  if_neg elsewhere

/-- An insertion where no fault is recorded resets no health. -/
theorem Idle.reset_elsewhere (h : Idle s) {slot : ν}
    (elsewhere : ∀ fault ∈ s.memcacheFaults, fault.key.component ≠ .disk slot) :
    s.memcacheFaults.map (reset slot) = s.memcacheFaults ∧
      (if s.aliased then s.latestFaults.map (reset slot) else s.latestFaults) = s.latestFaults := by
  have recorded : s.memcacheFaults.map (reset slot) = s.memcacheFaults :=
    (List.map_congr_left fun fault mem => reset_of_elsewhere (elsewhere fault mem)).trans
      (List.map_id s.memcacheFaults)
  refine ⟨recorded, ?_⟩
  split
  · rename_i aliased
    rw [h.facts.aliased aliased, recorded]
  · rfl

/-- An insertion where no fault is recorded changes nothing. -/
theorem Idle.insertion (h : Idle s) (idle : s.stage = .idle) {slot : ν}
    (clean : Clean s (.insertion slot)) (step : s.next (.insertion slot) = some t) : t = s := by
  simp only [State.next, idle, Option.some.injEq] at step
  obtain ⟨recorded, latest⟩ := h.reset_elsewhere clean
  rw [recorded, latest, ← idle] at step
  exact step.symm

theorem Staged.step (h : Staged s) (clean : Clean s a) (step : s.next a = some t) : Staged t := by
  have staged := h
  unfold Staged at staged
  cases a with
  | run disks answer =>
      cases stage : s.stage with
      | idle =>
          simp only [stage] at staged
          exact staged.run stage clean step
      | _ => simp [State.next, stage] at step
  | advance =>
      cases stage : s.stage with
      | checking faults cached =>
          simp only [stage] at staged
          obtain ⟨⟨base, done, check, round⟩, quiet⟩ := staged
          simp only [State.next, stage, Option.some.injEq] at step
          subst step
          exact check.advance round stage quiet clean
      | _ => simp [State.next, stage] at step
  | acknowledge alert =>
      simp only [State.next] at step
      split at step
      · rename_i mem
        cases step
        exact h.acknowledge mem
      · split at step
        · cases step
          exact h.acknowledgeStray alert
        · cases step
  | wake =>
      cases stage : s.stage with
      | waiting alert faults cached =>
          simp only [stage] at staged
          obtain ⟨⟨base, looked, awaited, round⟩, answer⟩ := staged
          simp only [State.next, stage, Option.ite_none_right_eq_some, Option.some.injEq] at step
          obtain ⟨set, rfl⟩ := step
          obtain ⟨-, outstanding, acknowledged⟩ | ⟨unset, -⟩ := answer clean
          · exact ⟨⟨base, looked, awaited.wake acknowledged clean cached, round.framed⟩,
              fun _ => ⟨rfl, outstanding⟩⟩
          · cases unset.symm.trans set
      | _ => simp [State.next, stage] at step
  | timeOut =>
      cases stage : s.stage with
      | waiting alert faults cached =>
          simp only [stage] at staged
          obtain ⟨⟨base, looked, awaited, round⟩, -⟩ := staged
          simp only [State.next, stage, Option.ite_none_left_eq_some, Option.some.injEq] at step
          obtain ⟨-, rfl⟩ := step
          refine ⟨⟨base, looked, awaited.timeOut clean cached, round.framed⟩, fun untimed => ?_⟩
          exact absurd (Finset.mem_insert_self false s.eventWaitResults) untimed
      | _ => simp [State.next, stage] at step
  | insertion slot =>
      cases stage : s.stage with
      | idle =>
          simp only [stage] at staged
          rw [staged.insertion stage clean step]
          exact h
      | _ => simp [State.next, stage] at step

/-- What a round needs next is its turn, or the end of its wait. -/
theorem next_own (busy : s.stage ≠ .idle) :
    ∃ a : Action ν χ, a.own = true ∧ (s.next a).isSome = true := by
  cases stage : s.stage with
  | idle => exact absurd stage busy
  | checking faults cached => exact ⟨.advance, rfl, by simp [State.next, stage]⟩
  | waiting alert faults cached =>
      cases event : s.event with
      | true => exact ⟨.wake, rfl, by simp [State.next, stage, event]⟩
      | false => exact ⟨.timeOut, rfl, by simp [State.next, stage, event]⟩

theorem advance_turns (s : State ν χ) (faults cached : List (Fault ν χ)) :
    (s.advance faults cached).stage.turns < (Stage.checking faults cached).turns := by
  cases faults with
  | cons fault rest =>
      simp only [State.advance]
      repeat' split
      all_goals simp only [State.raise, Stage.turns, List.length_cons]; omega
  | nil =>
      cases cached with
      | cons first rest =>
          simp only [State.advance]
          repeat' split
          all_goals simp only [State.raise, Stage.turns, List.length_cons]; omega
      | nil => simp [State.advance, Stage.turns]

theorem own_turns (own : a.own = true) (step : s.next a = some t) :
    t.stage.turns < s.stage.turns := by
  cases a with
  | advance =>
      cases stage : s.stage with
      | checking faults cached =>
          simp only [State.next, stage, Option.some.injEq] at step
          subst step
          exact advance_turns s faults cached
      | _ => simp [State.next, stage] at step
  | wake =>
      cases stage : s.stage with
      | waiting alert faults cached =>
          simp only [State.next, stage, Option.ite_none_right_eq_some, Option.some.injEq] at step
          obtain ⟨-, rfl⟩ := step
          simp [State.waited, Stage.turns]
      | _ => simp [State.next, stage] at step
  | timeOut =>
      cases stage : s.stage with
      | waiting alert faults cached =>
          simp only [State.next, stage, Option.ite_none_left_eq_some, Option.some.injEq] at step
          obtain ⟨-, rfl⟩ := step
          simp [State.waited, Stage.turns]
      | _ => simp [State.next, stage] at step
  | _ => cases own

theorem Staged.recorded (h : Staged s) (settled : s.stage = .idle ∨ s.existingFaults = false) :
    ∀ fault ∈ s.memcacheFaults, fault.key.OnDisk → ⟨.fault, fault.key⟩ ∈ s.acknowledged := by
  cases stage : s.stage with
  | idle =>
      simp only [Staged, stage] at h
      intro fault mem onDisk
      refine h.facts.acknowledged fault ?_ onDisk
      rw [cached_of_memcache (List.ne_nil_of_mem mem)]
      exact mem
  | checking faults cached =>
      simp only [Staged, stage] at h
      obtain ⟨⟨base, done, check, -⟩, -⟩ := h
      exact check.recorded (settled.resolve_left (by simp [stage]))
  | waiting alert faults cached =>
      simp only [Staged, stage] at h
      obtain ⟨⟨base, looked, awaited, -⟩, -⟩ := h
      have settled := settled.resolve_left (by simp [stage])
      cases awaited with
      | fault done fault faults onDisk new check => exact check.recorded settled
      | resolved done key faults check => exact check.recorded settled

/-- The faults looked at are listed. -/
theorem Staged.round (h : Staged s) :
    ∃ looked, Round s looked ∧ ∀ key, Lists looked key → Lists s.latestFaults key := by
  have inside : ∀ {done faults : List (Fault ν χ)}, s.latestFaults = done ++ faults →
      ∀ key, Lists done key → Lists s.latestFaults key := by
    intro done faults split key listed
    rw [split]
    exact lists_append.mpr (.inl listed)
  cases stage : s.stage with
  | idle =>
      simp only [Staged, stage] at h
      exact ⟨_, h.round, fun _ => id⟩
  | checking faults cached =>
      simp only [Staged, stage] at h
      obtain ⟨⟨base, done, check, round⟩, -⟩ := h
      exact ⟨done, round, inside check.split⟩
  | waiting alert faults cached =>
      simp only [Staged, stage] at h
      obtain ⟨⟨base, looked, awaited, round⟩, -⟩ := h
      refine ⟨looked, round, ?_⟩
      cases awaited with
      | fault done fault faults onDisk new check =>
          exact inside (check.split.trans (List.append_cons done fault faults))
      | resolved done key faults check => exact inside check.split

theorem Staged.booked (h : Staged s) : Booked s where
  recorded := h.recorded
  alerted idle fault listed unwell new := by
    simp only [Staged, idle] at h
    refine List.count_pos_iff.mp ?_
    rw [h.round.raised fault.key, if_pos ⟨⟨fault, listed, rfl⟩, unwell, new⟩]
    exact Nat.one_pos
  again idle key due := by
    simp only [Staged, idle] at h
    have listed := (h.round.listed key due).1
    refine List.count_pos_iff.mp ?_
    rw [h.round.raised key, if_pos ⟨listed, h.round.redone key due listed, h.round.fresh key due⟩]
    exact Nat.one_pos
  single key := by
    obtain ⟨looked, round, -⟩ := h.round
    rw [round.raised key]
    split <;> omega
  once key mem := by
    obtain ⟨looked, round, inside⟩ := h.round
    have counted := round.raised key
    split at counted
    · rename_i alerted
      exact ⟨inside key alerted.1, alerted.2.2⟩
    · exact absurd mem (List.count_eq_zero.mp counted)
  goes_on := next_own
  ends own t ours run := by
    have guarded := run.of_forall_mem (G := fun _ a => a.own = true) fun a mem _ => ours a mem
    have bound := guarded.length_add_variant_le (I := fun _ => True) (fun s => s.stage.turns)
      (fun _ _ _ _ own step => ⟨trivial, own_turns own step⟩) trivial
    omega

@[simp] theorem checkDiskFaults_heard (s : State ν χ) :
    (s.checkDiskFaults.latestDisks, s.checkDiskFaults.latestFaults) =
      (s.latestDisks, s.latestFaults) := by
  unfold State.checkDiskFaults
  split <;> rfl

theorem getSystemStatus_heard (s : State ν χ) (disks : AList (fun _ : ν => DiskHealth χ))
    (answer : Option (Option (List (Fault ν χ)))) :
    ((({ s with latestDisks := disks } : State ν χ).getSystemStatus answer).latestDisks,
      (({ s with latestDisks := disks } : State ν χ).getSystemStatus answer).latestFaults) =
        heard (s.latestDisks, s.latestFaults) (.run disks answer) := by
  rcases answer with - | - | faults
  · rfl
  · rfl
  · simp only [State.getSystemStatus]
    split
    · rfl
    · split <;> rfl

theorem advance_heard (s : State ν χ) (faults cached : List (Fault ν χ)) :
    ((s.advance faults cached).latestDisks, (s.advance faults cached).latestFaults) =
      (s.latestDisks, s.latestFaults) := by
  cases faults with
  | cons fault rest =>
      simp only [State.advance]
      repeat' split
      all_goals rfl
  | nil =>
      cases cached with
      | cons first rest =>
          simp only [State.advance]
          repeat' split
          all_goals rfl
      | nil =>
          simp only [State.advance]
          split <;> rfl

/-- The sensor works on what was listed last. -/
theorem Staged.heard (h : Staged s) (clean : Clean s a) (step : s.next a = some t) :
    (t.latestDisks, t.latestFaults) = heard (s.latestDisks, s.latestFaults) a := by
  cases a with
  | run disks answer =>
      simp only [State.next] at step
      split at step
      · rw [← Option.some.inj step, checkDiskFaults_heard]
        exact getSystemStatus_heard s disks answer
      · cases step
  | advance =>
      cases stage : s.stage with
      | checking faults cached =>
          simp only [State.next, stage, Option.some.injEq] at step
          subst step
          exact advance_heard s faults cached
      | _ => simp [State.next, stage] at step
  | acknowledge alert =>
      simp only [State.next] at step
      split at step
      · cases step
        rfl
      · split at step
        · cases step
          rfl
        · cases step
  | wake =>
      cases stage : s.stage with
      | waiting alert faults cached =>
          simp only [State.next, stage, Option.ite_none_right_eq_some, Option.some.injEq] at step
          rw [← step.2]
          rfl
      | _ => simp [State.next, stage] at step
  | timeOut =>
      cases stage : s.stage with
      | waiting alert faults cached =>
          simp only [State.next, stage, Option.ite_none_left_eq_some, Option.some.injEq] at step
          rw [← step.2]
          rfl
      | _ => simp [State.next, stage] at step
  | insertion slot =>
      cases stage : s.stage with
      | idle =>
          simp only [Staged, stage] at h
          rw [h.insertion stage clean step]
          rfl
      | _ => simp [State.next, stage] at step

theorem runs_heard {actions : List (Action ν χ)} (run : system.Runs Clean s actions t)
    (staged : Staged s) :
    (t.latestDisks, t.latestFaults) = actions.foldl heard (s.latestDisks, s.latestFaults) := by
  induction run with
  | nil => rfl
  | cons clean step _ ih =>
      rw [ih (staged.step clean step), staged.heard clean step]
      rfl

/-- In a clean run the bookkeeping does what it is for, with the disks and the faults that were
listed last, whatever an earlier process has recorded. -/
theorem faults_booked {stored : Option (List (Fault ν χ))} {actions : List (Action ν χ)}
    (run : system.Runs Clean (start stored) actions s) :
    (s.latestDisks, s.latestFaults) = actions.foldl heard (∅, []) ∧ Booked s := by
  have staged : Staged s := run.invariant
    (fun _ _ _ staged clean step => Staged.step staged clean step) (start_staged stored)
  exact ⟨runs_heard run (start_staged stored), staged.booked⟩

end Runs

namespace Example

def unwell : Fault Nat Unit := ⟨⟨.disk 0, .text (), ()⟩, ()⟩

def known : Fault Nat Unit := ⟨⟨.disk 1, .text (), ()⟩, ()⟩

def disks : AList (fun _ : Nat => DiskHealth Unit) :=
  (AList.singleton 0 (.text ())).insert 1 (.text ())

/-- An earlier process has recorded a fault. The polls list a new one with it: its alert times
out in the first round, is acknowledged in the second and not raised in the third. -/
def acknowledged : List (Action Nat Unit) :=
  [.run disks (some (some [known, unwell])), .advance, .advance, .timeOut, .advance, .advance,
    .run disks (some (some [known, unwell])), .advance, .advance,
    .acknowledge ⟨.fault, unwell.key⟩, .wake, .advance, .advance,
    .run disks (some (some [known, unwell]))]

/-- A condition on the disk of a fault. -/
instance {key : Key Nat Unit} {P : Nat → Prop} [DecidablePred P] :
    Decidable (∀ slot, key.component = .disk slot → P slot) :=
  match key with
  | ⟨.disk slot, _, _⟩ =>
    decidable_of_iff (P slot)
      ⟨fun holds _ same => Component.disk.inj same ▸ holds, fun all => all slot rfl⟩
  | ⟨.other _, _, _⟩ => isTrue nofun

instance (key : Key Nat Unit) : Decidable key.OnDisk :=
  match key with
  | ⟨.disk slot, _, _⟩ => isTrue ⟨slot, rfl⟩
  | ⟨.other _, _, _⟩ => isFalse nofun

instance (s : State Nat Unit) : (stage : Stage Nat Unit) → Decidable (CleanTurn s stage)
  | .checking (_ :: _) _ | .checking [] (_ :: _) | .checking [] [] =>
    by unfold CleanTurn; infer_instance
  | .idle | .waiting _ _ _ => isTrue trivial

instance (s : State Nat Unit) : (a : Action Nat Unit) → Decidable (Clean s a)
  | .run _ none | .run _ (some (some _)) | .advance | .wake | .timeOut | .insertion _ =>
    by unfold Clean; infer_instance
  | .run _ (some none) | .acknowledge _ => isTrue trivial

/-- The new fault is recorded with its second alert, which is acknowledged. -/
theorem faults_booked_acknowledged :
    ∃ s : State Nat Unit, s.stage = .idle ∧ s.memcacheFaults = [known, unwell] ∧
      s.alerts = [⟨.fault, unwell.key⟩, ⟨.fault, unwell.key⟩] ∧ s.before = {unwell.key, known.key} ∧
      (s.latestDisks, s.latestFaults) = acknowledged.foldl heard (∅, []) ∧ Booked s := by
  have run : ∃ s : State Nat Unit, system.Runs Clean (start (some [known])) acknowledged s ∧
      s.stage = .idle ∧ s.memcacheFaults = [known, unwell] ∧
      s.alerts = [⟨.fault, unwell.key⟩, ⟨.fault, unwell.key⟩] ∧
      s.before = {unwell.key, known.key} :=
    ⟨_, (Transition.System.replay_eq_some_iff _).mp rfl, rfl, rfl, rfl, rfl⟩
  obtain ⟨s, run, idle, recorded, alerts, before⟩ := run
  exact ⟨s, idle, recorded, alerts, before, faults_booked run⟩

/-- Nothing is recorded. The first poll lists the fault, the wait for its alert times out, and
the next poll lists the fault again. -/
def timedOut : List (Action Nat Unit) :=
  [.run disks (some (some [unwell])), .advance, .timeOut, .advance, .advance,
    .run disks (some (some [unwell]))]

theorem timedOut_run : ∃ s : State Nat Unit, system.FreeRuns (start none) timedOut s ∧
    s.stage = .idle ∧ unwell.key ∈ s.due ∧ s.round = [] :=
  ⟨_, (Transition.System.run_eq_some_iff _).mp rfl, rfl, by decide, rfl⟩

/-- The fault of the first poll is recorded although its alert was not acknowledged, and the
second poll does not raise it again. -/
theorem faults_unbooked :
    ¬ ∀ actions (s : State Nat Unit), system.FreeRuns (start none) actions s → Booked s := by
  intro booked
  obtain ⟨s, run, idle, due, round⟩ := timedOut_run
  have again := (booked timedOut s run).again idle _ due
  simp [round] at again

end Example

end Faults

end Realstor

end Sspl

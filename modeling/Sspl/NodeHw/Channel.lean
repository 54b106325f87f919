import Sspl.Foundation.Alternation
import Sspl.Foundation.System
import Sspl.Python.Text

/-!
# The channel to the BMC

The node sensor reaches the BMC through the configured interface, the LAN or the system
interface (KCS). The error of a command tells that the interface in use is unreachable: an
alert is raised for it once, the status is kept in the cache directory, and a sensor that was
using the LAN goes on with KCS. From then on the LAN is tried with a command of its own,
`channel info`, whose success raises the alert that it is reachable again.

Every command ends with the update of `channel_err`, which suspends the monitoring. The two
tests in it compare what `all` and `any` return, a truth value, with the text of a status.
-/

namespace Sspl

namespace NodeHw

/-- `BMCInterface.SUPPORTED_BMC_IF`. -/
inductive BmcIf
  | lan
  | lanplus
  | system
  deriving DecidableEq, Repr

def BmcIf.text : BmcIf → String
  | .lan => "lan"
  | .lanplus => "lanplus"
  | .system => "system"

/-- `BMCInterface.LAN_IF`. -/
def lanIf : List BmcIf := [.lan, .lanplus]

@[simp] theorem mem_lanIf {ifName : BmcIf} : ifName ∈ lanIf ↔ ifName ≠ .system := by
  cases ifName <;> decide

/-- The texts `"fault"` and `"fault_resolved"`. -/
inductive ChannelAlert
  | fault
  | faultResolved
  deriving DecidableEq, Repr

/-- `BMC_CHANNEL`, with the texts as functions of the interface name they are formatted with. -/
structure BmcChannel where
  alert : ChannelAlert
  description : String → String
  impact : String → String
  recommendation : String → String

def inactiveChannel : BmcChannel where
  alert := .fault
  description name := "Server BMC is unreachable through " ++ name ++ " interface."
  impact name := "IPMITOOL commands can not be executed through BMC " ++ name ++ " interface."
  recommendation name :=
    "Verify BMC IP, username and password is correct, Enable " ++ name ++ " interface."

def activeChannel : BmcChannel where
  alert := .faultResolved
  description name := "Server BMC is reachable through " ++ name ++ " interface."
  impact name := "IPMITOOL commands can be executed through BMC " ++ name ++ " interface."
  recommendation _ := "NA"

namespace Channel

/-- What a command of `ipmitool` returns. -/
structure Outcome where
  err : String
  retcode : Int
  deriving DecidableEq

/-- The alert message, as far as it tells the interface. -/
structure Alert where
  ifName : BmcIf
  alertType : ChannelAlert
  resourceType : String
  resourceId : Option String
  description : String
  impact : String
  recommendation : String
  deriving DecidableEq

/-- The files of `BMC_IF_CACHE`. -/
structure Cache where
  lan : Option ChannelAlert
  system : Option ChannelAlert
  active : Option BmcIf
  deriving DecidableEq

inductive Stage
  | off
  /-- `initialize` has run its first command and goes on with `_fetch_channel_info`. -/
  | starting
  | running
  /-- `_fetch_channel_info` is going to try the LAN, which is recorded as faulty. -/
  | answering
  deriving DecidableEq

/-- What the sensor knows of the two interfaces to the BMC, its cache in the store, and the alerts
sent. -/
structure State where
  stage : Stage
  channelErr : Bool
  lanFault : Option ChannelAlert
  systemFault : Option ChannelAlert
  activeBmcIf : Option BmcIf
  /-- The medium type in `CHANNEL_INFO`, if it was read. -/
  channelInfo : Option String
  cache : Cache
  /-- The alerts sent so far, in any run of the sensor. -/
  alerts : List Alert
  deriving DecidableEq

/-- The alert that is sent, given the medium type in `CHANNEL_INFO`. -/
def message (alert : BmcChannel) (ifName : BmcIf) (channelInfo : Option String) : Alert where
  ifName := ifName
  alertType := alert.alert
  resourceType :=
    if ifName ∈ lanIf then "node:bmc:interface:rmcp" else "node:bmc:interface:kcs"
  resourceId :=
    if ifName ∈ lanIf then some "802.3 LAN"
    else if alert.alert = .fault then some "System Interface"
    else channelInfo
  description := alert.description ifName.text
  impact := alert.impact ifName.text
  recommendation := alert.recommendation ifName.text

def getChannelAlert (alert : BmcChannel) (ifName : BmcIf) (s : State) : State :=
  if ifName = .system then
    { s with
      systemFault := some alert.alert
      cache := { s.cache with system := some alert.alert }
      alerts := s.alerts ++ [message alert ifName s.channelInfo] }
  else
    { s with
      lanFault := some alert.alert
      cache := { s.cache with lan := some alert.alert }
      alerts := s.alerts ++ [message alert ifName s.channelInfo] }

def lanErrs : List String :=
  ["Unable to establish LAN session", "Unable to establish IPMI v1.5 / RMCP session",
    "Unable to establish IPMI v2 / RMCP+ session", "connection timeout", "session timeout",
    "driver timeout", "message timeout", "Address lookup for -U failed", "BMC busy",
    "invalid user name", "password invalid", "password verification timeout", "k_g invalid",
    "privilege level insufficient", "privilege level cannot be obtained for this user",
    "authentication type unavailable for attempted privilege level"]

def kcsErrs : List String := ["could not find inband device", "driver timeout"]

/-- The outcome tells that the interface it was run through is unreachable. -/
def Outcome.failure (errs : List String) (o : Outcome) : Prop :=
  o.retcode ≠ 0 ∧ anyIn errs o.err = true

instance (errs : List String) (o : Outcome) : Decidable (o.failure errs) :=
  inferInstanceAs (Decidable (_ ∧ _))

def checkKcsChannel (o : Outcome) (s : State) : State :=
  if o.failure kcsErrs ∧ s.systemFault ≠ some .fault then getChannelAlert inactiveChannel .system s
  else if o.retcode = 0 ∧ s.systemFault = some .fault then getChannelAlert activeChannel .system s
  else s

/-- `active_bmc_if` is a LAN interface here. -/
def checkLanChannel (o : Outcome) (active : BmcIf) (s : State) : State :=
  if o.failure lanErrs ∧ s.lanFault ≠ some .fault then
    let raised := getChannelAlert inactiveChannel active s
    { raised with
      activeBmcIf := some .system
      cache := { raised.cache with active := some .system } }
  else s

/-- What `all` returns for a list of statuses: a truth value. -/
def all (statuses : List (Option ChannelAlert)) : Json := .bool (statuses.all Option.isSome)

/-- What `any` returns for a list of statuses: a truth value. -/
def any (statuses : List (Option ChannelAlert)) : Json := .bool (statuses.any Option.isSome)

section

variable (configured : BmcIf)

/-- The end of `_check_channel_error`. -/
def updateChannelErr (s : State) : State :=
  if all [s.systemFault, s.lanFault] = .str "fault" ∨
      configured = .system ∧ s.systemFault = some .fault then
    { s with channelErr := true }
  else if any [s.systemFault, s.lanFault] ≠ .str "fault" then { s with channelErr := false }
  else s

def checkChannelError (o : Outcome) (s : State) : State :=
  updateChannelErr configured <|
    match s.activeBmcIf with
    | none => s
    | some active =>
      if active = .system then checkKcsChannel o s
      else if active ∈ lanIf then checkLanChannel o active s
      else s

def getInterfaceFromCache (s : State) : State :=
  let cached := { s with lanFault := s.cache.lan, systemFault := s.cache.system }
  if cached.cache.active ≠ none ∧ cached.lanFault = some .fault then
    { cached with activeBmcIf := cached.cache.active }
  else
    { cached with
      activeBmcIf := some configured
      cache := { cached.cache with active := some configured } }

/-- `initialize` up to the result of `sel info`. -/
def initializeChannel (selInfo : Outcome) (s : State) : State :=
  checkChannelError configured selInfo <|
    getInterfaceFromCache configured { s with channelErr := false, channelInfo := none }

/-- A command of `ipmitool` with what it returns, at the places of the sensor where its outcome is
looked at. -/
inductive Action
  | initializeChannel (selInfo : Outcome)
  /-- Any command of the sensor on its thread. -/
  | command (o : Outcome)
  /-- The command `channel info` of `_fetch_channel_info`, with the medium type it read. -/
  | channelInfo (o : Outcome) (medium : Option String)
  /-- The command `channel info` through the LAN. -/
  | lanCommand (retcode : Int)
  | stop
  deriving DecidableEq

/-- `_fetch_channel_info` up to the test of `lan_fault`. -/
def fetchChannelInfo (o : Outcome) (medium : Option String) (s : State) : State :=
  let checked := checkChannelError configured o s
  { checked with
    channelInfo := if o.retcode = 0 then medium else checked.channelInfo
    stage := if checked.lanFault = some .fault then .answering else .running }

def next (s : State) : Action → Option State
  | .initializeChannel selInfo =>
    if s.stage = .off then
      let started := initializeChannel configured selInfo s
      some { started with
        stage := if selInfo.retcode ≠ 0 ∧ started.channelErr = true then .off else .starting }
    else none
  | .command o => if s.stage = .running then some (checkChannelError configured o s) else none
  | .channelInfo o medium =>
    if s.stage = .starting ∨
        s.stage = .running ∧ (s.channelErr = true ∨ s.lanFault = some .fault) then
      some (fetchChannelInfo configured o medium s)
    else none
  | .lanCommand retcode =>
    if s.stage = .answering then
      some { (if retcode = 0 then getChannelAlert activeChannel configured s else s) with
        stage := .running }
    else none
  | .stop => some { s with stage := .off }

/-- A node whose sensor has never run. -/
def start : State :=
  ⟨.off, false, none, none, none, none, ⟨none, none, none⟩, []⟩

/-- The sensor with one configured interface, over all its starts. -/
def system : Transition.System State Action where
  init s := s = start
  next := next configured

/-- The recorded status of an interface. -/
def State.recorded (s : State) (ifName : BmcIf) : Option ChannelAlert :=
  if ifName = .system then s.systemFault else s.lanFault

/-- The configured interface and the one it falls back to are recorded as faulty. -/
def NoUsable (s : State) : Prop :=
  s.recorded configured = some .fault ∧ s.systemFault = some .fault

def State.alertsOf (s : State) (ifName : BmcIf) : List ChannelAlert :=
  (s.alerts.filter (·.ifName = ifName)).map (·.alertType)

/-- An error is reported exactly when neither interface is usable, the configured one is used as
long as it is not faulty, and the alerts of each alternate. -/
structure Conforms (s : State) : Prop where
  reported : s.channelErr = true ↔ NoUsable configured s
  preferred : ∀ active, s.activeBmcIf = some active → s.recorded configured ≠ some .fault →
    active = configured
  alternate : ∀ ifName, Alternating .fault .faultResolved (s.alertsOf ifName)

/-- KCS does not turn out to be unreachable while the LAN is configured and recorded as faulty,
and the LAN does not answer again while the sensor is running. -/
def Regular (s : State) : Action → Prop
  | .initializeChannel o | .command o | .channelInfo o _ =>
    ¬ (configured ≠ .system ∧ s.lanFault = some .fault ∧ o.failure kcsErrs)
  | .lanCommand retcode => retcode ≠ 0
  | .stop => True

instance (s : State) : (a : Action) → Decidable (Regular configured s a)
  | .initializeChannel _ => inferInstanceAs (Decidable (¬ (_ ∧ _ ∧ _)))
  | .command _ => inferInstanceAs (Decidable (¬ (_ ∧ _ ∧ _)))
  | .channelInfo _ _ => inferInstanceAs (Decidable (¬ (_ ∧ _ ∧ _)))
  | .lanCommand retcode => inferInstanceAs (Decidable (retcode ≠ 0))
  | .stop => .isTrue trivial

end

section Runs

variable {configured ifName : BmcIf} {alert : BmcChannel} {s t : State} {a : Action}

@[simp] theorem getChannelAlert_activeBmcIf :
    (getChannelAlert alert ifName s).activeBmcIf = s.activeBmcIf := by
  unfold getChannelAlert
  split <;> rfl

@[simp] theorem getChannelAlert_cache_active :
    (getChannelAlert alert ifName s).cache.active = s.cache.active := by
  unfold getChannelAlert
  split <;> rfl

@[simp] theorem getChannelAlert_stage :
    (getChannelAlert alert ifName s).stage = s.stage := by
  unfold getChannelAlert
  split <;> rfl

theorem getChannelAlert_system (alert : BmcChannel) (s : State) (other : ifName = .system) :
    (getChannelAlert alert ifName s).systemFault = some alert.alert ∧
      (getChannelAlert alert ifName s).cache.system = some alert.alert ∧
      (getChannelAlert alert ifName s).lanFault = s.lanFault ∧
      (getChannelAlert alert ifName s).cache.lan = s.cache.lan := by
  unfold getChannelAlert
  rw [if_pos other]
  exact ⟨rfl, rfl, rfl, rfl⟩

theorem getChannelAlert_lan (alert : BmcChannel) (s : State) (other : ifName ≠ .system) :
    (getChannelAlert alert ifName s).lanFault = some alert.alert ∧
      (getChannelAlert alert ifName s).cache.lan = some alert.alert ∧
      (getChannelAlert alert ifName s).systemFault = s.systemFault ∧
      (getChannelAlert alert ifName s).cache.system = s.cache.system := by
  unfold getChannelAlert
  rw [if_neg other]
  exact ⟨rfl, rfl, rfl, rfl⟩

theorem alertsOf_getChannelAlert (other : BmcIf) :
    (getChannelAlert alert ifName s).alertsOf other =
      s.alertsOf other ++ if ifName = other then [alert.alert] else [] := by
  unfold getChannelAlert State.alertsOf
  by_cases same : ifName = other <;> split <;> simp [message, same]

/-- The alerts of each interface alternate, and the next one is told by its recorded status. -/
structure Alternates (configured : BmcIf) (s : State) : Prop where
  alternate : ∀ ifName, Alternating .fault .faultResolved (s.alertsOf ifName)
  outstanding : ∀ ifName, ifName = .system ∨ ifName = configured →
    due .fault .faultResolved (s.alertsOf ifName) =
      if s.recorded ifName = some .fault then .faultResolved else .fault

theorem Alternates.framed (h : Alternates configured s) (alerts : t.alerts = s.alerts)
    (lan : t.lanFault = s.lanFault) (system : t.systemFault = s.systemFault) :
    Alternates configured t := by
  have of : ∀ ifName, t.alertsOf ifName = s.alertsOf ifName := by
    intro ifName
    rw [State.alertsOf, State.alertsOf, alerts]
  have recorded : ∀ ifName, t.recorded ifName = s.recorded ifName := by
    intro ifName
    rw [State.recorded, State.recorded, lan, system]
  refine ⟨fun ifName => of ifName ▸ h.alternate ifName, fun ifName known => ?_⟩
  rw [of, recorded, h.outstanding ifName known]

theorem recorded_getChannelAlert :
    (getChannelAlert alert ifName s).recorded ifName = some alert.alert := by
  unfold State.recorded
  split
  · exact (getChannelAlert_system _ _ ‹_›).1
  · exact (getChannelAlert_lan _ _ ‹_›).1

/-- An alert that is a change of the recorded status is the next one of its interface. -/
theorem Alternates.raise (h : Alternates configured s)
    (known : ifName = .system ∨ ifName = configured)
    (change : alert.alert = .fault ↔ s.recorded ifName ≠ some .fault) :
    Alternates configured (getChannelAlert alert ifName s) := by
  have expected := h.outstanding ifName known
  have appended : Alternating .fault .faultResolved (s.alertsOf ifName ++ [alert.alert]) ∧
      due .fault .faultResolved (s.alertsOf ifName ++ [alert.alert]) =
        if some alert.alert = some ChannelAlert.fault then .faultResolved else .fault := by
    by_cases faulty : s.recorded ifName = some .fault
    · have resolved : alert.alert = .faultResolved := by
        cases raised : alert.alert with
        | fault => exact absurd faulty (change.mp raised)
        | faultResolved => rfl
      rw [if_pos faulty] at expected
      rw [resolved]
      exact (h.alternate ifName).append_second (by decide) expected
    · rw [if_neg faulty] at expected
      rw [change.mpr faulty]
      exact (h.alternate ifName).append_first (by decide) expected
  constructor
  · intro other
    rw [alertsOf_getChannelAlert]
    split
    · rename_i same
      exact same ▸ appended.1
    · rw [List.append_nil]
      exact h.alternate other
  · intro other among
    rw [alertsOf_getChannelAlert]
    split
    · rename_i same
      subst same
      rw [recorded_getChannelAlert]
      exact appended.2
    · rename_i different
      have same : (getChannelAlert alert ifName s).recorded other = s.recorded other := by
        unfold State.recorded
        split
        · rename_i system
          refine (getChannelAlert_lan _ _ ?_).2.2.1
          rintro rfl
          exact different system.symm
        · rename_i lan
          obtain rfl | rfl := known
          · exact (getChannelAlert_system _ _ rfl).2.2.1
          · exact absurd (among.resolve_left lan).symm different
      rw [List.append_nil, same]
      exact h.outstanding other among

/-- The files agree with the sensor, and the interface in use is one of the two it may use. -/
structure Recorded (configured : BmcIf) (s : State) : Prop extends Alternates configured s where
  lan : s.cache.lan = s.lanFault
  system : s.cache.system = s.systemFault
  active : s.cache.active = s.activeBmcIf
  used : ∀ active, s.activeBmcIf = some active → active = .system ∨ active = configured
  direct : configured = .system → s.lanFault ≠ some .fault

/-- What the regular steps keep in addition: the interface in use follows from the status of the
LAN, and KCS is only recorded as faulty when it is the configured one. -/
structure Chosen (configured : BmcIf) (s : State) : Prop where
  fallback : s.lanFault = some .fault → s.activeBmcIf = some .system
  preferred : ∀ active, s.activeBmcIf = some active → s.lanFault ≠ some .fault →
    active = configured
  single : configured ≠ .system → s.systemFault ≠ some .fault

theorem updateChannelErr_eq (configured : BmcIf) (s : State) : updateChannelErr configured s =
    { s with channelErr := decide (configured = .system ∧ s.systemFault = some .fault) } := by
  unfold updateChannelErr all any
  by_cases faulty : configured = .system ∧ s.systemFault = some .fault <;> simp [faulty]

theorem checkKcsChannel_cases (o : Outcome) (s : State) :
    (checkKcsChannel o s = getChannelAlert inactiveChannel .system s ∧ o.failure kcsErrs ∧
        s.systemFault ≠ some .fault) ∨
      (checkKcsChannel o s = getChannelAlert activeChannel .system s ∧
        s.systemFault = some .fault) ∨
      checkKcsChannel o s = s := by
  unfold checkKcsChannel
  split
  · exact .inl ⟨rfl, ‹_›⟩
  · split
    · exact .inr (.inl ⟨rfl, And.right ‹_›⟩)
    · exact .inr (.inr rfl)

namespace Recorded

theorem raise_system (h : Recorded configured s)
    (change : alert.alert = .fault ↔ s.systemFault ≠ some .fault) :
    Recorded configured (getChannelAlert alert .system s) := by
  obtain ⟨system, cached, lan, same⟩ := getChannelAlert_system alert s rfl
  refine ⟨h.toAlternates.raise (.inl rfl) change, ?_, ?_, ?_, ?_, ?_⟩
  · rw [same, lan, h.lan]
  · rw [system, cached]
  · rw [getChannelAlert_cache_active, getChannelAlert_activeBmcIf, h.active]
  · rw [getChannelAlert_activeBmcIf]
    exact h.used
  · rw [lan]
    exact h.direct

theorem raise_lan (alert : BmcChannel) (h : Recorded configured s) (lan : configured ≠ .system)
    (change : alert.alert = .fault ↔ s.lanFault ≠ some .fault) :
    Recorded configured (getChannelAlert alert configured s) := by
  obtain ⟨faulty, cached, same, kept⟩ := getChannelAlert_lan alert s lan
  refine ⟨h.toAlternates.raise (.inr rfl) ?_, ?_, ?_, ?_, ?_, fun system => absurd system lan⟩
  · rwa [State.recorded, if_neg lan]
  · rw [faulty, cached]
  · rw [same, kept, h.system]
  · rw [getChannelAlert_cache_active, getChannelAlert_activeBmcIf, h.active]
  · rw [getChannelAlert_activeBmcIf]
    exact h.used

theorem update (h : Recorded configured s) :
    Recorded configured (updateChannelErr configured s) := by
  rw [updateChannelErr_eq]
  exact { h with toAlternates := h.toAlternates.framed rfl rfl rfl }

theorem staged (h : Recorded configured s) (stage : Stage) (channelInfo : Option String) :
    Recorded configured { s with stage := stage, channelInfo := channelInfo } :=
  { h with toAlternates := h.toAlternates.framed rfl rfl rfl }

theorem checkKcs (h : Recorded configured s) (o : Outcome) :
    Recorded configured (checkKcsChannel o s) := by
  obtain ⟨eq, -, healthy⟩ | ⟨eq, faulty⟩ | eq := checkKcsChannel_cases o s
  · rw [eq]
    exact h.raise_system (iff_of_true rfl healthy)
  · rw [eq]
    exact h.raise_system (iff_of_false (by decide) (not_not_intro faulty))
  · rwa [eq]

theorem checkLan (h : Recorded configured s) (o : Outcome) {active : BmcIf}
    (used : s.activeBmcIf = some active) (lan : active ≠ .system) :
    Recorded configured (checkLanChannel o active s) := by
  unfold checkLanChannel
  split
  · rename_i failed
    have own : active = configured := (h.used _ used).resolve_left lan
    subst own
    have raised := h.raise_lan inactiveChannel lan (iff_of_true rfl failed.2)
    exact
      { raised with
        toAlternates := raised.toAlternates.framed rfl rfl rfl
        active := rfl
        used := fun _ same => .inl (Option.some.inj same).symm }
  · exact h

theorem check (h : Recorded configured s) (o : Outcome) :
    Recorded configured (checkChannelError configured o s) := by
  unfold checkChannelError
  refine update ?_
  split
  · exact h
  · rename_i active used
    split
    · exact h.checkKcs o
    · rename_i lan
      rw [if_pos (mem_lanIf.mpr lan)]
      exact h.checkLan o used lan

theorem cached (h : Recorded configured s) :
    Recorded configured (getInterfaceFromCache configured
      { s with channelErr := false, channelInfo := none }) := by
  unfold getInterfaceFromCache
  simp only [h.lan, h.system, h.active]
  split
  · exact { h with toAlternates := h.toAlternates.framed rfl rfl rfl }
  · exact
      { toAlternates := h.toAlternates.framed rfl rfl rfl
        lan := rfl
        system := rfl
        active := rfl
        used _ same := .inr (Option.some.inj same).symm
        direct := h.direct }

theorem cached_lanFault (h : Recorded configured s) :
    (getInterfaceFromCache configured
      { s with channelErr := false, channelInfo := none }).lanFault = s.lanFault := by
  unfold getInterfaceFromCache
  dsimp only
  split <;> exact h.lan

end Recorded

namespace Chosen

theorem framed (h : Chosen configured s) (lan : t.lanFault = s.lanFault)
    (system : t.systemFault = s.systemFault) (active : t.activeBmcIf = s.activeBmcIf) :
    Chosen configured t := by
  constructor
  · rw [lan, active]
    exact h.fallback
  · rw [lan, active]
    exact h.preferred
  · rw [system]
    exact h.single

theorem update (h : Chosen configured s) : Chosen configured (updateChannelErr configured s) := by
  rw [updateChannelErr_eq]
  exact h.framed rfl rfl rfl

theorem checkKcs (h : Chosen configured s) {o : Outcome}
    (regular : configured ≠ .system → ¬ o.failure kcsErrs) :
    Chosen configured (checkKcsChannel o s) := by
  have raised : ∀ alert : BmcChannel, (configured ≠ .system → alert.alert ≠ .fault) →
      Chosen configured (getChannelAlert alert .system s) := by
    intro alert allowed
    obtain ⟨system, -, lan, -⟩ := getChannelAlert_system alert s rfl
    constructor
    · rw [lan, getChannelAlert_activeBmcIf]
      exact h.fallback
    · rw [lan, getChannelAlert_activeBmcIf]
      exact h.preferred
    · rw [system]
      exact fun lan same => allowed lan (Option.some.inj same)
  obtain ⟨eq, failed, -⟩ | ⟨eq, -⟩ | eq := checkKcsChannel_cases o s
  · rw [eq]
    exact raised _ fun lan _ => regular lan failed
  · rw [eq]
    exact raised _ fun _ => by decide
  · rwa [eq]

theorem checkLan (h : Chosen configured s) (o : Outcome) {active : BmcIf}
    (used : s.activeBmcIf = some active) (lan : active ≠ .system) :
    Chosen configured (checkLanChannel o active s) := by
  unfold checkLanChannel
  split
  · rename_i failed
    have own : active = configured := h.preferred _ used failed.2
    obtain ⟨faulty, -, same, -⟩ := getChannelAlert_lan inactiveChannel s lan
    exact
      { fallback _ := rfl
        preferred _ _ healthy := absurd faulty healthy
        single _ broken := h.single (own ▸ lan) (same.symm.trans broken) }
  · exact h

theorem check (h : Chosen configured s) {o : Outcome}
    (regular : ¬ (configured ≠ .system ∧ s.lanFault = some .fault ∧ o.failure kcsErrs)) :
    Chosen configured (checkChannelError configured o s) := by
  unfold checkChannelError
  refine update ?_
  split
  · exact h
  · rename_i active used
    split
    · rename_i system
      subst system
      refine h.checkKcs fun lan failed => regular ⟨lan, ?_, failed⟩
      by_contra healthy
      exact lan (h.preferred _ used healthy).symm
    · rename_i lan
      rw [if_pos (mem_lanIf.mpr lan)]
      exact h.checkLan o used lan

theorem cached (h : Chosen configured s) (files : Recorded configured s) :
    Chosen configured (getInterfaceFromCache configured
      { s with channelErr := false, channelInfo := none }) := by
  unfold getInterfaceFromCache
  simp only [files.lan, files.system, files.active]
  split
  · exact ⟨h.fallback, h.preferred, h.single⟩
  · rename_i healthy
    have answers : s.lanFault ≠ some .fault := by
      intro faulty
      refine healthy ⟨?_, faulty⟩
      rw [h.fallback faulty]
      simp
    exact
      { fallback faulty := absurd faulty answers
        preferred _ used _ := (Option.some.inj used).symm
        single := h.single }

end Chosen

theorem checkChannelError_err (o : Outcome) :
    (checkChannelError configured o s).channelErr = true ↔
      configured = .system ∧ (checkChannelError configured o s).systemFault = some .fault := by
  unfold checkChannelError
  rw [updateChannelErr_eq]
  exact decide_eq_true_iff

theorem checkChannelError_stage (o : Outcome) :
    (checkChannelError configured o s).stage = s.stage := by
  have kcs : (checkKcsChannel o s).stage = s.stage := by
    obtain ⟨eq, -⟩ | ⟨eq, -⟩ | eq := checkKcsChannel_cases o s <;> rw [eq]
    · exact getChannelAlert_stage
    · exact getChannelAlert_stage
  have lan : ∀ active, (checkLanChannel o active s).stage = s.stage := by
    intro active
    unfold checkLanChannel
    split
    · exact getChannelAlert_stage
    · rfl
  unfold checkChannelError
  rw [updateChannelErr_eq]
  dsimp only
  split
  · rfl
  · split
    · exact kcs
    · split
      · exact lan _
      · rfl

/-- The invariant of every run. -/
structure Invariant (configured : BmcIf) (s : State) : Prop extends Recorded configured s where
  err : s.channelErr = true ↔ configured = .system ∧ s.systemFault = some .fault
  answering : s.stage = .answering → s.lanFault = some .fault

theorem start_invariant : Invariant configured start where
  alternate _ := trivial
  outstanding ifName _ := by
    rw [State.recorded]
    simp [start, State.alertsOf, due]
  lan := rfl
  system := rfl
  active := rfl
  used _ used := by cases used
  direct _ faulty := by cases faulty
  err := by simp [start]
  answering stage := by cases stage

theorem start_chosen : Chosen configured start where
  fallback faulty := by cases faulty
  preferred _ used := by cases used
  single _ faulty := by cases faulty

/-- The ways a step can be taken. -/
inductive Step (configured : BmcIf) (s : State) : Action → State → Prop
  | initializeChannel (o : Outcome) (stage : Stage) (settled : stage ≠ .answering) :
      Step configured s (.initializeChannel o)
        { initializeChannel configured o s with stage := stage }
  | command (o : Outcome) (stage : s.stage = .running) :
      Step configured s (.command o) (checkChannelError configured o s)
  | channelInfo (o : Outcome) (medium : Option String) :
      Step configured s (.channelInfo o medium) (fetchChannelInfo configured o medium s)
  | answered (stage : s.stage = .answering) :
      Step configured s (.lanCommand 0)
        { getChannelAlert activeChannel configured s with stage := .running }
  | unanswered (retcode : Int) (failed : retcode ≠ 0) :
      Step configured s (.lanCommand retcode) { s with stage := .running }
  | stop : Step configured s .stop { s with stage := .off }

theorem next_cases (step : next configured s a = some t) : Step configured s a t := by
  unfold next at step
  split at step
  · split at step
    · cases step
      refine .initializeChannel _ _ ?_
      split <;> decide
    · cases step
  · split at step
    · cases step
      exact .command _ ‹_›
    · cases step
  · split at step
    · cases step
      exact .channelInfo _ _
    · cases step
  · split at step
    · cases step
      rename_i retcode stage
      by_cases answered : retcode = 0
      · subst answered
        exact .answered stage
      · rw [if_neg answered]
        exact .unanswered _ answered
    · cases step
  · cases step
    exact .stop

theorem Invariant.step (h : Invariant configured s) (step : next configured s a = some t) :
    Invariant configured t := by
  cases next_cases step with
  | initializeChannel o stage settled =>
      exact ⟨(h.cached.check o).staged _ _, checkChannelError_err o,
        fun answering => absurd answering settled⟩
  | command o running =>
      refine ⟨h.check o, checkChannelError_err o, fun stage => ?_⟩
      rw [checkChannelError_stage, running] at stage
      cases stage
  | channelInfo o medium =>
      refine ⟨(h.check o).staged _ _, checkChannelError_err o, fun stage => ?_⟩
      simp only [fetchChannelInfo] at stage ⊢
      split at stage
      · assumption
      · cases stage
  | answered stage =>
      have faulty := h.answering stage
      have lan : configured ≠ .system := fun system => h.direct system faulty
      have raised := h.raise_lan activeChannel lan
        (iff_of_false (by decide) (not_not_intro faulty))
      refine ⟨raised.staged _ _, ?_, fun stage => by cases stage⟩
      have same : (getChannelAlert activeChannel configured s).channelErr = s.channelErr := by
        unfold getChannelAlert
        split <;> rfl
      have kept := (getChannelAlert_lan activeChannel s lan).2.2.1
      dsimp only
      rw [same, kept]
      exact h.err
  | unanswered retcode failed =>
      exact ⟨h.toRecorded.staged _ _, h.err, fun stage => by cases stage⟩
  | stop => exact ⟨h.toRecorded.staged _ _, h.err, fun stage => by cases stage⟩

theorem Chosen.step (h : Chosen configured s) (files : Invariant configured s)
    (regular : Regular configured s a) (step : next configured s a = some t) :
    Chosen configured t := by
  cases next_cases step with
  | initializeChannel o stage settled =>
      refine ((h.cached files.toRecorded).check ?_).framed rfl rfl rfl
      rw [files.cached_lanFault]
      exact regular
  | command o running => exact h.check regular
  | channelInfo o medium => exact (h.check regular).framed rfl rfl rfl
  | answered stage => exact absurd rfl regular
  | unanswered retcode failed => exact h.framed rfl rfl rfl
  | stop => exact h.framed rfl rfl rfl

theorem Chosen.conforms (h : Chosen configured s) (files : Invariant configured s) :
    Conforms configured s := by
  refine ⟨files.err.trans ⟨?_, ?_⟩, ?_, files.alternate⟩
  · rintro ⟨rfl, faulty⟩
    exact ⟨faulty, faulty⟩
  · rintro ⟨-, faulty⟩
    refine ⟨?_, faulty⟩
    by_contra lan
    exact h.single lan faulty
  · intro active used healthy
    by_cases system : configured = .system
    · exact h.preferred active used (files.direct system)
    · rw [State.recorded, if_neg system] at healthy
      exact h.preferred active used healthy

/-- The step that is excluded leaves no usable interface, and `channel_err` does not tell. -/
theorem not_conforms_of_failure {o : Outcome} (conforms : Conforms configured t)
    (lan : configured ≠ .system)
    (faulty : s.lanFault = some .fault) (used : s.activeBmcIf = some .system)
    (healthy : s.systemFault ≠ some .fault) (failed : o.failure kcsErrs)
    (same : t.channelErr = (checkChannelError configured o s).channelErr)
    (recorded : t.lanFault = (checkChannelError configured o s).lanFault)
    (system : t.systemFault = (checkChannelError configured o s).systemFault) : False := by
  have both : (checkChannelError configured o s).lanFault = some .fault ∧
      (checkChannelError configured o s).systemFault = some .fault := by
    obtain ⟨broken, -, kept, -⟩ :=
      getChannelAlert_system inactiveChannel s rfl
    unfold checkChannelError
    rw [used, updateChannelErr_eq]
    dsimp only
    rw [if_pos rfl, checkKcsChannel, if_pos ⟨failed, healthy⟩]
    exact ⟨kept.trans faulty, broken⟩
  have silent : t.channelErr ≠ true := by
    rw [same]
    intro told
    exact lan ((checkChannelError_err o).mp told).1
  refine silent (conforms.reported.mpr ⟨?_, system.trans both.2⟩)
  rw [State.recorded, if_neg lan]
  exact recorded.trans both.1

theorem Chosen.regular (h : Chosen configured s) (files : Invariant configured s)
    (step : next configured s a = some t) (conforms : Conforms configured t) :
    Regular configured s a := by
  cases next_cases step with
  | initializeChannel o stage settled =>
      rintro ⟨lan, faulty, failed⟩
      have chosen := h.cached files.toRecorded
      have cached := files.cached_lanFault.trans faulty
      exact not_conforms_of_failure conforms lan cached (chosen.fallback cached)
        (chosen.single lan) failed rfl rfl rfl
  | command o running =>
      rintro ⟨lan, faulty, failed⟩
      exact not_conforms_of_failure conforms lan faulty (h.fallback faulty) (h.single lan) failed
        rfl rfl rfl
  | channelInfo o medium =>
      rintro ⟨lan, faulty, failed⟩
      exact not_conforms_of_failure conforms lan faulty (h.fallback faulty) (h.single lan) failed
        rfl rfl rfl
  | answered stage =>
      have faulty := files.answering stage
      have lan : configured ≠ .system := fun system => files.direct system faulty
      have own := conforms.preferred .system (by simpa using h.fallback faulty) <| by
        rw [State.recorded, if_neg lan]
        dsimp only
        rw [(getChannelAlert_lan _ _ lan).1]
        decide
      exact absurd own.symm lan
  | unanswered retcode failed => exact failed
  | stop => trivial

end Runs

/-- In every run the alerts of each interface alternate. -/
theorem alerts_alternate (configured ifName : BmcIf) (actions : List Action) (s : State)
    (run : (system configured).FreeRuns start actions s) :
    Alternating .fault .faultResolved (s.alertsOf ifName) :=
  (run.invariant (I := Invariant configured) (fun _ _ _ h _ step => h.step step)
    start_invariant).alternate ifName

/-- The channel is as claimed after every check of a run exactly if, with a LAN interface
configured, KCS never fails while the LAN is recorded as faulty and the LAN never answers again
to a running sensor. -/
theorem failover_exact (configured : BmcIf) (actions : List Action) (s : State)
    (run : (system configured).FreeRuns start actions s) :
    (system configured).Always (Conforms configured) start actions ↔
      (system configured).Runs (Regular configured) start actions s := by
  refine run.always_iff (I := fun s => Invariant configured s ∧ Chosen configured s) ?_ ?_ ?_
    ⟨start_invariant, start_chosen⟩
  · rintro s ⟨files, h⟩
    exact h.conforms files
  · rintro s a t ⟨files, h⟩ regular step
    exact ⟨files.step step, h.step files regular step⟩
  · rintro s a t ⟨files, h⟩ step conforms
    exact h.regular files step conforms

namespace Example

def succeeded : Outcome := ⟨"", 0⟩

def lanFailed : Outcome := ⟨"Error: Unable to establish LAN session", 1⟩

def kcsFailed : Outcome := ⟨"could not find inband device", 1⟩

/-- The LAN is lost, and the sensor goes on with KCS. -/
def fallsBack : List Action :=
  [.initializeChannel succeeded, .channelInfo succeeded (some "802.3 LAN"), .command lanFailed,
    .command succeeded]

theorem fallsBack_replay : ((system .lan).replay (Regular .lan) start fallsBack).map
    (fun s => (s.activeBmcIf, s.alertsOf .lan)) = some (some .system, [.fault]) := by
  decide

/-- The LAN goes, and KCS takes over. -/
theorem failover_exact_fallsBack :
    ∃ s, (system .lan).FreeRuns start fallsBack s ∧
      (system .lan).Always (Conforms .lan) start fallsBack ∧ s.activeBmcIf = some .system ∧
      s.alertsOf .lan = [.fault] := by
  obtain ⟨s, replay, facts⟩ := Option.map_eq_some_iff.mp fallsBack_replay
  simp only [Prod.mk.injEq] at facts
  have regular := (Transition.System.replay_eq_some_iff _).mp replay
  have free := regular.mono fun _ _ _ => trivial
  exact ⟨s, free, (failover_exact .lan fallsBack s free).mpr regular, facts⟩

/-- With the LAN lost, KCS is lost too. -/
def bothLost : List Action :=
  [.initializeChannel succeeded, .channelInfo succeeded (some "802.3 LAN"), .command lanFailed,
    .command kcsFailed]

/-- The LAN is lost and answers again. -/
def answersAgain : List Action :=
  [.initializeChannel succeeded, .channelInfo succeeded (some "802.3 LAN"), .command lanFailed,
    .channelInfo succeeded (some "System Interface"), .lanCommand 0]

theorem bothLost_silent : ((system .lan).run start bothLost).map
    (fun s => (s.channelErr, s.lanFault, s.systemFault)) =
      some (false, some .fault, some .fault) := by
  decide

theorem answersAgain_unused : ((system .lan).run start answersAgain).map
    (fun s => (s.activeBmcIf, s.lanFault)) = some (some .system, some .faultResolved) := by
  decide

/-- The error of a node without a usable interface is not told, and the configured interface is
not used although it is recorded as reachable. -/
theorem failover_fails :
    (¬ ∀ configured actions s, (system configured).FreeRuns start actions s →
      (s.channelErr = true ↔ NoUsable configured s)) ∧
    ¬ ∀ configured actions s, (system configured).FreeRuns start actions s →
      ∀ active, s.activeBmcIf = some active → s.recorded configured ≠ some .fault →
        active = configured := by
  constructor
  · intro always
    obtain ⟨s, replay, facts⟩ := Option.map_eq_some_iff.mp bothLost_silent
    simp only [Prod.mk.injEq] at facts
    obtain ⟨silent, lan, system⟩ := facts
    have told := (always .lan bothLost s ((Transition.System.run_eq_some_iff _).mp replay)).mpr
      ⟨lan, system⟩
    rw [silent] at told
    cases told
  · intro always
    obtain ⟨s, replay, facts⟩ := Option.map_eq_some_iff.mp answersAgain_unused
    simp only [Prod.mk.injEq] at facts
    obtain ⟨active, lan⟩ := facts
    have own := always .lan answersAgain s ((Transition.System.run_eq_some_iff _).mp replay)
      .system active (by rw [State.recorded, if_neg (by decide), lan]; decide)
    cases own

end Example

end Channel

end NodeHw

end Sspl

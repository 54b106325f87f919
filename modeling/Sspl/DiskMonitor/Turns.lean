import Sspl.DiskMonitor.Tables

/-!
# The turn of a drive

A round asks `smartctl` about one drive after the other. An iteration of its loop looks only
at one drive: what it changes, whether it ends the loop and what it leaves in
`fault_detected` is a function of the state of the drive, of the outputs on it and of what
the iterations before have left there.
-/

namespace Sspl

namespace DiskMonitor

open Iem (Text)

def Output.alertType : Output → Option AlertType
  | .nodeDisk alertType .. => some alertType
  | _ => none

def State.alerts (s : State) : List Output :=
  s.sent.filter fun output => output.alertType.isSome

/-- The state of a drive. -/
structure Known where
  entry : Option Entry
  existing : Option Existing
  deviceName : Option Text
  link : Option Text

def known (s : State) (path : Text) : Known where
  entry := s.drives.get? path
  existing := s.existingDrive.get? path
  deviceName := s.driveByDeviceName.get? path
  link := s.driveByPath.get? path

def Known.faulty (k : Known) : Option Bool := k.existing.map Existing.faulty

/-- What the output on the drive says of it; if nothing, the loop ends here. -/
def finding (command : Text → Answer) (k : Known) : Option Verdict := do
  let onNode ← k.entry.bind Entry.nodeDisk
  let deviceName ← k.deviceName
  let answer := command (smartctl onNode "-H" deviceName ++ " --json".toList)
  if answer.retcode ≠ 0 ∧ answer.err ≠ [] then none
  else (answer.json.toOption).bind fun response => (verdict response).toOption

def look (o : Outside) (path : Text) : Try State Raised (Option Verdict) := do
  let s ← Try.get
  let onNode ← Try.ofExcept (nodeDisk s path)
  let deviceName ← Try.ofExcept (item s.driveByDeviceName path)
  let answer := o.command path (smartctl onNode "-H" deviceName ++ " --json".toList)
  if answer.retcode ≠ 0 ∧ answer.err ≠ [] then
    toolFault .smartctl
    return none
  else
    if answer.retcode = 0 ∧ answer.response ≠ [] then toolResolved .smartctl
    let response ← Try.ofExcept (raising answer.json)
    let found ← Try.ofExcept (raising (verdict response))
    return some found

/-- The rest of a turn, with `fault_detected` as it leaves it. -/
def judge (o : Outside) (path : Text) (faultDetected : Option Bool) :
    Verdict → Try State Raised (Option Bool)
  | .gone => return faultDetected
  | .unchanged => do
    setFaulty o path faultDetected
    return faultDetected
  | .detected fault => do
    setFaulty o path (some fault)
    return some fault

/-- The turn of a drive; it ends the loop with `none`. -/
def turn (o : Outside) (path : Text) (faultDetected : Option Bool) :
    Try State Raised (Option (Option Bool)) := do
  match ← look o path with
  | none => return none
  | some found => do
    let faultDetected ← judge o path faultDetected found
    return some faultDetected

theorem updateFaults_cons (o : Outside) (faultDetected : Option Bool) (path : Text)
    (rest : List Text) :
    updateFaults o faultDetected (path :: rest) = (do
      match ← turn o path faultDetected with
      | none => return ⟨⟩
      | some next => updateFaults o next rest) := by
  rw [updateFaults, turn, look]
  simp only [Try.bind_assoc]
  refine congrArg _ (funext fun s => congrArg _ (funext fun onNode =>
    congrArg _ (funext fun name => ?_)))
  split
  · rfl
  · split
    all_goals
      simp only [Try.bind_assoc]
      repeat refine congrArg _ (funext fun _ => ?_)
      rename_i found
      cases found <;> simp only [judge, Try.pure_bind, Try.bind_assoc]

structure Silent (s t : State) : Prop where
  drives : t.drives = s.drives
  existingDrive : t.existingDrive = s.existingDrive
  driveByDeviceName : t.driveByDeviceName = s.driveByDeviceName
  driveByPath : t.driveByPath = s.driveByPath
  alerts : t.alerts = s.alerts

instance : IsPreorder State Silent where
  refl _ := ⟨rfl, rfl, rfl, rfl, rfl⟩
  trans _ _ _ first second := {
    drives := second.drives.trans first.drives
    existingDrive := second.existingDrive.trans first.existingDrive
    driveByDeviceName := second.driveByDeviceName.trans first.driveByDeviceName
    driveByPath := second.driveByPath.trans first.driveByPath
    alerts := second.alerts.trans first.alerts }

variable {o o' : Outside} {s s' t : State} {path : Text} {faultDetected : Option Bool}

theorem Silent.known_eq (h : Silent s t) (path : Text) : known t path = known s path := by
  rw [known, known, h.drives, h.existingDrive, h.driveByDeviceName, h.driveByPath]

theorem alerts_append (s : State) (sent : List Output) :
    ({ s with sent := s.sent ++ sent } : State).alerts =
      s.alerts ++ sent.filter fun output => output.alertType.isSome :=
  List.filter_append ..

theorem silent_toolFault (tool : Tool) : Try.Keeps Silent (toolFault tool) :=
  .modify fun s => ⟨rfl, rfl, rfl, rfl, (alerts_append s _).trans (List.append_nil _)⟩

theorem silent_toolResolved (tool : Tool) : Try.Keeps Silent (toolResolved tool) := by
  refine .modify fun s => ?_
  split
  · exact ⟨rfl, rfl, rfl, rfl, (alerts_append s _).trans (List.append_nil _)⟩
  · exact refl s

section After

variable {α : Type} {tool : Tool} {rest : PUnit → Try State Raised α}
  {Q : α → State → Prop} {E : Raised → State → Prop}

theorem leaves_toolFault (after : ∀ t, Silent s t → (rest ⟨⟩).Leaves Q E t) :
    (toolFault tool >>= rest).Leaves Q E s := after _ (silent_toolFault tool s)

theorem leaves_toolResolved (after : ∀ t, Silent s t → (rest ⟨⟩).Leaves Q E t) :
    (toolResolved tool >>= rest).Leaves Q E s := after _ (silent_toolResolved tool s)

end After

theorem nodeDisk_eq (s : State) (path : Text) :
    nodeDisk s path = ((known s path).entry.bind Entry.nodeDisk).elim keyError .ok := by
  rw [nodeDisk, item, known]
  cases s.drives.get? path <;> rfl

theorem item_deviceName (s : State) (path : Text) :
    item s.driveByDeviceName path = (known s path).deviceName.elim keyError .ok := rfl

theorem getDriveFaultInfo_leaves {onNode : Bool} {deviceName : Text}
    (node : (known s path).entry.bind Entry.nodeDisk = some onNode)
    (device : (known s path).deviceName = some deviceName) :
    (getDriveFaultInfo o path).Leaves
      (fun info t => Silent s t ∧
        info = (o.command path (smartctl onNode "-A" deviceName)).response)
      (fun _ _ => False) s := by
  rw [getDriveFaultInfo, Try.leaves_get_bind, nodeDisk_eq, node, item_deviceName, device]
  simp only [Option.elim]
  rw [Try.leaves_ofExcept_bind_ok, Try.leaves_ofExcept_bind_ok]
  split
  · refine leaves_toolFault fun t first => ?_
    split
    · exact leaves_toolResolved fun u second => ⟨IsTrans.trans _ _ _ first second, rfl⟩
    · exact ⟨first, rfl⟩
  · split
    · exact leaves_toolResolved fun t only => ⟨only, rfl⟩
    · exact ⟨refl s, rfl⟩

theorem read_leaves (json : Except PyErr Json) (same : Silent s t) :
    (do
      let response ← Try.ofExcept (raising json)
      let found ← Try.ofExcept (raising (verdict response))
      return some found : Try State Raised (Option Verdict)).Leaves
      (fun found u => Silent s u ∧
        found = json.toOption.bind fun response => (verdict response).toOption)
      (fun _ u => Silent s u ∧
        (json.toOption.bind fun response => (verdict response).toOption) = none) t := by
  cases json with
  | error err => exact ⟨same, rfl⟩
  | ok response =>
      simp only [raising, Except.mapError, Except.toOption, Option.bind_some]
      rw [Try.leaves_ofExcept_bind_ok]
      cases verdict response with
      | error err => exact ⟨same, rfl⟩
      | ok found => exact ⟨same, rfl⟩

/-- The loop takes from the output on a drive what it says. -/
theorem look_leaves (o : Outside) (path : Text) (s : State) :
    (look o path).Leaves
      (fun found t => Silent s t ∧ found = finding (o.command path) (known s path))
      (fun _ t => Silent s t ∧ finding (o.command path) (known s path) = none) s := by
  rw [look, Try.leaves_get_bind, nodeDisk_eq, item_deviceName, finding]
  cases (known s path).entry.bind Entry.nodeDisk with
  | none => exact ⟨refl s, rfl⟩
  | some onNode =>
      cases (known s path).deviceName with
      | none => exact ⟨refl s, rfl⟩
      | some deviceName =>
          simp only [Option.elim, Option.bind_eq_bind, Option.bind_some]
          rw [Try.leaves_ofExcept_bind_ok, Try.leaves_ofExcept_bind_ok]
          split
          · exact leaves_toolFault fun t same => ⟨same, rfl⟩
          · split
            · exact leaves_toolResolved fun t same => read_leaves _ same
            · exact read_leaves _ (refl s)

/-- What `sendMsg` sends. -/
def alert (s : State) (path : Text) (alertType : AlertType) : Except Raised Output := do
  let resourceType ← getResourceType s path
  let specificInfo ← getSpecificInfo s path alertType
  let drive ← item s.drives path
  return .nodeDisk alertType resourceType ((s.driveByPath.get? path).getD drive.dbusInfo.id)
    alertType.description.toList specificInfo

def tell (fault : Bool) : AlertType := if fault then .fault else .faultResolved

/-- `drives` with what `smartctl` knows of the drive. -/
def withAttributes (s : State) (path : Text) (drive : Entry) (info : Text) : State :=
  { s with drives := s.drives.set path { drive with smartAttributes := some info } }

/-- The alert that says whether the drive is faulty. -/
def alertOf (o : Outside) (s : State) (path : Text) (fault : Bool) : Option Output := do
  let drive ← (known s path).entry
  let onNode ← drive.nodeDisk
  let deviceName ← (known s path).deviceName
  let info := (o.command path (smartctl onNode "-A" deviceName)).response
  (alert (withAttributes s path drive info) path (tell fault)).toOption

theorem sendMsg_leaves {alertType : AlertType} {output : Output}
    (sends : alert s path alertType = .ok output) :
    (sendMsg path alertType).Leaves (fun _ t => t = { s with sent := s.sent ++ [output] })
      (fun _ _ => False) s := by
  rw [sendMsg, Try.leaves_get_bind]
  rw [alert] at sends
  cases type : getResourceType s path with
  | error err => rw [type] at sends; cases sends
  | ok resourceType =>
      rw [type] at sends
      cases info : getSpecificInfo s path alertType with
      | error err => rw [info] at sends; cases sends
      | ok specificInfo =>
          rw [info] at sends
          cases entry : item s.drives path with
          | error err => rw [entry] at sends; cases sends
          | ok drive =>
              rw [entry] at sends
              cases sends
              exact rfl

theorem alert_congr {alertType : AlertType} (entry : s.drives.get? path = t.drives.get? path)
    (link : s.driveByPath.get? path = t.driveByPath.get? path) :
    alert s path alertType = alert t path alertType := by
  simp only [alert, getResourceType, getSpecificInfo, nodeDisk, item, entry, link]

theorem alert_withAttributes (same : s.driveByPath.get? path = t.driveByPath.get? path)
    (drive : Entry) (info : Text) (alertType : AlertType) :
    alert (withAttributes s path drive info) path alertType =
      alert (withAttributes t path drive info) path alertType :=
  alert_congr ((Dict.get?_set_self ..).trans (Dict.get?_set_self ..).symm) same

theorem alertOf_congr (command : o.command path = o'.command path)
    (same : known s path = known s' path) (fault : Bool) :
    alertOf o s path fault = alertOf o' s' path fault := by
  have link : s.driveByPath.get? path = s'.driveByPath.get? path := congrArg Known.link same
  simp only [alertOf, command, same, alert_withAttributes link]

theorem alert_fault (s : State) (path : Text) {drive : Entry} {onNode : Bool}
    (node : drive.nodeDisk = some onNode) (info : Text) (fault : Bool) : ∃ output,
      alert (withAttributes s path drive info) path (tell fault) = .ok output ∧
        output.alertType = some (tell fault) := by
  have entry : item (withAttributes s path drive info).drives path =
      .ok { drive with smartAttributes := some info } :=
    item_eq_ok.mpr (Dict.get?_set_self ..)
  have known : nodeDisk (withAttributes s path drive info) path = .ok onNode := by
    rw [nodeDisk, entry]
    simp only [bind, Except.bind, node, Option.elim]
  simp only [alert, getResourceType, getSpecificInfo, entry, known]
  cases onNode <;> cases fault <;> exact ⟨_, rfl, rfl⟩

/-- Where the loop has a verdict on the drive, it can send the alert. -/
theorem alertOf_some {drive : Entry} {onNode : Bool} {deviceName : Text}
    (entry : (known s path).entry = some drive) (node : drive.nodeDisk = some onNode)
    (device : (known s path).deviceName = some deviceName) (fault : Bool) : ∃ output,
      alert (withAttributes s path drive
        (o.command path (smartctl onNode "-A" deviceName)).response) path (tell fault) =
          .ok output ∧
      alertOf o s path fault = some output ∧ output.alertType = some (tell fault) := by
  obtain ⟨output, sends, type⟩ := alert_fault s path node
    (o.command path (smartctl onNode "-A" deviceName)).response fault
  refine ⟨output, sends, ?_, type⟩
  simp only [alertOf, entry, node, device, Option.bind_eq_bind, Option.bind_some, sends]
  rfl

/-- The value that `faulty` is changed to. -/
def change (k : Known) (faultDetected : Option Bool) : Option Bool := do
  let faulty ← k.faulty
  let fault ← faultDetected
  if faulty = fault then none else some fault

theorem change_eq_some {k : Known} {fault : Bool} :
    change k faultDetected = some fault ↔
      k.faulty = some !fault ∧ faultDetected = some fault := by
  rw [change]
  cases k.faulty with
  | none => simp
  | some faulty =>
      cases faultDetected with
      | none => simp
      | some found => cases faulty <;> cases found <;> cases fault <;> decide

/-- Only `faulty` of the drive is changed, and if it is then the alert is sent. -/
structure Turned (o : Outside) (s t : State) (path : Text) (changed : Option Bool) : Prop where
  others : ∀ other, other ≠ path → known t other = known s other
  faulty : (known t path).faulty = changed.or (known s path).faulty
  alerts : t.alerts = s.alerts ++ (changed.bind (alertOf o s path)).toList

theorem Silent.turned (h : Silent s t) : Turned o s t path none where
  others other _ := h.known_eq other
  faulty := congrArg Known.faulty (h.known_eq path)
  alerts := h.alerts.trans (List.append_nil _).symm

theorem Silent.then_turned {u : State} {changed : Option Bool} (first : Silent s u)
    (second : Turned o u t path changed) : Turned o s t path changed where
  others other different := (second.others other different).trans (first.known_eq other)
  faulty := by rw [second.faulty, first.known_eq]
  alerts := by
    have same : alertOf o u path = alertOf o s path :=
      funext fun fault => alertOf_congr rfl (first.known_eq path) fault
    rw [second.alerts, first.alerts, same]

/-- The drive is in both tables, and there is a verdict on it. -/
def Judged (k : Known) (faultDetected : Option Bool) : Prop :=
  k.existing.isSome ∧ faultDetected.isSome

/-- `existing_drive` with what the verdict says of the drive. -/
def withFault (s : State) (path : Text) (e : Existing) (fault : Bool) : State :=
  { s with existingDrive := s.existingDrive.set path { e with faulty := fault } }

theorem flip_turned {e : Existing} {output : Output} {fault : Bool} (drive : Entry) (info : Text)
    (silent : Silent (withFault s path e fault) t)
    (told : alertOf o s path fault = some output) (type : output.alertType = some (tell fault)) :
    Turned o s { withAttributes t path drive info with sent := t.sent ++ [output] } path
      (some fault) where
  others other different := by
    simp only [known, withAttributes, silent.drives, silent.existingDrive,
      silent.driveByDeviceName, silent.driveByPath, withFault, Dict.get?_set_of_ne _ _ different]
  faulty := by
    simp only [Known.faulty, known, withAttributes, silent.existingDrive, withFault,
      Dict.get?_set_self, Option.map_some, Option.some_or]
  alerts := by
    have sent := alerts_append t [output]
    rw [silent.alerts] at sent
    simp only [Option.bind_some, told, Option.toList_some]
    refine Eq.trans sent (congrArg _ ?_)
    simp only [List.filter_cons, type, Option.isSome_some, if_true, List.filter_nil]

/-- What is done once `faulty` is set. -/
theorem flip_leaves {drive : Entry} {onNode : Bool} {deviceName : Text}
    (entry : (known s path).entry = some drive) (node : drive.nodeDisk = some onNode)
    (device : (known s path).deviceName = some deviceName) (e : Existing) (fault : Bool) :
    (do
      let info ← getDriveFaultInfo o path
      let s ← Try.get
      let drive ← Try.ofExcept (item s.drives path)
      Try.modify fun s => withAttributes s path drive info
      let _ ← sendMsg path (tell fault)
      return ⟨⟩ : Step).Leaves (fun _ t => Turned o s t path (some fault)) (fun _ _ => False)
      (withFault s path e fault) := by
  obtain ⟨output, sends, told, type⟩ := alertOf_some (o := o) entry node device fault
  have known : (known (withFault s path e fault) path).entry.bind Entry.nodeDisk = some onNode := by
    show (known s path).entry.bind Entry.nodeDisk = some onNode
    rw [entry, Option.bind_some, node]
  rw [Try.leaves_bind]
  refine (getDriveFaultInfo_leaves known device).mono ?_ (fun _ _ => False.elim)
  rintro info t ⟨silent, rfl⟩
  have found : item t.drives path = .ok drive := by
    rw [silent.drives]
    exact item_eq_ok.mpr entry
  have link : t.driveByPath.get? path = s.driveByPath.get? path := by
    rw [silent.driveByPath]
    rfl
  rw [← alert_withAttributes link] at sends
  rw [Try.leaves_get_bind, found, Try.leaves_ofExcept_bind_ok, Try.leaves_bind,
    Try.leaves_modify, Try.leaves_bind]
  refine (sendMsg_leaves sends).mono ?_ (fun _ _ => False.elim)
  rintro _ _ rfl
  exact flip_turned drive _ silent told type

theorem setFaulty_leaves {drive : Entry} {onNode : Bool} {deviceName : Text}
    (entry : (known s path).entry = some drive) (node : drive.nodeDisk = some onNode)
    (device : (known s path).deviceName = some deviceName) (faultDetected : Option Bool) :
    (setFaulty o path faultDetected).Leaves
      (fun _ t => Turned o s t path (change (known s path) faultDetected) ∧
        Judged (known s path) faultDetected)
      (fun _ t => Turned o s t path (change (known s path) faultDetected) ∧
        ¬ Judged (known s path) faultDetected) s := by
  rw [setFaulty, Try.leaves_get_bind, change, Judged, Known.faulty]
  cases existing : (known s path).existing with
  | none =>
      have missing : item s.existingDrive path = keyError := by
        rw [item, show s.existingDrive.get? path = none from existing]
        rfl
      rw [missing]
      exact ⟨(refl s : Silent s s).turned, by simp⟩
  | some e =>
      have found : item s.existingDrive path = .ok e := item_eq_ok.mpr existing
      rw [found, Try.leaves_ofExcept_bind_ok]
      cases faultDetected with
      | none => exact ⟨(refl s : Silent s s).turned, by simp⟩
      | some fault =>
          simp only [Option.elim, Option.map_some, Option.bind_eq_bind, Option.bind_some]
          rw [Try.leaves_ofExcept_bind_ok]
          split
          · exact ⟨(refl s : Silent s s).turned, rfl, rfl⟩
          · rw [Try.leaves_bind, Try.leaves_modify]
            refine (flip_leaves (o := o) entry node device e fault).mono ?_
              (fun _ _ => False.elim)
            exact fun _ _ turned => ⟨turned, rfl, rfl⟩

/-- The verdict that the output gives. -/
def Verdict.own : Verdict → Option Bool
  | .detected fault => some fault
  | _ => none

/-- The verdict that is used for the drive. -/
def Verdict.used (faultDetected : Option Bool) : Verdict → Option Bool
  | .gone => none
  | .unchanged => faultDetected
  | .detected fault => some fault

def ownVerdict (command : Text → Answer) (k : Known) : Option Bool :=
  (finding command k).bind Verdict.own

/-- What a turn changes, where `fault_detected` was so before it. -/
def decided (command : Text → Answer) (k : Known) (faultDetected : Option Bool) : Option Bool :=
  (finding command k).bind fun found => change k (found.used faultDetected)

/-- After this turn there is a next one. -/
def Continues (command : Text → Answer) (k : Known) (faultDetected : Option Bool) : Prop :=
  ∃ found, finding command k = some found ∧
    (found = .gone ∨ Judged k (found.used faultDetected))

/-- A verdict is only found of a drive of which the rest is known. -/
theorem finding_known {command : Text → Answer} {k : Known} {found : Verdict}
    (h : finding command k = some found) : ∃ drive onNode deviceName,
      k.entry = some drive ∧ drive.nodeDisk = some onNode ∧ k.deviceName = some deviceName := by
  rw [finding] at h
  obtain ⟨onNode, node, h⟩ := Option.bind_eq_some_iff.mp h
  obtain ⟨deviceName, device, -⟩ := Option.bind_eq_some_iff.mp h
  obtain ⟨drive, entry, node⟩ := Option.bind_eq_some_iff.mp node
  exact ⟨drive, onNode, deviceName, entry, node, device⟩

theorem judge_leaves {found : Verdict}
    (h : finding (o.command path) (known s path) = some found) (faultDetected : Option Bool) :
    (judge o path faultDetected found).Leaves
      (fun next t =>
        Turned o s t path (change (known s path) (found.used faultDetected)) ∧
          next = found.own.or faultDetected ∧
          (found = .gone ∨ Judged (known s path) (found.used faultDetected)))
      (fun _ t =>
        Turned o s t path (change (known s path) (found.used faultDetected)) ∧
          ¬ (found = .gone ∨ Judged (known s path) (found.used faultDetected))) s := by
  obtain ⟨drive, onNode, deviceName, entry, node, device⟩ := finding_known h
  have set := setFaulty_leaves (o := o) entry node device
  cases found with
  | gone =>
      have nothing : change (known s path) none = none := by
        rw [change]
        cases (known s path).faulty <;> rfl
      rw [Verdict.used, nothing]
      exact ⟨(refl s : Silent s s).turned, rfl, .inl rfl⟩
  | unchanged =>
      rw [judge, Try.leaves_bind]
      refine (set faultDetected).mono ?_ ?_
      · exact fun _ t ⟨turned, judged⟩ => ⟨turned, rfl, .inr judged⟩
      · exact fun _ t ⟨turned, missing⟩ =>
          ⟨turned, not_or.mpr ⟨Verdict.noConfusion, missing⟩⟩
  | detected fault =>
      rw [judge, Try.leaves_bind]
      refine (set (some fault)).mono ?_ ?_
      · exact fun _ t ⟨turned, judged⟩ => ⟨turned, rfl, .inr judged⟩
      · exact fun _ t ⟨turned, missing⟩ =>
          ⟨turned, not_or.mpr ⟨Verdict.noConfusion, missing⟩⟩

theorem turn_leaves (o : Outside) (path : Text) (faultDetected : Option Bool) (s : State) :
    (turn o path faultDetected).Leaves
      (fun next t =>
        Turned o s t path (decided (o.command path) (known s path) faultDetected) ∧
          (Continues (o.command path) (known s path) faultDetected ∧
              next = some ((ownVerdict (o.command path) (known s path)).or faultDetected) ∨
            ¬ Continues (o.command path) (known s path) faultDetected ∧ next = none))
      (fun _ t =>
        Turned o s t path (decided (o.command path) (known s path) faultDetected) ∧
          ¬ Continues (o.command path) (known s path) faultDetected) s := by
  rw [turn, Try.leaves_bind]
  refine (look_leaves o path s).mono ?_ ?_
  · rintro _ t ⟨silent, rfl⟩
    rw [decided, ownVerdict, Continues]
    cases found : finding (o.command path) (known s path) with
    | none => exact ⟨silent.turned, .inr ⟨by simp, rfl⟩⟩
    | some verdict =>
        have same : finding (o.command path) (known t path) = some verdict := by
          rw [silent.known_eq, found]
        show Try.Leaves _ _ _ t
        rw [Try.leaves_bind]
        refine (judge_leaves same faultDetected).mono ?_ ?_
        · rintro next u ⟨turned, rfl, goes⟩
          rw [silent.known_eq] at turned goes
          exact ⟨silent.then_turned turned, .inl ⟨⟨verdict, rfl, goes⟩, rfl⟩⟩
        · rintro err u ⟨turned, ends⟩
          rw [silent.known_eq] at turned ends
          refine ⟨silent.then_turned turned, ?_⟩
          rintro ⟨other, same, goes⟩
          cases same
          exact ends goes
  · rintro err t ⟨silent, nothing⟩
    rw [decided, Continues, nothing]
    exact ⟨silent.turned, by simp⟩

end DiskMonitor

end Sspl

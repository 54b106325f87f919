import Sspl.DiskMonitor.Ledger

/-!
# The end of a self-test

What the monitor has noted of requests is changed by requests and by the end of a job only.
When a job ends, each of its drives is reported under its serial number, and the requests
that are kept for that number are answered, each once.
-/

namespace Sspl

namespace DiskMonitor

open Iem (Text)
open NodeController (normalized)

structure SameSmart (s t : State) : Prop where
  smartSupported : t.smartSupported = s.smartSupported
  smartJobs : t.smartJobs = s.smartJobs
  smartUuids : t.smartUuids = s.smartUuids
  simulated : t.simulatedSmartFailures = s.simulatedSmartFailures
  acks : t.acks = s.acks

instance : IsPreorder State SameSmart where
  refl _ := ⟨rfl, rfl, rfl, rfl, rfl⟩
  trans _ _ _ first second := {
    smartSupported := second.smartSupported.trans first.smartSupported
    smartJobs := second.smartJobs.trans first.smartJobs
    smartUuids := second.smartUuids.trans first.smartUuids
    simulated := second.simulated.trans first.simulated
    acks := second.acks.trans first.acks }

theorem Refreshed.sameSmart {s t : State} (h : Refreshed s t) : SameSmart s t :=
  ⟨h.smartSupported, h.smartJobs, h.smartUuids, h.simulated, h.acks⟩

def SameNotes (s t : State) : Prop := SameSmart s t ∧ SameObjects s t

instance : IsPreorder State SameNotes where
  refl s := ⟨refl s, refl s⟩
  trans _ _ _ first second :=
    ⟨IsTrans.trans _ _ _ first.1 second.1, IsTrans.trans _ _ _ first.2 second.2⟩

theorem Quiet.sameNotes {s t : State} (h : Quiet s t) : SameNotes s t :=
  ⟨h.refreshed.sameSmart, h.toSameObjects⟩

section Smart

variable (o : Outside)

theorem notes_drives (update : State → Dict Text Entry) :
    Try.Keeps SameNotes (Try.modify fun s => { s with drives := update s } : Step) :=
  .modify fun _ => ⟨⟨rfl, rfl, rfl, rfl, rfl⟩, ⟨rfl, rfl, rfl, rfl⟩⟩

theorem notes_existingDrive (update : State → Dict Text Existing) :
    Try.Keeps SameNotes (Try.modify fun s => { s with existingDrive := update s } : Step) :=
  .modify fun _ => ⟨⟨rfl, rfl, rfl, rfl, rfl⟩, ⟨rfl, rfl, rfl, rfl⟩⟩

theorem notes_setFaulty (path : Text) (faultDetected : Option Bool) :
    Try.Keeps SameNotes (setFaulty o path faultDetected) := by
  refine .bind .get fun s => .bind (.ofExcept _) fun existing => .bind (.ofExcept _) fun fault => ?_
  refine .ite (fun _ => .pure _) fun _ => ?_
  refine .bind (notes_existingDrive _) fun _ => ?_
  refine .bind ((quiet_getDriveFaultInfo o path).mono fun _ _ => Quiet.sameNotes) fun info => ?_
  refine .bind .get fun s => .bind (.ofExcept _) fun drive => ?_
  refine .bind (notes_drives _) fun _ => ?_
  exact .bind ((quiet_sendMsg path _).mono fun _ _ => Quiet.sameNotes) fun _ => .pure _

theorem notes_finish : Try.Keeps SameNotes (do updateDriveFaults o; putCache) :=
  keeps_finish_of (fun _ _ => Quiet.sameNotes) (notes_setFaulty o)

theorem notes_removeDrive (path : Text) : Try.Keeps SameNotes (removeDrive o path) := by
  refine .bind .get fun s => ?_
  split
  · exact .pure _
  · refine .bind ((quiet_sendMsg path _).mono fun _ _ => Quiet.sameNotes) fun _ => ?_
    refine .bind (notes_drives _) fun _ => ?_
    refine .bind (.ofExcept _) fun _ => ?_
    refine .bind (notes_existingDrive _) fun _ => ?_
    exact notes_finish o

theorem smart_of_quiet {α : Type} {block : Try State Raised α} (h : Try.Keeps Quiet block) :
    Try.Keeps SameSmart block := h.mono fun _ _ same => same.refreshed.sameSmart

theorem smart_finish : Try.Keeps SameSmart (do updateDriveFaults o; putCache) :=
  (notes_finish o).mono fun _ _ => And.left

theorem smart_addDrive (path : Text) (drive : UdiskDrive) :
    Try.Keeps SameSmart (addDrive o path drive) := by
  have added : Try.Keeps SameSmart (do
      let existing ← sendMsg path .insertion
      Try.modify fun s => { s with existingDrive := s.existingDrive.set path existing }
      updateDriveFaults o
      putCache) :=
    .bind (smart_of_quiet (quiet_sendMsg path _)) fun _ =>
      .bind (.modify fun _ => ⟨rfl, rfl, rfl, rfl, rfl⟩) fun _ => smart_finish o
  refine .bind (.modify fun s => (updateByIdPaths_refreshed o s).sameSmart) fun _ => ?_
  refine .bind .get fun s => .bind (.ofExcept _) fun serial => ?_
  refine .bind (.modify fun _ => ⟨rfl, rfl, rfl, rfl, rfl⟩) fun _ => ?_
  refine .bind (smart_of_quiet (quiet_isLocalDrive o path)) fun _ => ?_
  exact .ite (fun _ => .bind (.modify fun _ => ⟨rfl, rfl, rfl, rfl, rfl⟩) fun _ => added)
    fun _ => added

theorem smart_initDrives : Try.Keeps SameSmart (initDrives o) :=
  (refreshed_initDrives o).mono fun _ _ => Refreshed.sameSmart

theorem smart_startUp : Try.Keeps SameSmart (startUp o) := by
  have inserts (paths : List Text) : Try.Keeps SameSmart (insertAll paths) := by
    induction paths with
    | nil => exact .pure _
    | cons path rest ih =>
        exact .bind (smart_of_quiet (quiet_sendMsg path _)) fun _ =>
          .bind (.modify fun _ => ⟨rfl, rfl, rfl, rfl, rfl⟩) fun _ => ih
  have removes (paths : List Text) : Try.Keeps SameSmart (removeAll paths) := by
    induction paths with
    | nil => exact .pure _
    | cons path rest ih =>
        refine .bind .get fun _ => .bind (.ofExcept _) fun _ => ?_
        exact .bind (smart_of_quiet (quiet_write rfl)) fun _ =>
          .bind (.modify fun _ => ⟨rfl, rfl, rfl, rfl, rfl⟩) fun _ => ih
  refine .bind (smart_initDrives o) fun _ => ?_
  refine .bind (smart_of_quiet (quiet_getDrives o _ _)) fun _ => ?_
  refine .bind (.modify fun _ => ⟨rfl, rfl, rfl, rfl, rfl⟩) fun _ => .bind .get fun _ => ?_
  exact .bind (inserts _) fun _ => .bind (removes _) fun _ => smart_finish o

end Smart

section Answers

variable {s t : State} {serial response : Text} {uuids : List Text}

theorem normalized_smartTest (serial : Text) :
    normalized (smartTest serial) = smartTest serial := by
  rw [normalized, if_neg]
  intro same
  cases same

theorem normalized_result (s : State) (serial status : Text) :
    normalized (testResult s serial status).1 = (testResult s serial status).1 := by
  unfold testResult
  split
  · rfl
  · split
    · rfl
    · dsimp only
      unfold responseTo
      dsimp only
      split <;> rfl

theorem acks_answer (s : State) (ackType ackMsg uuid : Text) :
    (s.sent ++ [ack ackType ackMsg uuid]).filter Output.isAck =
      s.acks ++ [ack ackType ackMsg uuid] := by
  rw [List.filter_append]
  rfl

/-- Every uuid whose slot holds the serial number is answered once, and its slot is emptied. -/
theorem answerUuids_effect (nodup : uuids.Nodup) (s : State) :
    (answerUuids serial response uuids s).acks = s.acks ++
        (uuids.filter fun uuid => s.smartUuids.get? uuid = some (some serial)).map
          (ack (smartTest serial) response) ∧
      ∀ uuid, (answerUuids serial response uuids s).smartUuids.get? uuid =
        if uuid ∈ uuids ∧ s.smartUuids.get? uuid = some (some serial) then some none
        else s.smartUuids.get? uuid := by
  induction uuids generalizing s with
  | nil => simp [answerUuids]
  | cons uuid rest ih =>
      obtain ⟨fresh, nodup⟩ := List.nodup_cons.mp nodup
      rw [answerUuids]
      obtain ⟨acks, slots⟩ := ih nodup (if s.smartUuids.get? uuid = some (some serial) then
        { s with
          sent := s.sent ++ [ack (smartTest serial) response uuid]
          smartUuids := s.smartUuids.set uuid none }
        else s)
      rw [acks]
      simp only [slots]
      by_cases holds : s.smartUuids.get? uuid = some (some serial)
      · simp only [holds, if_true]
        constructor
        · have others : rest.filter (fun m => decide
              ((s.smartUuids.set uuid none).get? m = some (some serial))) =
              rest.filter fun m => decide (s.smartUuids.get? m = some (some serial)) := by
            refine List.filter_congr fun m mem => ?_
            rw [Dict.get?_set_of_ne]
            rintro rfl
            exact fresh mem
          rw [others, List.filter_cons_of_pos (by simpa using holds), List.map_cons, State.acks,
            acks_answer, List.append_assoc, List.singleton_append]
        · intro m
          rw [Dict.get?_set]
          by_cases here : m = uuid
          · simp [here, holds]
          · simp [here]
      · simp only [holds, if_false]
        constructor
        · rw [List.filter_cons_of_neg (by simpa using holds)]
        · intro m
          by_cases here : m = uuid
          · simp [here, holds, fresh]
          · simp [here]

theorem answerUuids_kept (serial response : Text) (uuids : List Text) (s : State) :
    (answerUuids serial response uuids s).smartSupported = s.smartSupported ∧
      (answerUuids serial response uuids s).simulatedSmartFailures =
        s.simulatedSmartFailures := by
  induction uuids generalizing s with
  | nil => exact ⟨rfl, rfl⟩
  | cons uuid rest ih =>
      rw [answerUuids, (ih _).1, (ih _).2]
      split <;> exact ⟨rfl, rfl⟩

end Answers

section Ends

variable {o : Outside} {s t : State} {L : Ledger} {path : Text} {interfaces : Interfaces}

/-- The status of a drive can be told of. -/
theorem processSmartStatus_run {status serialNumber : Text} (tells : Tells o s path status)
    (here : s.diskObjects.get? path = some interfaces) (ata : interfaces.isAta = true) :
    ∃ t, (processSmartStatus o path status serialNumber).run s = (.ok ⟨⟩, t) := by
  rw [processSmartStatus]
  split
  · exact ⟨s, rfl⟩
  · rename_i other
    have tells := tells.resolve_left other
    split at tells
    · rw [if_pos ‹_›, scheduleSmartTest, Try.run_bind_of_ok (Try.run_get s),
        item_eq_ok.mpr here, Try.run_ofExcept_bind_ok, if_pos ata, tells]
      exact ⟨s, rfl⟩
    · obtain ⟨pathId, found⟩ := Option.isSome_iff_exists.mp tells
      rw [if_neg ‹_›, notifyDiskMsgHandler, Try.run_bind_of_ok (Try.run_get s),
        item_eq_ok.mpr found, Try.run_ofExcept_bind_ok]
      exact ⟨_, rfl⟩

/-- The effect of the end of a test of a drive on what the monitor has noted. -/
structure Finished (s t : State) (serial response : Text) : Prop where
  smartSupported : t.smartSupported = s.smartSupported
  objects : SameObjects s t
  simulated : t.simulatedSmartFailures = s.simulatedSmartFailures.erase serial
  acks : t.acks = s.acks ++
    (s.smartUuids.keys.filter fun uuid => s.smartUuids.get? uuid = some (some serial)).map
      (ack (smartTest serial) response)
  slots : ∀ uuid, t.smartUuids.get? uuid =
    if s.smartUuids.get? uuid = some (some serial) then some none else s.smartUuids.get? uuid

theorem finishDrive_run {drive : UdiskDrive} {status : Text} (known : interfaces.drive = some drive)
    (ata : interfaces.ata = some status) (here : s.diskObjects.get? path = some interfaces)
    (tells : Tells o s path (testResult s (endSerial path drive) status).2) :
    ∃ t, (finishDrive o path interfaces).run s = (.ok ⟨⟩, t) ∧
      Finished s t (endSerial path drive) (testResult s (endSerial path drive) status).1 := by
  generalize serial_ : endSerial path drive = serial at *
  generalize result_ : testResult s serial status = result at *
  generalize erased : ({ s with
    simulatedSmartFailures := s.simulatedSmartFailures.erase serial } : State) = u
  have run : (finishDrive o path interfaces).run s = ((do
      processSmartStatus o path result.2 serial
      Try.modify fun s => answerUuids serial result.1 s.smartUuids.keys s) : Step).run u := by
    rw [finishDrive, known, ata, ← erased, ← result_, ← serial_]
    rfl
  have isAta : interfaces.isAta = true := by simp [Interfaces.isAta, ata]
  obtain ⟨t, processed⟩ : ∃ t, (processSmartStatus o path result.2 serial).run u = (.ok ⟨⟩, t) :=
    processSmartStatus_run (by rw [← erased]; exact tells) (by rw [← erased]; exact here) isAta
  have quiet := (quiet_processSmartStatus o path result.2 serial).of_run processed
  have slots : t.smartUuids = s.smartUuids := by rw [quiet.smartUuids, ← erased]
  have nodup : t.smartUuids.keys.Nodup := t.smartUuids.nodup
  obtain ⟨acks, after⟩ : (answerUuids serial result.1 t.smartUuids.keys t).acks = _ ∧ _ :=
    answerUuids_effect nodup t
  obtain ⟨supported, simulated⟩ := answerUuids_kept serial result.1 t.smartUuids.keys t
  have last := answerUuids_objects serial result.1 t.smartUuids.keys t
  refine ⟨_, by rw [run, Try.run_bind_of_ok processed]; rfl, ?_, ?_, ?_, ?_, ?_⟩
  · rw [supported, quiet.smartSupported, ← erased]
  · have start : SameObjects s u := by
      rw [← erased]
      exact ⟨rfl, rfl, rfl, rfl⟩
    exact IsTrans.trans _ t _ (IsTrans.trans _ u _ start quiet.toSameObjects) last
  · rw [simulated, quiet.simulated, ← erased]
  · rw [← show t.acks = s.acks by rw [quiet.acks, ← erased]; rfl, ← slots]
    exact acks
  · intro uuid
    refine (after uuid).trans ?_
    rw [slots]
    refine if_congr (and_iff_right_of_imp fun holds => ?_) rfl rfl
    exact Dict.mem_keys.mpr ⟨_, holds⟩

/-- The slots with the serial number are those of the requests that wait, and `answer` is what
they get. -/
structure Right (o : Outside) (s : State) (waiting : List Pair) (answer : Pair → Output)
    (path : Text) (drive : UdiskDrive) (status : Text) : Prop where
  tells : Tells o s path (testResult s (endSerial path drive) status).2
  kept : ∀ uuid, s.smartUuids.get? uuid = some (some (endSerial path drive)) →
    ∃ pair ∈ waiting, pair.path = path ∧ pair.uuid = uuid
  found : ∀ pair ∈ waiting, pair.path = path →
    s.smartUuids.get? pair.uuid = some (some (endSerial path drive))
  result : ∀ pair ∈ waiting, pair.path = path → answer pair =
    ack (smartTest (endSerial path drive)) (testResult s (endSerial path drive) status).1 pair.uuid

variable {waiting : List Pair} {answer : Pair → Output} {drive : UdiskDrive}
  {status serial response : Text}

/-- The end of a test of another drive changes nothing. -/
theorem Right.after (h : Right o s waiting answer path drive status)
    (finished : Finished s t serial response) (other : endSerial path drive ≠ serial) :
    Right o t waiting answer path drive status := by
  have result : testResult t (endSerial path drive) status =
      testResult s (endSerial path drive) status := by
    rw [testResult, testResult, finished.simulated]
    simp only [List.mem_erase_of_ne other]
  have slot (uuid : Text) : t.smartUuids.get? uuid = some (some (endSerial path drive)) ↔
      s.smartUuids.get? uuid = some (some (endSerial path drive)) := by
    rw [finished.slots]
    split
    · rename_i held
      simp [held, Ne.symm other]
    · exact Iff.rfl
  refine ⟨?_, ?_, ?_, ?_⟩
  · rw [result, Tells, finished.objects.driveById]
    exact h.tells
  · exact fun uuid held => h.kept uuid ((slot uuid).mp held)
  · exact fun pair mem same => (slot pair.uuid).mpr (h.found pair mem same)
  · rw [result]
    exact h.result

theorem Right.congr (h : Right o s waiting answer path drive status)
    (slots : t.smartUuids = s.smartUuids) (simulated : t.simulatedSmartFailures =
      s.simulatedSmartFailures) (links : t.driveById = s.driveById) :
    Right o t waiting answer path drive status := by
  have result : testResult t (endSerial path drive) status =
      testResult s (endSerial path drive) status := by
    rw [testResult, testResult, simulated]
  refine ⟨?_, ?_, ?_, ?_⟩
  · rw [result, Tells, links]
    exact h.tells
  · rw [slots]
    exact h.kept
  · rw [slots]
    exact h.found
  · rw [result]
    exact h.result

/-- The requests that wait for the drive are answered, each once. -/
theorem Right.answers (h : Right o s waiting answer path drive status)
    (distinct : (waiting.map fun pair => (pair.uuid, pair.path)).Nodup)
    (finished : Finished s t (endSerial path drive)
      (testResult s (endSerial path drive) status).1) :
    ∃ answers, t.acks = s.acks ++ answers ∧
      answers.Perm ((waiting.filter (·.path = path)).map answer) := by
  refine ⟨_, finished.acks, ?_⟩
  have once : ((waiting.filter (·.path = path)).map Pair.uuid).Nodup := by
    refine (distinct.of_map.filter _).map_on fun first mem second mem' same => ?_
    obtain ⟨mem, here⟩ := List.mem_filter.mp mem
    obtain ⟨mem', here'⟩ := List.mem_filter.mp mem'
    refine List.inj_on_of_nodup_map distinct mem mem' ?_
    rw [same, of_decide_eq_true here, of_decide_eq_true here']
  have uuids : (s.smartUuids.keys.filter fun uuid =>
      s.smartUuids.get? uuid = some (some (endSerial path drive))).Perm
        ((waiting.filter (·.path = path)).map Pair.uuid) := by
    refine (List.perm_ext_iff_of_nodup (List.Nodup.filter _ s.smartUuids.nodup) once).mpr ?_
    intro uuid
    simp only [List.mem_filter, List.mem_map, decide_eq_true_eq]
    constructor
    · rintro ⟨-, held⟩
      obtain ⟨pair, mem, same, rfl⟩ := h.kept uuid held
      exact ⟨pair, ⟨mem, same⟩, rfl⟩
    · rintro ⟨pair, ⟨mem, same⟩, rfl⟩
      have held := h.found pair mem same
      exact ⟨⟨_, Dict.mem_items.mpr held, rfl⟩, held⟩
  refine (uuids.map _).trans (.of_eq ?_)
  rw [List.map_map]
  refine List.map_congr_left fun pair mem => ?_
  obtain ⟨mem, same⟩ := List.mem_filter.mp mem
  exact (h.result pair mem (of_decide_eq_true same)).symm

/-- The pairs of one drive and those of others make up the pairs of all. -/
theorem filter_paths {job : Job} {paths : List Text} (listed : path ∈ job.objects)
    (fresh : path ∉ paths) : (waiting.filter (·.path = path) ++ waiting.filter fun pair =>
      pair.path ∈ job.objects ∧ pair.path ∈ paths).Perm (waiting.filter fun pair =>
        pair.path ∈ job.objects ∧ pair.path ∈ path :: paths) := by
  refine .trans (.of_eq ?_) (List.filter_append_perm (fun pair => decide (pair.path = path)) _)
  rw [List.filter_filter, List.filter_filter]
  congr 1
  · refine List.filter_congr fun pair _ => ?_
    by_cases here : pair.path = path <;> simp [here, listed]
  · refine List.filter_congr fun pair _ => ?_
    by_cases here : pair.path = path <;> simp [here, fresh]

/-- All drives of the job, one after the other. -/
theorem finishEach_run {job : Job} {objects : List (Text × Interfaces)}
    (distinct : (waiting.map fun pair => (pair.uuid, pair.path)).Nodup)
    (items : ∀ object ∈ objects, s.diskObjects.get? object.1 = some object.2)
    (nodup : (objects.map Prod.fst).Nodup)
    (drives : ∀ object ∈ objects, object.1 ∈ job.objects → ∃ drive status,
      object.2.drive = some drive ∧ object.2.ata = some status ∧
        Right o s waiting answer object.1 drive status)
    (apart : (objects.filter (·.1 ∈ job.objects)).Pairwise fun first second =>
      ∀ d d', first.2.drive = some d → second.2.drive = some d' →
        endSerial first.1 d ≠ endSerial second.1 d') :
    ∃ t answers, (finishEach o job objects).run s = (.ok ⟨⟩, t) ∧ t.acks = s.acks ++ answers ∧
      answers.Perm ((waiting.filter fun pair =>
        pair.path ∈ job.objects ∧ pair.path ∈ objects.map Prod.fst).map answer) := by
  induction objects generalizing s with
  | nil => exact ⟨s, [], rfl, by simp, by simp⟩
  | cons object rest ih =>
      obtain ⟨path, interfaces⟩ := object
      obtain ⟨fresh, nodup⟩ := List.nodup_cons.mp nodup
      rw [List.forall_mem_cons] at items drives
      by_cases listed : path ∈ job.objects
      · obtain ⟨drive, status, known, ata, right⟩ := drives.1 listed
        obtain ⟨t, run, finished⟩ := finishDrive_run known ata items.1 right.tells
        obtain ⟨answers, acks, perm⟩ := right.answers distinct finished
        rw [List.filter_cons_of_pos (by simpa using listed)] at apart
        obtain ⟨first, apart⟩ := List.pairwise_cons.mp apart
        have items' : ∀ object ∈ rest, t.diskObjects.get? object.1 = some object.2 := by
          rw [finished.objects.diskObjects]
          exact items.2
        obtain ⟨u, others, run', acks', perm'⟩ := ih items' nodup (fun object mem listed => by
          obtain ⟨d, status, known', ata, right⟩ := drives.2 object mem listed
          have other := first object (List.mem_filter.mpr ⟨mem, by simpa using listed⟩) _ _ known
            known'
          exact ⟨d, status, known', ata, right.after finished other.symm⟩) apart
        refine ⟨u, answers ++ others, ?_, ?_, ?_⟩
        · rw [finishEach, if_pos listed, Try.run_bind_of_ok run, run']
        · rw [acks', acks, List.append_assoc]
        · refine (perm.append perm').trans ?_
          rw [← List.map_append]
          exact (filter_paths listed fresh).map answer
      · obtain ⟨t, answers, run, acks, perm⟩ := ih items.2 nodup drives.2
          (by rwa [List.filter_cons_of_neg (by simpa using listed)] at apart)
        refine ⟨t, answers, ?_, acks, ?_⟩
        · rw [finishEach, if_neg listed]
          exact run
        · refine perm.trans (.of_eq ?_)
          congr 1
          refine List.filter_congr fun pair _ => ?_
          by_cases here : pair.path = path
          · simp [here, listed]
          · simp only [List.map_cons, List.mem_cons, here, false_or]

/-- Nothing is answered and nothing is forgotten. -/
def SameRequests (s t : State) : Prop := t.smartUuids = s.smartUuids ∧ t.acks = s.acks

instance : IsPreorder State SameRequests where
  refl _ := ⟨rfl, rfl⟩
  trans _ _ _ first second := ⟨second.1.trans first.1, second.2.trans first.2⟩

theorem answerUuids_none {uuids : List Text}
    (free : ∀ uuid, s.smartUuids.get? uuid ≠ some (some serial)) :
    answerUuids serial response uuids s = s := by
  induction uuids with
  | nil => rfl
  | cons uuid rest ih => rw [answerUuids, if_neg (free uuid), ih]

theorem finishDrive_idle (free : ∀ drive, interfaces.drive = some drive →
    ∀ uuid, s.smartUuids.get? uuid ≠ some (some (endSerial path drive))) :
    (finishDrive o path interfaces).Leaves (fun _ => SameRequests s) (fun _ => SameRequests s)
      s := by
  rw [finishDrive, Try.leaves_bind, Try.leaves_ofExcept]
  cases known : interfaces.drive with
  | none =>
      show SameRequests s s
      exact refl s
  | some drive =>
      dsimp only [Option.elim]
      rw [Try.leaves_bind, Try.leaves_ofExcept]
      cases interfaces.ata with
      | none =>
          show SameRequests s s
          exact refl s
      | some status =>
          dsimp only
          rw [Try.leaves_bind, Try.leaves_get, Try.leaves_bind, Try.leaves_modify, Try.leaves_bind]
          apply (quiet_processSmartStatus o path _ _ _).mono
          · intro _ t same
            rw [Try.leaves_modify,
              answerUuids_none (by rw [same.smartUuids]; exact free drive known)]
            exact ⟨same.smartUuids, same.acks⟩
          · exact fun _ t same => ⟨same.smartUuids, same.acks⟩

/-- Where no slot has the serial number of a drive of the job, nobody is answered. -/
theorem finishEach_idle {job : Job} {objects : List (Text × Interfaces)}
    (free : ∀ object ∈ objects, object.1 ∈ job.objects → ∀ drive, object.2.drive = some drive →
      ∀ uuid, s.smartUuids.get? uuid ≠ some (some (endSerial object.1 drive))) :
    (finishEach o job objects).Leaves (fun _ => SameRequests s) (fun _ => SameRequests s) s := by
  have each (t : State) (same : SameRequests s t) :
      (finishEach o job objects).Leaves (fun _ => SameRequests s) (fun _ => SameRequests s) t := by
    induction objects generalizing t with
    | nil => exact same
    | cons object rest ih =>
        rw [List.forall_mem_cons] at free
        have others := ih free.2
        rw [finishEach]
        split
        · rw [Try.leaves_bind]
          have here : (finishDrive o object.1 object.2).Leaves (fun _ => SameRequests t)
              (fun _ => SameRequests t) t := finishDrive_idle (by
            rw [same.1]
            exact free.1 ‹_›)
          apply here.mono
          · exact fun _ u after => others u (IsTrans.trans _ _ _ same after)
          · exact fun _ u after => IsTrans.trans _ _ _ same after
        · exact others t same
  exact each s (refl s)

end Ends

end DiskMonitor

end Sspl

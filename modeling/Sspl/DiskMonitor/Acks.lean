import Sspl.DiskMonitor.Answers

/-!
# Requests for self-tests are answered

The answers that are sent are exactly those that the ledger makes due, as long as the
monitor's own notes are right when a test ends. They are not after a request for all drives,
which keeps the last drive only.
-/

namespace Sspl

namespace DiskMonitor

open Iem (Text)
open NodeController (normalized)

section Removed

variable {o : Outside} {s t : State} {path : Text} {interfaces : List Removed} {job : Job}

theorem removeDrive_notes (o : Outside) (path : Text) (s : State) :
    SameNotes s ((removeDrive o path).run s).2 :=
  Try.leaves_iff.mp (notes_removeDrive o path s)

/-- A job that is not known is not answered. -/
theorem interfaceRemoved_unknown (unknown : (s.smartJobs.get? path).join = none) :
    SameSmart s ((interfaceRemoved o path interfaces).run s).2 := by
  induction interfaces generalizing s with
  | nil => exact refl s
  | cons interface rest ih =>
      cases interface with
      | drive =>
          have notes := removeDrive_notes o path s
          rw [interfaceRemoved, Try.run_bind_of_ok (swallow_run _ s)]
          exact IsTrans.trans _ _ _ notes.1 (ih (by rwa [notes.1.smartJobs]))
      | job =>
          rw [interfaceRemoved, Try.run_bind_of_ok (Try.run_get s), unknown]
          exact refl s
      | other => exact ih unknown

theorem interfaceRemoved_drive (only : Removed.job ∉ interfaces) :
    SameSmart s ((interfaceRemoved o path interfaces).run s).2 := by
  induction interfaces generalizing s with
  | nil => exact refl s
  | cons interface rest ih =>
      have rest_ := fun mem => only (List.mem_cons_of_mem _ mem)
      cases interface with
      | drive =>
          rw [interfaceRemoved, Try.run_bind_of_ok (swallow_run _ s)]
          exact IsTrans.trans _ _ _ (removeDrive_notes o path s).1 (ih rest_)
      | job => exact absurd List.mem_cons_self only
      | other => exact ih rest_

/-- A job that is known ends for all its drives. -/
theorem interfaceRemoved_job (known : s.smartJobs.get? path = some (some job))
    (mem : Removed.job ∈ interfaces) : ∃ u, SameNotes s u ∧
      SameSmart ((finishEach o job s.diskObjects.items).run
          { u with smartJobs := u.smartJobs.set path none }).2
        ((interfaceRemoved o path interfaces).run s).2 := by
  induction interfaces generalizing s with
  | nil => cases mem
  | cons interface rest ih =>
      cases interface with
      | drive =>
          have notes := removeDrive_notes o path s
          obtain ⟨u, same, last⟩ := ih (s := ((removeDrive o path).run s).2)
            (by rwa [notes.1.smartJobs]) (by simpa using mem)
          rw [notes.2.diskObjects] at last
          rw [interfaceRemoved, Try.run_bind_of_ok (swallow_run _ s)]
          exact ⟨u, IsTrans.trans _ _ _ notes same, last⟩
      | job =>
          refine ⟨s, refl s, ?_⟩
          rw [interfaceRemoved, Try.run_bind_of_ok (Try.run_get s), known, Option.join_some]
          dsimp only
          rw [Try.run_bind_of_ok (Try.run_modify _ s), Try.run_bind_of_ok (swallow_run _ _)]
          refine interfaceRemoved_unknown ?_
          have objects := Try.leaves_iff.mp (objects_finishEach o job s.diskObjects.items
            { s with smartJobs := s.smartJobs.set path none })
          rw [objects.smartJobs]
          simp
      | other => exact ih known (by simpa using mem)

end Removed

section Requests

variable {o : Outside} {s t : State} {serialNumber uuid path serial : Text}
  {interfaces : Interfaces}

theorem resultAtOnce_ata (here : s.diskObjects.get? path = some interfaces)
    (ata : interfaces.isAta = true) : resultAtOnce o s path =
      if o.selftest path = .refused then some "Failed".toList else none := by
  rw [resultAtOnce, here]
  exact if_pos ata

theorem resultAtOnce_other (here : s.diskObjects.get? path = some interfaces)
    (other : ¬ interfaces.isAta = true) : (resultAtOnce o s path).isSome = true := by
  rw [resultAtOnce, here]
  refine (congrArg Option.isSome (if_neg other)).trans ?_
  cases s.driveByDeviceName.get? path <;> rfl

/-- A test that is refused raises, and so does every test of a drive that is no ATA drive. -/
theorem scheduleSmartTest_run (here : s.diskObjects.get? path = some interfaces) (serial : Text) :
    (resultAtOnce o s path = none ∧ ∃ result, (scheduleSmartTest o path (some serial)).run s =
        (result, s) ∧ ∀ err, result = .error err → err = .alreadyRunning) ∨
      ((resultAtOnce o s path).isSome ∧ ∃ err, (scheduleSmartTest o path (some serial)).run s =
        (.error err, s) ∧ err ≠ .alreadyRunning) := by
  rw [scheduleSmartTest, Try.run_bind_of_ok (Try.run_get s), item_eq_ok.mpr here,
    Try.run_ofExcept_bind_ok]
  by_cases ata : interfaces.isAta = true
  · rw [if_pos ata, resultAtOnce_ata here ata]
    cases o.selftest path with
    | started =>
        refine .inl ⟨rfl, _, rfl, ?_⟩
        rintro err ⟨⟩
    | alreadyRunning =>
        refine .inl ⟨rfl, _, rfl, ?_⟩
        rintro err ⟨⟩
        rfl
    | refused => exact .inr ⟨rfl, _, rfl, by simp⟩
  · refine .inr ⟨resultAtOnce_other here ata, ?_⟩
    rw [if_neg ata, Option.isSome_some, if_pos rfl, item]
    cases s.driveByDeviceName.get? path with
    | none => exact ⟨.py .keyError, rfl, by simp⟩
    | some deviceName => exact ⟨.py .valueError, rfl, by simp⟩

theorem SameObjects.covered (h : SameObjects s t) :
    covered t serialNumber path = covered s serialNumber path := by
  simp only [DiskMonitor.covered, requestSerial, h.diskObjects, h.driveById]

theorem SameObjects.resultAtOnce (h : SameObjects s t) :
    resultAtOnce o t path = resultAtOnce o s path := by
  simp only [DiskMonitor.resultAtOnce, h.diskObjects, h.driveByDeviceName]

theorem SameObjects.dueAtOnce (h : SameObjects s t)
    (supported : t.smartSupported = s.smartSupported) :
    dueAtOnce o t serialNumber uuid path = dueAtOnce o s serialNumber uuid path := by
  rw [DiskMonitor.dueAtOnce, DiskMonitor.dueAtOnce, h.covered, h.resultAtOnce, supported]

theorem dueAtOnce_none (free : DiskMonitor.covered s serialNumber path = none) :
    DiskMonitor.dueAtOnce o s serialNumber uuid path = none := by
  rw [DiskMonitor.dueAtOnce, free]
  rfl

theorem dueAtOnce_some (cover : DiskMonitor.covered s serialNumber path = some serial)
    (supported : s.smartSupported = true) :
    DiskMonitor.dueAtOnce o s serialNumber uuid path =
      (DiskMonitor.resultAtOnce o s path).map fun response =>
        .ack (smartTest serial) response uuid := by
  rw [DiskMonitor.dueAtOnce, cover, supported]
  cases DiskMonitor.resultAtOnce o s path <;> rfl

/-- No covered drive passes its test at once. -/
def Fails (o : Outside) (s : State) (serialNumber path : Text) : Prop :=
  (covered s serialNumber path).isSome → ∀ response, resultAtOnce o s path = some response →
    response = "Failed".toList

/-- One drive: the answer that is due at once is sent. -/
theorem testDrive_run (supported : s.smartSupported = true) (plain : normalized uuid = uuid)
    (fails : Fails o s serialNumber path) :
    ∃ t, (testDrive o serialNumber uuid path).run s = (.ok ⟨⟩, t) ∧ SameObjects s t ∧
      t.smartSupported = s.smartSupported ∧
        t.acks = s.acks ++ (dueAtOnce o s serialNumber uuid path).toList := by
  rw [testDrive, Try.run_bind_of_ok (Try.run_get s)]
  cases cover : covered s serialNumber path with
  | none =>
      rw [dueAtOnce_none cover]
      exact ⟨s, rfl, refl s, rfl, (List.append_nil _).symm⟩
  | some serial =>
      obtain ⟨interfaces, here, -⟩ := Option.bind_eq_some_iff.mp cover
      rw [dueAtOnce_some cover supported]
      dsimp only
      generalize noted : ({ s with smartUuids := s.smartUuids.set uuid (some serial) } : State) = u
      have start : ((do
          Try.modify fun s => { s with smartUuids := s.smartUuids.set uuid (some serial) }
          scheduleSmartTest o path (some serial)) : Step).run s =
            (scheduleSmartTest o path (some serial)).run u := by
        rw [← noted]
        rfl
      have same : SameObjects s u := by
        rw [← noted]
        exact ⟨rfl, rfl, rfl, rfl⟩
      have result : resultAtOnce o u path = resultAtOnce o s path := same.resultAtOnce
      have acks : u.acks = s.acks := by
        rw [← noted]
        rfl
      have supported_ : u.smartSupported = s.smartSupported := by rw [← noted]
      obtain ⟨running, ended, run, only⟩ | ⟨known, err, run, other⟩ :=
        scheduleSmartTest_run (o := o) (s := u) (by rw [← noted]; exact here) serial
      · -- A test is running, and the slot stays.
        rw [← result, running]
        refine ⟨u, ?_, same, supported_, by rw [acks]; exact (List.append_nil _).symm⟩
        cases ended with
        | ok value => exact Try.run_tryCatch_of_ok (start.trans run)
        | error err =>
            rw [Try.run_tryCatch_of_error (start.trans run), if_pos (only err rfl)]
            rfl
      · obtain ⟨response, found⟩ := Option.isSome_iff_exists.mp known
        rw [result] at found
        rw [found, fails (by rw [cover]; rfl) response found]
        refine ⟨_, by rw [Try.run_tryCatch_of_error (start.trans run), if_neg other]; rfl,
          ?_, ?_, ?_⟩
        · exact ⟨same.smartJobs, same.diskObjects, same.driveById, same.driveByDeviceName⟩
        · exact supported_
        · refine (acks_answer u _ _ _).trans ?_
          rw [acks, ack, normalized_smartTest, plain]
          rfl

/-- All drives, one after the other. -/
theorem testEach_run {paths : List Text} (supported : s.smartSupported = true)
    (plain : normalized uuid = uuid) (fails : ∀ path ∈ paths, Fails o s serialNumber path) :
    ∃ t, (testEach o serialNumber uuid paths).run s = (.ok ⟨⟩, t) ∧ SameObjects s t ∧
      t.acks = s.acks ++ paths.filterMap (dueAtOnce o s serialNumber uuid) := by
  induction paths generalizing s with
  | nil => exact ⟨s, rfl, refl s, (List.append_nil _).symm⟩
  | cons path rest ih =>
      rw [List.forall_mem_cons] at fails
      obtain ⟨t, run, same, same_, acks⟩ := testDrive_run supported plain fails.1
      obtain ⟨u, run', same', acks'⟩ := ih (s := t) (same_.trans supported) fun path mem => by
        rw [Fails, same.covered, same.resultAtOnce]
        exact fails.2 path mem
      refine ⟨u, ?_, IsTrans.trans _ _ _ same same', ?_⟩
      · rw [testEach, Try.run_bind_of_ok run, run']
      · have due : dueAtOnce o t serialNumber uuid = dueAtOnce o s serialNumber uuid :=
          funext fun _ => same.dueAtOnce same_
        rw [acks', acks, due, List.append_assoc, List.filterMap_cons]
        cases dueAtOnce o s serialNumber uuid path <;> rfl

/-- A request for self-tests: what is due at once is sent, and the jobs that are noted stay,
except that a request for all drives forgets them. -/
theorem diskSmartTest_run (supported : s.smartSupported = true) (plain : normalized uuid = uuid)
    (fails : ∀ path ∈ drivePaths o.managed, Fails o { s with diskObjects := o.managed }
      serialNumber path) :
    ∃ t, ((do
        Try.modify fun s => { s with diskObjects := o.managed }
        diskSmartTest o serialNumber uuid) : Step).run s = (.ok ⟨⟩, t) ∧
      (t.smartJobs = s.smartJobs ∨ t.smartJobs = .empty) ∧
      t.acks = s.acks ++ (drivePaths o.managed).filterMap
        (dueAtOnce o { s with diskObjects := o.managed } serialNumber uuid) := by
  rw [Try.run_bind_of_ok (Try.run_modify _ s), diskSmartTest, Try.run_bind_of_ok (Try.run_get _),
    if_pos supported]
  by_cases all : serialNumber = star
  · obtain ⟨t, run, same, acks⟩ := testEach_run (o := o)
      (s := { s with diskObjects := o.managed, smartJobs := .empty }) supported plain fails
    rw [if_pos all, Try.run_bind_of_ok (Try.run_modify _ _)]
    exact ⟨t, run, .inr same.smartJobs, acks⟩
  · obtain ⟨t, run, same, acks⟩ := testEach_run (o := o)
      (s := { s with diskObjects := o.managed }) supported plain fails
    rw [if_neg all]
    exact ⟨t, run, .inl same.smartJobs, acks⟩

end Requests

section Runs

variable {x y : State × Ledger} {e : Event} {actions : List Event}

/-- The answers that were sent are those that are due, the pairs that wait are of requests so
far, each once, and the jobs that are noted are running. -/
structure Noted (x : State × Ledger) : Prop where
  acks : Acknowledged x
  distinct : (x.2.waiting.map fun pair => (pair.uuid, pair.path)).Nodup
  used : ∀ pair ∈ x.2.waiting, pair.uuid ∈ x.2.used
  plain : ∀ pair ∈ x.2.waiting, normalized pair.uuid = pair.uuid
  jobs : ∀ path job, x.1.smartJobs.get? path = some (some job) →
    x.2.running.get? path = some job

theorem Noted.congr {s t : State} {L : Ledger} (h : Noted (s, L))
    (jobs : ∀ path job, t.smartJobs.get? path = some (some job) →
      s.smartJobs.get? path = some (some job)) (acks : t.acks = s.acks) : Noted (t, L) where
  acks := by
    rw [Acknowledged, acks]
    exact h.acks
  distinct := h.distinct
  used := h.used
  plain := h.plain
  jobs path job found := h.jobs path job (jobs path job found)

theorem Noted.smart {s t : State} {L : Ledger} (h : Noted (s, L)) (same : SameSmart s t) :
    Noted (t, L) := by
  refine h.congr (fun path job found => ?_) same.acks
  rwa [same.smartJobs] at found

theorem waits_eq_some {o : Outside} {s : State} {serialNumber uuid path : Text} {pair : Pair}
    (found : waits o s serialNumber uuid path = some pair) :
    pair.uuid = uuid ∧ pair.path = path := by
  obtain ⟨serial, -, found⟩ := Option.bind_eq_some_iff.mp found
  split at found
  · cases found
    exact ⟨rfl, rfl⟩
  · cases found

/-- The pairs of a request that wait have the paths of the drives, in their order. -/
theorem waits_paths (o : Outside) (s : State) (serialNumber uuid : Text) (paths : List Text) :
    ((paths.filterMap (waits o s serialNumber uuid)).map Pair.path).Sublist paths := by
  induction paths with
  | nil => exact .slnil
  | cons path rest ih =>
      rw [List.filterMap_cons]
      cases found : waits o s serialNumber uuid path with
      | none => exact ih.cons path
      | some pair =>
          rw [List.map_cons, (waits_eq_some found).2]
          exact ih.cons_cons path

variable {o : Outside} {s : State} {L : Ledger}

theorem Noted.request (h : Noted (s, L)) {e : Event} {serialNumber name : Text}
    (fresh : name ∉ L.used) (outside : e.outside = o)
    (meets : MeetsRequest (s, L) e serialNumber name) :
    Noted (((do
        Try.modify fun s => { s with diskObjects := o.managed }
        diskSmartTest o serialNumber name : Step).run s).2,
      L.requested s o serialNumber name) := by
  subst outside
  obtain ⟨supported, plain, fails⟩ := meets
  obtain ⟨t, run, jobs, acks⟩ := diskSmartTest_run supported plain fails
  generalize at_ : ({ s with diskObjects := e.outside.managed } : State) = u at *
  have next : L.requested s e.outside serialNumber name =
      { L with
        used := name :: L.used
        waiting := L.waiting ++ (drivePaths e.outside.managed).filterMap
          (waits e.outside u serialNumber name)
        due := L.due ++ (drivePaths e.outside.managed).filterMap
          (dueAtOnce e.outside u serialNumber name) } := by
    rw [← at_]
    rfl
  have new (pair : Pair) (mem : pair ∈ (drivePaths e.outside.managed).filterMap
      (waits e.outside u serialNumber name)) : pair.uuid = name := by
    obtain ⟨path, -, found⟩ := List.mem_filterMap.mp mem
    exact (waits_eq_some found).1
  rw [run, next]
  refine ⟨?_, ?_, ?_, ?_, ?_⟩
  · rw [Acknowledged, acks]
    exact h.acks.append_right _
  · rw [List.map_append]
    refine List.nodup_append.mpr ⟨h.distinct, ?_, ?_⟩
    · refine .of_map Prod.snd ?_
      rw [List.map_map]
      exact (waits_paths ..).nodup (List.Nodup.filter _ e.outside.managed.nodup)
    · intro first mem second mem_ same
      obtain ⟨pair, old, rfl⟩ := List.mem_map.mp mem
      obtain ⟨other, late, rfl⟩ := List.mem_map.mp mem_
      refine fresh ?_
      rw [← new other late, ← (Prod.mk.inj same).1]
      exact h.used pair old
  · intro pair mem
    obtain mem | mem := List.mem_append.mp mem
    · exact List.mem_cons_of_mem _ (h.used pair mem)
    · rw [new pair mem]
      exact List.mem_cons_self
  · intro pair mem
    obtain mem | mem := List.mem_append.mp mem
    · exact h.plain pair mem
    · rw [new pair mem]
      exact plain
  · intro path job found
    obtain same | same := jobs <;> rw [same] at found
    · exact h.jobs path job found
    · cases found

theorem Noted.added (h : Noted (s, L)) (o : Outside) (path : Text) (interfaces : Interfaces) :
    Noted (((interfaceAdded o path interfaces).run s).2, L.added path interfaces) := by
  rw [interfaceAdded, Ledger.added]
  cases interfaces.drive.filter isPhysicalDrive with
  | some drive =>
      dsimp only
      rw [swallow_run]
      have same : SameSmart s ((addDrive o path drive).run s).2 :=
        Try.leaves_iff.mp (smart_addDrive o path drive s)
      exact h.smart same
  | none =>
      cases interfaces.job with
      | none => exact h
      | some job =>
          dsimp only
          split
          · refine ⟨h.acks, h.distinct, h.used, h.plain, fun m saved found => ?_⟩
            rw [Try.run_modify, Dict.get?_set] at found
            rw [Dict.get?_set]
            split at found
            · cases found
              rw [if_pos ‹_›]
            · rw [if_neg ‹_›]
              exact h.jobs m saved found
          · exact h

/-- What is left of the ledger when a job has ended whose pairs have been answered. -/
theorem Noted.jobEnds {t : State} (h : Noted (s, L)) {ended : Text → Text} {path : Text}
    {job : Job} {answers : List Output} (acks : t.acks = s.acks ++ answers)
    (answered : answers.Perm
      ((L.waiting.filter (·.path ∈ job.objects)).map (answerTo s ended)))
    (jobs : ∀ m saved, t.smartJobs.get? m = some (some saved) →
      m ≠ path ∧ s.smartJobs.get? m = some (some saved)) :
    Noted (t, L.jobEnds s ended path job) where
  acks := by
    rw [Acknowledged, acks]
    exact h.acks.append answered
  distinct := h.distinct.sublist (List.filter_sublist.map _)
  used pair mem := h.used pair (List.mem_filter.mp mem).1
  plain pair mem := h.plain pair (List.mem_filter.mp mem).1
  jobs m saved found := by
    obtain ⟨other, found⟩ := jobs m saved found
    rw [Ledger.jobEnds, Dict.get?_erase, if_neg other]
    exact h.jobs m saved found

/-- Nobody waits for the job. -/
theorem Noted.jobEnds_idle {t : State} (h : Noted (s, L)) {ended : Text → Text} {path : Text}
    {job : Job} (idle : Idle (s, L) path job) (acks : t.acks = s.acks)
    (jobs : ∀ m saved, t.smartJobs.get? m = some (some saved) →
      m ≠ path ∧ s.smartJobs.get? m = some (some saved)) :
    Noted (t, L.jobEnds s ended path job) := by
  have nobody : L.waiting.filter (·.path ∈ job.objects) = [] := by
    refine List.filter_eq_nil_iff.mpr fun pair mem => ?_
    simpa using idle.waiting pair mem
  have none_ : t.acks = s.acks ++ [] := by rw [acks, List.append_nil]
  exact h.jobEnds none_ (by rw [nobody]; exact .nil) jobs

/-- What the monitor has noted of the drives of the job is right. -/
theorem Ends.right {e : Event} {path : Text} {job : Job} (h : Noted (s, L))
    (ends : Ends (s, L) e path job) (object : Text × Interfaces)
    (mem : object ∈ s.diskObjects.items) (listed : object.1 ∈ job.objects) : ∃ drive status,
      object.2.drive = some drive ∧ object.2.ata = some status ∧
        Right e.outside s L.waiting (answerTo s e.ended) object.1 drive status := by
  obtain ⟨drive, status, known, ata, reports⟩ := ends.drives object mem listed
  refine ⟨drive, status, known, ata, reports.tells, ?_, reports.found, ?_⟩
  · intro uuid held
    exact reports.kept (uuid, _) (Dict.mem_items.mpr held) rfl
  · intro pair mem same
    obtain ⟨serial, result⟩ := reports.result pair mem same
    rw [answerTo, same, result, serial, ack, normalized_smartTest, normalized_result,
      h.plain pair mem]

/-- The saved job has been dropped and the drives are looked at. -/
structure Dropped (o : Outside) (path : Text) (interfaces : List Removed) (job : Job)
    (s v : State) : Prop where
  smartUuids : v.smartUuids = s.smartUuids
  simulated : v.simulatedSmartFailures = s.simulatedSmartFailures
  links : v.driveById = s.driveById
  objects : v.diskObjects = s.diskObjects
  acks : v.acks = s.acks
  jobs : ∀ m found, ((interfaceRemoved o path interfaces).run s).2.smartJobs.get? m =
    some (some found) → m ≠ path ∧ s.smartJobs.get? m = some (some found)
  last : SameSmart ((finishEach o job s.diskObjects.items).run v).2
    ((interfaceRemoved o path interfaces).run s).2

theorem exists_dropped {path : Text} {job : Job} {interfaces : List Removed}
    (known : s.smartJobs.get? path = some (some job)) (mem : Removed.job ∈ interfaces) :
    ∃ v, Dropped o path interfaces job s v := by
  obtain ⟨u, notes, last⟩ := interfaceRemoved_job (o := o) known mem
  refine ⟨{ u with smartJobs := u.smartJobs.set path none }, notes.1.smartUuids,
    notes.1.simulated, notes.2.driveById, notes.2.diskObjects, notes.1.acks, ?_, last⟩
  intro m found held
  have objects := Try.leaves_iff.mp (objects_finishEach o job s.diskObjects.items
    { u with smartJobs := u.smartJobs.set path none })
  rw [last.smartJobs, objects.smartJobs, notes.1.smartJobs, Dict.get?_set] at held
  split at held
  · cases held
  · exact ⟨‹_›, held⟩

theorem Noted.removed_ends (h : Noted (s, L)) {e : Event} {path : Text}
    {interfaces : List Removed} {job : Job} {v : State}
    (dropped : Dropped e.outside path interfaces job s v) (ends : Ends (s, L) e path job) :
    Noted (((interfaceRemoved e.outside path interfaces).run s).2,
      L.jobEnds s e.ended path job) := by
  have drives (object : Text × Interfaces) (mem : object ∈ s.diskObjects.items)
      (listed : object.1 ∈ job.objects) : ∃ drive status,
        object.2.drive = some drive ∧ object.2.ata = some status ∧
          Right e.outside v L.waiting (answerTo s e.ended) object.1 drive status := by
    obtain ⟨drive, status, known, ata, right⟩ := ends.right h object mem listed
    exact ⟨drive, status, known, ata,
      right.congr dropped.smartUuids dropped.simulated dropped.links⟩
  have items (object : Text × Interfaces) (mem : object ∈ s.diskObjects.items) :
      v.diskObjects.get? object.1 = some object.2 := by
    rw [dropped.objects]
    exact Dict.mem_items.mp mem
  obtain ⟨w, answers, run, sent, answered⟩ := finishEach_run (o := e.outside) h.distinct
    items s.diskObjects.nodup drives ends.apart
  have acks : ((interfaceRemoved e.outside path interfaces).run s).2.acks = s.acks ++ answers := by
    rw [dropped.last.acks, run, sent, dropped.acks]
  refine h.jobEnds acks (answered.trans (.of_eq ?_)) dropped.jobs
  congr 1
  refine List.filter_congr fun pair waits => ?_
  have listed := ends.listed pair waits
  by_cases of : pair.path ∈ job.objects
  · simp [of, show pair.path ∈ s.diskObjects.items.map Prod.fst from listed of]
  · simp [of]

theorem Noted.removed_idle (h : Noted (s, L)) {e : Event} {path : Text}
    {interfaces : List Removed} {job : Job} {v : State}
    (dropped : Dropped e.outside path interfaces job s v)
    (known : s.smartJobs.get? path = some (some job)) (idle : Idle (s, L) path job) :
    Noted (((interfaceRemoved e.outside path interfaces).run s).2,
      L.jobEnds s e.ended path job) := by
  have known_ : jobKnown s path = true := by
    rw [jobKnown, known]
    rfl
  have nobody : (finishEach e.outside job s.diskObjects.items).Leaves
      (fun _ => SameRequests v) (fun _ => SameRequests v) v := by
    refine finishEach_idle fun object mem listed drive found uuid held => ?_
    rw [dropped.smartUuids] at held
    exact idle.kept known_ object mem listed drive found _ (Dict.mem_items.mpr held) rfl
  have acks := (Try.leaves_iff.mp nobody).2.trans dropped.acks
  exact h.jobEnds_idle idle (dropped.last.acks.trans acks) dropped.jobs

/-- A job that is not known to the monitor. -/
theorem Noted.removed_unknown (h : Noted (s, L)) {e : Event} {path : Text}
    {interfaces : List Removed} {job : Job} (saved : (s.smartJobs.get? path).join = none)
    (meets : Ends (s, L) e path job ∨ Idle (s, L) path job) :
    Noted (((interfaceRemoved e.outside path interfaces).run s).2,
      L.jobEnds s e.ended path job) := by
  obtain ends | idle := meets
  · rw [ends.known] at saved
    cases saved
  · have same : SameSmart s ((interfaceRemoved e.outside path interfaces).run s).2 :=
      interfaceRemoved_unknown saved
    refine h.jobEnds_idle idle same.acks fun m found held => ?_
    rw [same.smartJobs] at held
    refine ⟨?_, held⟩
    rintro rfl
    rw [held] at saved
    cases saved

theorem Noted.removed (h : Noted (s, L)) {e : Event} {path : Text} {interfaces : List Removed}
    (meets : .job ∈ interfaces → ∀ job, L.running.get? path = some job →
      Ends (s, L) e path job ∨ Idle (s, L) path job) :
    Noted (((interfaceRemoved e.outside path interfaces).run s).2,
      L.removed s e.ended path interfaces) := by
  rw [Ledger.removed]
  by_cases mem : Removed.job ∈ interfaces
  · cases saved : (s.smartJobs.get? path).join with
    | none =>
        cases running : L.running.get? path with
        | none => exact h.smart (interfaceRemoved_unknown saved)
        | some job =>
            dsimp only
            rw [if_pos mem]
            exact h.removed_unknown saved (meets mem job running)
    | some job =>
        have known := Option.join_eq_some_iff.mp saved
        have running := h.jobs path job known
        obtain ⟨v, dropped⟩ := exists_dropped (o := e.outside) known mem
        rw [running]
        dsimp only
        rw [if_pos mem]
        obtain ends | idle := meets mem job running
        · exact h.removed_ends dropped ends
        · exact h.removed_idle dropped known idle
  · have same : SameSmart s ((interfaceRemoved e.outside path interfaces).run s).2 :=
      interfaceRemoved_drive mem
    cases L.running.get? path with
    | none => exact h.smart same
    | some job =>
        dsimp only
        rw [if_neg mem]
        exact h.smart same

theorem next_smart {t : State} {a : Action × Outside} (step : next s a = some t) :
    SameSmart ((block a.2 a.1).run s).2 t := by
  rw [next] at step
  split at step
  · split at step
    · rename_i ended
      cases step
      rw [ended]
      exact refl _
    · rename_i ended
      cases step
      rw [ended]
      exact ⟨rfl, rfl, rfl, rfl, rfl⟩
  · cases step

/-- A step that meets the condition keeps the invariant. -/
theorem Noted.block (h : Noted (s, L)) (fresh : Fresh L e.action) (meets : MeetsAck (s, L) e) :
    Noted (((block e.outside e.action).run s).2, L.next s e) := by
  obtain ⟨action, o, ended⟩ := e
  cases action with
  | added path interfaces => exact h.added o path interfaces
  | removed path interfaces => exact h.removed (e := ⟨_, o, ended⟩) meets
  | init =>
      have same : SameSmart s ((initDrives o).run s).2 := Try.leaves_iff.mp (smart_initDrives o s)
      exact h.smart same
  | update =>
      have same : SameSmart s ((do updateDriveFaults o; putCache : Step).run s).2 :=
        Try.leaves_iff.mp (smart_finish o s)
      exact h.smart same
  | request request =>
      cases request with
      | simulateFailure nodeRequest serialNumber => exact h.congr (fun _ _ found => found) rfl
      | resendDriveStatus serialNumber =>
          have keeps : Try.Keeps SameSmart (processMsg o (.resendDriveStatus serialNumber)) :=
            .bind (.modify fun _ => ⟨rfl, rfl, rfl, rfl, rfl⟩) fun _ =>
              smart_of_quiet (quiet_resendEach _ _)
          have same : SameSmart s ((processMsg o (.resendDriveStatus serialNumber)).run s).2 :=
            Try.leaves_iff.mp (keeps s)
          exact h.smart same
      | diskSmartTest serialNumber uuid =>
          exact h.request (e := ⟨_, o, ended⟩) (fresh _ rfl) rfl meets

theorem noted_of_init (start : requests.init x) : Noted x := by
  obtain ⟨none_, _, _, _, o, run⟩ := start
  obtain ⟨s, L⟩ := x
  subst none_
  have same := (smart_startUp o).of_run run
  refine ⟨?_, .nil, (fun _ mem => nomatch mem), (fun _ mem => nomatch mem),
    fun path job found => ?_⟩
  · rw [Acknowledged, same.acks]
    exact .nil
  · rw [same.smartJobs] at found
    cases found

/-- In a run whose steps meet the condition the answers that are sent are those that are due, up to
their order, whatever requests and self-tests overlap. -/
theorem requests_answered (start : requests.init x) (run : requests.Runs MeetsAck x actions y) :
    requests.Always Acknowledged x actions := by
  have preserved (x : State × Ledger) (e : Event) (y : State × Ledger) (h : Noted x)
      (meets : MeetsAck x e) (step : requests.next x e = some y) : Noted y := by
    simp only [requests] at step
    split at step
    · rename_i fresh
      obtain ⟨t, moved, rfl⟩ := Option.map_eq_some_iff.mp step
      exact (Noted.block h fresh meets).smart (next_smart moved)
    · cases step
  exact fun done rest t split left =>
    (run.always preserved (noted_of_init start) done rest t split left).acks

end Runs

namespace Example

def ata (path serial device : String) : List (Text × Interfaces) :=
  [(path.toList, {
      drive := some ⟨serial.toList, serial.toList, "0x5000".toList, 1000, .nil⟩
      ata := some "success".toList }),
    (("/block_devices" ++ device).toList, {
      block := some ⟨path.toList, ["/dev/disk/by-id/wwn".toList], device.toList⟩ })]

/-- `smartctl` says that a drive is healthy, and UDisks2 begins every test. -/
def healthy (objects : List (Text × Interfaces)) : Outside where
  managed := objects.foldl (fun managed object => managed.set object.1 object.2) .empty
  command _ _ := ⟨[], .ok (.dict (.cons "smart_status"
    (.dict (.cons "passed" (.bool true) .nil)) .nil)), [], 0⟩
  selftest _ := .started

def two : Outside := healthy (ata "/drives/A" "A" "/sda" ++ ata "/drives/B" "B" "/sdb")

def started (o : Outside) : State × Ledger :=
  (((startUp o).run (initialState true false .empty)).2, ⟨[], .empty, [], []⟩)

theorem started_init (o : Outside) (run : ((startUp o).run (initialState true false .empty)).1 =
    .ok ⟨⟩) : requests.init (started o) :=
  ⟨rfl, true, false, .empty, o, Prod.ext run rfl⟩

def event (o : Outside) (action : Action) : Event := ⟨action, o, fun _ => "success".toList⟩

def job (path : String) : Job := ⟨some "ata-smart-selftest".toList, [path.toList]⟩

def request (o : Outside) (serialNumber uuid : String) : Event :=
  event o (.request (.diskSmartTest serialNumber.toList (some uuid.toList)))

def begins (o : Outside) (number path : String) : Event :=
  event o (.added ("/jobs/" ++ number).toList { job := some (job path) })

def ends (o : Outside) (number : String) : Event :=
  event o (.removed ("/jobs/" ++ number).toList [.job])

/-- Each drive is asked for on its own, and the tests overlap. -/
def overlapping : List Event :=
  [request two "A" "u", begins two "1" "/drives/A", request two "B" "v",
    begins two "2" "/drives/B", ends two "2", ends two "1"]

theorem overlapping_replay :
    (requests.replay MeetsAck (started two) overlapping).map (fun y => y.1.acks) =
      some [.ack (smartTest "B".toList) "Passed".toList "v".toList,
        .ack (smartTest "A".toList) "Passed".toList "u".toList] := by
  decide +kernel

theorem started_two : ((startUp two).run (initialState true false .empty)).1 = .ok ⟨⟩ := by
  decide +kernel

/-- A request for both drives and then one for the second are made while the tests run. -/
theorem requests_answered_overlapping :
    requests.Always Acknowledged (started two) overlapping ∧
      (requests.run (started two) overlapping).map (fun y => y.1.acks) =
        some [.ack (smartTest "B".toList) "Passed".toList "v".toList,
          .ack (smartTest "A".toList) "Passed".toList "u".toList] := by
  obtain ⟨y, replay, acks⟩ := Option.map_eq_some_iff.mp overlapping_replay
  have runs := requests.replay_eq_some_iff.mp replay
  refine ⟨requests_answered (started_init two started_two) runs, ?_⟩
  rw [requests.run_eq_some_iff.mpr (runs.mono fun _ _ _ => trivial), Option.map_some, acks]

/-- One request for both drives, and the job for drive A from its beginning to its end. -/
def together : List Event :=
  [request two "*" "u", begins two "1" "/drives/A", ends two "1"]

theorem together_acks : (requests.run (started two) together).map
    (fun y => (y.1.acks, y.2.due.length)) = some ([], 1) := by
  decide +kernel

/-- A request for two drives gets no answer when the test of the first one ends. -/
theorem first_not_answered : ¬ ∀ x actions y, requests.init x →
    requests.FreeRuns x actions y → Acknowledged y := by
  intro always
  obtain ⟨y, replay, found⟩ := Option.map_eq_some_iff.mp together_acks
  obtain ⟨acks, due⟩ := Prod.mk.inj found
  have same := (always _ _ y (started_init two started_two)
    (requests.run_eq_some_iff.mp replay)).length_eq
  rw [acks, due] at same
  cases same

end Example

end DiskMonitor

end Sspl

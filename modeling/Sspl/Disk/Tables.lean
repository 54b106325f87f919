import Sspl.Disk.Handler

/-!
# The tables of drives

What is wanted of the two tables is that their values are drives under their own serial
numbers, that no place has two drives, and that what is asked of all drives is answered
for all of them. `WellFormed` says the same of the entries one by one, and a message keeps
it exactly if the entry that it adds or changes fits in with the others.
-/

namespace Sspl

namespace Disk

open Iem (Text strip)
open NodeController (normalized)

/-- HPI has told where the drive is. -/
def Drive.HasHpi (d : Drive) : Prop := d.enclosure ≠ notAvailable

/-- The enclosure and the number of the drive are the same. -/
def Drive.SameSlot (d e : Drive) : Prop :=
  d.enclosure = e.enclosure ∧ int d.driveNum = int e.driveNum

/-- The message tells something of the drive with the serial number. -/
def Output.About (serialNumber : Option Text) : Output → Prop
  | .driveMngr msg => ∃ text, serialNumber = some text ∧ msg.serialNumber = normalized text
  | .hpiData msg => ∃ text, serialNumber = some text ∧ msg.serialNumber = normalized text
  | .ack ackType _ _ => ackType = "SMART_TEST: ".toList ++ str serialNumber
  | .resend _ => False

/-- A request succeeds and tells something of every drive in the table. -/
def Answers (request : Block) (table : Table) (s : State) : Prop :=
  ∃ t outputs, request.run s = (.ok ⟨⟩, t) ∧ t.sent = s.sent ++ outputs ∧
    ∀ k ∈ table.keys, ∃ output ∈ outputs, output.About k

/-- Serializing leaves out the drives of which HPI has no data. With `all` none may be left
out. -/
structure Consistent (conf : Config) (all : Prop) (s : State) : Prop where
  drvmngr : ∀ k v, s.drvmngrDrives.get? k = some v → ∃ d, v = some d ∧ d.serialNumber = k
  hpi : ∀ k v, s.hpiDrives.get? k = some v → ∃ d, v = some d ∧ d.serialNumber = k
  slots : ∀ k m d e, s.drvmngrDrives.get? k = some (some d) →
    s.drvmngrDrives.get? m = some (some e) → d.HasHpi → d.SameSlot e → k = m
  serialized : ∃ statuses, diskStatuses conf s.drvmngrDrives.values = .ok statuses ∧
    ∀ k d, s.drvmngrDrives.get? k = some (some d) → all ∨ d.HasHpi →
      ∃ status ∈ statuses, status.serialNumber = k
  smartTest : ∀ nodeRequest uuid,
    Answers (smartTestRequest conf star nodeRequest uuid) s.drvmngrDrives s
  drvmngrStatus : ∀ nodeRequest uuid,
    Answers (drvmngrStatusRequest conf star nodeRequest uuid) s.drvmngrDrives s
  hpiStatus : ∀ nodeRequest uuid,
    Answers (hpiStatusRequest conf star nodeRequest uuid) s.hpiDrives s

/-- A status that can be split, and a path. -/
def Complete (status pathId : Option Text) : Prop :=
  (∃ text, status = some text ∧ '_' ∈ text) ∧ pathId.isSome

/-- The drive can be sent as one of the drive manager. -/
structure Drive.Ready (d : Drive) : Prop where
  complete : Complete d.status d.pathId
  driveNum : ∃ n, int d.driveNum = .ok n
  serialNumber : d.serialNumber.isSome

/-- The drive can be sent as one of HPI. -/
structure Drive.HpiReady (d : Drive) : Prop where
  drawer : ∃ n, intOf d.drawer = .ok n
  location : ∃ n, intOf d.location = .ok n
  driveNum : ∃ n, int d.driveNum = .ok n
  eventPath : d.eventPath.isSome
  manufacturer : d.manufacturer.isSome
  productName : d.productName.isSome
  productVersion : d.productVersion.isSome
  serialNumber : d.serialNumber.isSome
  wwn : d.wwn.isSome
  diskInstalled : d.diskInstalled.isSome
  diskPowered : d.diskPowered.isSome

/-- The values are drives with this property. -/
def Table.All (P : Option Text → Drive → Prop) (table : Table) : Prop :=
  ∀ k v, table.get? k = some v → ∃ d, v = some d ∧ P k d

structure WellFormed (all : Prop) (drvmngrDrives hpiDrives : Table) : Prop where
  drvmngr : drvmngrDrives.All (fun k d => d.serialNumber = k ∧ d.Ready ∧ (all → d.HasHpi))
  hpi : hpiDrives.All (fun k d => d.serialNumber = k ∧ d.HpiReady)
  slots : ∀ k m d e, drvmngrDrives.get? k = some (some d) →
    drvmngrDrives.get? m = some (some e) → d.HasHpi → d.SameSlot e → k = m

section Messages

variable {d : Drive} {uuid : Option Text} {hostId : Text}

theorem required_eq_ok {α : Type} {value : Option α} {a : α} :
    required value = .ok a ↔ value = some a := by
  cases value <;> simp [required]

theorem notNone_eq_ok {α : Type} {value : Option α} {a : α} :
    notNone value = .ok a ↔ value = some a := by
  cases value <;> simp [notNone]

theorem statusReason_ok {status : Option Text} :
    (∃ parts, statusReason status = .ok parts) ↔ ∃ text, status = some text ∧ '_' ∈ text := by
  rw [statusReason]
  cases status with
  | none => simp [str]
  | some text => by_cases splits : '_' ∈ text <;> simp [str, splits]

theorem exists_bind_ok {α β : Type} {x : Except PyErr α} {rest : α → Except PyErr β} :
    (∃ b, (x >>= rest) = .ok b) ↔ ∃ a, x = .ok a ∧ ∃ b, rest a = .ok b := by
  simp only [bind_eq_ok]
  constructor
  · rintro ⟨b, a, run, done⟩
    exact ⟨a, run, b, done⟩
  · rintro ⟨a, run, b, done⟩
    exact ⟨b, a, run, done⟩

theorem exists_pure_ok {α : Type} (a : α) :
    (∃ b, (pure a : Except PyErr α) = .ok b) ↔ True :=
  iff_true_intro ⟨a, rfl⟩

theorem toDriveMngrJsonMsg_ok : (∃ msg, toDriveMngrJsonMsg d uuid = .ok msg) ↔ d.Ready := by
  simp only [toDriveMngrJsonMsg, exists_bind_ok, required_eq_ok, exists_pure_ok, and_true,
    exists_and_right, statusReason_ok, ← Option.isSome_iff_exists]
  constructor
  · rintro ⟨status, num, serial, path⟩
    exact ⟨⟨status, path⟩, num, serial⟩
  · rintro ⟨⟨status, path⟩, num, serial⟩
    exact ⟨status, num, serial, path⟩

theorem toDriveMngrJsonMsg_about {msg : DriveMngrMsg}
    (run : toDriveMngrJsonMsg d uuid = .ok msg) : (Output.driveMngr msg).About d.serialNumber := by
  obtain ⟨parts, -, run⟩ := bind_eq_ok.mp run
  obtain ⟨diskNum, -, run⟩ := bind_eq_ok.mp run
  obtain ⟨serialNumber, serial, run⟩ := bind_eq_ok.mp run
  obtain ⟨pathId, -, run⟩ := bind_eq_ok.mp run
  cases run
  exact ⟨serialNumber, required_eq_ok.mp serial, rfl⟩

theorem toHPIjsonMsg_ok : (∃ msg, toHPIjsonMsg hostId d uuid = .ok msg) ↔ d.HpiReady := by
  simp only [toHPIjsonMsg, exists_bind_ok, required_eq_ok, exists_pure_ok, and_true,
    exists_and_right, ← Option.isSome_iff_exists]
  constructor
  · rintro ⟨drawer, location, num, path, maker, product, version, serial, wwn, installed, powered⟩
    exact ⟨drawer, location, num, path, maker, product, version, serial, wwn, installed, powered⟩
  · rintro ⟨drawer, location, num, path, maker, product, version, serial, wwn, installed, powered⟩
    exact ⟨drawer, location, num, path, maker, product, version, serial, wwn, installed, powered⟩

theorem toHPIjsonMsg_about {msg : HPIDataMsg} (run : toHPIjsonMsg hostId d uuid = .ok msg) :
    (Output.hpiData msg).About d.serialNumber := by
  simp only [toHPIjsonMsg, bind_eq_ok, required_eq_ok] at run
  obtain ⟨_, -, _, -, _, -, _, -, _, -, _, -, _, -, serialNumber, serial, _, -, _, -, _, -, run⟩ :=
    run
  cases run
  exact ⟨serialNumber, serial, rfl⟩

end Messages

section Requests

variable {conf : Config} {table : State → Table} {message : Drive → Except PyErr Output}
  {s t : State}

theorem all_iff_values {P : Drive → Prop} {table : Table} :
    table.All (fun _ d => P d) ↔ ∀ v ∈ table.values, ∃ d, v = some d ∧ P d := by
  constructor
  · intro h v mem
    obtain ⟨item, listed, rfl⟩ := List.mem_map.mp mem
    exact h item.1 item.2 (Dict.mem_items.mp listed)
  · intro h k v found
    exact h v (List.mem_map.mpr ⟨_, Dict.mem_items.mpr found, rfl⟩)

theorem Table.All.mono {P Q : Option Text → Drive → Prop} {table : Table} (h : table.All P)
    (imp : ∀ k d, P k d → Q k d) : table.All Q := by
  intro k v found
  obtain ⟨d, rfl, property⟩ := h k v found
  exact ⟨d, rfl, imp k d property⟩

/-- Where every message can be made, they are sent one after the other. -/
theorem sendAll_run {values : List (Option Drive)}
    (ready : ∀ v ∈ values, ∃ d, v = some d ∧ ∃ output, message d = .ok output) (s : State) :
    ∃ outputs, (sendAll message values).run s = (.ok ⟨⟩, { s with sent := s.sent ++ outputs }) ∧
      ∀ d, some d ∈ values → ∃ output ∈ outputs, message d = .ok output := by
  induction values generalizing s with
  | nil => exact ⟨[], by simp [sendAll], by simp⟩
  | cons v rest ih =>
      obtain ⟨d, rfl, output, made⟩ := ready v List.mem_cons_self
      obtain ⟨outputs, run, about⟩ := ih (fun v mem => ready v (List.mem_cons_of_mem _ mem))
        { s with sent := s.sent ++ [output] }
      refine ⟨output :: outputs, ?_, ?_⟩
      · rw [sendAll, notNone_eq_ok.mpr rfl, Try.run_ofExcept_bind_ok, made,
          Try.run_ofExcept_bind_ok, Try.run_bind_of_ok (run_write output s), run]
        simp
      · intro e mem
        obtain same | mem := List.mem_cons.mp mem
        · cases same
          exact ⟨output, List.mem_cons_self, made⟩
        · obtain ⟨other, mem, made⟩ := about e mem
          exact ⟨other, List.mem_cons_of_mem _ mem, made⟩

theorem ready_of_sendAll {values : List (Option Drive)}
    (run : (sendAll message values).run s = (.ok ⟨⟩, t)) :
    ∀ v ∈ values, ∃ d, v = some d ∧ ∃ output, message d = .ok output := by
  induction values generalizing s with
  | nil => simp
  | cons v rest ih =>
      obtain ⟨d, _, found, run⟩ := Try.run_bind_eq_ok.mp run
      obtain ⟨output, _, made, run⟩ := Try.run_bind_eq_ok.mp run
      obtain ⟨_, _, -, run⟩ := Try.run_bind_eq_ok.mp run
      rw [Try.run_ofExcept, Prod.mk.injEq, notNone_eq_ok] at found
      rw [Try.run_ofExcept, Prod.mk.injEq] at made
      intro w mem
      obtain rfl | mem := List.mem_cons.mp mem
      · exact ⟨d, found.1, output, made.1⟩
      · exact ih run w mem

/-- A loop over the drives answers for all of them exactly if each has its message. -/
theorem sendAll_answers {drives : Table} (serials : drives.All (fun k d => d.serialNumber = k))
    (about : ∀ d output, message d = .ok output → output.About d.serialNumber) {rest : Block}
    (ends : ∀ s, ∃ outputs, rest.run s = (.ok ⟨⟩, { s with sent := s.sent ++ outputs })) :
    Answers (do sendAll message drives.values; rest) drives s ↔
      drives.All (fun _ d => ∃ output, message d = .ok output) := by
  constructor
  · rintro ⟨t, outputs, run, -, -⟩
    obtain ⟨⟨⟩, u, sent, -⟩ := Try.run_bind_eq_ok.mp run
    exact all_iff_values.mpr (ready_of_sendAll sent)
  · intro ready
    obtain ⟨outputs, sent, made⟩ := sendAll_run (all_iff_values.mp ready) s
    obtain ⟨more, ended⟩ := ends { s with sent := s.sent ++ outputs }
    refine ⟨_, outputs ++ more, Try.run_bind_eq_ok.mpr ⟨⟨⟩, _, sent, ended⟩, by simp, ?_⟩
    intro k mem
    obtain ⟨v, found⟩ := Dict.mem_keys.mp mem
    obtain ⟨d, rfl, rfl⟩ := serials k v found
    obtain ⟨output, mem, run⟩ := made d (List.mem_map.mpr ⟨_, Dict.mem_items.mpr found, rfl⟩)
    exact ⟨output, List.mem_append_left _ mem, about d output run⟩

theorem Answers.congr {first second : Block} {drives : Table} (same : first.run s = second.run s) :
    Answers first drives s ↔ Answers second drives s := by
  rw [Answers, Answers, same]

theorem statusRequest_answers {all one none_ : String} {nodeRequest : Text} {uuid : Option Text}
    (serials : (table s).All (fun k d => d.serialNumber = k))
    (about : ∀ d output, message d = .ok output → output.About d.serialNumber) :
    Answers (statusRequest conf table message all one none_ star nodeRequest uuid) (table s) s ↔
      (table s).All (fun _ d => ∃ output, message d = .ok output) := by
  refine Iff.trans (Answers.congr ?_) (sendAll_answers serials about (fun t => ⟨_, run_write
    (.ack (normalized nodeRequest) all.toList (uuid.map normalized)) t⟩))
  rw [statusRequest, Try.run_bind_of_ok (Try.run_get s), if_pos rfl]

theorem exists_map_ok {α β : Type} {x : Except PyErr α} {f : α → β} :
    (∃ b, f <$> x = .ok b) ↔ ∃ a, x = .ok a := by
  cases x <;> simp

theorem map_eq_ok {α β : Type} {x : Except PyErr α} {f : α → β} {b : β} :
    f <$> x = .ok b ↔ ∃ a, x = .ok a ∧ f a = b := by
  cases x <;> simp

theorem drvmngrStatusRequest_answers {nodeRequest : Text} {uuid : Option Text}
    (serials : s.drvmngrDrives.All (fun k d => d.serialNumber = k)) :
    Answers (drvmngrStatusRequest conf star nodeRequest uuid) s.drvmngrDrives s ↔
      s.drvmngrDrives.All (fun _ d => d.Ready) := by
  refine (statusRequest_answers serials ?_).trans ?_
  · intro d output made
    obtain ⟨msg, run, rfl⟩ := map_eq_ok.mp made
    exact toDriveMngrJsonMsg_about run
  · simp only [exists_map_ok, toDriveMngrJsonMsg_ok]

theorem hpiStatusRequest_answers {nodeRequest : Text} {uuid : Option Text}
    (serials : s.hpiDrives.All (fun k d => d.serialNumber = k)) :
    Answers (hpiStatusRequest conf star nodeRequest uuid) s.hpiDrives s ↔
      s.hpiDrives.All (fun _ d => d.HpiReady) := by
  refine (statusRequest_answers serials ?_).trans ?_
  · intro d output made
    obtain ⟨msg, run, rfl⟩ := map_eq_ok.mp made
    exact toHPIjsonMsg_about run
  · simp only [exists_map_ok, toHPIjsonMsg_ok]

theorem smartResult_ok {d : Drive} : (∃ result, smartResult conf d = .ok result) ↔
    d.status.isSome := by
  simp only [smartResult, exists_bind_ok, notNone_eq_ok, exists_pure_ok, and_true,
    Option.isSome_iff_exists]

theorem run_bind_pure (block : Block) (s : State) :
    (do block; pure ⟨⟩ : Block).run s = block.run s := by
  cases ended : block.run s with
  | mk result t =>
      cases result with
      | ok value => rw [Try.run_bind_of_ok ended, Try.run_pure]
      | error err => rw [Try.run_bind_of_error ended]

theorem smartTestRequest_answers {nodeRequest : Text} {uuid : Option Text}
    (serials : s.drvmngrDrives.All (fun k d => d.serialNumber = k))
    (ready : s.drvmngrDrives.All (fun _ d => d.Ready)) :
    Answers (smartTestRequest conf star nodeRequest uuid) s.drvmngrDrives s := by
  let answer (d : Drive) : Except PyErr Output := do
    let response ← smartResult conf d
    return .ack ("SMART_TEST: ".toList ++ str d.serialNumber) response (uuid.map normalized)
  have about : ∀ d output, answer d = .ok output → output.About d.serialNumber := by
    intro d output made
    obtain ⟨response, -, made⟩ := bind_eq_ok.mp made
    cases made
    rfl
  have ends : ∀ t : State, ∃ outputs, (pure ⟨⟩ : Block).run t =
      (.ok ⟨⟩, { t with sent := t.sent ++ outputs }) := fun t => ⟨[], by simp⟩
  refine (Answers.congr ?_).mpr ((sendAll_answers serials about ends).mpr ?_)
  · rw [smartTestRequest, Try.run_bind_of_ok (Try.run_get s), if_pos rfl]
    exact (run_bind_pure _ s).symm
  · apply ready.mono
    intro k d isReady
    obtain ⟨text, status, -⟩ := isReady.complete.1
    simp only [answer, exists_bind_ok, exists_pure_ok, and_true]
    exact smartResult_ok.mpr (by simp [status])

theorem diskStatuses_skip {d : Drive} (unknown : ¬ d.HasHpi) (rest : List (Option Drive)) :
    diskStatuses conf (some d :: rest) = diskStatuses conf rest :=
  if_pos (not_not.mp unknown)

theorem diskStatuses_cons {d : Drive} (known : d.HasHpi) {rest : List (Option Drive)}
    {statuses : List DiskStatus} : diskStatuses conf (some d :: rest) = .ok statuses ↔
      ∃ parts others, statusReason d.status = .ok parts ∧ diskStatuses conf rest = .ok others ∧
        ⟨d.serialNumber, if conf.mentions "halon" parts.1 then "EMPTY".toList else parts.1,
          parts.2⟩ :: others = statuses := by
  refine (Iff.of_eq (congrArg (· = _) (if_neg known))).trans ?_
  simp only [bind_eq_ok, pure, Except.pure, Except.ok.injEq, exists_and_left]

/-- What is serialized is serialized for every drive that HPI has data of. -/
theorem diskStatuses_ok {values : List (Option Drive)}
    (ready : ∀ v ∈ values, ∃ d, v = some d ∧ d.Ready) :
    ∃ statuses, diskStatuses conf values = .ok statuses ∧ ∀ d, some d ∈ values → d.HasHpi →
      ∃ status ∈ statuses, status.serialNumber = d.serialNumber := by
  induction values with
  | nil => exact ⟨[], rfl, by simp⟩
  | cons v rest ih =>
      obtain ⟨d, rfl, isReady⟩ := ready v List.mem_cons_self
      obtain ⟨statuses, run, covered⟩ := ih (fun v mem => ready v (List.mem_cons_of_mem _ mem))
      by_cases known : d.HasHpi
      · obtain ⟨parts, split⟩ := statusReason_ok.mpr isReady.complete.1
        refine ⟨_, (diskStatuses_cons known).mpr ⟨parts, statuses, split, run, rfl⟩, ?_⟩
        intro e mem here
        obtain same | mem := List.mem_cons.mp mem
        · cases same
          exact ⟨_, List.mem_cons_self, rfl⟩
        · obtain ⟨status, listed, serial⟩ := covered e mem here
          exact ⟨status, List.mem_cons_of_mem _ listed, serial⟩
      · refine ⟨statuses, (diskStatuses_skip known rest).trans run, ?_⟩
        intro e mem here
        obtain same | mem := List.mem_cons.mp mem
        · cases same
          exact absurd here known
        · exact covered e mem here

/-- Whatever is serialized is of a drive that HPI has data of. -/
theorem mem_diskStatuses {values : List (Option Drive)} {statuses : List DiskStatus}
    (run : diskStatuses conf values = .ok statuses) {status : DiskStatus}
    (mem : status ∈ statuses) :
    ∃ d, some d ∈ values ∧ d.HasHpi ∧ d.serialNumber = status.serialNumber := by
  induction values generalizing statuses with
  | nil =>
      cases run
      cases mem
  | cons v rest ih =>
      cases v with
      | none => cases run
      | some d =>
          by_cases known : d.HasHpi
          · obtain ⟨parts, others, -, left, rfl⟩ := (diskStatuses_cons known).mp run
            obtain rfl | mem := List.mem_cons.mp mem
            · exact ⟨d, List.mem_cons_self, known, rfl⟩
            · obtain ⟨e, listed, property⟩ := ih left mem
              exact ⟨e, List.mem_cons_of_mem _ listed, property⟩
          · obtain ⟨e, listed, property⟩ := ih ((diskStatuses_skip known rest).symm.trans run) mem
            exact ⟨e, List.mem_cons_of_mem _ listed, property⟩

/-- The two ways to say that the tables are in order. -/
theorem wellFormed_iff_consistent {all : Prop} :
    WellFormed all s.drvmngrDrives s.hpiDrives ↔ Consistent conf all s := by
  constructor
  · rintro ⟨drvmngr, hpi, slots⟩
    have ready : s.drvmngrDrives.All (fun _ d => d.Ready) := drvmngr.mono (fun _ _ h => h.2.1)
    have serials : s.drvmngrDrives.All (fun k d => d.serialNumber = k) :=
      drvmngr.mono (fun _ _ h => h.1)
    have hpiSerials : s.hpiDrives.All (fun k d => d.serialNumber = k) := hpi.mono (fun _ _ h => h.1)
    obtain ⟨statuses, run, covered⟩ : ∃ statuses, diskStatuses conf _ = .ok statuses ∧ _ :=
      diskStatuses_ok (all_iff_values.mp ready)
    refine ⟨serials, hpiSerials, slots, ⟨statuses, run, ?_⟩, ?_, ?_, ?_⟩
    · intro k d found wanted
      obtain ⟨e, same, rfl, -, known⟩ := drvmngr k _ found
      cases same
      exact covered d (List.mem_map.mpr ⟨_, Dict.mem_items.mpr found, rfl⟩) (wanted.elim known id)
    · exact fun _ _ => smartTestRequest_answers serials ready
    · exact fun _ _ => (drvmngrStatusRequest_answers serials).mpr ready
    · exact fun _ _ => (hpiStatusRequest_answers hpiSerials).mpr (hpi.mono (fun _ _ h => h.2))
  · rintro ⟨serials, hpiSerials, slots, ⟨statuses, run, covered⟩, -, drvmngr, hpi⟩
    have ready := (drvmngrStatusRequest_answers serials).mp (drvmngr [] none)
    have hpiReady := (hpiStatusRequest_answers hpiSerials).mp (hpi [] none)
    refine ⟨?_, ?_, slots⟩
    · intro k v found
      obtain ⟨d, rfl, serial⟩ := serials k v found
      obtain ⟨_, same, isReady⟩ := ready k _ found
      cases same
      refine ⟨d, rfl, serial, isReady, fun wanted => ?_⟩
      obtain ⟨status, mem, here⟩ := covered k d found (.inl wanted)
      obtain ⟨e, listed, known, there⟩ := mem_diskStatuses run mem
      obtain ⟨item, item_, value⟩ := List.mem_map.mp listed
      have other : s.drvmngrDrives.get? item.1 = some (some e) := value ▸ Dict.mem_items.mp item_
      obtain ⟨_, same, key⟩ := serials item.1 _ other
      cases same
      -- the entry is found under the serial number it was serialized with
      rw [← key, there, here, found] at other
      cases other
      exact known
    · intro k v found
      obtain ⟨d, rfl, serial⟩ := hpiSerials k v found
      obtain ⟨_, same, isReady⟩ := hpiReady k _ found
      cases same
      exact ⟨d, rfl, serial, isReady⟩

end Requests

end Disk

end Sspl

import Sspl.Node.Usage

/-!
# What a call does

A call changes the file, the flag and the messages of one resource, and afterwards the file has
the flag of the handler. So a restart, which takes the flags from the files, changes nothing
that the next calls depend on.
-/

namespace Sspl

namespace Node

namespace Usage

variable {ρ : Type}

/-- A handler after a call: the file, the flag and the messages have changed, and the first two
for one resource only. -/
structure Changed (resource : Resource) (data : Persistent) (news : List Message)
    (s t : Handler) : Prop where
  files : t.files = Function.update s.files resource (some data)
  highUsage : t.highUsage = Function.update s.highUsage resource data.highUsage
  sent : t.sent = s.sent ++ news
  about : ∀ message ∈ news, message.resource = resource

section Outcome

variable [LinearOrder ρ] {m : Member ρ} {usage : ρ} {time : Int} {data data' : Persistent}
  {alerts : List AlertType} {s : Handler}

/-- The time that the high branch counts from. -/
def since (data : Persistent) (time : Int) : Int :=
  if data.usageTimeMap = -1 then time else data.usageTimeMap

/-- What a call can make of the file, and the alerts it raises. -/
inductive Outcome (m : Member ρ) (usage : ρ) (time : Int) (data : Persistent) :
    Persistent → List AlertType → Prop
  | fault (idle : data.highUsage = false) (high : m.threshold ≤ usage)
      (waited : m.waitThreshold ≤ time - since data time) :
      Outcome m usage time data ⟨true, time, 0⟩ [.fault]
  | waiting (idle : data.highUsage = false) (high : m.threshold ≤ usage)
      (early : ¬ m.waitThreshold ≤ time - since data time) (iterations : Int) :
      Outcome m usage time data ⟨false, since data time, iterations⟩ []
  | low (idle : data.highUsage = false) (below : usage < m.threshold) (iterations : Int) :
      Outcome m usage time data ⟨false, time, iterations⟩ []
  | held (outstanding : data.highUsage = true) (high : m.threshold ≤ usage) :
      Outcome m usage time data data []
  | counting (outstanding : data.highUsage = true) (below : usage < m.threshold)
      (more : data.faultResolvedIterations <
        iterationLimit m.waitThreshold m.transmitInterval) :
      Outcome m usage time data ⟨true, time, data.faultResolvedIterations + 1⟩ []
  | resolved (outstanding : data.highUsage = true) (below : usage < m.threshold)
      (enough : iterationLimit m.waitThreshold m.transmitInterval ≤
        data.faultResolvedIterations) :
      Outcome m usage time data ⟨false, -1, 0⟩ [.faultResolved]

/-- The high branch after the first time was noted, if there was none. -/
theorem noted_outcome {noted : Handler} {iterations : Int} (idle : data.highUsage = false)
    (high : m.threshold ≤ usage) (timed : noted.usageTimeMap m.resource = time)
    (changed : Changed m.resource ⟨false, since data time, iterations⟩ [] s noted) :
    ∃ data' news, Changed m.resource data' news s
      (if m.waitThreshold ≤ noted.usageTimeMap m.resource - since data time then
        (((noted.setHighUsage m.resource true).setIterations m.resource 0).send
          ⟨m.resource, .fault, m.faultEvent usage⟩).persistStateData m.resource
      else noted) ∧
      Outcome m usage time data data' (news.map Message.state) := by
  rw [timed]
  split
  · rename_i waited
    refine ⟨⟨true, time, 0⟩, [⟨m.resource, .fault, m.faultEvent usage⟩], ?_,
      .fault idle high waited⟩
    constructor
    · simp [changed.files, timed]
    · simp [changed.highUsage]
    · simp [changed.sent]
    · simp
  · rename_i early
    exact ⟨_, [], changed, .waiting idle high early iterations⟩

theorem raiseWhenDue_outcome (here : s.files m.resource = some data)
    (same : s.highUsage m.resource = data.highUsage) (idle : data.highUsage = false)
    (timed : s.usageTimeMap m.resource = time) (high : m.threshold ≤ usage) :
    ∃ data' news, Changed m.resource data' news s
      (raiseWhenDue m usage s time data.usageTimeMap) ∧
      Outcome m usage time data data' (news.map Message.state) := by
  have flag : Function.update s.highUsage m.resource false = s.highUsage := by
    rw [← idle, ← same, Function.update_eq_self]
  have changed : ∃ iterations, Changed m.resource ⟨false, since data time, iterations⟩ [] s
      (if data.usageTimeMap = -1 then s.persistStateData m.resource else s) := by
    split
    · rename_i fresh
      refine ⟨s.faultResolvedIterations m.resource, ?_, ?_, ?_, ?_⟩
      · simp [since, fresh, timed, same, idle]
      · simp [flag]
      · simp
      · simp
    · rename_i kept
      refine ⟨data.faultResolvedIterations, ?_, ?_, ?_, ?_⟩
      · rw [since, if_neg kept, ← idle]
        exact (Function.update_eq_self_iff.mpr here.symm).symm
      · exact flag.symm
      · simp
      · simp
  obtain ⟨iterations, changed⟩ := changed
  refine noted_outcome idle high ?_ changed
  split
  · exact timed
  · exact timed

theorem resolveWhenDue_outcome (same : s.highUsage m.resource = data.highUsage)
    (timed : s.usageTimeMap m.resource = time)
    (below : usage < m.threshold) :
    ∃ data' news, Changed m.resource data' news s
      (resolveWhenDue m usage s data.faultResolvedIterations) ∧
      Outcome m usage time data data' (news.map Message.state) := by
  rw [resolveWhenDue, same]
  split
  · rename_i idle
    refine ⟨⟨false, time, s.faultResolvedIterations m.resource⟩, [], ⟨?_, ?_, ?_, ?_⟩,
      .low idle below _⟩
    · simp [timed, same, idle]
    · simp [← idle, ← same]
    · simp
    · simp
  · rename_i outstanding
    have outstanding : data.highUsage = true := by simpa using outstanding
    split
    · rename_i more
      refine ⟨_, [], ⟨?_, ?_, ?_, ?_⟩, .counting outstanding below more⟩
      · simp [timed, same, outstanding]
      · simp [← outstanding, ← same]
      · simp
      · simp
    · rename_i enough
      refine ⟨_, [⟨m.resource, .faultResolved, m.faultResolvedEvent usage⟩], ⟨?_, ?_, ?_, ?_⟩,
        .resolved outstanding below (Int.not_lt.mp enough)⟩
      · simp
      · simp
      · simp
      · simp

theorem Changed.of_timed {resource : Resource} {news : List Message} {t : Handler}
    (h : Changed resource data news (s.setUsageTime resource time) t) :
    Changed resource data news s t :=
  ⟨h.files, h.highUsage, h.sent, h.about⟩

variable (usage time) in
/-- One call does one of six things. -/
theorem generate_outcome (here : s.files m.resource = some data)
    (same : s.highUsage m.resource = data.highUsage) :
    ∃ data' news, Changed m.resource data' news s (generate m usage s time) ∧
      Outcome m usage time data data' (news.map Message.state) := by
  have timed : (s.setUsageTime m.resource time).usageTimeMap m.resource = time := by simp
  simp only [generate, here, Option.map_some, Option.getD_some]
  by_cases below : usage < m.threshold
  · rw [if_pos below, if_neg (fun both => absurd both.1 (not_le.mpr below))]
    obtain ⟨data', news, changed, outcome⟩ := resolveWhenDue_outcome
      (s := s.setUsageTime m.resource time) same timed below
    exact ⟨data', news, changed.of_timed, outcome⟩
  · rw [if_neg below]
    have high := not_lt.mp below
    split
    · rename_i both
      have idle : data.highUsage = false := same ▸ both.2
      obtain ⟨data', news, changed, outcome⟩ := raiseWhenDue_outcome
        (s := s.setUsageTime m.resource time) here same idle timed high
      exact ⟨data', news, changed.of_timed, outcome⟩
    · rename_i both
      have outstanding : data.highUsage = true := by
        simpa [high, same] using both
      refine ⟨data, [], ⟨?_, ?_, ?_, ?_⟩, .held outstanding high⟩
      · simp [here]
      · simp [← same]
      · simp
      · simp

end Outcome

section Disk

variable [LinearOrder ρ] {c : Settings ρ} {usage : ρ} {data : Persistent} {s : Handler}

/-- What a call for the disk makes of the flag, and the alerts it raises. At the threshold both
halves of the method are entered. -/
inductive DiskOutcome (threshold usage : ρ) (high : Bool) : Bool → List AlertType → Prop
  | fault (idle : high = false) (above : threshold < usage) :
      DiskOutcome threshold usage high true [.fault]
  | both (idle : high = false) (same : usage = threshold) :
      DiskOutcome threshold usage high false [.fault, .faultResolved]
  | resolved (outstanding : high = true) (atMost : usage ≤ threshold) :
      DiskOutcome threshold usage high false [.faultResolved]
  | idle (idle : high = false) (below : usage < threshold) :
      DiskOutcome threshold usage high false []
  | held (outstanding : high = true) (above : threshold < usage) :
      DiskOutcome threshold usage high true []

theorem changed_untouched (here : s.files .disk = some data)
    (same : s.highUsage .disk = data.highUsage) : Changed .disk data [] s s :=
  ⟨(Function.update_eq_self_iff.mpr here.symm).symm,
    (Function.update_eq_self_iff.mpr same.symm).symm, by simp, by simp⟩

/-- What a call for the disk stores with the flag. -/
def diskKept (s : Handler) (flag : Bool) : Persistent :=
  ⟨flag, s.usageTimeMap .disk, s.faultResolvedIterations .disk⟩

variable (usage) in
theorem generateDiskSpaceAlert_idle (here : s.files .disk = some data)
    (same : s.highUsage .disk = data.highUsage) (idle : data.highUsage = false) :
    ∃ data' news, Changed .disk data' news s (generateDiskSpaceAlert usage s c) ∧
      DiskOutcome (c.threshold .disk) usage false data'.highUsage (news.map Message.state) := by
  rw [generateDiskSpaceAlert]
  have off : s.highUsage .disk = false := same.trans idle
  by_cases reached : c.threshold .disk ≤ usage
  · have enters : c.threshold .disk ≤ usage ∧ s.highUsage .disk = false := ⟨reached, off⟩
    rw [if_pos enters]
    by_cases atMost : usage ≤ c.threshold .disk
    · rw [if_pos ⟨atMost, by simp⟩]
      have outcome : DiskOutcome (c.threshold .disk) usage false false _ :=
        .both rfl (le_antisymm atMost reached)
      refine ⟨diskKept s false, [⟨.disk, .fault, diskFaultEvent usage c⟩,
        ⟨.disk, .faultResolved, diskFaultResolvedEvent usage c⟩], ⟨?_, ?_, ?_, ?_⟩, outcome⟩
      · simp [diskKept]
      · simp [diskKept]
      · simp
      · simp
    · rw [if_neg (fun both => atMost both.1)]
      refine ⟨diskKept s true, [⟨.disk, .fault, diskFaultEvent usage c⟩], ⟨?_, ?_, ?_, ?_⟩,
        .fault rfl (not_le.mp atMost)⟩
      · simp [diskKept]
      · simp [diskKept]
      · simp
      · simp
  · have stays : ¬ (c.threshold .disk ≤ usage ∧ s.highUsage .disk = false) :=
      fun both => reached both.1
    rw [if_neg stays, if_neg (by simp [off])]
    refine ⟨data, [], changed_untouched here same, ?_⟩
    rw [idle]
    exact .idle rfl (not_le.mp reached)

variable (usage) in
theorem generateDiskSpaceAlert_outstanding (here : s.files .disk = some data)
    (same : s.highUsage .disk = data.highUsage) (outstanding : data.highUsage = true) :
    ∃ data' news, Changed .disk data' news s (generateDiskSpaceAlert usage s c) ∧
      DiskOutcome (c.threshold .disk) usage true data'.highUsage (news.map Message.state) := by
  rw [generateDiskSpaceAlert]
  have on : s.highUsage .disk = true := same.trans outstanding
  have stays : ¬ (c.threshold .disk ≤ usage ∧ s.highUsage .disk = false) := by simp [on]
  rw [if_neg stays]
  by_cases atMost : usage ≤ c.threshold .disk
  · rw [if_pos ⟨atMost, on⟩]
    refine ⟨diskKept s false, [⟨.disk, .faultResolved, diskFaultResolvedEvent usage c⟩],
      ⟨?_, ?_, ?_, ?_⟩, .resolved rfl atMost⟩
    · simp [diskKept]
    · simp [diskKept]
    · simp
    · simp
  · rw [if_neg (fun both => atMost both.1)]
    refine ⟨data, [], changed_untouched here same, ?_⟩
    rw [outstanding]
    exact .held rfl (not_le.mp atMost)

variable (usage) in
theorem generateDiskSpaceAlert_outcome (here : s.files .disk = some data)
    (same : s.highUsage .disk = data.highUsage) :
    ∃ data' news, Changed .disk data' news s (generateDiskSpaceAlert usage s c) ∧
      DiskOutcome (c.threshold .disk) usage data.highUsage data'.highUsage
        (news.map Message.state) := by
  cases high : data.highUsage with
  | false => exact generateDiskSpaceAlert_idle usage here same high
  | true => exact generateDiskSpaceAlert_outstanding usage here same high

end Disk

/-- The file of every resource has the flag of the handler. -/
def Synced (s : Handler) : Prop :=
  ∀ resource, ∃ data, s.files resource = some data ∧ s.highUsage resource = data.highUsage

section Synced

variable {resource : Resource} {data : Persistent} {news : List Message} {s t : Handler}

theorem Changed.here (h : Changed resource data news s t) : t.files resource = some data := by
  rw [h.files, Function.update_self]

theorem Changed.other (h : Changed resource data news s t) {r : Resource} (other : r ≠ resource) :
    t.files r = s.files r := by
  rw [h.files, Function.update_of_ne other]

theorem Synced.changed (h : Synced s) (changed : Changed resource data news s t) : Synced t := by
  intro r
  rw [changed.files, changed.highUsage]
  by_cases same : r = resource
  · subst same
    exact ⟨data, by simp, by simp⟩
  · simpa [same] using h r

/-- Where all files exist, a new handler has the flags of the files. -/
theorem init_of_files (all : ∀ resource, ∃ data, s.files resource = some data) :
    Synced s.init ∧ s.init.files = s.files ∧ s.init.sent = s.sent := by
  obtain ⟨cpu, cpuHere⟩ := all .cpu
  obtain ⟨disk, diskHere⟩ := all .disk
  obtain ⟨memory, memoryHere⟩ := all .memory
  have read : s.init = { s with
      highUsage := Function.update (Function.update (Function.update s.highUsage .cpu
        cpu.highUsage) .disk disk.highUsage) .memory memory.highUsage } := by
    simp only [Handler.init, Handler.initFromPersistentCache, cpuHere, diskHere, memoryHere]
  rw [read]
  refine ⟨?_, rfl, rfl⟩
  rintro (_ | _ | _)
  · exact ⟨cpu, cpuHere, rfl⟩
  · exact ⟨disk, diskHere, rfl⟩
  · exact ⟨memory, memoryHere, rfl⟩

end Synced

theorem start_files (resource : Resource) :
    (start : State ρ).handler.files resource = some ⟨false, -1, 0⟩ := by
  cases resource <;> rfl

theorem start_synced : Synced (start : State ρ).handler := by
  intro resource
  exact ⟨_, start_files resource, by cases resource <;> rfl⟩

theorem restarted_handler {s : State ρ} (h : Synced s.handler) (newProcess : Bool) :
    Synced (restarted newProcess s).handler ∧
      (restarted newProcess s).handler.files = s.handler.files ∧
      (restarted newProcess s).handler.sent = s.handler.sent := by
  have all : ∀ resource, ∃ data, s.handler.files resource = some data := by
    intro resource
    obtain ⟨data, here, -⟩ := h resource
    exact ⟨data, here⟩
  cases newProcess with
  | false => exact init_of_files all
  | true => exact init_of_files (s := s.handler.newProcess) all

section Step

variable [LinearOrder ρ] {c : Settings ρ} {resource : Resource} {usage : ρ} {time : Nat}
  {s : State ρ} {data : Persistent} {news : List Message}

/-- The two resources whose alerts are damped. -/
def members (c : Settings ρ) : List (Member ρ) := [cpu c, memory c]

/-- A call that changes the handler so is recorded so. -/
theorem called_calls
    (changed : Changed resource data news s.handler (sampled c resource usage time s.handler)) :
    (called c resource usage time s).calls = Function.update s.calls resource
      (⟨usage, time, news.map Message.state, data.highUsage⟩ :: s.calls resource) := by
  simp [called, changed.sent, changed.highUsage]

variable (usage time) in
/-- The call of one of the two methods, as the file and the calls show it. -/
theorem called_member {m : Member ρ} (mem : m ∈ members c)
    (here : s.handler.files m.resource = some data)
    (same : s.handler.highUsage m.resource = data.highUsage) :
    ∃ data' news call, Changed m.resource data' news s.handler
        (called c m.resource usage time s).handler ∧
      (called c m.resource usage time s).calls =
        Function.update s.calls m.resource (call :: s.calls m.resource) ∧
      call.usage = usage ∧ Outcome m call.usage call.time data data' call.alerts := by
  obtain ⟨data', news, changed, outcome⟩ :=
    generate_outcome usage time here same
  have method : sampled c m.resource usage time s.handler = generate m usage s.handler time := by
    simp only [members, List.mem_cons, List.not_mem_nil, or_false] at mem
    obtain rfl | rfl := mem
    · rfl
    · rfl
  rw [← method] at changed
  exact ⟨data', news, _, changed, called_calls changed, rfl, outcome⟩

variable (usage time) in
/-- The call for the disk. -/
theorem called_disk (here : s.handler.files .disk = some data)
    (same : s.handler.highUsage .disk = data.highUsage) :
    ∃ data' news call, Changed .disk data' news s.handler
        (called c .disk usage time s).handler ∧
      (called c .disk usage time s).calls =
        Function.update s.calls .disk (call :: s.calls .disk) ∧
      call.usage = usage ∧ call.high = data'.highUsage ∧
      DiskOutcome (c.threshold .disk) call.usage data.highUsage call.high call.alerts := by
  obtain ⟨data', news, changed, outcome⟩ :=
    generateDiskSpaceAlert_outcome (c := c) usage here same
  exact ⟨data', news, _, changed, called_calls changed, rfl, rfl, outcome⟩

/-- Whatever the resource is, a call changes the handler for it alone. -/
theorem called_changed (h : Synced s.handler) (resource : Resource) (usage : ρ) (time : Nat) :
    ∃ data news call, Changed resource data news s.handler
        (called c resource usage time s).handler ∧
      (called c resource usage time s).calls =
        Function.update s.calls resource (call :: s.calls resource) := by
  obtain ⟨data, here, same⟩ := h resource
  cases resource with
  | cpu =>
      obtain ⟨data', news, call, changed, calls, -⟩ :=
        called_member usage time (.head _ : cpu c ∈ members c) here same
      exact ⟨data', news, call, changed, calls⟩
  | disk =>
      obtain ⟨data', news, call, changed, calls, -⟩ :=
        called_disk (c := c) usage time here same
      exact ⟨data', news, call, changed, calls⟩
  | memory =>
      obtain ⟨data', news, call, changed, calls, -⟩ :=
        called_member usage time (.tail _ (.head _) : memory c ∈ members c) here same
      exact ⟨data', news, call, changed, calls⟩

/-- Every call and every restart keeps the files and the flags in step. -/
theorem Synced.step {t : State ρ} {a : Action ρ} (h : Synced s.handler)
    (step : (system c).next s a = some t) : Synced t.handler := by
  cases a with
  | call resource usage time =>
      cases step
      obtain ⟨data, news, call, changed, -⟩ := called_changed h resource usage time
      exact h.changed changed
  | diskNotRead =>
      cases step
      exact h
  | restart newProcess =>
      cases step
      exact (restarted_handler h newProcess).1

/-- A step that is no call for the resource leaves its file and its calls. -/
theorem step_elsewhere {t : State ρ} {a : Action ρ} (h : Synced s.handler)
    (other : ∀ usage time, a ≠ .call resource usage time)
    (step : (system c).next s a = some t) :
    t.handler.files resource = s.handler.files resource ∧
      t.calls resource = s.calls resource := by
  cases a with
  | call called usage time =>
      cases step
      have different : resource ≠ called := by
        rintro rfl
        exact other usage time rfl
      obtain ⟨data, news, call, changed, calls⟩ := called_changed h called usage time
      rw [calls, Function.update_of_ne different]
      exact ⟨changed.other different, rfl⟩
  | diskNotRead =>
      cases step
      exact ⟨rfl, rfl⟩
  | restart newProcess =>
      cases step
      exact ⟨congrFun (restarted_handler h newProcess).2.1 resource, rfl⟩

end Step

end Usage

end Node

end Sspl

import Sspl.Threads.Queues

/-!
# Turning debug mode off in all modules

The module that reads the request writes to every queue. None of these messages is such a
request again, so that the writing comes to an end whatever the threads do, and the message
in the queue of a module turns persistence off there.
-/

namespace Sspl

namespace Threads

open Mailbox Transition

namespace Daemon

variable {d : Daemon}

theorem asksForAll_of_read {entry : Entry} {jsonMsg component : Json}
    (read : d.debugFields entry.1 = .ok (jsonMsg, .bool false, component))
    (named : component.isNone = false) : d.asksForAll entry = false := by
  simp only [asksForAll, checkDebug_ok read, named]
  by_cases all : component = .str "all" <;> simp [all, Json.isNone]

theorem debugFields_debugOff :
    d.debugFields debugOff = .ok (debugOff, .bool false, .str "all") := rfl

theorem debugFields_bounce : d.debugFields bounce = .ok (bounce, .null, .str "all") := rfl

/-- No message that is written for a request is a request. -/
theorem notifications_plain {reply : String × Entry} (mem : reply ∈ d.notifications) :
    d.asksForAll reply.2 = false := by
  rcases List.mem_append.mp mem with mem | mem
  · obtain ⟨name, -, rfl⟩ := List.mem_map.mp mem
    exact asksForAll_of_read debugFields_debugOff rfl
  · cases List.mem_singleton.mp mem
    simp only [asksForAll, checkDebug_ok debugFields_bounce]
    rfl

variable (d) in
/-- A request outweighs the messages that are written for it. -/
def weight (entry : Entry) : Nat :=
  if d.asksForAll entry then 2 * d.notifications.length + 1 else 1

theorem replies_weight (entry : Entry) :
    ((d.network.replies entry).map fun reply => d.weight reply.2 + 1).sum < d.weight entry := by
  simp only [network, weight]
  split
  · have each : ∀ reply ∈ d.notifications, d.weight reply.2 + 1 = 2 := by
      intro reply mem
      simp [weight, notifications_plain mem]
    have total : (d.notifications.map fun reply => d.weight reply.2 + 1).sum =
        2 * d.notifications.length := by
      rw [List.map_congr_left each]
      simp [Nat.mul_comm]
    simp only [weight] at total
    omega
  · simp

/-- What is still to be written is no request. -/
def OutgoingPlain (d : Daemon) (s : State) : Prop :=
  ∀ n, ∀ reply ∈ s.outgoing n, d.asksForAll reply.2 = false

theorem OutgoingPlain.step {s t : State} {a : Action String Entry Move}
    (now : d.OutgoingPlain s) (step : d.network.next s a = some t) : d.OutgoingPlain t := by
  cases a with
  | take party =>
      obtain ⟨-, -, entry, rest, -, rfl⟩ := Protocol.next_take step
      intro n reply mem
      by_cases own : n = party
      · subst own
        simp only [Protocol.taking, Function.update_self, network] at mem
        split at mem
        · exact notifications_plain mem
        · cases mem
      · simp only [Protocol.taking, Function.update_of_ne own] at mem
        exact now n reply mem
  | send party =>
      obtain ⟨receiver, entry, rest, front, rfl⟩ := Protocol.next_send step
      intro n reply mem
      rw [State.put_outgoing] at mem
      by_cases own : n = party
      · subst own
        simp only [Function.update_self] at mem
        exact now n reply (front ▸ List.mem_cons_of_mem _ mem)
      · simp only [Function.update_of_ne own] at mem
        exact now n reply mem
  | post receiver entry =>
      cases step
      intro n reply mem
      rw [State.put_outgoing] at mem
      exact now n reply mem
  | move party how =>
      cases step
      exact now

theorem weight_sum (entries : List Entry) : (entries.map d.weight).sum =
    entries.length + 2 * d.notifications.length * entries.countP d.asksForAll := by
  induction entries with
  | nil => rfl
  | cons entry rest ih =>
      rw [List.map_cons, List.sum_cons, ih, List.length_cons, List.countP_cons, weight]
      split
      · rw [Nat.mul_add]
        omega
      · simp only [Nat.add_zero]
        omega

/-- What is in the queues can set off so many reads and writes. -/
theorem load_eq {s : State} (plain : d.OutgoingPlain s) : d.network.load d.weight s =
    ∑ name ∈ d.msgQlist.toFinset, ((s.box name).length +
      2 * d.notifications.length * (s.box name).countP d.asksForAll +
      2 * (s.outgoing name).length) := by
  refine Finset.sum_congr rfl fun name _ => ?_
  have each : ∀ reply ∈ s.outgoing name, d.weight reply.2 + 1 = 2 := by
    intro reply mem
    simp [weight, plain name reply mem]
  rw [weight_sum, List.map_congr_left each]
  simp [Nat.mul_comm]

/-- Once the modules post nothing new, the queues fall silent: the reads and the writes they
set off are bounded by what is there, and where none is possible any more nothing is left. -/
theorem falls_silent {debug debugPersist : String → Bool} {s t : State}
    {before after : List (Action String Entry Move)}
    (reached : d.network.system.FreeRuns (start debug debugPersist) before s)
    (quiet : d.network.system.Runs (fun _ a => a.Internal) s after t) :
    after.length ≤ ∑ name ∈ d.msgQlist.toFinset, ((s.box name).length +
        2 * d.notifications.length * (s.box name).countP d.asksForAll +
        2 * (s.outgoing name).length) ∧
      ((∀ name, d.network.next t (.take name) = none ∧ d.network.next t (.send name) = none) →
        (∀ name, t.outgoing name = []) ∧ ∀ name ∈ d.msgQlist, t.box name = []) := by
  have accounted := Protocol.accounted reached (start_accounted debug debugPersist)
  have plain : d.OutgoingPlain s := by
    apply reached.invariant (fun _ _ _ now _ step => now.step step)
    intro n reply mem
    cases mem
  constructor
  · have bound := Protocol.silent replies_weight quiet accounted
    rw [← load_eq plain]
    omega
  · intro stuck
    obtain ⟨sent, empty⟩ := Protocol.drained stuck
    exact ⟨sent, fun name known => empty name (List.mem_toFinset.mpr known)⟩

variable (d) in
/-- The step does not turn persistence on in the module: it sets its own flag to nothing else
than `False`, and reads no message with `debug_enabled`. -/
def LeavesOff (name : String) (s : State) : Action String Entry Move → Prop
  | .take reader => reader = name → ∀ entry ∈ (s.box name).head?, d.enables entry = false
  | .move mover how => mover = name → how ≠ .setDebugPersist true
  | _ => True

theorem LeavesOff.keeps {name : String} {s t : State} {a : Action String Entry Move}
    (leaves : d.LeavesOff name s a) (step : d.network.next s a = some t)
    (off : (s.memory name).debugPersist = false) : (t.memory name).debugPersist = false := by
  cases a with
  | take reader =>
      obtain ⟨-, -, entry, rest, front, rfl⟩ := Protocol.next_take step
      by_cases own : name = reader
      · subst own
        have plain : d.enables entry = false := leaves rfl entry (by rw [front]; rfl)
        simpa [Protocol.taking, network] using flagged_debugPersist plain off
      · simpa [Protocol.taking, own] using off
  | send party =>
      obtain ⟨receiver, entry, rest, -, rfl⟩ := Protocol.next_send step
      simpa using off
  | post receiver entry =>
      cases step
      simpa using off
  | move mover how =>
      cases step
      by_cases own : name = mover
      · subst own
        have other : how ≠ .setDebugPersist true := leaves rfl
        cases how with
        | setDebug debug => simpa [network, Move.run] using off
        | setDebugPersist debugPersist =>
            cases debugPersist with
            | false => simp [network, Move.run, Module.setDebugPersist]
            | true => exact absurd rfl other
        | disableDebugIfPersistFalse => simpa [network, Move.run] using off
      · simpa [own] using off

/-- Reading the message for all modules turns persistence off. -/
theorem flagged_debugOff (m : Module) :
    (d.flagged (debugOff, none) m).debugPersist = false := by
  have examined := checkDebug_ok (debugFields_debugOff (d := d)) m
  simp only [flagged, examined]
  rfl

/-- After some module has read the request, every other module but the thread controller has
persistence off as soon as its queue has run empty, whatever the threads do in between, if
nothing has turned it on for that module since. -/
theorem off_everywhere {s u t : State} {after : List (Action String Entry Move)}
    {reader name : String} {request : Entry}
    (front : (s.box reader).head? = some request) (asks : d.asksForAll request = true)
    (read : d.network.system.next s (.take reader) = some u)
    (later : d.network.system.Runs (d.LeavesOff name) u after t)
    (known : name ∈ d.msgQlist) (other : name ≠ "ThreadController")
    (sent : ∀ k, (name, (debugOff, none)) ∉ t.outgoing k) (empty : t.box name = []) :
    (t.memory name).debugPersist = false := by
  obtain ⟨-, -, entry, rest, own, rfl⟩ := Protocol.next_take read
  rw [own] at front
  cases front
  have notified : (name, ((debugOff, none) : Entry)) ∈ d.notifications := by
    apply List.mem_append_left
    exact List.mem_map.mpr ⟨name, List.mem_filter.mpr ⟨known, by simpa using other⟩, rfl⟩
  have onItsWay : Protocol.Settling (d.network.taking s reader request rest) name
      (debugOff, none) (fun m => m.debugPersist = false) := by
    refine .inl ⟨reader, ?_⟩
    simpa [Protocol.taking, network, asks] using notified
  have kept : d.network.system.Runs (fun s a => ∀ t, d.network.next s a = some t →
      (s.memory name).debugPersist = false → (t.memory name).debugPersist = false)
      (d.network.taking s reader request rest) after t :=
    later.mono fun _ _ leaves _ step => leaves.keeps step
  apply Protocol.settles (List.mem_toFinset.mpr known) _ kept onItsWay sent empty
  intro m
  simpa [network] using flagged_debugOff m

namespace Example

/-- A daemon with two modules beside the thread controller. -/
def daemon : Daemon where
  msgQlist := ["IngressProcessor", "DiskMsgHandler", "ThreadController"]
  loads _ := .error .valueError

def request : Entry :=
  (.dict (.cons "sspl_ll_debug" (.dict (.cons "debug_enabled" (.bool false) .nil)) .nil), none)

/-- Debug mode is persistent in all modules. -/
def begun : State := start (fun _ => true) (fun _ => true)

/-- The request is written and read, its notification is read, and the queue is empty. -/
def methods : List Piece :=
  [.writeInternalMsgQ "IngressProcessor" request.1 request.2, .readMyMsgQ "IngressProcessor",
    .readMyMsgQNoWait "DiskMsgHandler", .readMyMsgQNoWait "DiskMsgHandler"]

def served : State := (daemon.pieces.run begun methods).get (by decide +kernel)

def posted : List (Action String Entry Move) := [.post "IngressProcessor" request]

def asked : State :=
  (daemon.network.system.run begun posted).get (by decide +kernel)

theorem run_asked : daemon.network.system.FreeRuns begun posted asked :=
  daemon.network.system.run_eq_some_iff.mp (Option.some_get _).symm

def heard : State :=
  (daemon.network.system.next asked (.take "IngressProcessor")).get (by decide +kernel)

/-- The reader of the request writes to the three queues. -/
def sends : List (Action String Entry Move) := List.replicate 3 (.send "IngressProcessor")

def notified : State := (daemon.network.system.run heard sends).get (by decide +kernel)

theorem run_notified : daemon.network.system.FreeRuns heard sends notified :=
  daemon.network.system.run_eq_some_iff.mp (Option.some_get _).symm

def switched : State :=
  (daemon.network.system.next notified (.take "DiskMsgHandler")).get (by decide +kernel)

/-- The ingress processor reads the request and writes its notifications. -/
theorem falls_silent_notified : (.take "IngressProcessor" :: sends).length ≤
      ∑ name ∈ daemon.msgQlist.toFinset, ((asked.box name).length +
        2 * daemon.notifications.length * (asked.box name).countP daemon.asksForAll +
        2 * (asked.outgoing name).length) :=
  (falls_silent run_asked
    ((System.Runs.cons trivial (Option.some_get _).symm run_notified).of_forall_mem (by
      intro a mem s
      rcases List.mem_cons.mp mem with rfl | mem
      · trivial
      · rw [List.eq_of_mem_replicate mem]
        trivial))).1

/-- The disk handler reads the notification and turns its persistence off. -/
theorem off_everywhere_switched : (switched.memory "DiskMsgHandler").debugPersist = false := by
  have front : (asked.box "IngressProcessor").head? = some request := by decide +kernel
  have asks : daemon.asksForAll request = true := by decide +kernel
  have sent : daemon.network.system.Runs (daemon.LeavesOff "DiskMsgHandler") heard sends
      notified := by
    apply run_notified.of_forall_mem
    intro a mem s
    rw [List.eq_of_mem_replicate mem]
    trivial
  have taken : daemon.network.system.Runs (daemon.LeavesOff "DiskMsgHandler") notified
      [.take "DiskMsgHandler"] switched :=
    .single (fun _ => by decide +kernel) (Option.some_get _).symm
  have known : "DiskMsgHandler" ∈ daemon.msgQlist := by decide
  have other : "DiskMsgHandler" ≠ "ThreadController" := by decide
  have empty : switched.box "DiskMsgHandler" = [] := by decide +kernel
  have left : ∀ k, ("DiskMsgHandler", (debugOff, none)) ∉ switched.outgoing k := by
    intro k
    have whole : daemon.network.system.FreeRuns begun
        (posted ++ .take "IngressProcessor" :: (sends ++ [.take "DiskMsgHandler"])) switched :=
      run_asked.append (.cons trivial (Option.some_get _).symm
        (run_notified.append (.single trivial (Option.some_get _).symm)))
    have accounted := Protocol.accounted whole (start_accounted _ _)
    have parties : ∀ k ∈ daemon.msgQlist,
        ("DiskMsgHandler", (debugOff, none)) ∉ switched.outgoing k := by decide +kernel
    by_cases party : k ∈ daemon.msgQlist
    · exact parties k party
    · rw [accounted.outgoing k fun mem => party (List.mem_toFinset.mp mem)]
      exact List.not_mem_nil
  exact off_everywhere front asks (Option.some_get _).symm (sent.append taken) known other left
    empty

end Example

end Daemon

end Threads

end Sspl

import Sspl.Store.Overlap

/-!
# When the shared store queue loses nothing

Two overlapping puts lose a message. In every run of undisturbed steps no message
is lost, for any number of producers, any calls they make and any order of the
accesses of all threads.
-/

namespace Sspl

namespace Sharing

variable {ι Text : Type} [DecidableEq ι] {conf : QueueConf (Ticketed Text)}
  {s t : State ι Text} {thread : Thread ι}

theorem moves_update {new : State ι Text} {pc : Pc (Ticketed Text)}
    (h : new.threads = Function.update s.threads thread pc) : Moves s new thread pc := by
  constructor
  · rw [h, Function.update_self]
  · intro u ne
    rw [h, Function.update_of_ne ne]

/-- A quiet access that neither enters nor leaves a critical part of the code. -/
theorem State.Invariant.plain (inv : s.Invariant) {old pc : Pc (Ticketed Text)}
    (at_pc : s.threads thread = old) (size : Store (Ticketed Text) → Store (Ticketed Text))
    (head : (size s.store).head = s.store.head) (tail : (size s.store).tail = s.store.tail)
    (messages : (size s.store).messages = s.store.messages)
    (facts : s.FactsAt old → s.FactsAt pc) (role : old.ofProducer → pc.ofProducer)
    (window : pc.window = old.window) (stored : pc.stored = old.stored)
    (advancing : pc.advancing = old.advancing) (resetting : pc.resetting → old.resetting) :
    { s.goTo thread pc with store := size s.store }.Invariant :=
  inv.quiet at_pc (moves_update rfl) head tail messages rfl facts (.inr role)
    (fun h => .inl (window ▸ h)) (fun h => stored ▸ h) (fun h => advancing ▸ h)
    (fun h => .inl (resetting h)) (fun _ _ => .inl)

theorem State.Invariant.access_get (inv : s.Invariant) {pc : GetPc}
    (at_pc : s.threads thread = .get pc) (h : next conf s (.access thread) = some t) :
    t.Invariant := by
  cases pc
  all_goals
    simp only [next, at_pc, Pc.access, State.record, Option.some.injEq] at h
    subst h
  case head =>
    exact inv.plain at_pc id rfl rfl rfl (fun facts => ⟨rfl, facts⟩) id rfl rfl rfl id
  case item head =>
    refine inv.plain at_pc id rfl rfl rfl ?_ (fun role => by cases role) rfl rfl rfl
      (fun h => by cases h)
    rintro ⟨same, -⟩
    subst same
    cases found : s.store.messages s.store.head with
    | none => trivial
    | some item => exact found

theorem State.Invariant.access_put (inv : s.Invariant) {item : Ticketed Text} {pc : PutPc}
    (at_pc : s.threads thread = .put item pc) (guard : Undisturbed s (.access thread))
    (h : next conf s (.access thread) = some t) : t.Invariant := by
  cases pc
  case full =>
    by_cases full : conf.maxSize ≤ s.store.currentSize + conf.sizeOfText item
    · simp [next, at_pc, Pc.access, full] at h
    · simp only [next, at_pc, Pc.access, full, if_false, State.record, Option.some.injEq] at h
      subst h
      exact inv.plain at_pc id rfl rfl rfl id id rfl rfl rfl id
  all_goals
    simp only [next, at_pc, Pc.access, State.record, Option.some.injEq] at h
    subst h
  case slot =>
    simp only [Undisturbed, at_pc] at guard
    exact inv.quiet at_pc (moves_update rfl) rfl rfl rfl rfl (fun _ => rfl) (.inr id)
      (fun _ => .inr guard) (fun h => by cases h) id (fun h => by cases h) (fun _ _ => .inl)
  case message slot => exact inv.putMessage at_pc (moves_update rfl) rfl rfl rfl
  case tailRead slot =>
    refine inv.plain at_pc id rfl rfl rfl ?_ id rfl rfl rfl id
    rintro ⟨same, held⟩
    exact ⟨same, same.symm, held⟩
  case tailWrite slot tail => exact inv.setTail at_pc (moves_update rfl) rfl rfl rfl
  case sizeRead slot => exact inv.plain at_pc id rfl rfl rfl id id rfl rfl rfl id
  case sizeWrite slot size =>
    exact inv.plain at_pc (Store.setCurrentSize _) rfl rfl rfl id id rfl rfl rfl id
  case log slot =>
    refine inv.quiet at_pc (moves_update rfl) rfl rfl rfl rfl (fun _ => trivial)
      (.inr fun _ => rfl) (fun h => by cases h) (fun h => by cases h) (fun h => by cases h)
      (fun h => by cases h) ?_
    intro k m mem
    obtain same | mem := List.mem_cons.mp mem
    · cases same
      have facts := inv.facts thread
      rw [at_pc] at facts
      exact .inr facts
    · exact .inl mem

theorem State.Invariant.access_delete (inv : s.Invariant) {sent : Ticketed Text}
    {pc : DeletePc (Ticketed Text)} (at_pc : s.threads thread = .delete sent pc)
    (h : next conf s (.access thread) = some t) : t.Invariant := by
  cases pc
  all_goals
    simp only [next, at_pc, Pc.access, State.record, Option.some.injEq] at h
    subst h
  case headOfItem | item => exact inv.plain at_pc id rfl rfl rfl id id rfl rfl rfl id
  case headOfKey | headRead =>
    exact inv.plain at_pc id rfl rfl rfl (fun facts => ⟨rfl, facts⟩) id rfl rfl rfl id
  case message item head => exact inv.deleteMessage at_pc (moves_update rfl) rfl rfl rfl
  case headWrite item head => exact inv.setHead_succ at_pc (moves_update rfl) rfl rfl rfl
  case sizeRead => exact inv.plain at_pc id rfl rfl rfl id id rfl rfl rfl id
  case sizeWrite =>
    exact inv.plain at_pc (Store.setCurrentSize _) rfl rfl rfl id (fun role => by cases role)
      rfl rfl rfl id

theorem State.Invariant.access_isEmpty (inv : s.Invariant)
    {purpose : Purpose (Ticketed Text)} {pc : EmptyPc}
    (at_pc : s.threads thread = .isEmpty purpose pc) (guard : Undisturbed s (.access thread))
    (h : next conf s (.access thread) = some t) : t.Invariant := by
  have ordered := inv.ordered
  cases pc
  all_goals
    simp only [next, at_pc, Pc.access, State.record, Option.some.injEq] at h
    subst h
  case tail =>
    refine inv.plain at_pc id rfl rfl rfl ?_ (fun role => by cases purpose <;> trivial)
      rfl rfl rfl id
    cases purpose
    case get => exact fun _ => by simp only [State.FactsAt, Pc.Facts]; omega
    case delete => exact fun held => ⟨held, by omega⟩
    all_goals exact fun _ => trivial
  case head tail =>
    simp only [Undisturbed, at_pc] at guard
    by_cases same : tail = s.store.head
    · obtain ⟨now, nobody⟩ := guard same
      rw [if_pos same]
      refine inv.quiet at_pc (moves_update rfl) rfl rfl rfl rfl ?_
        (.inr fun role => by cases purpose <;> trivial) (fun h => by cases h) (fun h => by cases h)
        (fun h => by cases h) (fun _ => .inr ⟨by omega, nobody⟩) (fun _ _ => .inl)
      cases purpose
      case delete => exact fun facts => (inv.not_drained facts.1 (by omega) nobody).elim
      all_goals exact fun _ => trivial
    · rw [if_neg same]
      cases purpose
      case get =>
        refine inv.plain at_pc id rfl rfl rfl ?_ id rfl rfl rfl id
        exact fun facts => facts.resolve_left same
      case delete =>
        refine inv.plain at_pc id rfl rfl rfl ?_ id rfl rfl rfl id
        exact fun facts => ⟨facts.1, facts.2.resolve_left same⟩
      case alone => exact inv.plain at_pc id rfl rfl rfl (fun _ => trivial) id rfl rfl rfl id
      case check | loop =>
        exact inv.plain at_pc id rfl rfl rfl (fun _ => trivial) id rfl rfl rfl id
  case resetHead => exact inv.setHead_zero at_pc (moves_update rfl) rfl rfl rfl
  case resetTail => exact inv.setTail_zero at_pc (moves_update rfl) rfl rfl rfl
  case resetSize =>
    cases purpose
    case delete => 
      have facts := inv.facts thread
      rw [at_pc] at facts
      exact facts.elim
    all_goals
      exact inv.plain at_pc (Store.setCurrentSize 0) rfl rfl rfl (fun _ => trivial)
        (fun role => by first | rfl | cases role) rfl rfl rfl (fun h => by cases h)

/-- One undisturbed step keeps the invariant. -/
theorem State.Invariant.next (inv : s.Invariant) (action : Action ι Text)
    (guard : Undisturbed s action) (h : next conf s action = some t) : t.Invariant := by
  cases action with
  | access thread =>
      cases at_pc : s.threads thread with
      | idle => simp [Sharing.next, at_pc, Pc.access] at h
      | inHand item => simp [Sharing.next, at_pc, Pc.access] at h
      | get pc => exact inv.access_get at_pc h
      | put item pc => exact inv.access_put at_pc guard h
      | isEmpty purpose pc => exact inv.access_isEmpty at_pc guard h
      | delete sent pc => exact inv.access_delete at_pc h
  | beginPut i text =>
      cases at_pc : s.threads (.producer i) <;> simp only [Sharing.next, at_pc] at h <;> cases h
      exact inv.quiet at_pc (moves_update rfl) rfl rfl rfl rfl (fun _ => trivial) (.inr id)
        (fun h => by cases h) (fun h => by cases h) (fun h => by cases h)
        (fun h => by cases h) (fun _ _ => .inl)
  | beginIsEmpty i =>
      cases at_pc : s.threads (.producer i) <;> simp only [Sharing.next, at_pc] at h <;> cases h
      exact inv.plain at_pc id rfl rfl rfl (fun _ => trivial) id rfl rfl rfl id
  | beginRun =>
      cases at_pc : s.threads .drain <;> simp only [Sharing.next, at_pc] at h <;> cases h
      exact inv.quiet at_pc (moves_update rfl) rfl rfl rfl rfl (fun _ => trivial) (.inl rfl)
        (fun h => by cases h) (fun h => by cases h) (fun h => by cases h)
        (fun h => by cases h) (fun _ _ => .inl)
  | handle outcome =>
      cases at_pc : s.threads .drain
      case inHand item =>
        cases item <;> cases outcome <;> simp only [Sharing.next, at_pc] at h <;> cases h
        case some.sent item =>
          exact inv.plain at_pc id rfl rfl rfl id (fun role => by cases role) rfl rfl rfl id
        all_goals
          exact inv.plain at_pc id rfl rfl rfl (fun _ => trivial) (fun role => by cases role)
            rfl rfl rfl id
      all_goals simp [Sharing.next, at_pc] at h

/-- No message is lost in a run of undisturbed steps, whatever the interleaving of the producers
and the drain. A put is disturbed by another one between the choice of its slot and its write of
the tail; the drain by a tail that moves under its check for emptiness. -/
theorem noLoss_of_undisturbed (conf : QueueConf (Ticketed Text)) {s t : State ι Text}
    {actions : List (Action ι Text)} (start : s.Initial)
    (run : (system conf).Runs Undisturbed s actions t) : t.NoLoss :=
  (run.invariant (I := State.Invariant) (fun _ action _ inv guard step =>
    inv.next action guard step) (State.Invariant.of_initial start)).noLoss

/-- Two producers and the draining thread, over a queue just created. -/
def fresh : State Bool Nat where
  store := ((StoreQueue.init : Atomic.Call (Store (Ticketed Nat)) Unit).run Store.empty).2
  threads := fun _ => .idle
  nextTicket := 0
  returned := []
  deletions := []

theorem fresh_initial : fresh.Initial :=
  ⟨fun _ => rfl, ⟨[], StoreQueue.init_empty, List.nodup_nil, fun _ mem => by cases mem⟩,
    fun _ _ mem => (by cases mem), rfl⟩

def roomyConf : QueueConf (Ticketed Nat) := ⟨50000000, fun _ => 60, fun _ => 44, 900⟩

/-- Both producers choose slot 0 before either has moved the tail. -/
def overlappingPuts : List (Action Bool Nat) :=
  [Action.beginPut false 7, .beginPut true 8,
    .access (.producer false), .access (.producer true),
    .access (.producer false), .access (.producer true)] ++
  List.replicate 6 (Action.access (.producer false)) ++
  List.replicate 6 (Action.access (.producer true))

def afterOverlap : State Bool Nat :=
  ((system roomyConf).run fresh overlappingPuts).getD fresh

/-- Two overlapping puts return and only one of their messages is in the store. -/
theorem overlappingPuts_lose :
    ¬ ∀ (s t : State Bool Nat) (actions : List (Action Bool Nat)),
      s.Initial → (system roomyConf).FreeRuns s actions t → t.NoLoss := by
  intro always
  have run : (system roomyConf).run fresh overlappingPuts = some afterOverlap := rfl
  have noLoss := always _ _ _ fresh_initial ((system roomyConf).run_eq_some_iff.mp run)
  have first : ((0, (0, 7)) : Nat × Ticketed Nat) ∈ afterOverlap.returned := by decide
  obtain ⟨sent, mem⟩ | ⟨held, -⟩ := noLoss.kept 0 (0, 7) first
  · have none : afterOverlap.deletions = [] := rfl
    rw [none] at mem
    cases mem
  · have other : afterOverlap.store.messages 0 = some (1, 8) := rfl
    rw [other] at held
    cases held

instance (p : Thread Bool → Prop) [DecidablePred p] : Decidable (∀ thread, p thread) :=
  decidable_of_iff (p .drain ∧ ∀ i, p (.producer i))
    ⟨fun all thread => thread.casesOn all.2 all.1, fun all => ⟨all _, fun _ => all _⟩⟩

instance (s : State Bool Nat) : ∀ action, Decidable (Undisturbed s action)
  | .access thread => by
    delta Undisturbed
    dsimp only
    generalize s.threads thread = pc
    cases pc with
    | put item pc => cases pc <;> infer_instance
    | isEmpty purpose pc => cases pc <;> infer_instance
    | _ => infer_instance
  | .beginPut .. | .beginIsEmpty .. | .beginRun | .handle .. => .isTrue trivial

/-- A put returns. While a second one is under way, its message is sent and deleted, and that of
the second one is next. -/
def putsAndDrain : List (Action Bool Nat) :=
  let turn := [Action.access .drain, .access .drain, .access (.producer true)]
  Action.beginPut false 7 :: List.replicate 8 (Action.access (.producer false)) ++
    [Action.beginRun, .beginPut true 8] ++ (List.replicate 4 turn).flatten ++
    [Action.handle .sent] ++ (List.replicate 4 turn).flatten ++
    List.replicate 8 (Action.access .drain) ++ [Action.handle .stop]

/-- A put returns, and a second one is made while the drain begins. -/
theorem noLoss_putsAndDrain :
    ∃ t, (system roomyConf).run fresh putsAndDrain = some t ∧
      t.returned = [(1, (1, 8)), (0, (0, 7))] ∧ t.deletions = [((0, 7), some (0, 7))] ∧
      t.NoLoss := by
  have run : (system roomyConf).Runs Undisturbed fresh putsAndDrain _ :=
    (system roomyConf).replay_eq_some_iff.mp (by rfl)
  exact ⟨_, (system roomyConf).run_eq_some_iff.mpr (run.mono fun _ _ _ => trivial), rfl, rfl,
    noLoss_of_undisturbed roomyConf fresh_initial run⟩

end Sharing

end Sspl

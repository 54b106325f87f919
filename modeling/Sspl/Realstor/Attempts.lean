import Sspl.Realstor.WebService
import Mathlib.Data.List.Count

/-!
# The attempts of a request

The exchanges of a call of `ws_request` are its attempts, some followed by a login. `At` says what
the local variables stand for at the head of the loop: they are determined by the exchanges so
far. Every request of a call is sent from such a point (`exists_point`).
-/

namespace Sspl

namespace WebService

open Iem (Text)

/-- An answer with `P` was followed by a login. -/
inductive LoggedInAfter (P : Response → Prop) : List Exchange → Prop
  | here {q : Request} {r : Response} {url : Text} {answer : Option Response}
      {rest : List Exchange} (holds : P r) :
      LoggedInAfter P (.request q (some r) :: .login url answer :: rest)
  | later {e : Exchange} {rest : List Exchange} (h : LoggedInAfter P rest) :
      LoggedInAfter P (e :: rest)

/-- An answer with `P` was received. -/
def Met (P : Response → Prop) (events : List Exchange) : Prop :=
  ∃ q r, Exchange.request q (some r) ∈ events ∧ P r

def Exchange.isRequest : Exchange → Bool
  | request _ _ => true
  | login _ _ => false

def requests (events : List Exchange) : Nat := events.countP Exchange.isRequest

/-- The answer says that the session is invalid. -/
def Stale (r : Response) : Prop :=
  r.statusCode = some httpForbidden ∨
    r.statusCode = some httpOk ∧ namesInvalidSession r.content = .ok true

section

variable {P : Response → Prop} {done rest : List Exchange} {q : Request}
  {answer : Option Response} {r : Response} {url : Text} {reply : Option Response}

theorem LoggedInAfter.append_right (h : LoggedInAfter P done) :
    LoggedInAfter P (done ++ rest) := by
  induction h with
  | here holds => exact .here holds
  | later _ ih => exact .later ih

theorem LoggedInAfter.append_left (h : LoggedInAfter P rest) :
    LoggedInAfter P (done ++ rest) := by
  induction done with
  | nil => exact h
  | cons e done ih => exact .later ih

theorem loggedInAfter_request :
    LoggedInAfter P (done ++ [.request q answer]) ↔ LoggedInAfter P done := by
  refine ⟨fun h => ?_, LoggedInAfter.append_right⟩
  induction done with
  | nil =>
      cases h with
      | later h => cases h
  | cons e done ih =>
      generalize whole : e :: done ++ [Exchange.request q answer] = events at h
      cases h with
      | here holds =>
          cases done with
          | nil => cases whole
          | cons f done =>
              cases whole
              exact .here holds
      | later h =>
          cases whole
          exact .later (ih h)

theorem loggedInAfter_login :
    LoggedInAfter P (done ++ [.request q (some r), .login url reply]) ↔
      LoggedInAfter P done ∨ P r := by
  constructor
  · intro h
    induction done with
    | nil =>
        cases h with
        | here holds => exact .inr holds
        | later h =>
            cases h with
            | later h => cases h
    | cons e done ih =>
        generalize whole : e :: done ++ [Exchange.request q (some r), .login url reply] =
          events at h
        cases h with
        | here holds =>
            cases done with
            | nil => cases whole
            | cons f done =>
                cases whole
                exact .inl (.here holds)
        | later h =>
            cases whole
            obtain h | h := ih h
            · exact .inl (.later h)
            · exact .inr h
  · rintro (h | h)
    · exact h.append_right
    · exact LoggedInAfter.append_left (.here h)

theorem met_request :
    Met P (done ++ [.request q answer]) ↔ Met P done ∨ ∃ r, answer = some r ∧ P r := by
  constructor
  · rintro ⟨q', r, mem, holds⟩
    obtain mem | mem := List.mem_append.mp mem
    · exact .inl ⟨q', r, mem, holds⟩
    · cases List.mem_singleton.mp mem
      exact .inr ⟨r, rfl, holds⟩
  · rintro (⟨q', r, mem, holds⟩ | ⟨r, rfl, holds⟩)
    · exact ⟨q', r, List.mem_append_left _ mem, holds⟩
    · exact ⟨q, r, List.mem_append_right _ List.mem_cons_self, holds⟩

theorem met_login :
    Met P (done ++ [.request q answer, .login url reply]) ↔
      Met P done ∨ ∃ r, answer = some r ∧ P r := by
  rw [← met_request (q := q)]
  constructor
  · rintro ⟨q', r, mem, holds⟩
    refine ⟨q', r, ?_, holds⟩
    simpa using mem
  · rintro ⟨q', r, mem, holds⟩
    refine ⟨q', r, ?_, holds⟩
    simpa using mem

/-- A login after another answer changes nothing. -/
theorem loggedInAfter_login_of_not (other : ¬ P r) :
    LoggedInAfter P (done ++ [.request q (some r), .login url reply]) ↔ LoggedInAfter P done :=
  loggedInAfter_login.trans (or_iff_left other)

theorem met_login_of_not (other : ¬ P r) :
    Met P (done ++ [.request q (some r), .login url reply]) ↔ Met P done := by
  refine met_login.trans (or_iff_left ?_)
  rintro ⟨r', h, holds⟩
  cases h
  exact other holds

@[simp] theorem requests_append (events rest : List Exchange) :
    requests (events ++ rest) = requests events + requests rest := List.countP_append

@[simp] theorem requests_request (events : List Exchange) :
    requests (.request q answer :: events) = requests events + 1 :=
  List.countP_cons_of_pos rfl

end

section

variable {config : Config} {answers : Answers} {s t : State} {l l' : Locals}
  {method postData : Text} {result : Except PyErr (Bool × Locals)}

/-- The exchange of an attempt. -/
def attempt (answers : Answers) (s : State) (method url postData : Text) : Exchange :=
  .request (requestOf s method url postData) (answers s.exchanges.length)

theorem turn_cases (need : l.needRelogin = false)
    (ran : (turn config answers method postData l).run s = (result, t)) :
    (∃ err, nextUrl config s l = .error err ∧ result = .error err ∧ t = s) ∨
      ∃ url, nextUrl config s l = .ok url ∧
        Considered config answers { l with url, response := answers s.exchanges.length }
          (s.exchange (attempt answers s method url postData)) (answers s.exchanges.length)
          result t := by
  cases next : nextUrl config s l with
  | error err =>
      rw [run_turn_of_error next] at ran
      cases ran
      exact .inl ⟨err, rfl, rfl, rfl⟩
  | ok url =>
      rw [run_turn_of_ok next] at ran
      have outcome := @considered config answers
        (s.exchange (attempt answers s method url postData))
        { l with url, response := answers s.exchanges.length } need (answers s.exchanges.length)
      rw [show (consider config answers { l with url, response := answers s.exchanges.length }
        (answers s.exchanges.length)).run (s.exchange (attempt answers s method url postData)) =
        (result, t) from ran] at outcome
      exact .inr ⟨url, rfl, outcome⟩

/-- A login, if anything, is added to the exchanges. -/
theorem Considered.exchanges {answer : Option Response}
    (h : Considered config answers l s answer result t) :
    ∃ tail, t.exchanges = s.exchanges ++ tail ∧
      (tail = [] ∨ ∃ url reply, tail = [.login url reply]) := by
  cases h with
  | unanswered => exact ⟨[], by simp, .inl rfl⟩
  | unreadable _ _ quiet => exact ⟨[], by simp [quiet.exchanges], .inl rfl⟩
  | accepted _ _ quiet => exact ⟨[], by simp [quiet.exchanges], .inl rfl⟩
  | renewed _ _ _ exchanges _ _ => exact ⟨_, exchanges, .inr ⟨_, _, rfl⟩⟩
  | notRenewed _ _ _ exchanges _ => exact ⟨_, exchanges, .inr ⟨_, _, rfl⟩⟩
  | switched _ _ _ _ exchanges _ => exact ⟨_, exchanges, .inr ⟨_, _, rfl⟩⟩
  | notSwitched _ _ _ _ exchanges _ => exact ⟨_, exchanges, .inr ⟨_, _, rfl⟩⟩
  | alone _ _ _ quiet => exact ⟨[], by simp [quiet.exchanges], .inl rfl⟩
  | returned _ _ _ quiet => exact ⟨[], by simp [quiet.exchanges], .inl rfl⟩

/-- The endpoint is one of the two. -/
def Config.Configured (config : Config) (e : Endpoint) : Prop :=
  e = config.primary ∨ e = config.secondary

theorem Config.Configured.alternative {e : Endpoint} (configured : config.Configured e) :
    config.Configured (config.alternative e) := by
  rw [Config.alternative]
  split
  · exact .inr rfl
  · split
    · exact .inl rfl
    · exact configured

/-- The endpoint stays, or a switch is made. -/
theorem Considered.active {answer : Option Response}
    (h : Considered config answers l s answer result t) :
    t.active = s.active ∨ t.active = config.alternative s.active := by
  cases h with
  | unanswered => exact .inl rfl
  | unreadable _ _ quiet => exact .inl quiet.active
  | accepted _ _ quiet => exact .inl quiet.active
  | renewed _ _ _ _ active _ => exact .inl active
  | notRenewed _ _ _ _ active => exact .inl active
  | switched _ _ _ _ _ active => exact .inr active
  | notSwitched _ _ _ _ _ active => exact .inr active
  | alone _ _ _ quiet => exact .inl quiet.active
  | returned _ _ _ quiet => exact .inl quiet.active

theorem Considered.configured {answer : Option Response} {e : Exchange}
    (h : Considered config answers l (s.exchange e) answer result t)
    (configured : config.Configured s.active) : config.Configured t.active := by
  obtain same | switched := h.active
  · rw [same]
    exact configured
  · rw [switched]
    exact configured.alternative

/-- The loop is at its head after the exchanges `done` of the call. -/
structure At (config : Config) (start : State) (url : Text) (retryCount : Nat)
    (done : List Exchange) (left : Nat) (l : Locals) (s : State) : Prop where
  exchanges : s.exchanges = start.exchanges ++ done
  count : left + requests done = retryCount
  need : l.needRelogin = false
  retried : l.retriedLogin = true ↔ LoggedInAfter Stale done
  tried : l.triedAltIp = true ↔ Met Unreachable done
  failedOver : ¬ config.Single → (l.triedAltIp = true ↔ LoggedInAfter Unreachable done)
  url : l.triedAltIp = false → l.url = url
  answered : ∀ r, l.response = some r → Stale r → LoggedInAfter Stale done
  active : config.Configured start.active → config.Configured s.active

variable {start : State} {url : Text} {retryCount left : Nat} {done : List Exchange}

theorem at_start : At config start url retryCount [] retryCount ⟨url, none, false, false, false⟩
    start where
  exchanges := (List.append_nil _).symm
  count := rfl
  need := rfl
  retried := by
    constructor
    · intro h
      cases h
    · intro h
      cases h
  tried := by
    constructor
    · intro h
      cases h
    · rintro ⟨_, _, h, _⟩
      cases h
  failedOver := by
    intro _
    constructor
    · intro h
      cases h
    · intro h
      cases h
  url := fun _ => rfl
  answered := by
    intro r h
    cases h
  active := id

theorem nextUrl_of_not_tried (fresh : l.triedAltIp = false) :
    nextUrl config s l = .ok l.url := by
  rw [nextUrl, if_neg (by simp [fresh])]

theorem not_stale_of_unreachable {r : Response} (unreachable : Unreachable r) : ¬ Stale r := by
  rintro (forbidden | ⟨ok, -⟩)
  · exact unreachable.ne.2 forbidden
  · exact unreachable.ne.1 ok

theorem not_unreachable_of_forbidden {r : Response}
    (forbidden : r.statusCode = some httpForbidden) :
    ¬ Unreachable r := fun unreachable => unreachable.ne.2 forbidden

/-- Where the loop goes round, it is at its head again. -/
theorem At.next {url' : Text} (here : At config start url retryCount done (left + 1) l s)
    (next : nextUrl config s l = .ok url')
    (considered : Considered config answers
      { l with url := url', response := answers s.exchanges.length }
      (s.exchange (attempt answers s method url' postData)) (answers s.exchanges.length)
      (.ok (true, l')) t) :
    ∃ tail, (tail = [] ∨ ∃ url reply, tail = [.login url reply]) ∧
      At config start url retryCount (done ++ attempt answers s method url' postData :: tail) left
        l' t := by
  have count : ∀ tail, requests tail = 0 →
      left + requests (done ++ attempt answers s method url' postData :: tail) = retryCount := by
    intro tail none_
    have before := here.count
    rw [requests_append, attempt, requests_request, none_]
    omega
  have same : l.triedAltIp = false → url' = url := by
    intro fresh
    rw [nextUrl_of_not_tried fresh] at next
    cases next
    exact here.url fresh
  have active (configured : config.Configured start.active) : config.Configured t.active :=
    considered.configured (here.active configured)
  generalize answer : answers s.exchanges.length = a at considered
  have sent : attempt answers s method url' postData =
      .request (requestOf s method url' postData) a := by rw [attempt, answer]
  rw [sent] at considered count
  rw [sent]
  cases considered with
  | unanswered =>
      refine ⟨[], .inl rfl, ⟨?_, count [] rfl, here.need, ?_, ?_, ?_, same, by simp, active⟩⟩
      · rw [exchanges_exchange, here.exchanges, List.append_assoc]
      · exact here.retried.trans loggedInAfter_request.symm
      · rw [met_request]
        exact here.tried.trans (by simp)
      · intro two
        exact (here.failedOver two).trans loggedInAfter_request.symm
  | @renewed r _ _ forbidden fresh read exchanges _ sessionKey =>
      have reached := not_unreachable_of_forbidden forbidden
      refine ⟨[loginExchange config answers
        (s.exchange (.request (requestOf s method url' postData) (some r)))], .inr ⟨_, _, rfl⟩,
        ⟨?_, count _ rfl, rfl, ?_, ?_, ?_, same, ?_, active⟩⟩
      · rw [exchanges, exchanges_exchange, here.exchanges, List.append_assoc, List.append_assoc]
        rfl
      · exact iff_of_true rfl (loggedInAfter_login.mpr (.inr (.inl forbidden)))
      · exact here.tried.trans (met_login_of_not reached).symm
      · intro two
        exact (here.failedOver two).trans (loggedInAfter_login_of_not reached).symm
      · intro r' h stale
        cases h
        exact loggedInAfter_login.mpr (.inr stale)
  | @switched r _ _ unreachable fresh two read exchanges _ =>
      have valid := not_stale_of_unreachable unreachable
      refine ⟨[loginExchange config answers ((s.exchange
        (.request (requestOf s method url' postData) (some r))).switch config)],
        .inr ⟨_, _, rfl⟩, ⟨?_, count _ rfl, here.need, ?_, ?_, ?_, by simp, ?_, active⟩⟩
      · rw [exchanges, exchanges_exchange, here.exchanges, List.append_assoc, List.append_assoc]
        rfl
      · exact here.retried.trans (loggedInAfter_login_of_not valid).symm
      · exact iff_of_true rfl (met_login.mpr (.inr ⟨r, rfl, unreachable⟩))
      · intro _
        exact iff_of_true rfl (loggedInAfter_login.mpr (.inr unreachable))
      · intro r' h stale
        cases h
        exact absurd stale valid
  | @alone r _ unreachable fresh single quiet =>
      have valid := not_stale_of_unreachable unreachable
      refine ⟨[], .inl rfl, ⟨?_, count [] rfl, here.need, ?_, ?_, ?_, by simp, ?_, active⟩⟩
      · rw [quiet.exchanges, exchanges_exchange, here.exchanges, List.append_assoc]
      · exact here.retried.trans loggedInAfter_request.symm
      · exact iff_of_true rfl (met_request.mpr (.inr ⟨r, rfl, unreachable⟩))
      · intro two
        exact absurd single two
      · intro r' h stale
        cases h
        exact absurd stale valid

/-- What follows a turn that ends so: another one, or the end of the loop with `last` in `u`. -/
inductive Onward (config : Config) (answers : Answers) (method postData : Text) (left : Nat)
    (last : Except PyErr (Option Response)) (u : State) :
    Except PyErr (Bool × Locals) → State → Prop
  | again {l : Locals} {t : State}
      (later : (loop config answers method postData left l).run t = (last, u)) :
      Onward config answers method postData left last u (.ok (true, l)) t
  | returned {l : Locals} {t : State} (response : last = .ok l.response) (ended : u = t) :
      Onward config answers method postData left last u (.ok (false, l)) t
  | raised {err : PyErr} {t : State} (failed : last = .error err) (ended : u = t) :
      Onward config answers method postData left last u (.error err) t

theorem run_loop_succ {last : Except PyErr (Option Response)} {u : State}
    (ran : (loop config answers method postData (left + 1) l).run s = (last, u)) :
    ∃ result t, (turn config answers method postData l).run s = (result, t) ∧
      Onward config answers method postData left last u result t := by
  rw [loop] at ran
  cases turned : (turn config answers method postData l).run s with
  | mk result t =>
      refine ⟨result, t, rfl, ?_⟩
      cases result with
      | error err =>
          rw [Try.run_bind_of_error turned] at ran
          cases ran
          exact .raised rfl rfl
      | ok value =>
          obtain ⟨again, l'⟩ := value
          rw [Try.run_bind_of_ok turned] at ran
          cases again with
          | true => exact .again ran
          | false =>
              cases ran
              exact .returned rfl rfl

variable {last : Except PyErr (Option Response)} {u : State} {events before after : List Exchange}
  {q : Request} {answer : Option Response}

theorem prefix_turn (need : l.needRelogin = false)
    (ran : (turn config answers method postData l).run s = (result, t)) :
    s.exchanges <+: t.exchanges := by
  obtain ⟨err, -, rfl, rfl⟩ | ⟨url, -, considered⟩ := turn_cases need ran
  · exact List.prefix_rfl
  · obtain ⟨tail, exchanges, -⟩ := considered.exchanges
    rw [exchanges, exchanges_exchange, List.append_assoc]
    exact List.prefix_append _ _

/-- Where the loop goes round, it is at its head again. -/
theorem At.turn (here : At config start url retryCount done (left + 1) l s)
    (ran : (turn config answers method postData l).run s = (.ok (true, l'), t)) :
    ∃ done', At config start url retryCount done' left l' t := by
  obtain ⟨err, -, h, -⟩ | ⟨url', next, considered⟩ := turn_cases here.need ran
  · cases h
  · obtain ⟨tail, -, there⟩ := here.next next considered
    exact ⟨_, there⟩

/-- The exchanges grow. -/
theorem prefix_loop (here : At config start url retryCount done left l s)
    (ran : (loop config answers method postData left l).run s = (last, u)) :
    s.exchanges <+: u.exchanges := by
  induction left generalizing done l s with
  | zero =>
      cases ran
      exact List.prefix_rfl
  | succ left ih =>
      obtain ⟨result, t, turned, rest⟩ := run_loop_succ ran
      have front := prefix_turn here.need turned
      cases rest with
      | again later =>
          obtain ⟨done', there⟩ := here.turn turned
          exact front.trans (ih there later)
      | returned _ ended =>
          rw [ended]
          exact front
      | raised _ ended =>
          rw [ended]
          exact front

theorem At.prefix_onward {result : Except PyErr (Bool × Locals)}
    (here : At config start url retryCount done (left + 1) l s)
    (turned : (WebService.turn config answers method postData l).run s = (result, t))
    (rest : Onward config answers method postData left last u result t) :
    t.exchanges <+: u.exchanges := by
  cases rest with
  | again later =>
      obtain ⟨done', there⟩ := here.turn turned
      exact prefix_loop there later
  | returned _ ended =>
      rw [ended]
  | raised _ ended =>
      rw [ended]

/-- A request that is still to come is not among the exchanges so far. -/
theorem At.length_lt {e : Exchange} (here : At config start url retryCount done left l s)
    (exchanges : s.exchanges = start.exchanges ++ (before ++ e :: after)) :
    before.length < done.length := by
  have length := congrArg List.length
    (List.append_cancel_left (here.exchanges.symm.trans exchanges))
  rw [List.length_append, List.length_cons] at length
  omega

/-- A request after the first exchange of a turn is one of a later turn. -/
theorem length_le_of_request {e : Exchange} {tail : List Exchange}
    (form : tail = [] ∨ ∃ url reply, tail = [.login url reply])
    (front : done ++ e :: tail <+: before ++ .request q answer :: after)
    (lt : done.length < before.length) : (done ++ e :: tail).length ≤ before.length := by
  obtain rfl | ⟨url, reply, rfl⟩ := form
  · rw [List.length_append]
    exact lt
  · by_contra short
    have length : (done ++ [e]).length = before.length := by
      rw [List.length_append] at short ⊢
      simp only [List.length_cons, List.length_nil] at short ⊢
      omega
    obtain ⟨more, same⟩ := front
    have split : (done ++ [e]) ++ (.login url reply :: more) =
        before ++ .request q answer :: after := by
      rw [← same]
      simp
    obtain ⟨-, clash⟩ := List.append_inj split length
    cases clash

/-- Every request of a call is sent from the head of the loop. -/
theorem exists_point (here : At config start url retryCount done left l s)
    (ran : (loop config answers method postData left l).run s = (last, u))
    (exchanges : u.exchanges = start.exchanges ++ (before ++ .request q answer :: after))
    (later : done.length ≤ before.length) :
    ∃ left' l' s', At config start url retryCount before (left' + 1) l' s' ∧
      (loop config answers method postData (left' + 1) l').run s' = (last, u) := by
  induction left generalizing done l s with
  | zero =>
      cases ran
      have more := here.length_lt exchanges
      omega
  | succ left ih =>
      obtain equal | lt := Nat.eq_or_lt_of_le later
      · have front := prefix_loop here ran
        rw [here.exchanges, exchanges, List.prefix_append_right_inj] at front
        have same : done = before :=
          (List.prefix_of_prefix_length_le front (List.prefix_append before _)
            equal.le).eq_of_length equal
        subst same
        exact ⟨left, l, s, here, ran⟩
      · obtain ⟨result, t, turned, rest⟩ := run_loop_succ ran
        obtain ⟨err, -, rfl, rfl⟩ | ⟨url', next, considered⟩ := turn_cases here.need turned
        · cases rest with
          | raised _ ended =>
              subst ended
              have more := here.length_lt exchanges
              omega
        · obtain ⟨tail, added, form⟩ := considered.exchanges
          have whole : t.exchanges = start.exchanges ++
              (done ++ attempt answers s method url' postData :: tail) := by
            rw [added, exchanges_exchange, here.exchanges]
            simp
          have front := here.prefix_onward turned rest
          rw [whole, exchanges, List.prefix_append_right_inj] at front
          have short := length_le_of_request form front lt
          have last_ (ended : u = t) : False := by
            have equal := List.append_cancel_left (whole.symm.trans (ended ▸ exchanges))
            rw [equal, List.length_append, List.length_cons] at short
            omega
          cases rest with
          | again ran =>
              obtain ⟨tail', -, there⟩ := here.next next considered
              have same := List.append_cancel_left (there.exchanges.symm.trans whole)
              exact ih there ran (same ▸ short)
          | returned _ ended => exact (last_ ended).elim
          | raised _ ended => exact (last_ ended).elim

/-- What comes of a request that is sent from the head of the loop. -/
theorem At.sent (here : At config start url retryCount before (left + 1) l s)
    (ran : (loop config answers method postData (left + 1) l).run s = (last, u))
    (exchanges : u.exchanges = start.exchanges ++ (before ++ .request q answer :: after)) :
    ∃ url' result t, nextUrl config s l = .ok url' ∧ q = requestOf s method url' postData ∧
      answers s.exchanges.length = answer ∧
      Considered config answers { l with url := url', response := answer }
        (s.exchange (.request q answer)) answer result t ∧
      (∀ l', result = .ok (true, l') →
        At config start url retryCount (t.exchanges.drop start.exchanges.length) left l' t) ∧
      Onward config answers method postData left last u result t := by
  obtain ⟨result, t, turned, rest⟩ := run_loop_succ ran
  obtain ⟨err, -, rfl, rfl⟩ | ⟨url', next, considered⟩ := turn_cases here.need turned
  · cases rest with
    | raised _ ended =>
        subst ended
        exact absurd (here.length_lt exchanges) (lt_irrefl _)
  · have front := here.prefix_onward turned rest
    obtain ⟨tail, added, -⟩ := considered.exchanges
    have sent : attempt answers s method url' postData = .request q answer := by
      rw [added, exchanges_exchange, here.exchanges, exchanges, List.append_assoc,
        List.append_assoc, List.prefix_append_right_inj, List.prefix_append_right_inj] at front
      obtain ⟨more, same⟩ := front
      exact (List.cons.inj same).1
    obtain ⟨request, reply⟩ := Exchange.request.inj sent
    rw [sent, reply] at considered
    refine ⟨url', result, t, next, request.symm, reply, considered, ?_, rest⟩
    rintro l' rfl
    obtain ⟨done', there⟩ := here.turn turned
    rw [there.exchanges, List.drop_left]
    exact there

/-- What follows a request, from what was added in its turn. -/
theorem At.after_eq (tail more : List Exchange)
    (here : At config start url retryCount before (left + 1) l s)
    (exchanges : u.exchanges = start.exchanges ++ (before ++ .request q answer :: after))
    (added : t.exchanges = (s.exchange (.request q answer)).exchanges ++ tail)
    (whole : u.exchanges = t.exchanges ++ more) : after = tail ++ more := by
  rw [whole, added, exchanges_exchange, here.exchanges, List.append_assoc, List.append_assoc,
    List.append_assoc] at exchanges
  have same := List.append_cancel_left (List.append_cancel_left exchanges)
  exact (List.cons.inj same).2.symm

/-- The loop goes on with a request, if the URL can be built. -/
theorem At.goes_on (here : At config start url retryCount done (left + 1) l s)
    (ran : (loop config answers method postData (left + 1) l).run s = (last, u)) :
    (∃ err, nextUrl config s l = .error err ∧ u = s) ∨
      ∃ url' more, nextUrl config s l = .ok url' ∧
        u.exchanges = s.exchanges ++ attempt answers s method url' postData :: more := by
  obtain ⟨result, t, turned, rest⟩ := run_loop_succ ran
  obtain ⟨err, next, rfl, rfl⟩ | ⟨url', next, considered⟩ := turn_cases here.need turned
  · cases rest with
    | raised _ ended => exact .inl ⟨err, next, ended⟩
  · obtain ⟨more, whole⟩ := here.prefix_onward turned rest
    obtain ⟨tail, added, -⟩ := considered.exchanges
    refine .inr ⟨url', tail ++ more, next, ?_⟩
    rw [← whole, added, exchanges_exchange, List.append_assoc, List.append_assoc]
    rfl

/-- After the loop the active endpoint is one of the two, if it was before. -/
theorem At.configured (here : At config start url retryCount done left l s)
    (ran : (loop config answers method postData left l).run s = (last, u))
    (configured : config.Configured start.active) : config.Configured u.active := by
  induction left generalizing done l s with
  | zero =>
      cases ran
      exact here.active configured
  | succ left ih =>
      obtain ⟨result, t, turned, rest⟩ := run_loop_succ ran
      have after : config.Configured t.active := by
        obtain ⟨err, -, rfl, rfl⟩ | ⟨url', -, considered⟩ := turn_cases here.need turned
        · exact here.active configured
        · exact considered.configured (here.active configured)
      cases rest with
      | again later =>
          obtain ⟨done', there⟩ := here.turn turned
          exact ih there later
      | returned _ ended =>
          rw [ended]
          exact after
      | raised _ ended =>
          rw [ended]
          exact after

/-- A turn adds at most one request. -/
theorem At.requests_turn {result : Except PyErr (Bool × Locals)}
    (here : At config start url retryCount done (left + 1) l s)
    (turned : (WebService.turn config answers method postData l).run s = (result, t)) :
    requests (t.exchanges.drop start.exchanges.length) ≤ retryCount := by
  have count := here.count
  obtain ⟨err, -, rfl, rfl⟩ | ⟨url', -, considered⟩ := turn_cases here.need turned
  · rw [here.exchanges, List.drop_left]
    omega
  · obtain ⟨tail, added, form⟩ := considered.exchanges
    have login : requests tail = 0 := by
      obtain rfl | ⟨_, _, rfl⟩ := form
      · rfl
      · rfl
    rw [added, exchanges_exchange, here.exchanges, List.append_assoc, List.append_assoc,
      List.drop_left, requests_append, List.singleton_append, attempt, requests_request, login]
    omega

/-- A loop sends no more requests than there are turns left. -/
theorem At.requests_le (here : At config start url retryCount done left l s)
    (ran : (loop config answers method postData left l).run s = (last, u)) :
    requests (u.exchanges.drop start.exchanges.length) ≤ retryCount := by
  induction left generalizing done l s with
  | zero =>
      cases ran
      rw [here.exchanges, List.drop_left]
      have count := here.count
      omega
  | succ left ih =>
      obtain ⟨result, t, turned, rest⟩ := run_loop_succ ran
      have most := here.requests_turn turned
      cases rest with
      | again later =>
          obtain ⟨done', there⟩ := here.turn turned
          exact ih there later
      | returned _ ended =>
          rw [ended]
          exact most
      | raised _ ended =>
          rw [ended]
          exact most

end

/-- The arguments of a call of `ws_request`. -/
structure Call where
  url : Text
  method : Text
  retryCount : Nat
  postData : Text

section

variable (config : Config) (answers : Answers)

def Call.run (call : Call) (s : State) : Except PyErr (Option Response) × State :=
  (wsRequest config answers call.url call.method call.retryCount call.postData).run s

/-- The exchanges of a call. -/
def Call.events (call : Call) (s : State) : List Exchange :=
  (call.run config answers s).2.exchanges.drop s.exchanges.length

end

section

variable {config : Config} {answers : Answers} {s : State} {call : Call}
  {before after : List Exchange} {q : Request} {answer : Option Response}

theorem exchanges_run : (call.run config answers s).2.exchanges =
    s.exchanges ++ call.events config answers s := by
  cases ran : call.run config answers s with
  | mk last u =>
      obtain ⟨more, same⟩ := prefix_loop at_start ran
      rw [Call.events, ran, ← same, List.drop_left]

/-- Every request of a call is sent from the head of its loop. -/
theorem point_of_split
    (split : call.events config answers s = before ++ .request q answer :: after) :
    ∃ left l t, At config s call.url call.retryCount before (left + 1) l t ∧
      (loop config answers call.method call.postData (left + 1) l).run t =
        call.run config answers s :=
  exists_point at_start rfl (exchanges_run.trans (by rw [split])) (Nat.zero_le _)

end

end WebService

end Sspl

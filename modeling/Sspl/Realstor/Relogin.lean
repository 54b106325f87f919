import Sspl.Realstor.Attempts

/-!
# The login after a refused session

A request whose answer says that the session is invalid should be repeated after one login. This
holds for HTTP 403, if the login does not raise an exception. An answer with HTTP 200 that names
an invalid session key sets `need_relogin` and leaves the loop, so that nothing reads the flag.
-/

namespace Sspl

namespace WebService

open Iem (Text findFrom)

/-- After the request comes one login, and the request again with the session key that the login
gave. -/
def Repeated (before : List Exchange) (q : Request) (after : List Exchange) : Prop :=
  ∃ url reply result q' answer rest,
    after = .login url reply :: .request q' answer :: rest ∧ readLogin reply = .ok result ∧
      q'.sessionKey = newKey q.sessionKey result ∧ q'.method = q.method ∧
      q'.postData = q.postData ∧ (¬ Met Unreachable before → q'.url = q.url)

/-- The call ends after at most `retryCount` requests; a stale session is renewed once, the request
is made again then, and no answer to a stale session is returned without a login. -/
structure Relogs (config : Config) (answers : Answers) (s : State) (call : Call) : Prop where
  bounded : requests (call.events config answers s) ≤ call.retryCount
  repeated : ∀ before q r after,
    call.events config answers s = before ++ .request q (some r) :: after → Stale r →
    requests before + 1 < call.retryCount → ¬ LoggedInAfter Stale before →
    Repeated before q after
  once : ∀ before q r url reply after, call.events config answers s =
    before ++ .request q (some r) :: .login url reply :: after → Stale r →
    ¬ LoggedInAfter Stale before
  returned : ∀ r, (call.run config answers s).1 = .ok (some r) → Stale r →
    LoggedInAfter Stale (call.events config answers s)

/-- No answer with HTTP 200 names an invalid session key before a login for a refused session, and
the login after an answer with HTTP 403 raises no exception, nor does the URL for the attempt
after it. -/
structure Renewable (config : Config) (answers : Answers) (s : State) (call : Call) : Prop where
  accepted : ∀ before q r after,
    call.events config answers s = before ++ .request q (some r) :: after →
    r.statusCode = some httpOk → namesInvalidSession r.content = .ok true →
    LoggedInAfter Stale before
  refused : ∀ before q r after,
    call.events config answers s = before ++ .request q (some r) :: after →
    r.statusCode = some httpForbidden → requests before + 1 < call.retryCount →
    ¬ LoggedInAfter Stale before →
    (∃ result, readLogin (answers (s.exchanges.length + before.length + 1)) = .ok result) ∧
      (Met Unreachable before → "/api/".toList <:+: q.url)

theorem isSome_findFrom {word text : Text} : (findFrom word text).isSome ↔ word <:+: text := by
  induction text with
  | nil =>
      rw [findFrom, List.infix_nil]
      split <;> simp [*]
  | cons c rest ih =>
      rw [findFrom, List.infix_cons_iff]
      split
      · rename_i front
        exact iff_of_true rfl (.inl front)
      · rename_i other
        exact ih.trans (by simp [other])

theorem resourceOf_ok_iff {url : Text} :
    (∃ uri, resourceOf url = .ok uri) ↔ "/api/".toList <:+: url := by
  rw [resourceOf, ← isSome_findFrom]
  cases findFrom "/api/".toList url with
  | some api => exact iff_of_true ⟨_, rfl⟩ rfl
  | none =>
      refine iff_of_false ?_ (by simp)
      rintro ⟨uri, h⟩
      cases h

section

variable {config : Config} {answers : Answers} {start s t u : State} {l : Locals}
  {url method postData : Text} {retryCount left : Nat} {done before after : List Exchange}
  {q : Request} {answer : Option Response} {r : Response}
  {last : Except PyErr (Option Response)}

theorem nextUrl_ok_iff :
    (∃ url, nextUrl config s l = .ok url) ↔ (l.triedAltIp = true → "/api/".toList <:+: l.url) := by
  rw [nextUrl, ← resourceOf_ok_iff]
  cases l.triedAltIp with
  | false => simp
  | true =>
      rw [if_pos rfl]
      cases resourceOf l.url with
      | error err => simp [Except.map]
      | ok uri => simp [Except.map]

theorem Stale.names (stale : Stale r) (ok : r.statusCode = some httpOk) :
    namesInvalidSession r.content = .ok true := by
  obtain forbidden | ⟨-, names⟩ := stale
  · rw [ok] at forbidden
    cases forbidden
  · exact names

theorem Stale.forbidden (stale : Stale r) (notOk : r.statusCode ≠ some httpOk) :
    r.statusCode = some httpForbidden := by
  obtain forbidden | ⟨ok, -⟩ := stale
  · exact forbidden
  · exact absurd ok notOk

/-- An answer with HTTP 200 that names an invalid session key is returned. -/
theorem At.accepted (here : At config start url retryCount before (left + 1) l s)
    (ran : (loop config answers method postData (left + 1) l).run s = (last, u))
    (exchanges : u.exchanges = start.exchanges ++ (before ++ .request q (some r) :: after))
    (ok : r.statusCode = some httpOk) (names : namesInvalidSession r.content = .ok true) :
    last = .ok (some r) ∧ after = [] := by
  obtain ⟨url', result, t, next, request, reply, considered, -, rest⟩ := here.sent ran exchanges
  have other (forbidden : r.statusCode = some httpForbidden) : False := by
    rw [ok] at forbidden
    cases forbidden
  cases considered with
  | unreadable _ read _ =>
      rw [names] at read
      cases read
  | accepted _ _ quiet =>
      cases rest with
      | returned response ended =>
          exact ⟨response, At.after_eq [] [] here exchanges
            (by rw [quiet.exchanges, List.append_nil]) (by rw [ended, List.append_nil])⟩
  | renewed forbidden _ _ _ _ _ => exact (other forbidden).elim
  | notRenewed forbidden _ _ _ _ => exact (other forbidden).elim
  | switched unreachable _ _ _ _ _ => exact absurd ok unreachable.ne.1
  | notSwitched unreachable _ _ _ _ _ => exact absurd ok unreachable.ne.1
  | alone unreachable _ _ _ => exact absurd ok unreachable.ne.1
  | returned notOk _ _ _ => exact absurd ok notOk

/-- After a login that ends, the request is repeated if its URL can be built. -/
theorem repeated_iff_of_login {result : LoginResult} {l' : Locals}
    (here : At config start url retryCount before (left + 1 + 1) l s)
    (exchanges : u.exchanges = start.exchanges ++ (before ++ .request q (some r) :: after))
    (method_ : q.method = method) (postData_ : q.postData = postData)
    (read : readLogin (answers (s.exchange (.request q (some r))).exchanges.length) = .ok result)
    (added : t.exchanges = (s.exchange (.request q (some r))).exchanges ++
      [loginExchange config answers (s.exchange (.request q (some r)))])
    (sessionKey : t.sessionKey = newKey q.sessionKey result)
    (there : At config start url retryCount done (left + 1) l' t)
    (later : (loop config answers method postData (left + 1) l').run t = (last, u))
    (tried : l'.triedAltIp = true ↔ Met Unreachable before) (same : l'.url = q.url) :
    Repeated before q after ↔ (Met Unreachable before → "/api/".toList <:+: q.url) := by
  rw [← same, ← tried, ← @nextUrl_ok_iff config t l']
  obtain ⟨err, stuck, ended⟩ | ⟨url', more, onward, whole⟩ := there.goes_on later
  · have login := At.after_eq _ [] here exchanges added (by rw [ended, List.append_nil])
    refine iff_of_false ?_ ?_
    · rintro ⟨_, _, _, _, _, _, more, -⟩
      rw [login] at more
      cases more
    · rintro ⟨url', built⟩
      rw [stuck] at built
      cases built
  · have both := At.after_eq _ _ here exchanges added whole
    refine iff_of_true ⟨_, _, result, _, _, _, both, read, sessionKey, method_.symm,
      postData_.symm, ?_⟩ ⟨url', onward⟩
    intro unmet
    have untried : l'.triedAltIp = false := by
      rw [← Bool.not_eq_true, tried]
      exact unmet
    rw [nextUrl_of_not_tried untried, same] at onward
    exact (Except.ok.inj onward).symm

/-- The request is repeated where the session was refused with HTTP 403, the login ends and the
URL can be built. -/
theorem At.repeated_iff (here : At config start url retryCount before (left + 1) l s)
    (ran : (loop config answers method postData (left + 1) l).run s = (last, u))
    (exchanges : u.exchanges = start.exchanges ++ (before ++ .request q (some r) :: after))
    (stale : Stale r) (again : 0 < left) (fresh : ¬ LoggedInAfter Stale before) :
    Repeated before q after ↔ r.statusCode = some httpForbidden ∧
      (∃ result,
        readLogin (answers (start.exchanges.length + before.length + 1)) = .ok result) ∧
      (Met Unreachable before → "/api/".toList <:+: q.url) := by
  obtain ⟨url', result, t, next, request, reply, considered, round, rest⟩ :=
    here.sent ran exchanges
  have position : (s.exchange (.request q (some r))).exchanges.length =
      start.exchanges.length + before.length + 1 := by
    rw [exchanges_exchange, here.exchanges, List.length_append, List.length_append]
    rfl
  rw [← position]
  cases considered with
  | unreadable ok read quiet =>
      rw [stale.names ok] at read
      cases read
  | accepted ok _ _ =>
      obtain ⟨-, rfl⟩ := here.accepted ran exchanges ok (stale.names ok)
      refine iff_of_false ?_ ?_
      · rintro ⟨_, _, _, _, _, _, login, -⟩
        cases login
      · rintro ⟨forbidden, -⟩
        rw [ok] at forbidden
        cases forbidden
  | notRenewed forbidden _ read added active =>
      cases rest with
      | raised _ ended =>
          have login := At.after_eq _ [] here exchanges added (by rw [ended, List.append_nil])
          refine iff_of_false ?_ ?_
          · rintro ⟨_, _, _, _, _, _, more, -⟩
            rw [login] at more
            cases more
          · rintro ⟨-, ⟨result, ends⟩, -⟩
            rw [read] at ends
            cases ends
  | @renewed _ result _ forbidden _ read added active sessionKey =>
      obtain ⟨left, rfl⟩ := Nat.exists_eq_add_of_lt again
      rw [Nat.zero_add] at here round rest
      cases rest with
      | again later =>
          have url_ : q.url = url' := by rw [request]; rfl
          have key : t.sessionKey = newKey q.sessionKey result := by
            rw [request]
            exact sessionKey
          have repeated := repeated_iff_of_login here exchanges (by rw [request]; rfl)
            (by rw [request]; rfl) read added key (round _ rfl) later here.tried url_.symm
          rw [repeated]
          exact ⟨fun marked => ⟨forbidden, ⟨result, read⟩, marked⟩, fun all => all.2.2⟩
  | switched unreachable _ _ _ _ _ => exact absurd stale (not_stale_of_unreachable unreachable)
  | notSwitched unreachable _ _ _ _ _ => exact absurd stale (not_stale_of_unreachable unreachable)
  | alone unreachable _ _ _ => exact absurd stale (not_stale_of_unreachable unreachable)
  | returned notOk forbidden _ quiet =>
      exact absurd (here.retried.mp (forbidden (stale.forbidden notOk))) fresh

/-- A login follows a refused session at most once. -/
theorem At.once {loginUrl : Text} {reply : Option Response}
    (here : At config start url retryCount before (left + 1) l s)
    (ran : (loop config answers method postData (left + 1) l).run s = (last, u))
    (exchanges : u.exchanges = start.exchanges ++
      (before ++ .request q (some r) :: .login loginUrl reply :: after))
    (stale : Stale r) : ¬ LoggedInAfter Stale before := by
  have unused (fresh : l.retriedLogin = false) : ¬ LoggedInAfter Stale before := by
    intro renewed
    rw [here.retried.mpr renewed] at fresh
    cases fresh
  obtain ⟨url', result, t, next, request, reply, considered, -, rest⟩ := here.sent ran exchanges
  have ends (quiet : Quiet (s.exchange (.request q (some r))) t) (ended : u = t) : False := by
    have none_ := At.after_eq [] [] here exchanges (by rw [quiet.exchanges, List.append_nil])
      (by rw [ended, List.append_nil])
    cases none_
  cases considered with
  | unreadable ok read quiet =>
      cases rest with
      | raised _ ended => exact (ends quiet ended).elim
  | accepted ok read quiet =>
      cases rest with
      | returned _ ended => exact (ends quiet ended).elim
  | renewed _ fresh _ _ _ _ => exact unused fresh
  | notRenewed _ fresh _ _ _ => exact unused fresh
  | switched unreachable _ _ _ _ _ => exact absurd stale (not_stale_of_unreachable unreachable)
  | notSwitched unreachable _ _ _ _ _ => exact absurd stale (not_stale_of_unreachable unreachable)
  | alone unreachable _ _ _ => exact absurd stale (not_stale_of_unreachable unreachable)
  | returned _ _ _ quiet =>
      cases rest with
      | returned _ ended => exact (ends quiet ended).elim

/-- A stale answer is returned after a login, or it is an answer with HTTP 200. -/
theorem At.returned (here : At config start url retryCount done left l s)
    (ran : (loop config answers method postData left l).run s = (.ok (some r), u))
    (stale : Stale r) :
    LoggedInAfter Stale (u.exchanges.drop start.exchanges.length) ∨
      ∃ before q, u.exchanges = start.exchanges ++ (before ++ [.request q (some r)]) ∧
        r.statusCode = some httpOk ∧ namesInvalidSession r.content = .ok true := by
  induction left generalizing done l s with
  | zero =>
      obtain ⟨response, rfl⟩ := Prod.mk.inj ran
      rw [here.exchanges, List.drop_left]
      exact .inl (here.answered r (Except.ok.inj response) stale)
  | succ left ih =>
      obtain ⟨result, t, turned, rest⟩ := run_loop_succ ran
      cases rest with
      | again later =>
          obtain ⟨done', there⟩ := here.turn turned
          exact ih there later
      | returned response ended =>
          subst ended
          obtain ⟨err, -, h, -⟩ | ⟨url', -, considered⟩ := turn_cases here.need turned
          · cases h
          · have whole (quiet : Quiet (s.exchange (attempt answers s method url' postData)) u) :
                u.exchanges = start.exchanges ++
                  (done ++ [attempt answers s method url' postData]) := by
              rw [quiet.exchanges, exchanges_exchange, here.exchanges, List.append_assoc]
            generalize answer : answers s.exchanges.length = a at considered
            have sent : attempt answers s method url' postData =
                .request (requestOf s method url' postData) a := by rw [attempt, answer]
            cases considered with
            | accepted ok read quiet =>
                obtain rfl := Option.some.inj (Except.ok.inj response)
                exact .inr ⟨done, _, by rw [whole quiet, sent], ok, stale.names ok⟩
            | returned notOk forbidden _ quiet =>
                obtain rfl := Option.some.inj (Except.ok.inj response)
                rw [whole quiet, List.drop_left]
                have renewed := here.retried.mp (forbidden (stale.forbidden notOk))
                exact .inl renewed.append_right
      | raised h _ => cases h

end

/-- The call renews a refused session, sends the request again and ends after its retries, as long
as no answer with HTTP 200 names an invalid session and the login can be read. -/
theorem relogs_iff (config : Config) (answers : Answers) (s : State) (call : Call) :
    Relogs config answers s call ↔ Renewable config answers s call := by
  constructor
  · intro relogs
    constructor
    · intro before q r after split ok names
      obtain ⟨left, l, t, here, ran⟩ := point_of_split split
      have whole : (call.run config answers s).2.exchanges = _ := exchanges_run
      rw [split] at whole
      obtain ⟨returned, rfl⟩ := here.accepted ran whole ok names
      have renewed := relogs.returned r returned (.inr ⟨ok, names⟩)
      rwa [split, loggedInAfter_request] at renewed
    · intro before q r after split forbidden more fresh
      obtain ⟨left, l, t, here, ran⟩ := point_of_split split
      have count := here.count
      have whole : (call.run config answers s).2.exchanges = _ := exchanges_run
      rw [split] at whole
      have repeated := relogs.repeated before q r after split (.inl forbidden) more fresh
      exact ((here.repeated_iff ran whole (.inl forbidden) (by omega) fresh).mp repeated).2
  · intro renewable
    constructor
    · exact at_start.requests_le (Prod.ext rfl rfl)
    · intro before q r after split stale more fresh
      obtain ⟨left, l, t, here, ran⟩ := point_of_split split
      have count := here.count
      have whole : (call.run config answers s).2.exchanges = _ := exchanges_run
      rw [split] at whole
      refine (here.repeated_iff ran whole stale (by omega) fresh).mpr ?_
      obtain forbidden | ⟨ok, names⟩ := stale
      · exact ⟨forbidden, renewable.refused before q r after split forbidden more fresh⟩
      · exact absurd (renewable.accepted before q r after split ok names) fresh
    · intro before q r url reply after split stale
      obtain ⟨left, l, t, here, ran⟩ := point_of_split split
      have whole : (call.run config answers s).2.exchanges = _ := exchanges_run
      rw [split] at whole
      exact here.once ran whole stale
    · intro r returned stale
      obtain renewed | ⟨before, q, whole, ok, names⟩ :=
        at_start.returned (Prod.ext returned rfl) stale
      · exact renewed
      · have split : call.events config answers s = before ++ [.request q (some r)] := by
          exact List.append_cancel_left (exchanges_run.symm.trans whole)
        rw [split]
        exact (renewable.accepted before q r [] split ok names).append_right

/-- An answer of the CLI API with HTTP 200. -/
def cliAnswer (returnCode : Int) (response : String) : Response where
  statusCode := some httpOk
  content := some (.dict (.cons "status" (.list (.cons (.dict (.cons "return-code"
    (.int returnCode) (.cons "response" (.str response) .nil))) .nil)) .nil))

/-- The first answer names an invalid session key; a login would give a new one. -/
def invalidAnswers : Answers
  | 0 => some (cliAnswer 2 "Invalid sessionkey")
  | _ => some (cliAnswer 1 "new")

def loggedIn : State where
  activeIp := exampleConfig.mc1
  activeWsport := exampleConfig.mc1Wsport
  sessionKey := some (.str "old")
  mcTimeoutCounter := 0
  wsResponseStatus := none
  exchanges := []

def showDisks : Call where
  url := buildUrl exampleConfig.digits exampleConfig.primary "/show/disks".toList
  method := "GET".toList
  retryCount := 2
  postData := []

/-- The answer is returned without a login. -/
theorem showDisks_not_relogged :
    ¬ Relogs exampleConfig invalidAnswers loggedIn showDisks := by
  intro relogs
  have returned : (showDisks.run exampleConfig invalidAnswers loggedIn).1 =
      .ok (some (cliAnswer 2 "Invalid sessionkey")) := by decide +kernel
  have events : showDisks.events exampleConfig invalidAnswers loggedIn =
      [.request (requestOf loggedIn showDisks.method showDisks.url showDisks.postData)
        (some (cliAnswer 2 "Invalid sessionkey"))] := by decide +kernel
  have names : namesInvalidSession (cliAnswer 2 "Invalid sessionkey").content = .ok true := by
    decide +kernel
  have renewed := relogs.returned _ returned (.inr ⟨rfl, names⟩)
  rw [events] at renewed
  cases renewed with
  | later h => cases h

end WebService

end Sspl

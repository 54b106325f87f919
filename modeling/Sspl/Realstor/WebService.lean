import Sspl.Foundation.Try
import Sspl.Iem.Message

/-!
# Requests to the enclosure

`ws_request` of the enclosure repeats a request to a management controller, after a login where
the session is refused and at the other controller where the first cannot be reached. The model
keeps the exchanges with the web service: every URL that is asked for, with the answer.
-/

namespace Sspl

namespace WebService

open Iem (Text findFrom)

/-- The characters of `str.isdigit`. -/
structure Digits where
  mem : Char → Bool
  noSlash : mem '/' = false

/-- The address or the name of a controller. -/
abbrev Host := {ip : Text // '/' ∉ ip}

structure Endpoint where
  ip : Host
  wsport : Text
  deriving DecidableEq

/-- The two management controllers as they are configured. An address has no slash in it. -/
structure Config where
  digits : Digits
  mc1 : Host
  mc1Wsport : Text
  mc2 : Host
  mc2Wsport : Text
  /-- The digest of user and password. -/
  authHash : Text

/-- Two controllers at the port of HTTP. -/
def exampleConfig : Config where
  digits := ⟨Char.isDigit, by decide⟩
  mc1 := ⟨"10.0.0.2".toList, by decide⟩
  mc1Wsport := "80".toList
  mc2 := ⟨"10.0.0.3".toList, by decide⟩
  mc2Wsport := "80".toList
  authHash := "hash".toList

/-- `wsport.isdigit()`. -/
def Digits.isdigit (digits : Digits) (wsport : Text) : Bool :=
  !wsport.isEmpty && wsport.all digits.mem

def buildUrl (digits : Digits) (active : Endpoint) (uri : Text) : Text :=
  let wsport := if digits.isdigit active.wsport then ':' :: active.wsport else []
  "http://".toList ++ active.ip.val ++ wsport ++ "/api".toList ++ uri

/-- The text without the occurrences of the word, from the left; `skip` characters belong to the
last one. -/
def removeFrom (word : Text) : Nat → Text → Text
  | _, [] => []
  | skip + 1, _ :: rest => removeFrom word skip rest
  | 0, c :: rest =>
    if word <+: c :: rest then removeFrom word (word.length - 1) rest
    else c :: removeFrom word 0 rest

/-- `text.replace(word, "")`. -/
def remove (word text : Text) : Text := removeFrom word 0 text

/-- `url[url.index('/api/'):].replace('/api', '')`. -/
def resourceOf (url : Text) : Except PyErr Text :=
  match findFrom "/api/".toList url with
  | some api => .ok (remove "/api".toList api)
  | none => .error .valueError

/-- The status is `None` after a time-out at the loopback address, the content what `json.loads`
makes of it, if anything. -/
structure Response where
  statusCode : Option Int
  content : Option Json
  deriving DecidableEq

def httpConnRefused : Int := 111
def httpNoRouteToHost : Int := 113
def httpOk : Int := 200
def httpForbidden : Int := 403
def httpTimeout : Int := 408

def cliapiRespInvsession : String := "Invalid sessionkey"
def cliapiRespFailure : Nat := 2

/-- `value[0]`. -/
def first : Json → Except PyErr Json
  | .list (.cons head _) => .ok head
  | .list .nil => .error .other
  | .str s => match s.toList with
    | c :: _ => .ok (.str (String.ofList [c]))
    | [] => .error .other
  | .dict _ => .error .keyError
  | _ => .error .typeError

/-- `value == n`. -/
def equalsNat (n : Nat) : Json → Bool
  | .int m => m = n
  | .bool b => (if b then 1 else 0) = n
  | .float text => text = n.repr ++ ".0"
  | _ => false

/-- `"%d" % value`. -/
def formatInt : Json → Except PyErr Unit
  | .int _ | .bool _ => .ok ()
  | .float text => if (truncFloat text.toList).isSome then .ok () else .error .valueError
  | _ => .error .typeError

/-- Whether an answer with HTTP 200 sets `need_relogin`. -/
def namesInvalidSession : Option Json → Except PyErr Bool
  | none => .ok false
  | some jresponse =>
    if jresponse.truthy then do
      let status ← first (← jresponse.item "status")
      if equalsNat cliapiRespFailure (← status.item "return-code") then
        (← status.item "response").contains cliapiRespInvsession
      else return false
    else .ok false

/-- What `login` makes of the answer. -/
inductive LoginResult where
  | failed
  | timedOut
  | session (key : Json)
  deriving DecidableEq

/-- An answer with a status from 400 to 599 counts as none, and for text that is no JSON
`jresponse` is not bound. -/
def readLogin : Option Response → Except PyErr LoginResult
  | none => .ok .failed
  | some response =>
    match response.statusCode with
    | none => .error .typeError
    | some code =>
      if 400 ≤ code ∧ code < 600 then .ok .failed
      else if code ≠ httpOk then .ok (if code = httpTimeout then .timedOut else .failed)
      else
        match response.content with
        | none => .error .nameError
        | some jresponse =>
          if jresponse.truthy then do
            let status ← first (← jresponse.item "status")
            let returnCode ← status.item "return-code"
            if equalsNat 1 returnCode then return .session (← status.item "response")
            else
              formatInt returnCode
              return .failed
          else .ok .failed

/-- A request as it was sent, with the endpoint that was active then. -/
structure Request where
  active : Endpoint
  method : Text
  url : Text
  sessionKey : Option Json
  postData : Text
  deriving DecidableEq

inductive Exchange where
  | login (url : Text) (answer : Option Response)
  | request (sent : Request) (answer : Option Response)
  deriving DecidableEq

/-- The attributes of `RealStorEnclosure` that `ws_request` reads and writes, and the requests and
logins so far with their answers. -/
structure State where
  activeIp : Host
  activeWsport : Text
  /-- The session key in the common headers. -/
  sessionKey : Option Json
  mcTimeoutCounter : Nat
  wsResponseStatus : Option Int
  exchanges : List Exchange
  deriving DecidableEq

/-- The enclosure before the login of `__init__`. -/
def atInit (config : Config) : State where
  activeIp := config.mc1
  activeWsport := config.mc1Wsport
  sessionKey := none
  mcTimeoutCounter := 0
  wsResponseStatus := none
  exchanges := []

/-- The answers of the web service, one after the other. -/
abbrev Answers := Nat → Option Response

def State.active (s : State) : Endpoint := ⟨s.activeIp, s.activeWsport⟩

def State.exchange (s : State) (e : Exchange) : State :=
  { s with exchanges := s.exchanges ++ [e] }

/-- What the result of a login does to the common headers and the counter. -/
def LoginResult.apply (s : State) : LoginResult → State
  | failed => s
  | timedOut => { s with mcTimeoutCounter := s.mcTimeoutCounter + 1 }
  | session key => { s with sessionKey := some key }

section Calls

variable (config : Config) (answers : Answers)

/-- The next exchange with the web service. -/
def send (exchange : Option Response → Exchange) : Try State PyErr (Option Response) := do
  let s ← Try.get
  let answer := answers s.exchanges.length
  Try.modify (·.exchange (exchange answer))
  return answer

def login : Try State PyErr Unit := do
  let s ← Try.get
  let url := buildUrl config.digits s.active "/login/".toList
  let answer ← send answers (.login (url ++ config.authHash))
  let result ← Try.ofExcept (readLogin answer)
  Try.modify (result.apply ·)

/-- The status of an answer is noted. -/
def State.hear (s : State) (response : Response) : State :=
  { s with wsResponseStatus := response.statusCode }

def State.switch (s : State) : State :=
  if s.activeIp = config.mc1 then
    { s with activeIp := config.mc2, activeWsport := config.mc2Wsport }
  else if s.activeIp = config.mc2 then
    { s with activeIp := config.mc1, activeWsport := config.mc1Wsport }
  else s

def switchToAltMc : Try State PyErr Unit :=
  if config.mc1 = config.mc2 ∧ config.mc1Wsport = config.mc2Wsport then return ()
  else do
    Try.modify (State.switch config)
    login config answers

/-- The local variables of `ws_request`. -/
structure Locals where
  url : Text
  response : Option Response
  retriedLogin : Bool
  needRelogin : Bool
  triedAltIp : Bool

/-- The controller cannot be reached. -/
def Unreachable (response : Response) : Prop :=
  response.statusCode = some httpTimeout ∨ response.statusCode = some httpConnRefused ∨
    response.statusCode = some httpNoRouteToHost

instance : DecidablePred Unreachable := fun _ => inferInstanceAs (Decidable (_ ∨ _ ∨ _))

/-- The URL of the next attempt. -/
def nextUrl (s : State) (l : Locals) : Except PyErr Text :=
  if l.triedAltIp then (resourceOf l.url).map (buildUrl config.digits s.active) else .ok l.url

/-- The body of the loop after the request: whether it goes round once more, and the local
variables. -/
def consider (l : Locals) : Option Response → Try State PyErr (Bool × Locals)
  | none => return (true, l)
  | some response => do
    Try.modify (·.hear response)
    if response.statusCode = some httpOk then
      Try.modify (fun s => { s with mcTimeoutCounter := 0 })
      let invalid ← Try.ofExcept (namesInvalidSession response.content)
      return (false, { l with needRelogin := l.needRelogin || invalid })
    else if (response.statusCode = some httpForbidden ∨ l.needRelogin) ∧ ¬ l.retriedLogin then
      login config answers
      return (true, { l with retriedLogin := true, needRelogin := false })
    else if Unreachable response ∧ ¬ l.triedAltIp then
      switchToAltMc config answers
      Try.modify (fun s => { s with mcTimeoutCounter := s.mcTimeoutCounter + 1 })
      return (true, { l with triedAltIp := true })
    else return (false, l)

def turn (method postData : Text) (l : Locals) : Try State PyErr (Bool × Locals) := do
  let s ← Try.get
  let url ← Try.ofExcept (nextUrl config s l)
  let response ← send answers (.request ⟨s.active, method, url, s.sessionKey, postData⟩)
  consider config answers { l with url, response } response

def loop (method postData : Text) : Nat → Locals → Try State PyErr (Option Response)
  | 0, l => return l.response
  | retryCount + 1, l => do
    let (again, l) ← turn config answers method postData l
    if again then loop method postData retryCount l else return l.response

def wsRequest (url method : Text) (retryCount : Nat) (postData : Text) :
    Try State PyErr (Option Response) :=
  loop config answers method postData retryCount ⟨url, none, false, false, false⟩

end Calls

section

variable {config : Config} {answers : Answers} {s : State} {l : Locals} {method postData : Text}

@[simp] theorem exchanges_exchange (e : Exchange) :
    (s.exchange e).exchanges = s.exchanges ++ [e] := rfl

@[simp] theorem active_exchange (e : Exchange) : (s.exchange e).active = s.active := rfl

@[simp] theorem exchanges_apply (result : LoginResult) :
    (result.apply s).exchanges = s.exchanges := by
  cases result <;> rfl

@[simp] theorem active_apply (result : LoginResult) : (result.apply s).active = s.active := by
  cases result <;> rfl

@[simp] theorem exchanges_switch : (s.switch config).exchanges = s.exchanges := by
  rw [State.switch]
  split
  · rfl
  · split <;> rfl

/-- The login that is sent from a state, with its answer. -/
def loginExchange (config : Config) (answers : Answers) (s : State) : Exchange :=
  .login (buildUrl config.digits s.active "/login/".toList ++ config.authHash)
    (answers s.exchanges.length)

theorem run_send (s : State) (exchange : Option Response → Exchange) :
    (send answers exchange).run s =
      (.ok (answers s.exchanges.length), s.exchange (exchange (answers s.exchanges.length))) := rfl

theorem run_login_of_ok {result : LoginResult}
    (read : readLogin (answers s.exchanges.length) = .ok result) :
    (login config answers).run s =
      (.ok (), result.apply (s.exchange (loginExchange config answers s))) := by
  rw [login, Try.run_bind_of_ok (Try.run_get s), Try.run_bind_of_ok (run_send s _), read]
  rfl

theorem run_login_of_error {err : PyErr}
    (read : readLogin (answers s.exchanges.length) = .error err) :
    (login config answers).run s =
      (.error err, s.exchange (loginExchange config answers s)) := by
  rw [login, Try.run_bind_of_ok (Try.run_get s), Try.run_bind_of_ok (run_send s _), read]
  rfl

/-- The request that is sent from a state. -/
def requestOf (s : State) (method url postData : Text) : Request :=
  ⟨s.active, method, url, s.sessionKey, postData⟩

theorem run_turn_of_ok {url : Text} (next : nextUrl config s l = .ok url) :
    (turn config answers method postData l).run s =
      (consider config answers { l with url, response := answers s.exchanges.length }
        (answers s.exchanges.length)).run
        (s.exchange (.request (requestOf s method url postData) (answers s.exchanges.length))) := by
  rw [turn, Try.run_bind_of_ok (Try.run_get s), next, Try.run_ofExcept_bind_ok,
    Try.run_bind_of_ok (run_send s _)]
  rfl

theorem run_turn_of_error {err : PyErr} (next : nextUrl config s l = .error err) :
    (turn config answers method postData l).run s = (.error err, s) := by
  rw [turn, Try.run_bind_of_ok (Try.run_get s), next, Try.run_ofExcept_bind_error]

/-- Nothing was asked of the web service, and nothing of what it is asked with has changed. -/
structure Quiet (s t : State) : Prop where
  exchanges : t.exchanges = s.exchanges
  active : t.active = s.active
  sessionKey : t.sessionKey = s.sessionKey

/-- The controllers are one endpoint. -/
def Config.Single (config : Config) : Prop :=
  config.mc1 = config.mc2 ∧ config.mc1Wsport = config.mc2Wsport

/-- The session key after a login. -/
def newKey (old : Option Json) : LoginResult → Option Json
  | .session key => some key
  | .failed | .timedOut => old

def Config.primary (config : Config) : Endpoint := ⟨config.mc1, config.mc1Wsport⟩

def Config.secondary (config : Config) : Endpoint := ⟨config.mc2, config.mc2Wsport⟩

/-- The endpoint that is active after a switch. -/
def Config.alternative (config : Config) (active : Endpoint) : Endpoint :=
  if active.ip = config.mc1 then config.secondary
  else if active.ip = config.mc2 then config.primary
  else active

/-- What comes of an answer. -/
inductive Considered (config : Config) (answers : Answers) (l : Locals) (s : State) :
    Option Response → Except PyErr (Bool × Locals) → State → Prop
  | unanswered : Considered config answers l s none (.ok (true, l)) s
  | unreadable {r : Response} {err : PyErr} {t : State} (ok : r.statusCode = some httpOk)
      (read : namesInvalidSession r.content = .error err) (quiet : Quiet s t) :
      Considered config answers l s (some r) (.error err) t
  | accepted {r : Response} {invalid : Bool} {t : State} (ok : r.statusCode = some httpOk)
      (read : namesInvalidSession r.content = .ok invalid) (quiet : Quiet s t) :
      Considered config answers l s (some r)
        (.ok (false, { l with needRelogin := l.needRelogin || invalid })) t
  | renewed {r : Response} {result : LoginResult} {t : State}
      (forbidden : r.statusCode = some httpForbidden) (fresh : l.retriedLogin = false)
      (read : readLogin (answers s.exchanges.length) = .ok result)
      (exchanges : t.exchanges = s.exchanges ++ [loginExchange config answers s])
      (active : t.active = s.active) (sessionKey : t.sessionKey = newKey s.sessionKey result) :
      Considered config answers l s (some r)
        (.ok (true, { l with retriedLogin := true, needRelogin := false })) t
  | notRenewed {r : Response} {err : PyErr} {t : State}
      (forbidden : r.statusCode = some httpForbidden) (fresh : l.retriedLogin = false)
      (read : readLogin (answers s.exchanges.length) = .error err)
      (exchanges : t.exchanges = s.exchanges ++ [loginExchange config answers s])
      (active : t.active = s.active) : Considered config answers l s (some r) (.error err) t
  | switched {r : Response} {result : LoginResult} {t : State} (unreachable : Unreachable r)
      (fresh : l.triedAltIp = false) (two : ¬ config.Single)
      (read : readLogin (answers s.exchanges.length) = .ok result)
      (exchanges : t.exchanges =
        s.exchanges ++ [loginExchange config answers (s.switch config)])
      (active : t.active = config.alternative s.active) :
      Considered config answers l s (some r) (.ok (true, { l with triedAltIp := true })) t
  | notSwitched {r : Response} {err : PyErr} {t : State} (unreachable : Unreachable r)
      (fresh : l.triedAltIp = false) (two : ¬ config.Single)
      (read : readLogin (answers s.exchanges.length) = .error err)
      (exchanges : t.exchanges =
        s.exchanges ++ [loginExchange config answers (s.switch config)])
      (active : t.active = config.alternative s.active) :
      Considered config answers l s (some r) (.error err) t
  | alone {r : Response} {t : State} (unreachable : Unreachable r) (fresh : l.triedAltIp = false)
      (single : config.Single) (quiet : Quiet s t) :
      Considered config answers l s (some r) (.ok (true, { l with triedAltIp := true })) t
  | returned {r : Response} {t : State} (notOk : r.statusCode ≠ some httpOk)
      (forbidden : r.statusCode = some httpForbidden → l.retriedLogin = true)
      (unreachable : Unreachable r → l.triedAltIp = true) (quiet : Quiet s t) :
      Considered config answers l s (some r) (.ok (false, l)) t

theorem sessionKey_apply (result : LoginResult) :
    (result.apply s).sessionKey = newKey s.sessionKey result := by
  cases result <;> rfl

theorem active_switch : (s.switch config).active = config.alternative s.active := by
  rw [State.switch, Config.alternative]
  by_cases primary : s.activeIp = config.mc1
  · rw [if_pos primary, if_pos (show s.active.ip = config.mc1 from primary)]
    rfl
  · rw [if_neg primary, if_neg (show ¬ s.active.ip = config.mc1 from primary)]
    by_cases secondary : s.activeIp = config.mc2
    · rw [if_pos secondary, if_pos (show s.active.ip = config.mc2 from secondary)]
      rfl
    · rw [if_neg secondary, if_neg (show ¬ s.active.ip = config.mc2 from secondary)]

/-- The answers of the controllers that cannot be reached are no others. -/
theorem Unreachable.ne {r : Response} (unreachable : Unreachable r) :
    r.statusCode ≠ some httpOk ∧ r.statusCode ≠ some httpForbidden := by
  obtain code | code | code := unreachable
  · rw [code]
    decide
  · rw [code]
    decide
  · rw [code]
    decide

/-- After a refused session. -/
theorem considered_login {r : Response} (forbidden : r.statusCode = some httpForbidden)
    (fresh : l.retriedLogin = false) {block : Try State PyErr (Bool × Locals)}
    (is : block = do
      login config answers
      return (true, { l with retriedLogin := true, needRelogin := false })) :
    Considered config answers l s (some r) (block.run (s.hear r)).1 (block.run (s.hear r)).2 := by
  rw [is]
  cases read : readLogin (answers s.exchanges.length) with
  | error err =>
      have call : (login config answers).run (s.hear r) = _ := run_login_of_error read
      rw [Try.run_bind_of_error call]
      exact .notRenewed forbidden fresh read rfl rfl
  | ok result =>
      have call : (login config answers).run (s.hear r) = _ := run_login_of_ok read
      rw [Try.run_bind_of_ok call]
      exact .renewed forbidden fresh read (exchanges_apply result) (active_apply result)
        (sessionKey_apply result)

theorem run_switchToAltMc_of_single
    (single : config.mc1 = config.mc2 ∧ config.mc1Wsport = config.mc2Wsport) :
    (switchToAltMc config answers).run s = (.ok (), s) := by
  rw [switchToAltMc, if_pos single]
  rfl

theorem run_switchToAltMc
    (two : ¬ (config.mc1 = config.mc2 ∧ config.mc1Wsport = config.mc2Wsport)) :
    (switchToAltMc config answers).run s = (login config answers).run (s.switch config) := by
  rw [switchToAltMc, if_neg two, Try.run_bind_of_ok (Try.run_modify _ _)]

theorem loginExchange_hear (r : Response) :
    loginExchange config answers ((s.hear r).switch config) =
      loginExchange config answers (s.switch config) := by
  rw [loginExchange, loginExchange, active_switch, active_switch, exchanges_switch,
    exchanges_switch]
  rfl

/-- After an answer that the controller cannot be reached. -/
theorem considered_switch {r : Response} (unreachable : Unreachable r)
    (fresh : l.triedAltIp = false) {block : Try State PyErr (Bool × Locals)}
    (is : block = do
      switchToAltMc config answers
      Try.modify (fun s => { s with mcTimeoutCounter := s.mcTimeoutCounter + 1 })
      return (true, { l with triedAltIp := true })) :
    Considered config answers l s (some r) (block.run (s.hear r)).1 (block.run (s.hear r)).2 := by
  rw [is]
  by_cases single : config.Single
  · rw [Try.run_bind_of_ok (run_switchToAltMc_of_single single)]
    exact .alone unreachable fresh single ⟨rfl, rfl, rfl⟩
  · have call : (switchToAltMc config answers).run (s.hear r) = _ := run_switchToAltMc single
    have next : answers ((s.hear r).switch config).exchanges.length =
        answers s.exchanges.length := by
      rw [exchanges_switch]
      rfl
    cases read : readLogin (answers s.exchanges.length) with
    | error err =>
        rw [Try.run_bind_of_error (call.trans (run_login_of_error (by rwa [next])))]
        refine .notSwitched unreachable fresh single read ?_ ?_
        · rw [exchanges_exchange, exchanges_switch, loginExchange_hear]
          rfl
        · rw [active_exchange, active_switch]
          rfl
    | ok result =>
        rw [Try.run_bind_of_ok (call.trans (run_login_of_ok (by rwa [next]))),
          Try.run_bind_of_ok (Try.run_modify _ _)]
        refine .switched unreachable fresh single read ?_ ?_
        · show (result.apply _).exchanges = _
          rw [exchanges_apply, exchanges_exchange, exchanges_switch, loginExchange_hear]
          rfl
        · show (result.apply _).active = _
          rw [active_apply, active_exchange, active_switch]
          rfl

theorem considered (need : l.needRelogin = false) (answer : Option Response) :
    Considered config answers l s answer ((consider config answers l answer).run s).1
      ((consider config answers l answer).run s).2 := by
  cases answer with
  | none => exact .unanswered
  | some r =>
      rw [consider, Try.run_bind_of_ok (Try.run_modify (·.hear r) s)]
      by_cases ok : r.statusCode = some httpOk
      · rw [if_pos ok, Try.run_bind_of_ok (Try.run_modify _ _)]
        cases read : namesInvalidSession r.content with
        | error err =>
            rw [Try.run_ofExcept_bind_error]
            exact .unreadable ok read ⟨rfl, rfl, rfl⟩
        | ok invalid =>
            rw [Try.run_ofExcept_bind_ok]
            exact .accepted ok read ⟨rfl, rfl, rfl⟩
      · rw [if_neg ok]
        by_cases renew : (r.statusCode = some httpForbidden ∨ l.needRelogin = true) ∧
            ¬ l.retriedLogin = true
        · rw [if_pos renew]
          exact considered_login (by simpa [need] using renew.1) (by simpa using renew.2) rfl
        · rw [if_neg renew]
          by_cases switch : Unreachable r ∧ ¬ l.triedAltIp = true
          · rw [if_pos switch]
            exact considered_switch switch.1 (by simpa using switch.2) rfl
          · rw [if_neg switch]
            refine .returned ok ?_ ?_ ⟨rfl, rfl, rfl⟩
            · intro forbidden
              by_contra fresh
              exact renew ⟨.inl forbidden, fresh⟩
            · intro unreachable
              by_contra fresh
              exact switch ⟨unreachable, fresh⟩

end

end WebService

end Sspl

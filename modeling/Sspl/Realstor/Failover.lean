import Sspl.Foundation.System
import Sspl.Realstor.Relogin

/-!
# The other management controller

A request that finds the active controller unreachable should be sent to the other one. The
active endpoint is an address and a port, and `switch_to_alt_mc` looks at the address alone; the
URL is built again from the text of the last one, without any `/api` in it.
-/

namespace Sspl

namespace WebService

open Iem (Text findFrom)
open Transition (System)

/-- The path of a resource. -/
structure Uri where
  text : Text
  slash : text.head? = some '/'

/-- The other endpoint of the two. -/
def Config.other (config : Config) (e : Endpoint) : Endpoint :=
  if e = config.primary then config.secondary else config.primary

def nextRequest : List Exchange → Option Request
  | [] => none
  | .request q _ :: _ => some q
  | .login _ _ :: rest => nextRequest rest

/-- The request for a resource finds the active endpoint unreachable, with retries left and no
fail-over made in this call. -/
structure FindsUnreachable (config : Config) (answers : Answers) (s : State) (call : Call)
    (before : List Exchange) (q : Request) (r : Response) (after : List Exchange) (uri : Uri) :
    Prop where
  split : call.events config answers s = before ++ .request q (some r) :: after
  unreachable : Unreachable r
  url : q.url = buildUrl config.digits q.active uri.text
  more : requests before + 1 < call.retryCount
  fresh : ¬ LoggedInAfter Unreachable before

/-- Where an attempt finds the active endpoint unreachable, the next one goes to the other
endpoint's URL for the same resource. -/
def FailsOver (config : Config) (answers : Answers) (s : State) (call : Call) : Prop :=
  ∀ before q r after uri, FindsUnreachable config answers s call before q r after uri →
    ∃ q', nextRequest after = some q' ∧
      q'.url = buildUrl config.digits (config.other q.active) uri.text

/-- The login at the other endpoint raises no exception, the URI has no `/api`, and the addresses
differ, the primary is the active one or neither port is numeric. -/
def Switchable (config : Config) (answers : Answers) (s : State) (call : Call) : Prop :=
  ∀ before q r after uri, FindsUnreachable config answers s call before q r after uri →
    (∃ result, readLogin (answers (s.exchanges.length + before.length + 1)) = .ok result) ∧
      ¬ "/api".toList <:+: uri.text ∧
      (config.mc1 ≠ config.mc2 ∨ q.active = config.primary ∨
        (config.digits.isdigit config.mc1Wsport = false ∧
          config.digits.isdigit config.mc2Wsport = false))

section Texts

variable {word text : Text}

theorem length_removeFrom_le (word : Text) (skip : Nat) (text : Text) :
    (removeFrom word skip text).length ≤ text.length := by
  induction text generalizing skip with
  | nil =>
      cases skip <;> simp [removeFrom]
  | cons c rest ih =>
      cases skip with
      | succ skip =>
          rw [removeFrom, List.length_cons]
          have le := ih skip
          omega
      | zero =>
          rw [removeFrom, List.length_cons]
          split
          · have le := ih (word.length - 1)
            omega
          · have le := ih 0
            rw [List.length_cons]
            omega

/-- A text stays as it is exactly where the word does not occur. -/
theorem remove_eq_self_iff (some_ : word ≠ []) : remove word text = text ↔ ¬ word <:+: text := by
  induction text with
  | nil => simp [remove, removeFrom, some_]
  | cons c rest ih =>
      rw [remove, removeFrom, List.infix_cons_iff]
      by_cases front : word <+: c :: rest
      · rw [if_pos front]
        refine iff_of_false ?_ (by simp [front])
        intro same
        have le := length_removeFrom_le word (word.length - 1) rest
        rw [same, List.length_cons] at le
        omega
      · rw [if_neg front, List.cons.injEq]
        have rest_ := ih
        rw [remove] at rest_
        simp [rest_, front]

theorem removeFrom_append (run text : Text) :
    removeFrom word run.length (run ++ text) = remove word text := by
  induction run with
  | nil => rfl
  | cons c run ih => exact ih

theorem remove_append (some_ : word ≠ []) (text : Text) :
    remove word (word ++ text) = remove word text := by
  cases word with
  | nil => exact absurd rfl some_
  | cons c rest =>
      have front : c :: rest <+: c :: (rest ++ text) := List.prefix_append (c :: rest) text
      rw [remove, List.cons_append, removeFrom, if_pos front]
      exact removeFrom_append rest text

/-- Up to the first slash two texts are the same. -/
theorem append_slash_inj {front front' rest rest' : Text} (plain : '/' ∉ front)
    (plain' : '/' ∉ front') :
    front ++ '/' :: rest = front' ++ '/' :: rest' ↔ front = front' ∧ rest = rest' := by
  induction front generalizing front' with
  | nil =>
      cases front' with
      | nil => simp
      | cons c front' =>
          have other : c ≠ '/' := fun same => plain' (same ▸ List.mem_cons_self)
          simp [Ne.symm other]
  | cons c front ih =>
      have other : c ≠ '/' := fun same => plain (same ▸ List.mem_cons_self)
      cases front' with
      | nil => simp [other]
      | cons d front' =>
          have rest_ := ih (List.not_mem_of_not_mem_cons plain)
            (List.not_mem_of_not_mem_cons plain')
          simp [rest_, and_assoc]

end Texts

section Addresses

variable {config : Config} {digits : Digits} {e : Endpoint}

/-- What stands between the address and the path. -/
def portText (digits : Digits) (e : Endpoint) : Text :=
  if digits.isdigit e.wsport then ':' :: e.wsport else []

def hostText (digits : Digits) (e : Endpoint) : Text := e.ip.val ++ portText digits e

theorem slash_notMem_portText : '/' ∉ portText digits e := by
  rw [portText]
  split
  · rename_i numeric
    intro mem
    obtain clash | mem := List.mem_cons.mp mem
    · cases clash
    · rw [Digits.isdigit, Bool.and_eq_true] at numeric
      have digit := List.all_eq_true.mp numeric.2 _ mem
      rw [digits.noSlash] at digit
      cases digit
  · simp

theorem slash_notMem_hostText : '/' ∉ hostText digits e := by
  rw [hostText, List.mem_append, not_or]
  exact ⟨e.ip.property, slash_notMem_portText⟩

theorem buildUrl_eq (uri : Text) : buildUrl digits e uri =
    "http:".toList ++ '/' :: '/' :: (hostText digits e ++ ("/api".toList ++ uri)) := by
  show "http://".toList ++ e.ip.val ++ portText digits e ++ "/api".toList ++ uri = _
  rw [hostText]
  simp

theorem apiWord_eq : "/api/".toList = '/' :: ("api".toList ++ ['/']) := by decide

theorem apiWord_eq' : "/api".toList = '/' :: "api".toList := by decide

theorem findFrom_plain {front rest : Text} (plain : '/' ∉ front) :
    findFrom "/api/".toList (front ++ rest) = findFrom "/api/".toList rest := by
  induction front with
  | nil => rfl
  | cons c front ih =>
      have other : ¬ "/api/".toList <+: c :: (front ++ rest) := by
        rw [apiWord_eq]
        rintro ⟨more, same⟩
        have slash : '/' = c := (List.cons.inj same).1
        exact plain (slash ▸ List.mem_cons_self)
      rw [List.cons_append, findFrom, if_neg other]
      exact ih (List.not_mem_of_not_mem_cons plain)

/-- The resource of a URL is its path without any `/api`. -/
theorem resourceOf_buildUrl (uri : Uri) :
    resourceOf (buildUrl digits e uri.text) = .ok (remove "/api".toList uri.text) := by
  obtain ⟨rest, path⟩ : ∃ rest, uri.text = '/' :: rest :=
    ⟨_, (List.head?_eq_some_iff.mp uri.slash).choose_spec⟩
  have word : "/api".toList ≠ [] := by decide
  have scheme : '/' ∉ "http:".toList := by decide
  have slashes : ¬ "/api/".toList <+:
      '/' :: '/' :: (hostText digits e ++ ("/api".toList ++ uri.text)) := by
    rw [apiWord_eq]
    rintro ⟨more, same⟩
    have clash := (List.cons.inj (List.cons.inj same).2).1
    revert clash
    decide
  rw [resourceOf, buildUrl_eq, findFrom_plain scheme, findFrom, if_neg slashes, findFrom]
  by_cases host : "/api/".toList <+: '/' :: (hostText digits e ++ ("/api".toList ++ uri.text))
  · -- the host is called `api` and has no port
    have same : hostText digits e = "api".toList := by
      rw [apiWord_eq, apiWord_eq'] at host
      obtain ⟨more, same⟩ := host
      have texts : "api".toList ++ '/' :: more =
          hostText digits e ++ '/' :: ("api".toList ++ uri.text) := by
        simpa using same
      exact ((append_slash_inj (by decide) slash_notMem_hostText).mp texts).1.symm
    have whole : '/' :: (hostText digits e ++ ("/api".toList ++ uri.text)) =
        "/api".toList ++ ("/api".toList ++ uri.text) := by
      rw [same]
      rfl
    rw [if_pos host, whole]
    show Except.ok (remove _ _) = _
    rw [remove_append word, remove_append word]
  · have found : "/api/".toList <+: "/api".toList ++ uri.text := by
      rw [path]
      exact ⟨rest, rfl⟩
    have here : findFrom "/api/".toList ("/api".toList ++ uri.text) =
        some ("/api".toList ++ uri.text) := if_pos found
    rw [if_neg host, findFrom_plain slash_notMem_hostText, here]
    show Except.ok (remove _ _) = _
    rw [remove_append word]

theorem buildUrl_inj {e' : Endpoint} {uri uri' : Text} :
    buildUrl digits e uri = buildUrl digits e' uri' ↔
      hostText digits e = hostText digits e' ∧ uri = uri' := by
  rw [buildUrl_eq, buildUrl_eq, List.append_cancel_left_eq, List.cons.injEq, List.cons.injEq,
    apiWord_eq', List.cons_append, List.cons_append,
    append_slash_inj slash_notMem_hostText slash_notMem_hostText, List.append_cancel_left_eq]
  simp

theorem portText_eq_iff {e' : Endpoint} (differ : e.wsport ≠ e'.wsport) :
    portText digits e = portText digits e' ↔
      digits.isdigit e.wsport = false ∧ digits.isdigit e'.wsport = false := by
  rw [portText, portText]
  cases digits.isdigit e.wsport <;> cases digits.isdigit e'.wsport <;> simp [differ]

theorem primary_ne_secondary (two : ¬ config.Single) : config.primary ≠ config.secondary := by
  intro same
  rw [Config.primary, Config.secondary, Endpoint.mk.injEq] at same
  exact two same

/-- After a switch the URLs are those of the other endpoint, unless the addresses are the same, the
secondary is active and the ports make a difference. -/
theorem hostText_alternative_eq_iff (two : ¬ config.Single) (configured : config.Configured e) :
    hostText config.digits (config.alternative e) = hostText config.digits (config.other e) ↔
      config.mc1 ≠ config.mc2 ∨ e = config.primary ∨
        (config.digits.isdigit config.mc1Wsport = false ∧
          config.digits.isdigit config.mc2Wsport = false) := by
  have distinct := primary_ne_secondary two
  obtain rfl | rfl := configured
  · have alternative : config.alternative config.primary = config.secondary := if_pos rfl
    have other : config.other config.primary = config.secondary := if_pos rfl
    rw [alternative, other]
    exact iff_of_true rfl (.inr (.inl rfl))
  · have other : config.other config.secondary = config.primary := if_neg distinct.symm
    rw [other]
    by_cases same : config.mc1 = config.mc2
    · have alternative : config.alternative config.secondary = config.secondary :=
        if_pos same.symm
      have ports : config.secondary.wsport ≠ config.primary.wsport := by
        intro equal
        exact two ⟨same, equal.symm⟩
      have hosts : hostText config.digits config.secondary =
          hostText config.digits config.primary ↔
          portText config.digits config.secondary = portText config.digits config.primary := by
        rw [hostText, hostText]
        show config.mc2.val ++ _ = config.mc1.val ++ _ ↔ _
        rw [same, List.append_cancel_left_eq]
      rw [alternative, hosts, portText_eq_iff ports]
      constructor
      · rintro ⟨second, first⟩
        exact .inr (.inr ⟨first, second⟩)
      · rintro (differ | equal | ⟨first, second⟩)
        · exact absurd same differ
        · exact absurd equal distinct.symm
        · exact ⟨second, first⟩
    · have alternative : config.alternative config.secondary = config.primary := by
        rw [Config.alternative, if_neg (show config.secondary.ip ≠ config.mc1 from Ne.symm same),
          if_pos (show config.secondary.ip = config.mc2 from rfl)]
      rw [alternative]
      exact iff_of_true rfl (.inl same)

end Addresses

section

variable {config : Config} {answers : Answers} {start s u : State} {l : Locals}
  {url method postData : Text} {retryCount left : Nat} {before after : List Exchange}
  {q : Request} {r : Response} {last : Except PyErr (Option Response)} {uri : Uri} {call : Call}

/-- The next attempt goes to the other endpoint where the login there ends, the path is kept and
the switch leads there. -/
theorem At.switches_iff (here : At config start url retryCount before (left + 1) l s)
    (ran : (loop config answers method postData (left + 1) l).run s = (last, u))
    (exchanges : u.exchanges = start.exchanges ++ (before ++ .request q (some r) :: after))
    (two : ¬ config.Single) (configured : config.Configured start.active)
    (unreachable : Unreachable r) (path : q.url = buildUrl config.digits q.active uri.text)
    (again : 0 < left) (fresh : ¬ LoggedInAfter Unreachable before) :
    (∃ q', nextRequest after = some q' ∧
        q'.url = buildUrl config.digits (config.other q.active) uri.text) ↔
      (∃ result,
        readLogin (answers (start.exchanges.length + before.length + 1)) = .ok result) ∧
      ¬ "/api".toList <:+: uri.text ∧
      (config.mc1 ≠ config.mc2 ∨ q.active = config.primary ∨
        (config.digits.isdigit config.mc1Wsport = false ∧
          config.digits.isdigit config.mc2Wsport = false)) := by
  obtain ⟨url', result, t, next, request, reply, considered, round, rest⟩ :=
    here.sent ran exchanges
  have position : (s.exchange (.request q (some r))).exchanges.length =
      start.exchanges.length + before.length + 1 := by
    rw [exchanges_exchange, here.exchanges, List.length_append, List.length_append]
    rfl
  have active : q.active = s.active := by rw [request]; rfl
  have untried : ¬ l.triedAltIp = true := fun tried => fresh ((here.failedOver two).mp tried)
  rw [← position]
  cases considered with
  | unreadable ok _ _ => exact absurd ok unreachable.ne.1
  | accepted ok _ _ => exact absurd ok unreachable.ne.1
  | renewed forbidden _ _ _ _ _ => exact absurd forbidden unreachable.ne.2
  | notRenewed forbidden _ _ _ _ => exact absurd forbidden unreachable.ne.2
  | alone _ _ single _ => exact absurd single two
  | returned _ _ tried _ => exact absurd (tried unreachable) untried
  | notSwitched _ _ _ read added _ =>
      cases rest with
      | raised _ ended =>
          have login := At.after_eq _ [] here exchanges added (by rw [ended, List.append_nil])
          refine iff_of_false ?_ ?_
          · rintro ⟨q', following, -⟩
            rw [login] at following
            cases following
          · rintro ⟨⟨result, ends⟩, -⟩
            rw [read] at ends
            cases ends
  | @switched _ result _ _ _ _ read added switched =>
      obtain ⟨left, rfl⟩ := Nat.exists_eq_add_of_lt again
      rw [Nat.zero_add] at here round rest
      cases rest with
      | again later =>
          have same : url' = q.url := by rw [request]; rfl
          have built : nextUrl config t { l with
              url := url', response := some r, triedAltIp := true } =
              .ok (buildUrl config.digits (config.alternative q.active)
                (remove "/api".toList uri.text)) := by
            rw [nextUrl, if_pos rfl, same, path, resourceOf_buildUrl, switched, active]
            rfl
          obtain ⟨err, stuck, -⟩ | ⟨url'', more, onward, whole⟩ := (round _ rfl).goes_on later
          · rw [built] at stuck
            cases stuck
          · rw [built] at onward
            obtain rfl := Except.ok.inj onward
            have both := At.after_eq _ _ here exchanges added whole
            have hosts := hostText_alternative_eq_iff (e := q.active) two
              (active ▸ here.active configured)
            have kept : remove "/api".toList uri.text = uri.text ↔
                ¬ "/api".toList <:+: uri.text := remove_eq_self_iff (by decide)
            rw [both]
            constructor
            · rintro ⟨q', following, goal⟩
              obtain rfl := Option.some.inj following
              obtain ⟨host, same⟩ := buildUrl_inj.mp goal
              exact ⟨⟨result, read⟩, kept.mp same, hosts.mp host⟩
            · rintro ⟨-, plain, switches⟩
              exact ⟨_, rfl, buildUrl_inj.mpr ⟨hosts.mpr switches, kept.mpr plain⟩⟩

theorem failsOver_iff_switchable (two : ¬ config.Single)
    (configured : config.Configured s.active) :
    FailsOver config answers s call ↔ Switchable config answers s call := by
  refine forall_congr' fun before => forall_congr' fun q => forall_congr' fun r =>
    forall_congr' fun after => forall_congr' fun uri => forall_congr' fun finds => ?_
  obtain ⟨left, l, t, here, ran⟩ := point_of_split finds.split
  have count := here.count
  have more := finds.more
  have whole : (call.run config answers s).2.exchanges = _ := exchanges_run
  rw [finds.split] at whole
  exact here.switches_iff ran whole two configured finds.unreachable finds.url (by omega)
    finds.fresh

/-- Every request of a call is sent while one of the two endpoints is active. -/
theorem configured_request {answer : Option Response} (configured : config.Configured s.active)
    (mem : Exchange.request q answer ∈ call.events config answers s) :
    config.Configured q.active := by
  obtain ⟨before, after, split⟩ := List.append_of_mem mem
  obtain ⟨left, l, t, here, ran⟩ := point_of_split split
  have whole : (call.run config answers s).2.exchanges = _ := exchanges_run
  rw [split] at whole
  obtain ⟨url', result, t', -, request, -⟩ := here.sent ran whole
  rw [request]
  exact here.active configured

theorem configured_run (configured : config.Configured s.active) :
    config.Configured (call.run config answers s).2.active :=
  at_start.configured (Prod.ext rfl rfl) configured

end

section

variable {config : Config} {answers : Answers} {start s t u : State} {l l' : Locals}
  {url method postData : Text} {retryCount left : Nat} {done : List Exchange} {q : Request}
  {answer : Option Response} {again : Bool} {result : Except PyErr (Bool × Locals)}
  {last : Except PyErr (Option Response)} {uri : Uri} {call : Call}

/-- Reading the answer raises no exception. -/
def Exchange.Legible : Exchange → Prop
  | .login _ answer => ∃ result, readLogin answer = .ok result
  | .request _ answer => ∀ r, answer = some r → r.statusCode = some httpOk →
      ∃ invalid, namesInvalidSession r.content = .ok invalid

theorem legible_of_not_ok {r : Response} (notOk : r.statusCode ≠ some httpOk) :
    (Exchange.request q (some r)).Legible := by
  intro r' same ok
  cases same
  exact absurd ok notOk

/-- What a turn adds, and that it raises an exception exactly if one of the answers does. -/
theorem Considered.reads
    (h : Considered config answers l (s.exchange (.request q answer)) answer result t) :
    ∃ tail, t.exchanges = s.exchanges ++ .request q answer :: tail ∧
      (∀ q' answer', Exchange.request q' answer' ∉ tail) ∧
      ((∃ value, result = .ok value) ↔ ∀ e ∈ .request q answer :: tail, e.Legible) := by
  have added : ∀ tail, t.exchanges = (s.exchange (.request q answer)).exchanges ++ tail →
      t.exchanges = s.exchanges ++ .request q answer :: tail := by
    rintro tail exchanges
    rw [exchanges, exchanges_exchange, List.append_assoc, List.singleton_append]
  have alone : ∀ e, e ∈ [Exchange.request q answer] → e = .request q answer :=
    fun e mem => List.mem_singleton.mp mem
  have quiet_ (quiet : Quiet (s.exchange (.request q answer)) t) :
      t.exchanges = s.exchanges ++ [.request q answer] :=
    added [] (quiet.exchanges.trans (List.append_nil _).symm)
  cases h with
  | unanswered =>
      refine ⟨[], added [] (List.append_nil _).symm, by simp, iff_of_true ⟨_, rfl⟩ fun e mem => ?_⟩
      rw [alone e mem]
      exact nofun
  | @unreadable r err _ ok read quiet =>
      refine ⟨[], quiet_ quiet, by simp, iff_of_false (by simp) fun legible => ?_⟩
      obtain ⟨invalid, readable⟩ := legible _ List.mem_cons_self r rfl ok
      cases read.symm.trans readable
  | @accepted r invalid _ ok read quiet =>
      refine ⟨[], quiet_ quiet, by simp, iff_of_true ⟨_, rfl⟩ fun e mem => ?_⟩
      rw [alone e mem]
      intro r' same _
      cases same
      exact ⟨invalid, read⟩
  | @renewed r result _ forbidden _ read exchanges _ _ =>
      refine ⟨_, added _ exchanges, by simp [loginExchange], iff_of_true ⟨_, rfl⟩ fun e mem => ?_⟩
      obtain rfl | mem := List.mem_cons.mp mem
      · exact legible_of_not_ok (by rw [forbidden]; decide)
      · cases List.mem_singleton.mp mem
        exact ⟨result, read⟩
  | @notRenewed r err _ forbidden _ read exchanges _ =>
      refine ⟨_, added _ exchanges, by simp [loginExchange],
        iff_of_false (by simp) fun legible => ?_⟩
      obtain ⟨result, readable⟩ := legible _ (List.mem_cons_of_mem _ List.mem_cons_self)
      cases read.symm.trans readable
  | @switched r result _ unreachable _ _ read exchanges _ =>
      refine ⟨_, added _ exchanges, by simp [loginExchange], iff_of_true ⟨_, rfl⟩ fun e mem => ?_⟩
      obtain rfl | mem := List.mem_cons.mp mem
      · exact legible_of_not_ok unreachable.ne.1
      · cases List.mem_singleton.mp mem
        refine ⟨result, ?_⟩
        rw [exchanges_switch]
        exact read
  | @notSwitched r err _ unreachable _ _ read exchanges _ =>
      refine ⟨_, added _ exchanges, by simp [loginExchange],
        iff_of_false (by simp) fun legible => ?_⟩
      obtain ⟨result, readable⟩ := legible _ (List.mem_cons_of_mem _ List.mem_cons_self)
      rw [exchanges_switch] at readable
      cases read.symm.trans readable
  | @alone r _ unreachable _ _ quiet =>
      refine ⟨[], quiet_ quiet, by simp, iff_of_true ⟨_, rfl⟩ fun e mem => ?_⟩
      rw [alone e mem]
      exact legible_of_not_ok unreachable.ne.1
  | @returned r _ notOk _ _ quiet =>
      refine ⟨[], quiet_ quiet, by simp, iff_of_true ⟨_, rfl⟩ fun e mem => ?_⟩
      rw [alone e mem]
      exact legible_of_not_ok notOk

/-- The URL stays. -/
theorem Considered.url_eq (h : Considered config answers l s answer (.ok (again, l')) t) :
    l'.url = l.url := by
  cases h <;> rfl

/-- The requests of a loop are those for the path it was called with, if there is no `/api` in it,
and the loop raises an exception exactly if one of the answers does. -/
theorem At.for_path (plain : ¬ "/api".toList <:+: uri.text)
    (here : At config start url retryCount done left l s)
    (built : ∃ e, l.url = buildUrl config.digits e uri.text)
    (ran : (loop config answers method postData left l).run s = (last, u)) :
    ∃ tail, u.exchanges = s.exchanges ++ tail ∧
      (∀ q answer, .request q answer ∈ tail → ∃ e, q.url = buildUrl config.digits e uri.text) ∧
      ((∃ response, last = .ok response) ↔ ∀ e ∈ tail, e.Legible) := by
  induction left generalizing done l s with
  | zero =>
      cases ran
      exact ⟨[], (List.append_nil _).symm, by simp, iff_of_true ⟨_, rfl⟩ (by simp)⟩
  | succ left ih =>
      have next : ∃ e, nextUrl config s l = .ok (buildUrl config.digits e uri.text) := by
        obtain ⟨e, same⟩ := built
        rw [nextUrl]
        split
        · rw [same, resourceOf_buildUrl, (remove_eq_self_iff (by decide)).mpr plain]
          exact ⟨s.active, rfl⟩
        · exact ⟨e, by rw [same]⟩
      obtain ⟨e, next⟩ := next
      obtain ⟨result, t, turned, rest⟩ := run_loop_succ ran
      obtain ⟨err, stuck, -⟩ | ⟨url', next', considered⟩ := turn_cases here.need turned
      · cases next.symm.trans stuck
      · cases Except.ok.inj (next.symm.trans next')
        obtain ⟨tail, added, logins, legible⟩ := considered.reads
        have first : ∀ q answer, .request q answer ∈ attempt answers s method
            (buildUrl config.digits e uri.text) postData :: tail →
            ∃ e, q.url = buildUrl config.digits e uri.text := by
          intro q answer mem
          obtain same | mem := List.mem_cons.mp mem
          · cases same
            exact ⟨e, rfl⟩
          · exact absurd mem (logins q answer)
        cases rest with
        | again later =>
            obtain ⟨done', there⟩ := here.turn turned
            obtain ⟨tail', added', others, legible'⟩ :=
              ih there ⟨e, considered.url_eq⟩ later
            refine ⟨_, by rw [added', added, List.append_assoc], ?_, ?_⟩
            · intro q answer mem
              obtain mem | mem := List.mem_append.mp mem
              · exact first q answer mem
              · exact others q answer mem
            · rw [legible', List.forall_mem_append, and_iff_right]
              exact legible.mp ⟨_, rfl⟩
        | returned response ended =>
            subst ended
            exact ⟨_, added, first, iff_of_true ⟨_, response⟩ (legible.mp ⟨_, rfl⟩)⟩
        | raised failed ended =>
            subst ended
            refine ⟨_, added, first, iff_of_false (by simp [failed]) fun readable => ?_⟩
            obtain ⟨value, same⟩ := legible.mpr readable
            cases same

theorem Call.for_path (call : Call) (plain : ¬ "/api".toList <:+: uri.text)
    (built : ∃ e, call.url = buildUrl config.digits e uri.text) :
    (∀ q answer, .request q answer ∈ call.events config answers s →
        ∃ e, q.url = buildUrl config.digits e uri.text) ∧
      ((∃ response, (call.run config answers s).1 = .ok response) ↔
        ∀ e ∈ call.events config answers s, e.Legible) := by
  obtain ⟨tail, added, urls, legible⟩ := at_start.for_path plain built
    (Prod.ext rfl rfl : (call.run config answers s) = _)
  rw [List.append_cancel_left (exchanges_run.symm.trans added)]
  exact ⟨urls, legible⟩

/-- A call with an attempt begins with the request it is made for. -/
theorem Call.first (call : Call) (some_ : 0 < call.retryCount) :
    ∃ answer rest, call.events config answers s =
      .request (requestOf s call.method call.url call.postData) answer :: rest := by
  obtain ⟨left, count⟩ := Nat.exists_eq_add_of_lt some_
  have here : At config s call.url call.retryCount [] call.retryCount
      ⟨call.url, none, false, false, false⟩ s := at_start
  cases ran : call.run config answers s with
  | mk last u =>
      have ranWhole := ran
      rw [Call.run, wsRequest] at ran
      rw [count] at here ran
      obtain ⟨err, stuck, -⟩ | ⟨url', more, next, whole⟩ := here.goes_on ran
      · cases stuck
      · cases next
        have same := List.append_cancel_left (exchanges_run.symm.trans
          ((congrArg (fun r => r.2.exchanges) ranWhole).trans whole))
        exact ⟨_, more, same⟩

end

/-- Calls of `ws_request`, after `__init__` with its login or without it. -/
def enclosure (config : Config) (answers : Answers) : System State Call where
  init s := s = atInit config ∨ (login config answers).run (atInit config) = (.ok (), s)
  next s call := some (call.run config answers s).2

theorem configured_init {config : Config} {answers : Answers} {s : State}
    (init : (enclosure config answers).init s) : config.Configured s.active := by
  obtain rfl | ran := init
  · exact .inl rfl
  · cases read : readLogin (answers (atInit config).exchanges.length) with
    | error err =>
        rw [run_login_of_error read] at ran
        cases ran
    | ok result =>
        rw [run_login_of_ok read] at ran
        cases ran
        rw [active_apply, active_exchange]
        exact .inl rfl

/-- The active endpoint is one of the two throughout, and a call fails over to the other one as
far as the login there, the path and the addresses allow. -/
theorem failsOver_iff {config : Config} (answers : Answers) (two : ¬ config.Single)
    {start s : State} {calls : List Call} (init : (enclosure config answers).init start)
    (run : (enclosure config answers).FreeRuns start calls s) :
    config.Configured s.active ∧ ∀ call,
      (∀ q answer, .request q answer ∈ call.events config answers s →
        config.Configured q.active) ∧
      (FailsOver config answers s call ↔ Switchable config answers s call) := by
  have configured : config.Configured s.active := by
    refine run.invariant (I := fun s => config.Configured s.active) ?_ (configured_init init)
    intro s call t configured _ step
    cases step
    exact configured_run configured
  exact ⟨configured, fun call => ⟨fun q answer mem => configured_request configured mem,
    failsOver_iff_switchable two configured⟩⟩

def refused : Response where
  statusCode := some httpConnRefused
  content := none

/-- The first request of each call is refused, every login gives a session. -/
def refusals : Answers
  | 1 | 4 => some refused
  | _ => some (cliAnswer 1 "key")

def atLogin : State := ((login exampleConfig refusals).run (atInit exampleConfig)).2

def showDisksFrom (e : Endpoint) : Call :=
  { showDisks with url := buildUrl exampleConfig.digits e "/show/disks".toList }

def failedOver : State :=
  ((showDisksFrom exampleConfig.primary).run exampleConfig refusals atLogin).2

def failedBack : State :=
  ((showDisksFrom exampleConfig.secondary).run exampleConfig refusals failedOver).2

/-- The first call fails over to the secondary endpoint and the second one back. -/
theorem failsOver_iff_thereAndBack :
    failedOver.active = exampleConfig.secondary ∧
    failedBack.active = exampleConfig.primary ∧
    exampleConfig.Configured failedBack.active ∧ ∀ call,
      (∀ q answer, .request q answer ∈ call.events exampleConfig refusals failedBack →
        exampleConfig.Configured q.active) ∧
      (FailsOver exampleConfig refusals failedBack call ↔
        Switchable exampleConfig refusals failedBack call) := by
  have loggedIn : (login exampleConfig refusals).run (atInit exampleConfig) =
      (.ok (), atLogin) := Prod.ext (by decide +kernel) rfl
  have calls : (enclosure exampleConfig refusals).FreeRuns atLogin
      [showDisksFrom exampleConfig.primary, showDisksFrom exampleConfig.secondary] failedBack :=
    .cons trivial rfl (.single trivial rfl)
  exact ⟨by decide +kernel, by decide +kernel,
    failsOver_iff refusals (fun single => absurd single.1 (by decide)) (.inr loggedIn) calls⟩

def sharedAddress : Config :=
  { exampleConfig with
    mc1Wsport := "8090".toList
    mc2 := exampleConfig.mc1
    mc2Wsport := "8091".toList }

def started : State := ((login sharedAddress refusals).run (atInit sharedAddress)).2

def showDisksAt (e : Endpoint) : Call where
  url := buildUrl sharedAddress.digits e "/show/disks".toList
  method := "GET".toList
  retryCount := 2
  postData := []

def switched : State := ((showDisksAt sharedAddress.primary).run sharedAddress refusals started).2

/-- From the secondary port the next attempt goes to the same port again. -/
theorem sharedAddress_not_failing_over : ¬ sharedAddress.Single ∧
    (enclosure sharedAddress refusals).init started ∧
    (enclosure sharedAddress refusals).FreeRuns started [showDisksAt sharedAddress.primary]
      switched ∧
    ¬ FailsOver sharedAddress refusals switched (showDisksAt sharedAddress.secondary) := by
  refine ⟨fun single => absurd single.2 (by decide), .inr (Prod.ext ?_ rfl),
    .single trivial rfl, ?_⟩
  · decide +kernel
  · intro failsOver
    have events : (showDisksAt sharedAddress.secondary).events sharedAddress refusals switched =
        [.request (requestOf switched "GET".toList (showDisksAt sharedAddress.secondary).url [])
            (some refused),
          loginExchange sharedAddress refusals (switched.exchange (.request (requestOf switched
            "GET".toList (showDisksAt sharedAddress.secondary).url []) (some refused))),
          .request (requestOf switched "GET".toList (showDisksAt sharedAddress.secondary).url [])
            (some (cliAnswer 1 "key"))] := by decide +kernel
    obtain ⟨q', following, url⟩ := failsOver [] _ refused _
      ⟨"/show/disks".toList, by decide⟩
      ⟨events, .inr (.inl rfl), by decide +kernel, by decide, by rintro ⟨⟩⟩
    obtain rfl := Option.some.inj following
    exact absurd url (by decide +kernel)

end WebService

end Sspl

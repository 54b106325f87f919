import Sspl.Realstor.Actuator
import Sspl.Realstor.Failover

/-!
# What a control request sends to the enclosure

A shutdown or a restart of a controller is one command to the enclosure, made from the action, the
type in the request and what the resource has between `controller_` and the next colon. The tests
before it look at the beginning and the end of the resource and at the end of the command. After
it the reply is read, and the entry of the action is looked up in a table.

The command goes out as the requests of a call of `ws_request`: one, or two of them where the
session or the controller that was active fails. The answers to them and to the logins between
them may raise an exception, too, and then the command is sent already.
-/

namespace Sspl

namespace Realstor

namespace Commands

open Actuator
open Iem (Text strip)
open WebService (Exchange Uri buildUrl httpOk)

/-- The URLs that are asked for, those of the logins apart. -/
def requestUrls (exchanges : List Exchange) : List Text :=
  exchanges.filterMap fun
    | .request sent _ => some sent.url
    | .login _ _ => none

/-- The exchanges with the web service for a path. -/
def exchangesFor (encl : Enclosure) (uri : Text) : List Exchange :=
  (encl.call uri).events encl.config encl.answers encl.session

/-- `_put_enclosure_action` with the URLs that it asks for. -/
def putEnclosureAction (encl : Enclosure) (ctrlAction ctrlType resource enclosureRequest : Text) :
    List Text × Except RequestError ControlInfo :=
  if InvalidArgs ctrlAction ctrlType resource then
    ([], .error (.invalidResource resource enclosureRequest))
  else
    let ctrlCmd := ctrlCmdOf ctrlAction ctrlType resource
    (requestUrls (exchangesFor encl (uriOf ctrlCmd)), do
      let enclResponse ← getEnclResponse encl (uriOf ctrlCmd)
      let failed := enclResponse = .dict .nil
      controlInfo (actionTypeOf ctrlAction ctrlType) ctrlCmd
        (if failed then "warning" else "informational")
        (if failed then "request failed. Please try again...!"
         else "request performed successfully."))

/-- `perform_request` with the URLs of the control commands that it sends. -/
def performRequest (encl : Enclosure) (lower : Text → Text) (jsonMsg : Json)
    (fields : Actuator.Fields) :
    List Text × Response :=
  match readRequest jsonMsg with
  | .error e => ([], .error (.raised e))
  | .ok r =>
    if r.Control then
      match asText r.resource with
      | .error e => ([], .error (.raised e))
      | .ok resource =>
        match putEnclosureAction encl r.parts.ctrlAction r.parts.ctrlType (strip resource)
          r.text with
        | (sent, .error e) => (sent, .error e)
        | (sent, .ok info) => (sent, respondControl encl info r.parts.componentType r.resource)
    else ([], (Actuator.performRequest encl lower jsonMsg fields).1)

/-- The controller that a resource names. -/
def namedController (resource : Text) : Option Text :=
  if resource = "*".toList then some "both".toList
  else if resource.takeWhile (· ≠ ':') = "controller_a".toList then some "a".toList
  else if resource.takeWhile (· ≠ ':') = "controller_b".toList then some "b".toList
  else none

/-- The type is a controller type, and the resource ends in it or in the star. -/
def Agree (ctrlType resource : Text) : Prop :=
  (ctrlType = "sc".toList ∨ ctrlType = "mc".toList) ∧
    ((resource.splitOn ':').getLast? = some ctrlType ∨
      (resource.splitOn ':').getLast? = some "*".toList)

instance (ctrlType resource : Text) : Decidable (Agree ctrlType resource) :=
  inferInstanceAs (Decidable (_ ∧ _))

/-- The path of the command for the action on a controller. -/
def commandFor (ctrlAction ctrlType name : Text) : Text :=
  if ctrlAction = "shutdown".toList then "/shutdown/".toList ++ name
  else "/restart/".toList ++ ctrlType ++ '/' :: name

/-- The URL is the one, at some endpoint of the web service, of the action on the controller that
is named, and on the type agreed on. -/
structure Right (encl : Enclosure) (ctrlAction ctrlType resource url : Text) : Prop where
  controller : ∃ name endpoint, namedController resource = some name ∧
    url = buildUrl encl.config.digits endpoint (commandFor ctrlAction ctrlType name)
  type : ctrlAction = "restart".toList → Agree ctrlType resource

/-- The response has a status code, and with HTTP 200 its content is no JSON or an object with a
status. -/
def ReadableResponse (response : WebService.Response) : Prop :=
  ∃ code, response.statusCode = some code ∧ (code = httpOk → ∀ content,
    response.content = some content → ∃ status apiStatus,
      content.get "status" = .ok status ∧ getApiStatus status = .ok apiStatus)

/-- The answers to a command can be read, those that `ws_request` reads and the one that it
returns. -/
def Readable (encl : Enclosure) (uri : Text) : Prop :=
  (∀ e ∈ exchangesFor encl uri, e.Legible) ∧
    ∀ response, ((encl.call uri).run encl.config encl.answers encl.session).1 =
      .ok (some response) → ReadableResponse response

/-- If a control request passes the tests, its resource names a controller, type and resource of
a restart agree, and the answers of the enclosure can be read. -/
def Sound (encl : Enclosure) (request resource : String) : Prop :=
  ∀ r, readRequest (message request resource) = .ok r → r.Control →
    ¬ InvalidArgs r.parts.ctrlAction r.parts.ctrlType (strip resource.toList) →
      (namedController (strip resource.toList)).isSome = true ∧
        (r.parts.ctrlAction = "restart".toList →
          Agree r.parts.ctrlType (strip resource.toList)) ∧
        Readable encl (uriOf (ctrlCmdOf r.parts.ctrlAction r.parts.ctrlType
          (strip resource.toList)))

section

variable {encl : Enclosure} {lower : Text → Text} {fields : Actuator.Fields} {resource : Text}

theorem putEnclosureAction_snd (encl : Enclosure)
    (ctrlAction ctrlType resource enclosureRequest : Text) :
    (putEnclosureAction encl ctrlAction ctrlType resource enclosureRequest).2 =
      Actuator.putEnclosureAction encl ctrlAction ctrlType resource enclosureRequest := by
  rw [putEnclosureAction, Actuator.putEnclosureAction]
  split <;> rfl

/-- The commands apart, this is the response of the actuator. -/
theorem performRequest_snd (jsonMsg : Json) :
    (performRequest encl lower jsonMsg fields).2 =
      (Actuator.performRequest encl lower jsonMsg fields).1 := by
  rw [performRequest]
  cases request : readRequest jsonMsg with
  | error e => rw [performRequest_unread request]
  | ok r =>
      dsimp only
      split
      · rename_i isControl
        rw [performRequest_control request isControl, Actuator.control]
        cases asText r.resource with
        | error e => rfl
        | ok resource =>
            have same := putEnclosureAction_snd encl r.parts.ctrlAction r.parts.ctrlType
              (strip resource) r.text
            dsimp only [attempt, Except.mapError, bind, Except.bind]
            rw [← same]
            cases putEnclosureAction encl r.parts.ctrlAction r.parts.ctrlType (strip resource)
                r.text with
            | mk sent result => cases result <;> rfl
      · rfl

theorem controller_eq : "controller_".toList = 'c' :: "ontroller_".toList := by decide

/-- A text that begins with another letter is kept up to its second character at least. -/
theorem upTo_controller {c : Char} (differ : c ≠ 'c') (rest : Text) :
    upTo "controller_".toList (c :: rest) = c :: upTo "controller_".toList rest := by
  refine if_neg fun begins => ?_
  rw [controller_eq, List.cons_prefix_cons] at begins
  exact differ begins.1.symm

theorem ctrlName_of_front {letter : Char} (noC : letter ≠ 'c') (noColon : letter ≠ ':')
    (front : resource.takeWhile (· ≠ ':') = "controller_".toList ++ [letter]) :
    (upTo "controller_".toList (resource.drop 11)).takeWhile (· ≠ ':') = [letter] := by
  have parts := List.takeWhile_append_dropWhile (p := (· ≠ ':')) (l := resource)
  rw [front, List.append_assoc] at parts
  have back : resource.drop 11 = letter :: resource.dropWhile (· ≠ ':') :=
    (congrArg (List.drop 11) parts).symm
  rw [back, upTo_controller noC, List.takeWhile_cons_of_pos (by simpa using noColon)]
  cases rest : resource.dropWhile (· ≠ ':') with
  | nil => rfl
  | cons c others =>
      have colon : c = ':' := by
        have head := List.head?_dropWhile_not (· ≠ ':') resource
        rw [rest] at head
        simpa using head
      subst colon
      rw [upTo_controller (by decide), List.takeWhile_cons_of_neg (by simp)]

/-- A controller that the resource names is the one that the command is made for. -/
theorem ctrlName_of_named {name : Text} (named : namedController resource = some name) :
    ctrlName resource = some name := by
  rw [namedController] at named
  split at named
  · rename_i star
    cases named
    rw [star]
    decide
  · split at named
    · rename_i front
      cases named
      have begins : "controller_a".toList <+: resource := by
        rw [← front]
        exact List.takeWhile_prefix _
      rw [ctrlName, if_pos (.inl begins)]
      exact congrArg some (ctrlName_of_front (by decide) (by decide) front)
    · split at named
      · rename_i front
        cases named
        have begins : "controller_b".toList <+: resource := by
          rw [← front]
          exact List.takeWhile_prefix _
        rw [ctrlName, if_pos (.inr begins)]
        exact congrArg some (ctrlName_of_front (by decide) (by decide) front)
      · cases named

theorem name_of_named {name : Text} (named : namedController resource = some name) :
    name = "a".toList ∨ name = "b".toList ∨ name = "both".toList := by
  rw [namedController] at named
  split at named
  · cases named
    exact .inr (.inr rfl)
  · split at named
    · cases named
      exact .inl rfl
    · split at named
      · cases named
        exact .inr (.inl rfl)
      · cases named

/-- The path is that of the action on the controller, if the type is one. -/
theorem uriOf_ctrlCmdOf {ctrlAction ctrlType name : Text}
    (action : ctrlAction = "shutdown".toList ∨ ctrlAction = "restart".toList ∧
      (ctrlType = "sc".toList ∨ ctrlType = "mc".toList))
    (named : namedController resource = some name) :
    uriOf (ctrlCmdOf ctrlAction ctrlType resource) = commandFor ctrlAction ctrlType name := by
  rw [ctrlCmdOf, ctrlName_of_named named, Option.getD_some]
  have word := name_of_named named
  obtain rfl | ⟨rfl, rfl | rfl⟩ := action
  · have type : actionTypeOf "shutdown".toList ctrlType = "shutdown".toList := rfl
    have path : commandFor "shutdown".toList ctrlType name = "/shutdown/".toList ++ name := rfl
    rw [type, path]
    obtain rfl | rfl | rfl := word <;> decide
  · obtain rfl | rfl | rfl := word <;> decide
  · obtain rfl | rfl | rfl := word <;> decide

/-- There is no `/api` in the path of a command for a controller. -/
theorem plain_commandFor {ctrlAction ctrlType name : Text}
    (action : ctrlAction = "shutdown".toList ∨ ctrlAction = "restart".toList ∧
      (ctrlType = "sc".toList ∨ ctrlType = "mc".toList))
    (named : namedController resource = some name) :
    ¬ "/api".toList <:+: commandFor ctrlAction ctrlType name := by
  have word := name_of_named named
  obtain rfl | ⟨rfl, rfl | rfl⟩ := action
  · have path : commandFor "shutdown".toList ctrlType name = "/shutdown/".toList ++ name := rfl
    rw [path]
    obtain rfl | rfl | rfl := word <;> decide
  · obtain rfl | rfl | rfl := word <;> decide
  · obtain rfl | rfl | rfl := word <;> decide

/-- What the resource and the type of a valid request have to be like. -/
def Names (ctrlAction ctrlType resource : Text) : Prop :=
  (namedController resource).isSome = true ∧
    (ctrlAction = "restart".toList → Agree ctrlType resource)

/-- The action is that of a controller or of a controller type. -/
theorem Names.action {ctrlAction ctrlType : Text} (names : Names ctrlAction ctrlType resource)
    (action : ctrlAction = "shutdown".toList ∨ ctrlAction = "restart".toList) :
    ctrlAction = "shutdown".toList ∨ ctrlAction = "restart".toList ∧
      (ctrlType = "sc".toList ∨ ctrlType = "mc".toList) :=
  action.imp_right fun restart => ⟨restart, (names.2 restart).1⟩

/-- The path of a command. -/
def pathOf (ctrlAction ctrlType resource : Text) : Uri :=
  ⟨uriOf (ctrlCmdOf ctrlAction ctrlType resource), rfl⟩

theorem Names.plain {ctrlAction ctrlType : Text} (names : Names ctrlAction ctrlType resource)
    (action : ctrlAction = "shutdown".toList ∨ ctrlAction = "restart".toList) :
    ¬ "/api".toList <:+: (pathOf ctrlAction ctrlType resource).text := by
  obtain ⟨name, named⟩ := Option.isSome_iff_exists.mp names.1
  have path : (pathOf ctrlAction ctrlType resource).text = commandFor ctrlAction ctrlType name :=
    uriOf_ctrlCmdOf (names.action action) named
  rw [path]
  exact plain_commandFor (names.action action) named

/-- What is asked for is right if the resource names a controller and the types agree. -/
theorem Names.right {ctrlAction ctrlType : Text} (names : Names ctrlAction ctrlType resource)
    (action : ctrlAction = "shutdown".toList ∨ ctrlAction = "restart".toList) {url : Text}
    (sent : url ∈ requestUrls (exchangesFor encl (pathOf ctrlAction ctrlType resource).text)) :
    Right encl ctrlAction ctrlType resource url := by
  obtain ⟨name, named⟩ := Option.isSome_iff_exists.mp names.1
  obtain ⟨exchange, mem, asked⟩ := List.mem_filterMap.mp sent
  cases exchange with
  | login url answer => cases asked
  | request q answer =>
      cases asked
      have calls : ∃ e, (encl.call (pathOf ctrlAction ctrlType resource).text).url =
          buildUrl encl.config.digits e (pathOf ctrlAction ctrlType resource).text := ⟨_, rfl⟩
      obtain ⟨endpoint, same⟩ :=
        (WebService.Call.for_path _ (names.plain action) calls).1 q answer mem
      refine ⟨⟨name, endpoint, named, same.trans ?_⟩, names.2⟩
      exact congrArg _ (uriOf_ctrlCmdOf (names.action action) named)

end

section

variable {encl : Enclosure} {lower : Text → Text} {fields : Actuator.Fields}
  {request resource : String} {r : Request}

theorem resource_of_readRequest (read : readRequest (message request resource) = .ok r) :
    r.resource = .str resource := by
  rw [readRequest] at read
  obtain ⟨enclosure, got, read⟩ := bind_eq_ok.mp read
  have section_ : storageEnclosure (message request resource) = .ok (.dict
      (.cons "enclosure_request" (.str request) (.cons "resource" (.str resource) .nil))) := rfl
  cases section_.symm.trans got
  obtain ⟨value, -, read⟩ := bind_eq_ok.mp read
  obtain ⟨text, -, read⟩ := bind_eq_ok.mp read
  obtain ⟨parts, -, read⟩ := bind_eq_ok.mp read
  cases read
  rfl

theorem performRequest_control (encl : Enclosure) (lower : Text → Text) (fields : Actuator.Fields)
    (read : readRequest (message request resource) = .ok r)
    (isControl : r.Control) :
    performRequest encl lower (message request resource) fields =
      ((putEnclosureAction encl r.parts.ctrlAction r.parts.ctrlType (strip resource.toList)
          r.text).1,
        match (putEnclosureAction encl r.parts.ctrlAction r.parts.ctrlType
          (strip resource.toList) r.text).2 with
        | .error e => .error e
        | .ok info => respondControl encl info r.parts.componentType r.resource) := by
  have text : asText r.resource = .ok resource.toList := by
    rw [resource_of_readRequest read]
    rfl
  rw [performRequest, read]
  dsimp only
  rw [if_pos isControl, text]
  dsimp only
  cases putEnclosureAction encl r.parts.ctrlAction r.parts.ctrlType (strip resource.toList)
      r.text with
  | mk sent result => cases result <;> rfl

end

namespace Example

/-- An enclosure that does what it is told. -/
def encl : Enclosure where
  fru _ _ := .error .notFound
  sensorData _ _ := .error .notFound
  systemInfo := .error .notFound
  sasPortStatus _ := .ok none
  config := WebService.exampleConfig
  answers _ := some
    { statusCode := some httpOk
      content := some (.dict (.cons "status" (.list (.cons (.dict
        (.cons "response-type" (.str "Success") (.cons "response-type-numeric" (.int 0)
          (.cons "return-code" (.int 0) .nil)))) .nil)) .nil)) }
  session := WebService.loggedIn
  isStorageFru _ := "true:hot_swappable".toList

end Example

end Commands

end Realstor

end Sspl

import Routebook.Proofs.Client.Compiled
import Routebook.Proofs.Json.Limits
import Routebook.Proofs.Transport.Answer

/-!
# What a callback is given

The text of a response can be read as JSON in two places: by the web transport when the options ask
for it, and by a decoding callback.  Only one of them reads it, whatever the options say.  A
callback gets exactly what it is owed (`WebTransport.owed`), unless the text is read and passes a
limit of the reader (`WebTransport.run_report`); then the call fails and there is no callback.

For texts without overlong integers the depth of nesting is the only such limit, so the calls that
fail are exactly those that read a text nested too deeply (`Client.delivered_iff`).
-/

namespace Routebook

set_option autoImplicit false

open Routebook.Action

section Runtimes

variable [Runtime]

/-! ## Reading the text of a response -/

namespace WebTransport

/-- Whether a value of the JSON option asks for decoding: only the truth value itself does. -/
def asksForJson : Value → Bool
  | .truth true => true
  | _ => false

/-- The failure of a reader that meets one of its limits in a text. -/
def limitFailure? (text : String) : Option Failure :=
  match Json.parse text with
  | .error .tooManyDigits => some .badValue
  | .error .tooDeep => some .tooDeep
  | _ => none

/-- Whether the text of a response is read as JSON on its way to the callback. -/
def isRead (decoding : Bool) (json : Value) (text : String) : Bool :=
  decoding || (asksForJson json && !text.isEmpty)

/-- The failure that keeps a response from the callback: that of the reader, if there is a reading.
-/
def refusal? (decoding : Bool) (json : Value) (text : String) : Option Failure :=
  if isRead decoding json text then limitFailure? text else none

/-- The body for a callback that does not decode: the text, or its value if that is asked for and
there is one. -/
def plainBody (json : Value) (text : String) : Value :=
  match Json.parse text with
  | .ok value => if asksForJson json && !text.isEmpty then value else .text text
  | .error _ => .text text

/-- The arguments that a callback is owed for a response: with decoding the value of the text, or a
problem if it is not JSON. -/
def owed (decoding : Bool) (json : Value) (response : Http.Response) (text : String) :
    List Value :=
  if decoding then
    match Json.parse text with
    | .ok value => [.null, .response response, value]
    | .error _ => [.problem .bodyNotJson, .null, .null]
  else [.null, .response response, plainBody json text]

/-- The callbacks made for a response: the one that is owed, unless the reader fails. -/
def deliveries (decoding : Bool) (json : Value) (response : Http.Response) (text : String) :
    List (List Value) :=
  match refusal? decoding json text with
  | none => [owed decoding json response text]
  | some _ => []

/-- The callback of a caller, behind a decoding one if bodies are decoded. -/
def callbackOf (decoding : Bool) : Callback :=
  if decoding then .decoding (.caller true) else .caller true

/-- The body handed to a decoding callback is the text. -/
theorem responseBody_decoding {response : Http.Response} {text : String}
    (readable : response.text = .ok text) (options : Entries) :
    responseBody response options (callbackOf true) = .ok (.text text) := by
  have skipped : text.isEmpty || (callbackOf true).decodes := Bool.or_true _
  simp only [responseBody, readable, bind, Except.bind, skipped, if_true]
  split <;> rfl

/-- The body handed to any other callback is the plain one, unless the reader fails. -/
theorem responseBody_plain {response : Http.Response} {text : String}
    (readable : response.text = .ok text) (options : Entries) :
    responseBody response options (callbackOf false) =
      (refusal? false (Options.get options "json") text).elim
        (.ok (plainBody (Options.get options "json") text)) .error := by
  simp only [responseBody, readable, bind, Except.bind, refusal?, isRead, Bool.false_or]
  generalize Options.get options "json" = json
  by_cases asked : json = .truth true
  · subst asked
    have kept : (callbackOf false).decodes = false := rfl
    have asks : asksForJson (.truth true) = true := rfl
    simp only [kept, asks, Bool.or_false, Bool.true_and]
    cases empty : text.isEmpty with
    | true =>
        simp only [plainBody, asks, empty, if_true, Bool.not_true, Bool.and_false,
          Bool.false_eq_true, if_false]
        split <;> rfl
    | false =>
        simp only [plainBody, asks, empty, Bool.false_eq_true, if_false, Bool.not_false, if_true,
          Bool.and_true, limitFailure?]
        cases parsed : Json.parse text with
        | ok value => rfl
        | error fault => cases fault <;> rfl
  · have unasked : asksForJson json = false := by
      unfold asksForJson
      split
      · exact absurd rfl asked
      · rfl
    have plain : plainBody json text = .text text := by
      unfold plainBody
      rw [unasked]
      split <;> rfl
    rw [plain]
    simp only [unasked, Bool.false_and, Bool.false_eq_true, if_false]
    rfl

/-! ## Calling the callback -/

/-- Without an error a decoding callback goes by the decoded body. -/
theorem decoding_call_eq (inner : Callback) (message body : Value) :
    (Callback.decoding inner).call [.null, message, body] =
      match decodeBody body with
      | .ok decoded => inner.call [.null, message, decoded]
      | .error (.unreadable reason) => do
          Action.debug ("Response body is not JSON: " ++ reason)
          inner.call [.problem .bodyNotJson, .null, .null]
      | .error .tooManyDigits => throw .badValue
      | .error .tooDeep => throw .tooDeep := rfl

/-- A decoding callback makes the callbacks for a text, and fails if there are none. -/
theorem run_call_decoding (json : Value) (response : Http.Response) (text : String)
    (session : Session) :
    ∃ lines, ((callbackOf true).call [.null, .response response, .text text]).run session =
      ((limitFailure? text).elim (.ok session.callbackResult) .error,
        Session.noting
          { session with delivered := session.delivered ++ deliveries true json response text }
          lines) := by
  rw [show callbackOf true = .decoding (.caller true) from rfl, decoding_call_eq]
  have read : isRead true json text = true := rfl
  cases parsed : Json.parse text with
  | ok value =>
      refine ⟨[], ?_⟩
      simp only [decodeBody, limitFailure?, deliveries, refusal?, owed, read, parsed, if_true,
        Session.noting_nil]
      rfl
  | error fault =>
      cases fault with
      | tooManyDigits | tooDeep =>
          refine ⟨[], ?_⟩
          simp only [decodeBody, limitFailure?, deliveries, refusal?, read, parsed, if_true,
            List.append_nil, Session.noting_nil]
          rfl
      | malformed reason line column offset =>
          refine ⟨[.debug ("Response body is not JSON: "
            ++ (Json.Fault.malformed reason line column offset).message)], ?_⟩
          simp only [decodeBody, limitFailure?, deliveries, refusal?, owed, read, parsed, if_true]
          rfl
      | undecodable damage =>
          refine ⟨[.debug ("Response body is not JSON: "
            ++ (Json.Fault.undecodable damage).message)], ?_⟩
          simp only [decodeBody, limitFailure?, deliveries, refusal?, owed, read, parsed, if_true]
          rfl

/-- **A callback is given what it is owed once, or the call fails at a limit of the reader.** -/
theorem run_report {response : Http.Response} {text : String}
    (readable : response.text = .ok text) (order : Order) (options : Entries) (decoding : Bool)
    (session : Session) :
    ∃ lines, (report order options (some (callbackOf decoding)) response).run session =
      ((refusal? decoding (Options.get options "json") text).elim (.ok (.response response)) .error,
        Session.noting
          { session with
            delivered := session.delivered
              ++ deliveries decoding (Options.get options "json") response text }
          lines) := by
  unfold report
  rw [Action.debug, run_bind_ok (run_note _ _)]
  dsimp only
  generalize "HTTP " ++ toString response.status ++ " from " ++ order.method ++ " "
    ++ order.url.display = line
  cases decoding with
  | true =>
      rw [responseBody_decoding readable, run_bind_ok (run_ofExcept _ _)]
      generalize Options.get options "json" = json
      obtain ⟨lines, called⟩ :=
        run_call_decoding json response text (session.noting [.debug line])
      refine ⟨.debug line :: lines, ?_⟩
      rw [run_bind, called]
      have read : isRead true json text = true := rfl
      simp only [refusal?, read, if_true]
      rw [Session.noting_cons _ (.debug line) lines]
      cases limitFailure? text <;> rfl
  | false =>
      rw [responseBody_plain readable]
      generalize Options.get options "json" = json
      refine ⟨[.debug line], ?_⟩
      cases refused : refusal? false json text with
      | some failure =>
          simp only [Option.elim, deliveries, refused, List.append_nil]
          exact run_bind_error (run_ofExcept _ _)
      | none =>
          simp only [Option.elim, deliveries, refused]
          rfl

end WebTransport

/-! ## Calls of a client -/

omit [Runtime] in
/-- A callback that can be called is put behind a decoding one if the route decodes bodies. -/
theorem Route.callbackFor_callable (route : Route) {callback : Option Callback}
    (callable : callback = some (.caller true)) :
    route.callbackFor callback = some (WebTransport.callbackOf route.parseJson) := by
  rw [callable, Route.callbackFor]
  cases route.parseJson <;> rfl

/-- A call over the web makes the callbacks for the text of its response, and no others. -/
theorem Route.run_call {route : Route} {active : WebTransport} {arguments : CallArguments}
    (carried : route.transport = .web active)
    (callable : arguments.callback.bind Callback.ofHandle = some (.caller true))
    {start answered : Session} {answer : Answer} {response : Http.Response} {text : String}
    (answering : (route.answer active arguments).run start = (.ok answer, answered))
    (outcome : answer.outcome = .ok response) (readable : response.text = .ok text) :
    let json := Options.get answer.options "json"
    ∃ lines, (route.call arguments).run start =
      ((WebTransport.refusal? route.parseJson json text).elim (.ok (.response response)) .error,
        Session.noting
          { answered with
            delivered := start.delivered
              ++ WebTransport.deliveries route.parseJson json response text }
          lines) := by
  intro json
  have callback := Route.callbackFor_callable route callable
  have kept : answered.delivered = start.delivered := by
    have same := Route.keeps_answer route active arguments start
    rw [answering] at same
    exact congrArg Prod.fst same
  obtain ⟨lines, reported⟩ :=
    WebTransport.run_report readable answer.order answer.options route.parseJson answered
  refine ⟨lines, ?_⟩
  rw [Route.call_eq carried, run_bind_ok answering, callback, WebTransport.reportAnswer, outcome]
  dsimp only
  rw [reported, kept]

/-- A call over the web fails if the text of its response cannot be made out. -/
theorem Route.run_call_eq_error {route : Route} {active : WebTransport} {arguments : CallArguments}
    (carried : route.transport = .web active)
    (callable : arguments.callback.bind Callback.ofHandle = some (.caller true))
    {start answered : Session} {answer : Answer} {response : Http.Response} {failure : Failure}
    (answering : (route.answer active arguments).run start = (.ok answer, answered))
    (outcome : answer.outcome = .ok response) (unreadable : response.text = .error failure) :
    ∃ lines, (route.call arguments).run start = (.error failure, answered.noting lines) := by
  have callback := Route.callbackFor_callable route callable
  have failed : WebTransport.responseBody response answer.options
      (WebTransport.callbackOf route.parseJson) = .error failure := by
    rw [WebTransport.responseBody, unreadable]
    rfl
  rw [Route.call_eq carried, run_bind_ok answering, callback, WebTransport.reportAnswer, outcome]
  dsimp only
  unfold WebTransport.report
  rw [Action.debug, run_bind_ok (run_note _ _)]
  dsimp only
  rw [failed, run_bind_error (run_ofExcept _ _)]
  exact ⟨_, rfl⟩

namespace WebTransport

/-- A text is too deep to be delivered when it is read and nests containers beyond the limit. -/
def TooDeepToRead (decoding : Bool) (json : Value) (text : String) : Prop :=
  isRead decoding json text = true ∧ Json.parse text = .error .tooDeep

theorem refusal?_of_tooDeepToRead {decoding : Bool} {json : Value} {text : String}
    (deep : TooDeepToRead decoding json text) : refusal? decoding json text = some .tooDeep := by
  simp only [refusal?, limitFailure?, deep.1, deep.2, if_true]

/-- Without overlong integers the reader fails only on texts that are too deep. -/
theorem refusal?_eq_none {decoding : Bool} {json : Value} {text : String}
    (short : Json.parse text ≠ .error .tooManyDigits)
    (shallow : ¬TooDeepToRead decoding json text) : refusal? decoding json text = none := by
  unfold refusal?
  split
  · rename_i read
    unfold limitFailure?
    split
    · rename_i overlong
      exact absurd overlong short
    · rename_i deep
      exact absurd ⟨read, deep⟩ shallow
    · rfl
  · rfl

end WebTransport

open WebTransport in
/-- **A callback gets what it is owed exactly when the text is not too deep to be read.** -/
theorem Client.delivered_iff {config : ClientConfig} {sender : WebTransport} {client : Client}
    {session created : Session} {name : String} {route : Route} {arguments : CallArguments}
    (creation : (Client.create config (.web sender)).run session = (.ok client, created))
    (found : client.route? name = some route)
    (callable : arguments.callback.bind Callback.ofHandle = some (.caller true)) :
    ∃ active, route.transport = .web active ∧ active.dryRun = sender.dryRun ∧
      ∀ start answered answer response text,
        (route.answer active arguments).run start = (.ok answer, answered) →
        answer.outcome = .ok response → response.text = .ok text →
        Json.parse text ≠ .error .tooManyDigits →
        let json := Options.get answer.options "json"
        let final := (route.call arguments).run start
        (final.2.delivered = start.delivered ++ [owed config.parseJson json response text]
            ↔ ¬TooDeepToRead config.parseJson json text) ∧
          (¬TooDeepToRead config.parseJson json text →
            final.1 = .ok (.response response)) ∧
          (TooDeepToRead config.parseJson json text →
            final.1 = .error .tooDeep ∧ final.2.delivered = start.delivered) := by
  obtain ⟨decodes, active, carried, dry⟩ := web_of_create creation found
  refine ⟨active, carried, dry, ?_⟩
  intro start answered answer response text answering outcome readable short json final
  obtain ⟨lines, run⟩ := Route.run_call carried callable answering outcome readable
  rw [decodes] at run
  have result : final.1 = (refusal? config.parseJson json text).elim
      (.ok (.response response)) .error := by
    rw [show final = _ from run]
  have delivered : final.2.delivered
      = start.delivered ++ deliveries config.parseJson json response text := by
    rw [show final = _ from run]
    rfl
  rw [result, delivered]
  by_cases deep : TooDeepToRead config.parseJson json text
  · have failed := refusal?_of_tooDeepToRead deep
    have nothing : deliveries config.parseJson json response text = [] := by
      rw [deliveries, failed]
    rw [failed, nothing, List.append_nil]
    refine ⟨⟨fun given => ?_, fun shallow => absurd deep shallow⟩,
      fun shallow => absurd deep shallow, fun _ => ⟨rfl, rfl⟩⟩
    exact absurd (List.self_eq_append_right.mp given) (List.cons_ne_nil _ _)
  · have accepted := refusal?_eq_none short deep
    have given : deliveries config.parseJson json response text
        = [owed config.parseJson json response text] := by
      rw [deliveries, accepted]
    rw [accepted, given]
    exact ⟨⟨fun _ => deep, fun _ => rfl⟩, fun _ => rfl, fun read => absurd read deep⟩

end Runtimes

/-! ## A page for a client -/

attribute [local instance] Runtime.usual

/-- A configuration with one route, whose bodies are decoded. -/
def pageConfig : ClientConfig where
  root := "http://h"
  parseJson := true
  encodeValues := false
  requestDefaults := none
  declarations := ⟨[], [("page", .template "/page")], [], [], [], []⟩

/-- The route of that configuration, over the web. -/
def pageRoute : Route where
  root := "http://h"
  pattern := Template.parse "/page"
  method := .get
  transport := .web ⟨[], false⟩
  options := .object 0
  parseJson := true
  encodeValues := false
  name := "page"

/-- A call with a callback and nothing else. -/
def pageArguments : CallArguments := ⟨none, none, none, some (.atom (.foreign "function"))⟩

/-- A response with a page. -/
def pageResponse (page : List UInt8) : Http.Response := ⟨200, [], page⟩

/-- The run that makes the client where the network has a page ready. -/
def pageCreation (page : List UInt8) : Except Failure Client × Session :=
  (Client.create pageConfig (.web ⟨[], false⟩)).run
    { Session.empty with replies := [.response (pageResponse page)] }

/-- Whether an answer is a response with a page. -/
def Answer.isPage (page : List UInt8) (answer : Answer) : Bool :=
  answer.outcome.toOption == some (pageResponse page)

theorem Answer.outcome_of_isPage {page : List UInt8} {answer : Answer}
    (given : answer.isPage page = true) : answer.outcome = .ok (pageResponse page) :=
  eq_ok_of_toOption (eq_of_beq given)

open WebTransport in
/-- A list on a page is decoded once. -/
theorem Client.delivered_iff_list :
    (pageCreation [91, 49, 93]).1 = .ok ⟨[("page", pageRoute)]⟩ ∧
      ((pageRoute.call pageArguments).run (pageCreation [91, 49, 93]).2).2.delivered
        = [[.null, .response (pageResponse [91, 49, 93]), .list [.int 1]]] := by
  have parsed : Json.parse "[1]" = .ok (.list [.int 1]) := rfl
  have answers : ((pageRoute.answer ⟨[], false⟩ pageArguments).run
      (pageCreation [91, 49, 93]).2).1.toOption.any (Answer.isPage [91, 49, 93]) = true := by
    decide +kernel
  obtain ⟨answer, answered, answering, page⟩ := exists_of_any answers
  have outcome := Answer.outcome_of_isPage page
  have readable : (pageResponse [91, 49, 93]).text = .ok "[1]" :=
    eq_ok_of_toOption (by decide +kernel)
  have creation : pageCreation [91, 49, 93]
      = (.ok ⟨[("page", pageRoute)]⟩, (pageCreation [91, 49, 93]).2) := rfl
  have found : Client.route? ⟨[("page", pageRoute)]⟩ "page" = some pageRoute := rfl
  have callable : pageArguments.callback.bind Callback.ofHandle = some (.caller true) := rfl
  obtain ⟨active, carried, -, given⟩ := Client.delivered_iff creation found callable
  cases carried
  have short : Json.parse "[1]" ≠ .error .tooManyDigits := by
    rw [parsed]
    nofun
  have shallow : ¬TooDeepToRead pageConfig.parseJson (Options.get answer.options "json") "[1]" := by
    rintro ⟨-, deep⟩
    rw [parsed] at deep
    cases deep
  exact ⟨rfl, (given _ _ _ _ _ answering outcome readable short).1.mpr shallow⟩

open WebTransport in
/-- Brackets that only open are no JSON and no integer, but there is no callback to say so. -/
theorem Client.not_delivered_brackets :
    (pageCreation (List.replicate 1000 91)).1 = .ok ⟨[("page", pageRoute)]⟩ ∧
      Json.parse (String.ofList (List.replicate 1000 '[')) = .error .tooDeep ∧
      owed pageConfig.parseJson .null (pageResponse (List.replicate 1000 91))
          (String.ofList (List.replicate 1000 '['))
        = [.problem .bodyNotJson, .null, .null] ∧
      ((pageRoute.call pageArguments).run
        (pageCreation (List.replicate 1000 91)).2).2.delivered = [] := by
  have deep : Json.parse (String.ofList (List.replicate 1000 '[')) = .error .tooDeep :=
    Json.parse_brackets (by decide)
  have answers : ((pageRoute.answer ⟨[], false⟩ pageArguments).run
      (pageCreation (List.replicate 1000 91)).2).1.toOption.any
        (Answer.isPage (List.replicate 1000 91)) = true := by
    decide +kernel
  obtain ⟨answer, answered, answering, page⟩ := exists_of_any answers
  have outcome := Answer.outcome_of_isPage page
  have readable : (pageResponse (List.replicate 1000 91)).text
      = .ok (String.ofList (List.replicate 1000 '[')) := eq_ok_of_toOption (by decide +kernel)
  obtain ⟨lines, run⟩ := Route.run_call rfl rfl answering outcome readable
  refine ⟨rfl, deep, ?_, ?_⟩
  · rw [owed, deep]
    rfl
  · have refused : refusal? pageRoute.parseJson (Options.get answer.options "json")
        (String.ofList (List.replicate 1000 '[')) = some .tooDeep :=
      refusal?_of_tooDeepToRead ⟨rfl, deep⟩
    rw [run]
    dsimp only
    rw [deliveries, refused]
    rfl

end Routebook

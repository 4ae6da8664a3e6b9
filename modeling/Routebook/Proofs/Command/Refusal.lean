import Routebook.Command.Program
import Routebook.Proofs.Http.Reply
import Routebook.Proofs.Transport.Delivery

/-!
# Refused calls

A call from the command line that ends in a response with an error status prints no data, and its
exit status is the one for the status of the response exactly when the body of the response is
legible (`Program.refused_iff`).  A body is legible without decoding when its text can be made out
and, if the options ask for its value, passes no limit of the reader.  With decoding it has to be
JSON: an error page that is not ends the command as an unreadable body, whatever its status.
-/

namespace Routebook

set_option autoImplicit false

open Routebook.Action

section Runtimes

variable [Runtime]

/-! ## What happens before the call -/

section Loading

variable {γ : Type} {view : Session → γ} [IgnoresTraffic view]

namespace Source

theorem keeps_fetch (address : String) : Keeps view (fetch address) := by
  refine Keeps.bind (Keeps.ofExcept _) fun url => ?_
  refine Keeps.bind (Keeps.ofExcept _) fun resolved => ?_
  refine Keeps.bind (Keeps.ofExcept _) fun request => ?_
  refine Keeps.bind (Http.keeps_follow _ _ _ _ _) fun outcome => ?_
  cases outcome with
  | error reason => exact Keeps.throw _
  | ok response =>
      dsimp only
      split
      · exact Keeps.throw_bind _ _
      · exact Keeps.bind (Keeps.ofExcept _) fun _ => Keeps.ofExcept _

theorem keeps_load (surroundings : Surroundings) (source : String) :
    Keeps view (load surroundings source) := by
  have document : Keeps view (readDocument surroundings source) := by
    unfold readDocument
    split
    · exact Keeps.ofExcept _
    · split
      · exact keeps_fetch source
      · exact Keeps.ofExcept _
  refine Keeps.bind document fun entries => ?_
  split
  · exact Keeps.pure _
  · exact Keeps.throw _

end Source

namespace Program

theorem keeps_loadConfig (surroundings : Surroundings) (named : Option String) :
    Keeps view (loadConfig surroundings named) := by
  refine Keeps.bind (Keeps.ofExcept _) fun source => ?_
  exact Keeps.bind (keeps_note _) fun _ => Source.keeps_load surroundings source

end Program

end Loading

/-- The session in which a command runs: output is written as the switches ask for. -/
def Session.opened (session : Session) (surroundings : Surroundings)
    (switches : CommandLine.Switches) : Session :=
  { session with output := Program.outputFor surroundings switches }

namespace Program

omit [Runtime] in
theorem keeps_loadEntries (entries : Entries) : Keeps visible (loadEntries entries) :=
  Keeps.bind_get fun _ => rfl

theorem keeps_callArguments (route : Route) (arguments : List String) (body : Option String)
    (options : List String) : Keeps visible (callArguments route arguments body options) := by
  refine Keeps.bind (Keeps.ofExcept _) fun pathEntries => ?_
  refine Keeps.bind (Keeps.ofExcept _) fun optionEntries => ?_
  refine Keeps.bind (keeps_loadEntries pathEntries) fun path => ?_
  exact Keeps.bind (keeps_loadEntries optionEntries) fun _ => Keeps.pure _

/-! ## A call that gets a response -/

/-- A call from the command line that gets as far as a response: the command line asks for it, the
configuration is loaded, a client is made of it, the route is there and takes the body, and the
arguments give an answer. -/
structure AnsweredCall (surroundings : Surroundings) (words : List String) (session : Session) where
  switches : CommandLine.Switches
  name : String
  config : Option String
  arguments : List String
  body : Option String
  options : List String
  parsed : CommandLine.parse words = .run switches (.call name config arguments body options)
  configuration : ClientConfig
  loaded : Session
  loading : (loadConfig surroundings config).run (session.opened surroundings switches)
    = (.ok configuration, loaded)
  client : Client
  created : Session
  creation : (Client.create configuration (.web ⟨[], switches.dryRun⟩)).run loaded
    = (.ok client, created)
  route : Route
  found : client.route? name = some route
  taken : (body.isSome && !route.method.hasBody) = false
  given : CallArguments
  prepared : Session
  giving : (callArguments route arguments body options).run created = (.ok given, prepared)
  sender : WebTransport
  carried : route.transport = .web sender
  answer : Answer
  answered : Session
  answering : (route.answer sender given).run prepared = (.ok answer, answered)
  response : Http.Response
  outcome : answer.outcome = .ok response

/-- The call of a command line, if it gets as far as a response. -/
def AnsweredCall.of? (surroundings : Surroundings) (words : List String) (session : Session) :
    Option (AnsweredCall surroundings words session) :=
  match parsed : CommandLine.parse words with
  | .run switches (.call name config arguments body options) =>
      match loading : (loadConfig surroundings config).run
          (session.opened surroundings switches) with
      | (.error _, _) => none
      | (.ok configuration, loaded) =>
          match creation : (Client.create configuration (.web ⟨[], switches.dryRun⟩)).run loaded with
          | (.error _, _) => none
          | (.ok client, created) =>
              match found : client.route? name with
              | none => none
              | some route =>
                  match taken : body.isSome && !route.method.hasBody with
                  | true => none
                  | false =>
                      match giving : (callArguments route arguments body options).run created with
                      | (.error _, _) => none
                      | (.ok given, prepared) =>
                          match carried : route.transport with
                          | .recording _ => none
                          | .web sender =>
                              match answering : (route.answer sender given).run prepared with
                              | (.error _, _) => none
                              | (.ok answer, answered) =>
                                  match outcome : answer.outcome with
                                  | .error _ => none
                                  | .ok response =>
                                      some { switches, name, config, arguments, body, options,
                                             parsed, configuration, loaded, loading, client,
                                             created, creation, route, found, taken, given,
                                             prepared, giving, sender, carried, answer, answered,
                                             answering, response, outcome }
  | _ => none

/-- Whether a text can be decoded if it is to be. -/
def Decodes (decoding : Bool) (text : String) : Prop :=
  decoding = true → ∃ value, Json.parse text = .ok value

/-- Whether the body of a response can be handed on: its text can be made out, the reader does not
fail at its limits, and with decoding the text is JSON. -/
def Legible (decoding : Bool) (json : Value) (response : Http.Response) : Prop :=
  ∃ text, response.text = .ok text ∧
    WebTransport.refusal? decoding json text = none ∧ Decodes decoding text

/-- A body whose text can be made out is legible if the reader does not fail and decoding succeeds.
-/
theorem legible_iff {decoding : Bool} {json : Value} {response : Http.Response} {text : String}
    (readable : response.text = .ok text) :
    Legible decoding json response
      ↔ WebTransport.refusal? decoding json text = none ∧ Decodes decoding text := by
  constructor
  · rintro ⟨found, read, legible⟩
    rw [readable] at read
    cases read
    exact legible
  · exact fun legible => ⟨text, readable, legible⟩

variable {surroundings : Surroundings} {words : List String} {session : Session}

namespace AnsweredCall

/-- Whether the body of the response to a call is legible. -/
def BodyLegible (call : AnsweredCall surroundings words session) : Prop :=
  Legible call.configuration.parseJson (Options.get call.answer.options "json") call.response

/-- The command that the command line asks for. -/
def command (call : AnsweredCall surroundings words session) : CommandLine.Command :=
  .call call.name call.config call.arguments call.body call.options

/-- The callback of the command can be called. -/
theorem callable (call : AnsweredCall surroundings words session) :
    call.given.callback.bind Callback.ofHandle = some (.caller true) := by
  have yields : Yields (fun given => given.callback = some (.atom (.foreign "function")))
      (callArguments call.route call.arguments call.body call.options) := by
    refine Yields.bind (Yields.trivial _) fun pathEntries _ => ?_
    refine Yields.bind (Yields.trivial _) fun optionEntries _ => ?_
    refine Yields.bind (Yields.trivial _) fun path _ => ?_
    exact Yields.bind (Yields.trivial _) fun options _ => Yields.pure rfl
  rw [yields _ _ _ call.giving]
  rfl

theorem visible_prepared (call : AnsweredCall surroundings words session) :
    visible call.prepared = visible session := by
  have loading : visible _ = _ := keeps_loadConfig surroundings call.config
    (session.opened surroundings call.switches)
  have creation := Client.keeps_create call.configuration (.web ⟨[], call.switches.dryRun⟩)
    call.loaded
  have giving := keeps_callArguments call.route call.arguments call.body call.options call.created
  rw [call.loading] at loading
  rw [call.creation] at creation
  rw [call.giving] at giving
  exact giving.trans (creation.trans loading)

/-- The command runs the call of the route and then reports what the callback was given. -/
theorem run_perform (call : AnsweredCall surroundings words session) :
    (perform surroundings call.switches.dryRun call.command).run
        (session.opened surroundings call.switches) =
      (do
        let _ ← call.route.call call.given
        reportOutcome ((← get).delivered.getLast?.getD [])).run call.prepared := by
  have found : findRoute call.client call.name = .ok call.route := by
    rw [findRoute, call.found]
  unfold perform command callRoute
  dsimp only
  rw [run_bind_ok call.loading, run_bind_ok call.creation, found, run_bind_ok (run_ofExcept _ _)]
  simp only [call.taken, Bool.false_eq_true, if_false]
  rw [run_bind_ok call.giving]

end AnsweredCall

/-! ## How the command ends -/

/-- A response with an error status ends the command with the status and prints nothing. -/
theorem run_reportOutcome_refused {response : Http.Response} (refusal : 400 ≤ response.status)
    (body : Value) (session : Session) :
    ∃ lines, (reportOutcome [.null, .response response, body]).run session
      = (.error (.problem (.statusRefused response.status (refusalDetail body))),
        session.noting lines) := by
  simp only [reportOutcome, reportStatus, refusal, if_true]
  split
  · exact ⟨_, rfl⟩
  · exact ⟨_, rfl⟩

/-- What a callback is owed for an error status ends the command with the status, unless decoding
fails. -/
theorem run_reportOutcome_owed {response : Http.Response} (refusal : 400 ≤ response.status)
    (decoding : Bool) (json : Value) (text : String) (session : Session) :
    ∃ failure lines,
      (reportOutcome (WebTransport.owed decoding json response text)).run session
        = (.error failure, session.noting lines) ∧
      ((Decodes decoding text ∧
          ∃ detail, failure = .problem (.statusRefused response.status detail)) ∨
        (¬Decodes decoding text ∧ failure = .problem .bodyNotJson)) := by
  cases decoding with
  | false =>
      obtain ⟨lines, run⟩ :=
        run_reportOutcome_refused refusal (WebTransport.plainBody json text) session
      exact ⟨_, lines, run, .inl ⟨nofun, _, rfl⟩⟩
  | true =>
      cases parsed : Json.parse text with
      | ok value =>
          obtain ⟨lines, run⟩ := run_reportOutcome_refused refusal value session
          refine ⟨_, lines, ?_, .inl ⟨fun _ => ⟨value, parsed⟩, refusalDetail value, rfl⟩⟩
          rw [WebTransport.owed, if_pos rfl, parsed]
          exact run
      | error fault =>
          refine ⟨.problem .bodyNotJson, [], ?_, .inr ⟨fun decodable => ?_, rfl⟩⟩
          · rw [WebTransport.owed, if_pos rfl, parsed, Session.noting_nil]
            rfl
          · obtain ⟨value, same⟩ := decodable rfl
            rw [parsed] at same
            cases same

/-- The failures of a reader at its limits are no problems. -/
theorem refusal?_ne_problem {decoding : Bool} {json : Value} {text : String} {failure : Failure}
    (refused : WebTransport.refusal? decoding json text = some failure) (cause : Problem) :
    failure ≠ .problem cause := by
  unfold WebTransport.refusal? WebTransport.limitFailure? at refused
  split at refused
  · split at refused
    · cases refused
      nofun
    · cases refused
      nofun
    · cases refused
  · cases refused

/-- How a call with an error status ends: with the status if the body is legible, and otherwise with
an unreadable body or with a failure that is no problem. -/
def EndsAs (call : AnsweredCall surroundings words session) (failure : Failure) : Prop :=
  (call.BodyLegible ∧ ∃ detail, failure = .problem (.statusRefused call.response.status detail)) ∨
    (¬call.BodyLegible ∧ (failure = .problem .bodyNotJson ∨ ∀ cause, failure ≠ .problem cause))

/-- **A call with an error status fails and prints nothing.** -/
theorem exists_failure (call : AnsweredCall surroundings words session)
    (refusal : 400 ≤ call.response.status) :
    ∃ failure final,
      (perform surroundings call.switches.dryRun call.command).run
          (session.opened surroundings call.switches)
        = (.error failure, final) ∧ final.printed = session.printed ∧ EndsAs call failure := by
  have decodes : call.route.parseJson = call.configuration.parseJson :=
    (Client.web_of_create call.creation call.found).1
  have printed : call.answered.printed = session.printed := by
    have kept := Route.keeps_answer call.route call.sender call.given call.prepared
    rw [call.answering] at kept
    exact congrArg (fun seen => seen.2.2) (kept.trans call.visible_prepared)
  rw [call.run_perform]
  cases readable : call.response.text with
  | error failure =>
      obtain ⟨lines, run⟩ :=
        Route.run_call_eq_error call.carried call.callable call.answering call.outcome readable
      refine ⟨failure, _, run_bind_error run, printed, .inr ⟨?_, .inr ?_⟩⟩
      · rintro ⟨text, read, -⟩
        rw [readable] at read
        cases read
      · intro cause same
        exact (Http.unreported_text call.response).error readable cause same
  | ok text =>
      obtain ⟨lines, run⟩ :=
        Route.run_call call.carried call.callable call.answering call.outcome readable
      rw [decodes] at run
      have legible : call.BodyLegible ↔ _ := legible_iff readable
      cases refused : WebTransport.refusal? call.configuration.parseJson
          (Options.get call.answer.options "json") text with
      | some failure =>
          rw [refused] at run legible
          refine ⟨failure, _, run_bind_error run, printed, .inr ⟨?_, .inr ?_⟩⟩
          · exact fun body => Option.some_ne_none _ (legible.mp body).1
          · exact refusal?_ne_problem refused
      | none =>
          rw [refused] at run legible
          have given : WebTransport.deliveries call.configuration.parseJson
              (Options.get call.answer.options "json") call.response text
              = [WebTransport.owed call.configuration.parseJson
                (Options.get call.answer.options "json") call.response text] := by
            rw [WebTransport.deliveries, refused]
          rw [given] at run
          rw [run_bind_ok run, run_bind_ok (run_get _)]
          dsimp only [Session.noting]
          rw [List.getLast?_concat, Option.getD_some]
          obtain ⟨failure, lines, reported, ending⟩ := run_reportOutcome_owed refusal
            call.configuration.parseJson (Options.get call.answer.options "json") text _
          refine ⟨failure, _, reported, printed, ?_⟩
          rcases ending with ⟨decodable, status⟩ | ⟨undecodable, unreadable⟩
          · exact .inl ⟨legible.mpr ⟨rfl, decodable⟩, status⟩
          · exact .inr ⟨fun body => undecodable (legible.mp body).2, .inl unreadable⟩

/-! ## Exit statuses -/

/-- The exit status for the status of a refusal. -/
def refusalCode (status : Nat) : Int :=
  if status = 401 ∨ status = 403 then 3 else if status = 404 then 4 else 5

omit [Runtime] in
theorem exitCode_statusRefused (status : Nat) (detail : String) :
    (Problem.statusRefused status detail).exitCode = refusalCode status := by
  simp only [Problem.exitCode, Problem.kind, statusKind, refusalCode, Bool.or_eq_true, beq_iff_eq]
  split
  · rfl
  · split <;> rfl

omit [Runtime] in
/-- The exit status for a refusal is neither the one for any failure nor the one for an unreadable
body. -/
theorem refusalCode_ne (status : Nat) : refusalCode status ≠ 1 ∧ refusalCode status ≠ 8 := by
  unfold refusalCode
  split
  · decide
  · split <;> decide

omit [Runtime] in
/-- A failure that is no problem has the exit status for any failure. -/
theorem failureEnding_of_ne {failure : Failure} (other : ∀ cause, failure ≠ .problem cause) :
    (failureEnding failure).1 = 1 := by
  cases failure with
  | problem cause => exact absurd rfl (other cause)
  | _ => rfl

/-- A command that fails with nothing printed. -/
theorem runCommand_of_error {switches : CommandLine.Switches} {command : CommandLine.Command}
    {final : Session} {failure : Failure}
    (failed : (perform surroundings switches.dryRun command).run
      (session.opened surroundings switches) = (.error failure, final)) (nothing : final.printed = []) :
    (runCommand surroundings switches command session).1.exitCode = (failureEnding failure).1 ∧
      (runCommand surroundings switches command session).1.stdout = "" := by
  unfold Session.opened at failed
  have joined : String.join final.printed = "" := by rw [nothing]; rfl
  unfold runCommand
  rw [failed]
  exact ⟨rfl, joined⟩

/-- **A call that is refused prints nothing, and its exit status is the one for the refusal exactly
when the body is legible.** -/
theorem refused_iff (call : AnsweredCall surroundings words session) (fresh : session.printed = [])
    (refusal : 400 ≤ call.response.status) :
    let ending := (run surroundings words session).1
    ending.stdout = "" ∧
      (ending.exitCode = refusalCode call.response.status ↔ call.BodyLegible) ∧
      (¬call.BodyLegible → ending.exitCode = 8 ∨ ending.exitCode = 1) := by
  intro ending
  obtain ⟨failure, final, failed, kept, endsAs⟩ := exists_failure call refusal
  obtain ⟨exitCode, stdout⟩ := runCommand_of_error failed (kept.trans fresh)
  have ended : ending = (runCommand surroundings call.switches call.command session).1 := by
    simp only [ending, run, call.parsed, AnsweredCall.command]
  rw [ended, exitCode, stdout]
  refine ⟨rfl, ?_⟩
  have distinct := refusalCode_ne call.response.status
  rcases endsAs with ⟨legible, detail, rfl⟩ | ⟨illegible, rfl | other⟩
  · have code : (failureEnding (.problem (.statusRefused call.response.status detail))).1
        = refusalCode call.response.status := exitCode_statusRefused _ _
    exact ⟨⟨fun _ => legible, fun _ => code⟩, fun illegible => absurd legible illegible⟩
  · have code : (failureEnding (.problem .bodyNotJson)).1 = 8 := rfl
    rw [code]
    exact ⟨⟨fun same => absurd same.symm distinct.2, fun legible => absurd legible illegible⟩,
      fun _ => .inl rfl⟩
  · rw [failureEnding_of_ne other]
    exact ⟨⟨fun same => absurd same.symm distinct.1, fun legible => absurd legible illegible⟩,
      fun _ => .inr rfl⟩

end Program

end Runtimes

namespace Program

/-! ## A page that is missing -/

attribute [local instance] Runtime.usual

/-- Surroundings with a configuration on standard input whose one route decodes bodies. -/
def pageSurroundings : Surroundings where
  files := ⟨"/work", "/work", [], []⟩
  environment := []
  input := "\x7b\"root\":\"http://h\",\"parseJson\":true,\"get\":\x7b\"page\":\"/page\"\x7d\x7d"
  terminal := false
  width := 80

/-- A command line that calls that route. -/
def pageWords : List String := ["call", "page", "-c", "-"]

/-- A session in which the network answers that a page is missing, with some text. -/
def missingSession (text : String) : Session :=
  { Session.empty with replies := [.response ⟨404, [], Text.utf8Encode text.toList⟩] }

/-- Whether a call gets a missing page with a given text. -/
def AnsweredCall.isMissing {surroundings : Surroundings} {words : List String} {session : Session}
    (text : String) (call : AnsweredCall surroundings words session) : Bool :=
  call.configuration.parseJson && call.response.status == 404
    && call.response.text.toOption == some text

/-- A missing page that is JSON is refused with the status for it. -/
theorem refused_iff_list :
    ∃ call : AnsweredCall pageSurroundings pageWords (missingSession "[]"),
      call.configuration.parseJson = true ∧ call.response.status = 404 ∧
      (run pageSurroundings pageWords (missingSession "[]")).1.stdout = "" ∧
      (run pageSurroundings pageWords (missingSession "[]")).1.exitCode = 4 := by
  have answered : (AnsweredCall.of? pageSurroundings pageWords (missingSession "[]")).any
      (AnsweredCall.isMissing "[]") = true := by
    decide +kernel
  obtain ⟨call, -, missing⟩ := (Option.any_eq_true _ _).mp answered
  obtain ⟨switched, text⟩ := (Bool.and_eq_true _ _).mp missing
  obtain ⟨decodes, found⟩ := (Bool.and_eq_true _ _).mp switched
  have status : call.response.status = 404 := eq_of_beq found
  have readable : call.response.text = .ok "[]" := eq_ok_of_toOption (eq_of_beq text)
  have parsed : Json.parse "[]" = .ok (.list []) := rfl
  have legible : call.BodyLegible := by
    refine (legible_iff readable).mpr ⟨?_, fun _ => ⟨_, parsed⟩⟩
    rw [WebTransport.refusal?, WebTransport.limitFailure?, parsed, ite_self]
  have refusal : 400 ≤ call.response.status := by
    rw [status]
    decide
  obtain ⟨stdout, exitCode, -⟩ := refused_iff call rfl refusal
  refine ⟨call, decodes, status, stdout, (exitCode.mpr legible).trans ?_⟩
  rw [status]
  rfl

/-- A missing page that is not JSON is refused as an unreadable body, whatever its status. -/
theorem not_refused_markup :
    (AnsweredCall.of? pageSurroundings pageWords (missingSession "<html>")).any
        (AnsweredCall.isMissing "<html>") = true ∧
      refusalCode 404 = 4 ∧
      (run pageSurroundings pageWords (missingSession "<html>")).1.exitCode = 8 := by
  refine ⟨?_, rfl, ?_⟩
  · decide +kernel
  · decide +kernel

end Program

end Routebook

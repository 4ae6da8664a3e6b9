import Routebook.Config.Source
import Routebook.Proofs.Config.Document
import Routebook.Proofs.Http.Exchange
import Routebook.Proofs.Text.Utf8

/-!
# Loading a configuration

Loading is to end with a configuration whose root is not blank, or with a problem with the
configuration.  It does so unless the failure of a stage gets past the loader
(`Source.load_promise_iff`): a path that no file can have, bytes that are no text, an address that
cannot be asked, a response that is no text, or a document that gets past its reader.
-/

namespace Routebook

set_option autoImplicit false

section Runtimes

variable [Runtime]

/-! ## Roots -/

namespace Schema

omit [Runtime] in
theorem outcome_checkRoot (place : List Place) (value : Value) :
    Outcome (fun _ => True) (fun root => Text.isBlankText root = false) (checkRoot place value) := by
  unfold checkRoot
  split
  · exact trivial
  · split
    · exact trivial
    · rename_i filled
      exact Bool.eq_false_iff.mpr filled

/-- A configuration that passes the check has a root that is not blank. -/
theorem isBlankText_root {entries : Entries} {config : ClientConfig}
    (passed : check entries = .ok config) : Text.isBlankText config.root = false := by
  have given : ∀ place, Outcome (fun _ => True) (fun root => Text.isBlankText root = false)
      (required place entries "root" "root" checkRoot) := by
    intro place
    unfold required
    split
    · exact outcome_checkRoot _ _
    · exact trivial
  unfold check at passed
  dsimp only at passed
  split at passed
  · rename_i root _ _ _ _ _ _ _ _ _ found _ _ _ _ _ _ _ _ _
    cases passed
    exact (given []).ok found
  · cases passed

end Schema

namespace Source

open Routebook.Action

/-! ## Standard input -/

/-- The failures that get past the reading of standard input. -/
def InputEscapes (surroundings : Surroundings) (failure : Failure) : Prop :=
  Text.isBlankText surroundings.input = false ∧
    Document.Escapes .unknown surroundings.input failure

theorem letsOut_readInput (surroundings : Surroundings) :
    LetsOut (InputEscapes surroundings) (readInput surroundings) := by
  unfold readInput InputEscapes
  cases Text.isBlankText surroundings.input with
  | true => exact .problem rfl nofun
  | false => exact (Document.letsOut_read _ _ _).congr fun failure => and_iff_right rfl

/-! ## Files -/

/-- The content of a file that holds a text. -/
def contentOf (text : List Char) : String := String.ofList (unifyLines text)

/-- The failures that get past the bytes of a file: that they are those of no text, and those of the
document in the text. -/
inductive BytesEscapes (path : String) (bytes : List UInt8) : Failure → Prop
  | foreign (foreign : ∀ text, Text.utf8Encode text ≠ bytes) : BytesEscapes path bytes .undecodable
  | document {text : List Char} {failure : Failure} (written : Text.utf8Encode text = bytes)
      (filled : Text.isBlankText (contentOf text) = false)
      (escapes : Document.Escapes (hintOfSuffix (pathSuffix path)) (contentOf text) failure) :
      BytesEscapes path bytes failure

/-- The failures that get past the reading of a file: those of a path that no file can have, and
those of the bytes in the file. -/
inductive FileEscapes (files : Files) (path : String) : Failure → Prop
  | path {failure : Failure} (refused : files.read? path = .error failure) :
      FileEscapes files path failure
  | bytes {bytes : List UInt8} {failure : Failure} (found : files.read? path = .ok (some bytes))
      (escapes : BytesEscapes path bytes failure) : FileEscapes files path failure

/-- The document that the bytes of a file hold. -/
def documentOf (path : String) (bytes : List UInt8) : Except Failure Entries :=
  match Text.utf8Decode bytes with
  | .error _ => .error .undecodable
  | .ok text =>
      if Text.isBlankText (contentOf text) then .error (.problem (.fileBlank path))
      else Document.read (hintOfSuffix (pathSuffix path)) path (contentOf text)

theorem letsOut_documentOf (path : String) (bytes : List UInt8) :
    LetsOut (BytesEscapes path bytes) (documentOf path bytes) := by
  unfold documentOf
  cases decoded : Text.utf8Decode bytes with
  | error damage =>
      have foreign : ∀ text, Text.utf8Encode text ≠ bytes := by
        intro text written
        cases decoded.symm.trans (Text.utf8Decode_eq_ok_iff.mpr written)
      refine .failure nofun (.foreign foreign) ?_
      rintro failure (_ | ⟨written, -, -⟩)
      · rfl
      · exact absurd written (foreign _)
  | ok text =>
      have written := Text.utf8Decode_eq_ok_iff.mp decoded
      have same : ∀ failure, BytesEscapes path bytes failure ↔
          Text.isBlankText (contentOf text) = false ∧
            Document.Escapes (hintOfSuffix (pathSuffix path)) (contentOf text) failure := by
        refine fun failure => ⟨?_, fun ⟨filled, escapes⟩ => .document written filled escapes⟩
        rintro (foreign | ⟨others, filled, escapes⟩)
        · exact absurd written (foreign text)
        · cases (Text.utf8Decode_eq_ok_iff.mpr others).symm.trans decoded
          exact ⟨filled, escapes⟩
      refine LetsOut.congr ?_ same
      dsimp only
      split
      · rename_i blank
        rw [blank]
        exact .problem rfl nofun
      · rename_i filled
        rw [Bool.not_eq_true] at filled
        exact (Document.letsOut_read _ _ _).congr fun failure => and_iff_right filled

omit [Runtime] in
theorem unreported_homeOf (files : Files) (name : String) : Unreported (files.homeOf name) := by
  unfold Files.homeOf
  split
  · exact trivial
  · split
    · exact trivial
    · exact nofun

omit [Runtime] in
theorem unreported_locate (files : Files) (path : String) : Unreported (files.locate path) := by
  unfold Files.locate
  dsimp only
  split
  · exact trivial
  · split
    · split
      · exact (unreported_homeOf files _).map fun _ _ => trivial
      · exact trivial
    · exact trivial

omit [Runtime] in
/-- A path that no file can have is no problem that a caller is told about. -/
theorem unreported_read? (files : Files) (path : String) : Unreported (files.read? path) := by
  refine .bind (unreported_locate files path) fun names _ => ?_
  split
  · exact trivial
  · split
    · exact nofun
    · exact trivial

/-- The document of a file, if it is there. -/
def documentAt (path : String) : Option (List UInt8) → Except Failure Entries
  | none => .error (.problem (.fileMissing path))
  | some bytes => documentOf path bytes

theorem letsOut_documentAt (path : String) (content : Option (List UInt8)) :
    LetsOut (fun failure => ∃ bytes, content = some bytes ∧ BytesEscapes path bytes failure)
      (documentAt path content) := by
  cases content with
  | none => exact .problem rfl fun _ ⟨_, missing, _⟩ => by cases missing
  | some bytes =>
      refine (letsOut_documentOf path bytes).congr fun failure =>
        ⟨?_, fun escapes => ⟨bytes, rfl, escapes⟩⟩
      rintro ⟨_, ⟨⟩, escapes⟩
      exact escapes

/-- Reading a file finds it and reads the document in it. -/
theorem readFile_eq (files : Files) (path : String) :
    readFile files path = files.read? path >>= documentAt path := by
  unfold readFile documentAt
  rfl

theorem letsOut_readFile (files : Files) (path : String) :
    LetsOut (FileEscapes files path) (readFile files path) := by
  rw [readFile_eq]
  refine (LetsOut.bind (unreported_read? files path) fun content _ =>
    letsOut_documentAt path content).congr fun failure => ⟨?_, ?_⟩
  · rintro (refused | ⟨found, escapes⟩)
    · exact .inl refused
    · exact .inr ⟨_, found, _, rfl, escapes⟩
  · rintro (refused | ⟨_, found, _, rfl, escapes⟩)
    · exact .path refused
    · exact .bytes found escapes

/-! ## Addresses -/

/-- The request for the document at an address. -/
def requestFor (address : String) : Except Failure Http.Request := do
  let url ← Http.urlFailure (Http.Url.parse address)
  let resolved ← Http.urlFailure url.forRequest
  Http.Request.make "GET" resolved [] .nothing

/-- What the type of a response says about the format of the document in it. -/
def hintOf (response : Http.Response) : Document.Hint :=
  hintOfType ((response.headers.get? "content-type").getD "")

/-- The document that a response to an address holds. -/
def documentIn (address : String) (response : Http.Response) : Except Failure Entries :=
  if !Http.isSuccess response.status then throw (.problem (.fetchRefused response.status address))
  else response.text >>= Document.read (hintOf response) address

/-- The failures that get past a response: those of its text and those of the document in it. -/
inductive ResponseEscapes (response : Http.Response) : Failure → Prop
  | text {failure : Failure} (success : Http.isSuccess response.status = true)
      (refused : response.text = .error failure) : ResponseEscapes response failure
  | document {content : String} {failure : Failure}
      (success : Http.isSuccess response.status = true) (read : response.text = .ok content)
      (escapes : Document.Escapes (hintOf response) content failure) :
      ResponseEscapes response failure

theorem letsOut_documentIn (address : String) (response : Http.Response) :
    LetsOut (ResponseEscapes response) (documentIn address response) := by
  unfold documentIn
  cases success : Http.isSuccess response.status with
  | false =>
      refine .problem rfl ?_
      rintro failure (⟨good, -⟩ | ⟨good, -, -⟩)
      · cases success.symm.trans good
      · cases success.symm.trans good
  | true =>
      refine (LetsOut.bind (Http.unreported_text response) fun content _ =>
        Document.letsOut_read (hintOf response) address content).congr fun failure => ⟨?_, ?_⟩
      · rintro (⟨-, refused⟩ | ⟨-, read, escapes⟩)
        · exact .inl refused
        · exact .inr ⟨_, read, escapes⟩
      · rintro (refused | ⟨_, read, escapes⟩)
        · exact .text success refused
        · exact .document success read escapes

/-- The failures that get past the fetching of a document: those of an address that cannot be asked,
at once or in the course of the exchange, and those of the response at its end. -/
inductive FetchEscapes (address : String) (session : Session) : Failure → Prop
  | address {failure : Failure} (refused : requestFor address = .error failure) :
      FetchEscapes address session failure
  | exchange {request : Http.Request} {failure : Failure} (made : requestFor address = .ok request)
      (failed : ((Http.exchange fetchTimeout true request).run session).1 = .error failure) :
      FetchEscapes address session failure
  | response {request : Http.Request} {response : Http.Response} {failure : Failure}
      (made : requestFor address = .ok request)
      (answered : ((Http.exchange fetchTimeout true request).run session).1 = .ok (.ok response))
      (escapes : ResponseEscapes response failure) : FetchEscapes address session failure

/-- The document at the end of an exchange. -/
def documentAfter (address : String) : Except String Http.Response → Except Failure Entries
  | .error reason => .error (.problem (.fetchFailed address reason))
  | .ok response => documentIn address response

/-- Fetching a document asks for it and reads it at the end of the exchange. -/
theorem result_fetch (address : String) (session : Session) :
    ((fetch address).run session).1 = requestFor address >>= fun request =>
      ((Http.exchange fetchTimeout true request).run session).1 >>= documentAfter address := by
  have reads : ∀ outcome : Except String Http.Response,
      (match outcome with
        | .error reason => throw (.problem (.fetchFailed address reason))
        | .ok response => do
            if !Http.isSuccess response.status then
              throw (.problem (.fetchRefused response.status address))
            let contentType := (response.headers.get? "content-type").getD ""
            let text ← Action.ofExcept response.text
            Action.ofExcept (Document.read (hintOfType contentType) address text) : Action Entries)
        = Action.ofExcept (documentAfter address outcome) := by
    intro outcome
    cases outcome with
    | error reason => rfl
    | ok response =>
        unfold documentAfter documentIn
        dsimp only
        split
        · rfl
        · cases response.text with
          | error failure => rfl
          | ok text => rfl
  unfold fetch requestFor
  simp only [result_ofExcept_bind, bind_assoc]
  refine congrArg _ (funext fun url => congrArg _ (funext fun resolved =>
    congrArg _ (funext fun request => ?_)))
  refine Eq.trans ?_ (result_bind_ofExcept _ (documentAfter address) session)
  exact congrArg (fun rest => ((Http.exchange fetchTimeout true request >>= rest).run session).1)
    (funext reads)

theorem letsOut_fetch (address : String) {session : Session} (served : session.Served) :
    LetsOut (FetchEscapes address session) ((fetch address).run session).1 := by
  have prepared : Http.Addresses Http.Request.IsWhole (requestFor address) :=
    Http.addresses_urlFailure_bind _ fun _ => Http.addresses_urlFailure_bind _ fun _ =>
      Http.addresses_make _ _ _
  have stages : ∀ outcome, LetsOut (fun failure => ∃ response, outcome = .ok response ∧
      ResponseEscapes response failure) (documentAfter address outcome) := by
    intro outcome
    cases outcome with
    | error reason => exact .problem rfl nofun
    | ok response =>
        refine (letsOut_documentIn address response).congr fun failure =>
          ⟨?_, fun escapes => ⟨_, rfl, escapes⟩⟩
        rintro ⟨_, ⟨⟩, escapes⟩
        exact escapes
  rw [result_fetch]
  refine (LetsOut.bind (Http.unreported_of_addresses prepared) fun request made =>
    LetsOut.bind (Http.unreported_of_addresses
      (Http.exchanges_exchange _ _ (prepared.ok made) session served).2)
      fun outcome _ => stages outcome).congr fun failure => ⟨?_, ?_⟩
  · rintro (refused | ⟨made, failed⟩ | ⟨made, answered, escapes⟩)
    · exact .inl refused
    · exact .inr ⟨_, made, .inl failed⟩
    · exact .inr ⟨_, made, .inr ⟨_, answered, _, rfl, escapes⟩⟩
  · rintro (refused | ⟨_, made, failed | ⟨_, answered, _, rfl, escapes⟩⟩)
    · exact .address refused
    · exact .exchange made failed
    · exact .response made answered escapes

/-! ## Sources -/

/-- The failures that get past the loading of a configuration. -/
def Escapes (surroundings : Surroundings) (session : Session) (source : String) : Failure → Prop :=
  if source == "-" then InputEscapes surroundings
  else if isAddress source then FetchEscapes source session
  else FileEscapes surroundings.files source

theorem letsOut_readDocument (surroundings : Surroundings) (source : String) {session : Session}
    (served : session.Served) :
    LetsOut (Escapes surroundings session source)
      ((readDocument surroundings source).run session).1 := by
  unfold Escapes readDocument
  split
  · rw [run_ofExcept]
    exact letsOut_readInput surroundings
  · split
    · exact letsOut_fetch source served
    · rw [run_ofExcept]
      exact letsOut_readFile surroundings.files source

/-- A configuration that passes the check, or the problem that it does not. -/
def checked (source : String) (entries : Entries) : Except Failure ClientConfig :=
  match Schema.check entries with
  | .ok config => .ok config
  | .error issues => .error (.problem (.invalidSource source issues))

theorem result_load (surroundings : Surroundings) (source : String) (session : Session) :
    ((load surroundings source).run session).1
      = ((readDocument surroundings source).run session).1 >>= checked source := by
  have checks : ∀ entries : Entries,
      (match Schema.check entries with
        | .ok config => return config
        | .error issues => throw (.problem (.invalidSource source issues)) : Action ClientConfig)
        = Action.ofExcept (checked source entries) := by
    intro entries
    unfold checked
    cases Schema.check entries <;> rfl
  refine Eq.trans ?_ (result_bind_ofExcept _ (checked source) session)
  exact congrArg (fun rest => ((readDocument surroundings source >>= rest).run session).1)
    (funext checks)

/-- Whether loading ends as it is to end: with a configuration whose root is not blank, or with a
problem with the configuration. -/
def IsPromised (result : Except Failure ClientConfig) : Prop :=
  Outcome Failure.IsConfigurationProblem (fun config => Text.isBlankText config.root = false) result

theorem isPromised_checked (source : String) (entries : Entries) :
    IsPromised (checked source entries) := by
  unfold checked
  cases passed : Schema.check entries with
  | ok config => exact Schema.isBlankText_root passed
  | error issues => exact rfl

/-- **Loading a configuration ends as it is to end exactly when no failure of a stage gets past the
loader; a failure that does is no problem that a caller is told about.** -/
theorem load_promise_iff (surroundings : Surroundings) (source : String) {session : Session}
    (served : session.Served) :
    let result := ((load surroundings source).run session).1
    (IsPromised result ↔ ∀ failure, ¬Escapes surroundings session source failure) ∧
      ∀ failure, Escapes surroundings session source failure →
        result = .error failure ∧ failure.IsUnreported := by
  intro result
  have document := letsOut_readDocument surroundings source served
  have loaded : result = _ := result_load surroundings source session
  have stage : LetsOut (Escapes surroundings session source) result := by
    rw [loaded]
    exact document.andThen fun entries => (isPromised_checked source entries).mono fun _ _ => trivial
  have rooted : Outcome (fun _ => True) (fun config => Text.isBlankText config.root = false)
      result := by
    rw [loaded]
    exact .bind (document.outcome.imp fun _ _ => trivial) fun entries _ =>
      (isPromised_checked source entries).imp fun _ _ => trivial
  refine ⟨⟨fun promised failure escapes => ?_, fun nothing => ?_⟩, stage.escaped⟩
  · obtain ⟨failed, unreported⟩ := stage.escaped failure escapes
    exact unreported.not_isConfigurationProblem (promised.error failed)
  · exact .of_cases (fun config => rooted.ok) fun failure failed =>
      (stage.outcome.error failed).resolve_right (nothing failure)

end Source

end Runtimes

namespace Source

attribute [local instance] Runtime.usual

/-- Surroundings with a given text on standard input. -/
def inputSurroundings (input : String) : Surroundings where
  files := ⟨"/work", "/work", [], []⟩
  environment := []
  input := input
  terminal := false
  width := 80

/-- Standard input without a configuration is a problem, and a date that does not exist gets past
the loader. -/
theorem load_promise_iff_input :
    Session.empty.Served ∧
      IsPromised ((load (inputSurroundings "\n") "-").run Session.empty).1 ∧
      ((load (inputSurroundings "root: 2024-13-45") "-").run Session.empty).1 = .error .badValue ∧
      ¬IsPromised ((load (inputSurroundings "root: 2024-13-45") "-").run Session.empty).1 := by
  have served : Session.empty.Served := nofun
  have escapes : Escapes (inputSurroundings "root: 2024-13-45") Session.empty "-" .badValue := by
    have refused : Json.parse "root: 2024-13-45" = .error (.malformed .valueExpected 1 1 0) :=
      Outcome.eq_error_of_failure? (by decide +kernel)
    have broken : Yaml.parse "root: 2024-13-45" = .error (.failure .badValue) :=
      Outcome.eq_error_of_failure? (by decide +kernel)
    exact ⟨by decide, .scalar (.inr ⟨rfl, _, refused, nofun, nofun⟩) broken⟩
  obtain ⟨blank, -⟩ := load_promise_iff (inputSurroundings "\n") "-" served
  obtain ⟨dated, escaped⟩ := load_promise_iff (inputSurroundings "root: 2024-13-45") "-" served
  rw [blank, dated]
  refine ⟨served, ?_, (escaped _ escapes).1, fun nothing => nothing _ escapes⟩
  rintro failure ⟨filled, -⟩
  exact absurd filled (by decide)

/-- Surroundings with a file that holds a byte of no text. -/
def undecodableSurroundings : Surroundings :=
  { inputSurroundings "" with
    files := ⟨"/work", "/work", [], [(["work", "c.json"], .file [0xFF])]⟩ }

/-- A file whose bytes are no text gets past the loader. -/
theorem not_promised_undecodable :
    Session.empty.Served ∧
      ((load undecodableSurroundings "c.json").run Session.empty).1 = .error .undecodable ∧
      ¬IsPromised ((load undecodableSurroundings "c.json").run Session.empty).1 := by
  have failed : ((load undecodableSurroundings "c.json").run Session.empty).1
      = .error .undecodable :=
    Outcome.eq_error_of_failure? (by decide +kernel)
  refine ⟨nofun, failed, fun promised => ?_⟩
  rw [failed] at promised
  exact promised

end Source

end Routebook

import Routebook.Callback
import Routebook.Http.Exchange
import Routebook.Options
import Routebook.Text.Uppercase

/-!
# Transports

A transport takes the options of a request and an optional callback.  The web transport turns the
options into a request, sends it, and reports the response or the failure to the callback; in a dry
run it notes the request instead.  A recording transport writes the options down and answers with
what was prepared, so that a client can be tried out without a network; it may also edit the options
that it receives.
-/

namespace Routebook

set_option autoImplicit false

variable [Runtime]

/-! ## The web transport -/

/-- A transport that sends requests. -/
structure WebTransport where
  /-- The options under every request's own. -/
  defaults : Entries
  /-- Whether requests are noted instead of sent. -/
  dryRun : Bool
  deriving Repr

namespace WebTransport

/-- The timeout of a request that sets none, in seconds. -/
def defaultTimeout : Value := .float (Number.Binary64.ofInt 30)

/-- The transport whose defaults have another layer over them. -/
def withDefaults (transport : WebTransport) (options : Entries) : Except Failure WebTransport :=
  (Options.merge transport.defaults options).map fun merged => { transport with defaults := merged }

/-- A request as the options describe it. -/
structure Order where
  method : String
  /-- The address as it was given, for messages, and what it is read from. -/
  url : Value
  headers : Entries
  content : Http.Content

/-- The values that a query entry stands for. -/
def queryValues (value : Value) : List String :=
  match value.opened with
  | .list items | .tuple items => items.map Http.primitiveText
  | _ => [Http.primitiveText value]

/-- Query entries with keys and values as texts. -/
def queryParameters (entries : Entries) : List (String × List String) :=
  entries.foldl (fun written entry =>
    let name := entry.1.display
    let values := queryValues entry.2
    if written.any fun present => present.1 == name then
      written.map fun present => if present.1 == name then (name, values) else present
    else written ++ [(name, values)]) []

/-- Reads the address of a request. -/
def readUrl : Value → Except Failure Http.Url
  | .text text => do
      let url ← Http.urlFailure (Http.Url.parse text)
      Text.requireWhole text.toList
      return url
  | _ => .error .wrongType

/-- Requires that names and values of a query can be encoded. -/
def requireWholeQuery (parameters : List (String × List String)) : Except Failure Unit :=
  parameters.forM fun entry => (entry.1 :: entry.2).forM fun text => Text.requireWhole text.toList

/-- The address with the query option merged in. -/
def mergeQuery (url query : Value) : Except Failure Value :=
  if query.isTruthy then do
    let parsed ← readUrl url
    let entries ← query.toEntries
    (Value.mapping entries).requireText
    requireWholeQuery (queryParameters entries)
    let merged ← Http.urlFailure (parsed.mergeParameters (queryParameters entries))
    return .text merged.text
  else .ok url

/-- The content that the options describe: a form, else a value for JSON, else a body. -/
def contentOf (options : Entries) : Http.Content :=
  match Options.get options "form", Options.get options "json", Options.get options "body" with
  | .null, .null, body | .null, .truth _, body =>
      match body with
      | .null => .nothing
      | .text text => .text text
      | .bytes bytes => .raw bytes
      | value => .json value
  | .null, json, _ => .json json
  | form, _, _ => .form form

/-- The request that the options describe. -/
def orderOf (options : Entries) : Except Failure Order := do
  let url := Options.firstTruthy (Options.get options "uri") (Options.get options "url")
  if !url.isTruthy then throw (.problem .addressMissing)
  let method := Options.firstTruthy (Options.get options "method") (.text "GET")
  let name ← method.asText
  let headers ← (Options.get options "headers").toOptionalEntries
  let merged ← mergeQuery url (Options.get options "qs")
  return ⟨Text.upper name, merged, headers, contentOf options⟩

/-- The time allowed for reading, from the timeout option: the second of several times. -/
def readTimeout : Value → Except Failure Value
  | .tuple (_ :: reading :: _) => .ok reading
  | .tuple _ => .error .badIndex
  | other => .ok other

/-- Builds the request of an order. -/
def buildRequest (resolve : Http.Url → Except Http.UrlFault Http.Url) (order : Order) :
    Except Failure Http.Request := do
  let url ← readUrl order.url
  let resolved ← Http.urlFailure (resolve url)
  let headers ← Http.Headers.ofEntries order.headers
  Http.Request.make (Text.upper order.method) resolved headers order.content

/-- Sends the request of an order. -/
def send (order : Order) (options : Entries) : Action (Except String Http.Response) := do
  let timeout ← Action.ofExcept
    (readTimeout (Options.getOr options "timeout" defaultTimeout))
  let followRedirects := (Options.getOr options "followRedirect" (.truth true)).isTruthy
  let request ← Action.ofExcept (buildRequest Http.Url.forRequest order)
  Http.exchange timeout followRedirects request

/-- The answer of a dry run. -/
def dryRunResponse : Http.Response where
  status := 200
  headers := [.ofText "content-type" "application/json"]
  body := Http.asciiBytes "\x7b\"dry_run\":true,\"message\":\"Request was not sent\"\x7d"

/-- Notes the request of an order and answers in place of the network. -/
def rehearse (order : Order) : Action Http.Response := do
  let request ← Action.ofExcept (buildRequest .ok order)
  Action.note (.info ("[dry-run] " ++ request.method ++ " " ++ request.url.text))
  for (name, value) in request.headers.joined do
    Action.note (.info ("  Header: " ++ name ++ ": " ++ value))
  if request.body.streamed then throw .bodyUnread
  if !request.body.bytes.isEmpty then
    Action.note (.info ("  Body: " ++ String.ofList (Text.utf8DecodeReplacing request.body.bytes)))
  return dryRunResponse

/-- The body that a callback gets: the text of the response, decoded as JSON when the options ask
for it and the callback does not decode it itself. -/
def responseBody (response : Http.Response) (options : Entries) (callback : Callback) :
    Except Failure Value := do
  let text ← response.text
  match Options.get options "json" with
  | .truth true =>
      if text.isEmpty || callback.decodes then return .text text
      match Json.parse text with
      | .ok value => return value
      | .error .tooManyDigits => throw .badValue
      | .error .tooDeep => throw .tooDeep
      | .error _ => return .text text
  | _ => return .text text

/-- Reports a response to a callback. -/
def report (order : Order) (options : Entries) (callback : Option Callback)
    (response : Http.Response) : Action Value := do
  Action.debug ("HTTP " ++ toString response.status ++ " from " ++ order.method ++ " "
    ++ order.url.display)
  match callback with
  | none => return .response response
  | some callback =>
      let body ← Action.ofExcept (responseBody response options callback)
      let _ ← callback.call [.null, .response response, body]
      return .response response

/-- Reports a failure on the way to a callback. -/
def reportFailure (order : Order) (callback : Option Callback) (reason : String) :
    Action Value := do
  let problem := Problem.requestFailed order.method order.url.display reason
  Action.debug problem.message
  match callback with
  | none => return .null
  | some callback =>
      let _ ← callback.call [.problem problem, .null, .null]
      return .null

/-- Makes a request with the given options. -/
def call (transport : WebTransport) (requestOptions : Entries) (callback : Option Callback) :
    Action Value := do
  let options ← Action.ofExcept (Options.merge transport.defaults requestOptions)
  for line in ← Action.ofExcept (Options.ignoredLines options) do
    Action.debug line
  let order ← Action.ofExcept (orderOf options)
  if transport.dryRun then
    let response ← rehearse order
    report order options callback response
  else
    match ← send order options with
    | .ok response => report order options callback response
    | .error reason => reportFailure order callback reason

end WebTransport

/-! ## Recording transports -/

/-- A transport that writes down what it is given. -/
structure Recorder where
  number : Nat
  /-- Whether it edits the options that it receives. -/
  edits : Bool
  /-- Whether it can take default options. -/
  takesDefaults : Bool
  /-- What it answers. -/
  result : Value
  deriving Repr

namespace Recorder

/-- Edits the options of a request: adds an option and, if there are header fields, a field. -/
def edit (options : Handle) : Action Unit := do
  let store := (← get).store
  let edited := store.assign options (.text "injected") (.truth true)
  let final := match store.content? options with
    | some (.mapping entries) =>
        match Store.lookupEntry (.text "headers") entries with
        | some headers => edited.assign headers (.text "X-Call") (.text "1")
        | none => edited
    | _ => edited
  modify fun session => { session with store := final }

/-- Takes the arguments prepared for the next callback. -/
def nextPrepared : Action (Option (List Value)) := do
  let session ← get
  match session.prepared with
  | [] => return none
  | arguments :: rest =>
      set { session with prepared := rest }
      return some arguments

/-- Writes a request down and calls back with what was prepared. -/
def call (recorder : Recorder) (options : Handle) (callback : Option Callback) : Action Value := do
  let entries := match (← get).store.read options with
    | .mapping entries => entries
    | _ => []
  Action.record (.request recorder.number (.of callback) entries)
  if recorder.edits then edit options
  match callback with
  | none => return recorder.result
  | some callback =>
      match ← nextPrepared with
      | none => return recorder.result
      | some arguments =>
          let _ ← callback.call arguments
          return recorder.result

/-- A recording transport with default options. -/
def withDefaults (recorder : Recorder) (options : Value) : Action Recorder := do
  Action.record (.defaults options)
  let session ← get
  set { session with transports := session.transports + 1 }
  return { recorder with number := session.transports + 1 }

end Recorder

/-! ## Transports -/

/-- A transport. -/
inductive Transport
  | web (transport : WebTransport)
  | recording (recorder : Recorder)
  deriving Repr

namespace Transport

/-- Makes a request with the given options, an object that the transport may edit. -/
def call (transport : Transport) (options : Handle) (callback : Option Callback) :
    Action Value := do
  match transport with
  | .recording recorder => recorder.call options callback
  | .web sender =>
      let entries ← Action.ofExcept (Options.requireMapping ((← get).store.read options))
      sender.call entries callback

/-- The transport with default options, if it can take any. -/
def withDefaults (transport : Transport) (options : Entries) : Action Transport := do
  match transport with
  | .web sender => return .web (← Action.ofExcept (sender.withDefaults options))
  | .recording recorder =>
      if recorder.takesDefaults then return .recording (← recorder.withDefaults (.mapping options))
      else throw (.problem .defaultsUnsupported)

end Transport

end Routebook

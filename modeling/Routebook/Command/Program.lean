import Routebook.Client
import Routebook.Command.Assignment
import Routebook.Command.Line
import Routebook.Config.Source
import Routebook.Output

/-!
# The program

The commands of the command line: one lists the routes of a configuration, one shows the address
that a route is called with, and one calls a route and prints the answer.  Data is printed in the
format asked for; everything else is noted for the diagnostics.  How a command ends fixes the exit
status.
-/

namespace Routebook.Program

set_option autoImplicit false

variable [Runtime]

/-! ## Common steps -/

/-- Loads the configuration that a command names or finds. -/
def loadConfig (surroundings : Surroundings) (named : Option String) : Action ClientConfig := do
  let source ← Action.ofExcept (Source.resolve surroundings named)
  Action.debug ("Loading configuration from " ++ source)
  Source.load surroundings source

/-- The route of a name, which a command was given. -/
def findRoute (client : Client) (name : String) : Except Failure Route :=
  match client.route? name with
  | some route => .ok route
  | none => .error (.problem (.routeUnknown name client.names))

/-- Makes an object of the entries of a mapping. -/
def loadEntries (entries : Entries) : Action Handle := do
  let session ← get
  let (handle, store) := session.store.load (.mapping entries)
  set { session with store := store }
  return handle

/-! ## Listing routes -/

/-- Names separated by commas; a dash for none. -/
def listed (names : List String) : String :=
  let text := ", ".intercalate names
  if text.isEmpty then "-" else text

/-- The keys of options in the order of their code points. -/
def optionNames (options : Entries) : List String :=
  (options.map fun entry => entry.1.display).mergeSort
    (fun first second => decide (first ≤ second))

/-- The headings of the list of routes. -/
def routeHeadings : List String :=
  ["Method", "Name", "Template", "Path variables", "Query parameters", "Options"]

/-- The row of a route. -/
def routeRow (definition : RouteDefinition) : List String :=
  let pattern := definition.pattern
  [definition.method.name, definition.name, definition.template,
    listed pattern.distinctPathVariables, listed pattern.sortedQueryNames,
    listed (optionNames definition.requestOptions)]

/-- The list of the routes of a configuration. -/
def routeTable (config : ClientConfig) : Output.TableData where
  title := .text (config.root ++ " -- Routes (" ++ toString config.routes.length ++ ")")
  headings := .list (routeHeadings.map .text)
  rows := .list (config.routes.map fun definition => .list ((routeRow definition).map .text))

/-- Lists the declared routes. -/
def listRoutes (surroundings : Surroundings) (config : Option String) : Action Unit := do
  let configuration ← loadConfig surroundings config
  Output.printTable (routeTable configuration)

/-! ## Showing an address -/

/-- Shows the address of a route for the given arguments. -/
def showUri (surroundings : Surroundings) (name : String) (config : Option String)
    (arguments : List String) : Action Unit := do
  let configuration ← loadConfig surroundings config
  let client ← Client.create configuration (.web ⟨[], false⟩)
  let route ← Action.ofExcept (findRoute client name)
  let entries ← Action.ofExcept (Assignment.parse "--arg" arguments)
  let resolution ← route.buildUri (some (← loadEntries entries))
  for placeholder in resolution.unresolved do
    Action.note (.warning ("Path variable '" ++ placeholder ++ "' was not supplied"))
  for key in resolution.ignored do
    Action.note (.warning ("Argument '" ++ key
      ++ "' is neither a path variable nor a query parameter"))
  Action.print resolution.uri

/-! ## Calling a route -/

/-- The number of characters that are quoted from a body that is no mapping. -/
def quotedLength : Nat := 200

/-- What a body says about a refusal. -/
def refusalDetail : Value → String
  | .mapping entries =>
      let stated := ["message", "error", "detail"].map (Options.get entries)
      match stated.find? Value.isTruthy with
      | some value => value.display
      | none => ""
  | body =>
      if body.isTruthy then String.ofList (body.display.toList.take quotedLength) else ""

/-- Reports a response: its status line, and a failure if it is a refusal. -/
def reportStatus (status : Nat) (body : Value) : Action Unit := do
  if Http.isSuccess status then Action.note (.success (Http.statusLine status))
  else Action.note (.info (Http.statusLine status))
  if 400 ≤ status then throw (.problem (.statusRefused status (refusalDetail body)))

/-- Reports what a callback was given and prints the body. -/
def reportOutcome : List Value → Action Unit
  | [.problem cause, _, _] => throw (.problem cause)
  | [_, .response content, body] => do
      reportStatus content.status body
      Output.printResponse body
  | _ => Output.printResponse .null

/-- The options and arguments of a call from the words of a command line. -/
def callArguments (route : Route) (arguments : List String) (body : Option String)
    (options : List String) : Action CallArguments := do
  let pathEntries ← Action.ofExcept (Assignment.parse "--arg" arguments)
  let optionEntries ← Action.ofExcept (Assignment.parse "--option" options)
  let bodyValue := match body with
    | some text => Value.text text
    | none => .null
  return { pathArguments := some (← loadEntries pathEntries)
           body := if route.method.hasBody then some (.atom bodyValue) else none
           options := some (← loadEntries optionEntries)
           callback := some (.atom (.foreign "function")) }

/-- Calls a route and prints the answer. -/
def callRoute (surroundings : Surroundings) (dryRun : Bool) (name : String) (config : Option String)
    (arguments : List String) (body : Option String) (options : List String) : Action Unit := do
  let configuration ← loadConfig surroundings config
  let client ← Client.create configuration (.web ⟨[], dryRun⟩)
  let route ← Action.ofExcept (findRoute client name)
  if body.isSome && !route.method.hasBody then
    throw (.problem (.bodyFlagRefused route.method.name name))
  let given ← callArguments route arguments body options
  let _ ← route.call given
  reportOutcome ((← get).delivered.getLast?.getD [])

/-! ## Running -/

/-- Runs a command. -/
def perform (surroundings : Surroundings) (dryRun : Bool) : CommandLine.Command → Action Unit
  | .routes config => listRoutes surroundings config
  | .uri name config arguments => showUri surroundings name config arguments
  | .call name config arguments body options =>
      callRoute surroundings dryRun name config arguments body options

/-- The output that the switches ask for. -/
def outputFor (surroundings : Surroundings) (switches : CommandLine.Switches) : Output :=
  let requested := if switches.json then some Format.json
    else if switches.plain then some .plain else none
  Output.make surroundings requested switches.noColor switches.quiet switches.verbose

/-- What a run leaves: its exit status and what it wrote to both streams. -/
structure Ending where
  exitCode : Int
  stdout : String
  stderr : String
  deriving DecidableEq, Repr

/-- The exit status and the last line of a command that ended early. -/
def failureEnding : Failure → Int × Notice
  | .problem cause => (cause.exitCode, .error cause.message)
  | failure => (Kind.general.exitCode, .error ("Unexpected error: " ++ failure.message))

/-- What is left with an exit status in a session. -/
def Ending.of (exitCode : Int) (session : Session) : Ending where
  exitCode := exitCode
  stdout := String.join session.printed
  stderr := String.join session.written

/-- Runs a command with the given switches in a session; how it ended early, if it did, is its last
line. -/
def runCommand (surroundings : Surroundings) (switches : CommandLine.Switches)
    (command : CommandLine.Command) (session : Session) : Ending × Session :=
  match (perform surroundings switches.dryRun command).run
      { session with output := outputFor surroundings switches } with
  | (.ok (), final) => (.of 0 final, final)
  | (.error failure, after) =>
      let (exitCode, notice) := failureEnding failure
      let final := ((Action.note notice).run after).2
      (.of exitCode final, final)

/-- The name and the version of the program. -/
def versionText : String := "restwrap 0.1.0\n"

/-- The help page. -/
def helpText : String :=
  "Usage: restwrap [OPTIONS] COMMAND [ARGS]...\n\n"
    ++ "Compile declarative API descriptions into HTTP clients.\n\n"
    ++ "Options: --version --json --plain --no-color -q/--quiet -v/--verbose -n/--dry-run "
    ++ "--help\n\n"
    ++ "Commands:\n"
    ++ "  routes  List every route declared in the configuration.\n"
    ++ "  uri     Print the URI a route builds for the given arguments.\n"
    ++ "  call    Send one request through a route and print the response.\n"

/-- The hint after a command line that cannot be read. -/
def usageText : String :=
  "Usage: restwrap [OPTIONS] COMMAND [ARGS]...\nTry 'restwrap --help' for help.\n"

/-- Runs a command line in a session. -/
def run (surroundings : Surroundings) (words : List String) (session : Session) :
    Ending × Session :=
  match CommandLine.parse words with
  | .run switches command => runCommand surroundings switches command session
  | .help => (⟨0, helpText, ""⟩, session)
  | .helpForNothing => (⟨2, helpText, ""⟩, session)
  | .version => (⟨0, versionText, ""⟩, session)
  | .misuse => (⟨2, "", usageText⟩, session)

end Routebook.Program

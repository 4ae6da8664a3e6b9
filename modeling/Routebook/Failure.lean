import Routebook.Text.Charset
import Routebook.Text.HostLabel

/-!
# Failures

Everything that can go wrong is a cause with its data; one function gives its wording.  Problems are
the failures that a caller is told about, and each has a kind that fixes the exit status of the
command line.  The other failures are misuses of the library by its caller.
-/

namespace Routebook

set_option autoImplicit false

/-! ## Kinds of problems -/

/-- The kinds of problems. -/
inductive Kind
  | general
  | usage
  | authorization
  | notFound
  | server
  | transport
  | configuration
  | unreadableBody
  deriving DecidableEq, Repr

/-- The exit status of a kind. -/
def Kind.exitCode : Kind → Int
  | .general => 1
  | .usage => 2
  | .authorization => 3
  | .notFound => 4
  | .server => 5
  | .transport => 6
  | .configuration => 7
  | .unreadableBody => 8

/-! ## Violations of the configuration schema -/

/-- One step on the way to a value inside a configuration. -/
inductive Place
  | name (text : String)
  | position (index : Int)
  deriving DecidableEq, Repr

/-- What is wrong with a value in a configuration. -/
inductive Violation
  | missing
  | notText
  | undecodableText
  | notTruthValue
  | unknownTruthValue
  | notMapping
  | notRoute
  | notClient
  | blankRoot
  deriving DecidableEq, Repr

/-- The code of a violation. -/
def Violation.code : Violation → String
  | .missing => "missing"
  | .notText => "string_type"
  | .undecodableText => "string_unicode"
  | .notTruthValue => "bool_type"
  | .unknownTruthValue => "bool_parsing"
  | .notMapping => "dict_type"
  | .notRoute | .notClient => "model_type"
  | .blankRoot => "value_error"

/-- The wording of a violation. -/
def Violation.message : Violation → String
  | .missing => "Field required"
  | .notText => "Input should be a valid string"
  | .undecodableText =>
      "Input should be a valid string, unable to parse raw data as a unicode string"
  | .notTruthValue => "Input should be a valid boolean"
  | .unknownTruthValue => "Input should be a valid boolean, unable to interpret input"
  | .notMapping => "Input should be a valid dictionary"
  | .notRoute => "Input should be a valid dictionary or instance of RouteSpec"
  | .notClient => "Input should be a valid dictionary or instance of ClientConfig"
  | .blankRoot => "Value error, root must not be empty"

/-- A violation and where it is. -/
structure Issue where
  place : List Place
  violation : Violation
  deriving DecidableEq, Repr

/-- The text of a place. -/
def Place.text : Place → String
  | .name text => text
  | .position index => toString index

/-- The report of a list of issues about a configuration: their number, then two lines for each. -/
def Issue.report (issues : List Issue) : String :=
  let count := issues.length
  toString count ++ " validation error" ++ (if count == 1 then "" else "s") ++ " for ClientConfig"
    ++ String.join (issues.map fun issue =>
      "\n" ++ ".".intercalate (issue.place.map Place.text) ++ "\n  " ++ issue.violation.message
        ++ " [type=" ++ issue.violation.code ++ "]")

/-! ## Problems -/

/-- The problems that are reported to a caller. -/
inductive Problem
  /-- A problem stated by a caller, with its own exit status if given. -/
  | stated (kind : Kind) (message : String) (exitCode : Option Int)
  /-- A configuration value breaks the schema. -/
  | invalidClient (issues : List Issue)
  /-- A loaded configuration breaks the schema. -/
  | invalidSource (source : String) (issues : List Issue)
  /-- Default options are configured for a transport that cannot take any. -/
  | defaultsUnsupported
  /-- No configuration source was named or found. -/
  | noConfiguration
  /-- Standard input is blank. -/
  | blankInput
  /-- The server answered the request for a configuration with a refusal. -/
  | fetchRefused (status : Nat) (url : String)
  /-- The request for a configuration failed. -/
  | fetchFailed (url reason : String)
  /-- There is no such file. -/
  | fileMissing (path : String)
  /-- A configuration file is blank. -/
  | fileBlank (path : String)
  /-- A document declared as JSON is not JSON. -/
  | notJson (source reason : String)
  /-- A document is neither JSON nor YAML; the first reason is missing when JSON was not tried. -/
  | notStructured (source : String) (jsonReason : Option String) (yamlReason : String)
  /-- A document holds something other than a mapping. -/
  | notObject (source found : String)
  /-- Request options name no address. -/
  | addressMissing
  /-- A route function was called with the wrong number of arguments. -/
  | argumentCount (route : String) (takesBody : Bool) (count : Nat)
  /-- A body was given to a route whose method takes none. -/
  | bodyRefused (method route : String)
  /-- A body was given on the command line to a route whose method takes none. -/
  | bodyFlagRefused (method route : String)
  /-- There is no route of this name. -/
  | routeUnknown (route : String) (available : List String)
  /-- An assignment has no key or no separator. -/
  | malformedAssignment (flag text : String)
  /-- A request failed on the way. -/
  | requestFailed (method url reason : String)
  /-- A response body is not JSON. -/
  | bodyNotJson
  /-- The final response is an error status. -/
  | statusRefused (status : Nat) (detail : String)
  deriving DecidableEq, Repr

/-- The names under which a project keeps its configuration, in order of preference. -/
def projectFileNames : List String :=
  ["restwrap.json", "restwrap.yaml", "restwrap.yml"]

/-- The environment variable that names a configuration. -/
def configurationVariable : String := "RESTWRAP_CONFIG"

/-- The kind of a refusal by its status. -/
def statusKind (status : Nat) : Kind :=
  if status == 401 || status == 403 then .authorization
  else if status == 404 then .notFound
  else .server

/-- The kind of a problem. -/
def Problem.kind : Problem → Kind
  | .stated kind _ _ => kind
  | .invalidClient _ | .invalidSource _ _ | .defaultsUnsupported | .noConfiguration | .blankInput
  | .fetchRefused _ _ | .fetchFailed _ _ | .fileMissing _ | .fileBlank _ | .notJson _ _
  | .notStructured _ _ _ | .notObject _ _ => .configuration
  | .addressMissing | .argumentCount _ _ _ | .bodyRefused _ _ | .bodyFlagRefused _ _
  | .routeUnknown _ _ | .malformedAssignment _ _ => .usage
  | .requestFailed _ _ _ => .transport
  | .bodyNotJson => .unreadableBody
  | .statusRefused status _ => statusKind status

/-- The exit status of a problem. -/
def Problem.exitCode : Problem → Int
  | .stated kind _ code => code.getD kind.exitCode
  | problem => problem.kind.exitCode

/-- The part of a message that this library words. -/
def Problem.headline : Problem → String
  | .stated _ message _ => message
  | .invalidClient _ => "Invalid client configuration: "
  | .invalidSource source _ => "Invalid configuration in " ++ source ++ ": "
  | .defaultsUnsupported => "requestDefaults is set but the transport has no defaults() factory"
  | .noConfiguration =>
      "No configuration found. Pass --config, set " ++ configurationVariable
        ++ ", or create one of: " ++ ", ".intercalate projectFileNames
  | .blankInput => "No configuration received on stdin"
  | .fetchRefused status url =>
      "HTTP " ++ toString status ++ " fetching configuration from " ++ url
  | .fetchFailed url reason => "Failed to fetch configuration from " ++ url ++ ": " ++ reason
  | .fileMissing path => "Configuration file not found: " ++ path
  | .fileBlank path => "Configuration file is empty: " ++ path
  | .notJson source reason => "Invalid JSON in " ++ source ++ ": " ++ reason
  | .notStructured source jsonReason _ =>
      "Failed to parse " ++ source ++ " as JSON or YAML"
        ++ (match jsonReason with
          | none => ""
          | some reason => "\n  JSON error: " ++ reason)
        ++ "\n  YAML error: "
  | .notObject source found =>
      "Configuration in " ++ source ++ " must be an object (got " ++ found ++ ")"
  | .addressMissing => "Request options must include 'uri'"
  | .argumentCount route true count =>
      route ++ "() takes (args, body, callback) or (args, body, options, callback), got "
        ++ toString count ++ " arguments"
  | .argumentCount route false count =>
      route ++ "() takes (args, callback) or (args, options, callback), got "
        ++ toString count ++ " arguments"
  | .bodyRefused method route => method ++ " route '" ++ route ++ "' does not take a body"
  | .bodyFlagRefused method route => method ++ " route '" ++ route ++ "' does not take --body"
  | .routeUnknown route available =>
      "Unknown route '" ++ route ++ "'. Available: "
        ++ (match available with
          | [] => "(none)"
          | names => ", ".intercalate names)
  | .malformedAssignment flag text => flag ++ " expects key=value, got '" ++ text ++ "'"
  | .requestFailed method url reason => method ++ " " ++ url ++ " failed: " ++ reason
  | .bodyNotJson => "Could not parse JSON"
  | .statusRefused status detail =>
      "HTTP " ++ toString status ++ (if detail.isEmpty then "" else ": " ++ detail)

/-- The part of a message that reports the underlying cause. -/
def Problem.detail : Problem → String
  | .invalidClient issues => Issue.report issues
  | .invalidSource _ issues => Issue.report issues
  | .notStructured _ _ reason => reason
  | _ => ""

/-- The message of a problem. -/
def Problem.message (problem : Problem) : String :=
  problem.headline ++ problem.detail

/-! ## Failures -/

/-- Everything that ends a computation early. -/
inductive Failure
  /-- A problem that the caller is told about. -/
  | problem (cause : Problem)
  /-- A value that was to be checked against the schema breaks it. -/
  | invalid (issues : List Issue)
  /-- A value has a type that the operation does not take. -/
  | wrongType
  /-- A value of the right type is out of range or malformed. -/
  | badValue
  /-- A number is too large to be represented. -/
  | overflow
  /-- Containers are nested too deeply, or without an end. -/
  | tooDeep
  /-- A position is beyond the end of a sequence. -/
  | badIndex
  /-- A mapping has no such key. -/
  | missingKey
  /-- A value has no such attribute. -/
  | missingAttribute
  /-- A client has no route or attribute of this name. -/
  | unknownRoute (name : String)
  /-- A client was asked to change. -/
  | clientFrozen
  /-- Bytes are not text in the expected encoding. -/
  | undecodable
  /-- Bytes do not start with the mark that gives the order of the bytes in a unit. -/
  | orderUnmarked
  /-- Bytes yield no text by what was named as their encoding. -/
  | unreadable (cause : Text.Unreadable)
  /-- A text has characters that the target encoding lacks. -/
  | unencodable
  /-- A text is not an address. -/
  | malformedUrl (reason : String)
  /-- The name of a host cannot be shown beyond ASCII. -/
  | malformedHost (fault : Text.LabelFault)
  /-- A text is not well-formed markup. -/
  | malformedMarkup
  /-- Something that is no text was to be laid out for a terminal. -/
  | notRenderable
  /-- A request whose body is still to be streamed was asked for its bytes. -/
  | bodyUnread
  /-- A path starts at the home directory of a user that is not known. -/
  | homeUnknown
  /-- A path, or a name on it, is longer than any file's. -/
  | pathTooLong
  deriving DecidableEq, Repr

/-- The message of an attempt to read a route that is not there. -/
def unknownRouteMessage (name : String) : String :=
  "Client has no route named '" ++ name ++ "'"

/-- The message of an attempt to change a client. -/
def clientFrozenMessage : String :=
  "GeneratedClient routes cannot be changed after creation"

/-- The message of a failure. -/
def Failure.message : Failure → String
  | .problem cause => cause.message
  | .invalid issues => Issue.report issues
  | .wrongType => "a value has an unexpected type"
  | .badValue => "a value is malformed or out of range"
  | .overflow => "a number is too large"
  | .tooDeep => "containers are nested too deeply"
  | .badIndex => "a position is out of range"
  | .missingKey => "a key is missing"
  | .missingAttribute => "an attribute is missing"
  | .unknownRoute name => unknownRouteMessage name
  | .clientFrozen => clientFrozenMessage
  | .undecodable => "bytes are not text in the expected encoding"
  | .orderUnmarked => "bytes lack the mark of their order"
  | .unreadable _ => "bytes yield no text"
  | .unencodable => "a text cannot be encoded"
  | .malformedUrl reason => reason
  | .malformedHost _ => "the name of a host is malformed"
  | .malformedMarkup => "a closing tag closes nothing"
  | .notRenderable => "a value cannot be laid out"
  | .bodyUnread => "a streamed body has not been read"
  | .homeUnknown => "Could not determine home directory."
  | .pathTooLong => "a path is too long"

end Routebook

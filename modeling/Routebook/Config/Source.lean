import Routebook.Config.Document
import Routebook.Config.Schema
import Routebook.Http.Exchange
import Routebook.Surroundings
import Routebook.Text.Blank

/-!
# Sources of configurations

A configuration is read from a file, from an address on the web, or from standard input.  The source
is the one that a caller names, else the one that the environment names, else a file of the project.
What is known about the format comes from the ending of a file or from the type of a response.
-/

namespace Routebook.Source

set_option autoImplicit false

variable [Runtime]

/-! ## Resolution -/

/-- The first file of the project that is there. -/
def projectFile? (files : Files) : Option String :=
  projectFileNames.find? fun name =>
    (files.contentAt? (pathNames files.directory ++ [name])).isSome

/-- A text that is given and not empty. -/
def nonempty? : Option String → Option String
  | some text => if text.isEmpty then none else some text
  | none => none

/-- The source to read, given what a caller names. -/
def resolve (surroundings : Surroundings) (named : Option String) : Except Failure String :=
  let chosen := nonempty? (surroundings.environmentValue? configurationVariable)
  let project := (projectFile? surroundings.files).map fun name =>
    surroundings.files.directory ++ "/" ++ name
  match (nonempty? named).or (chosen.or project) with
  | some source => .ok source
  | none => .error (.problem .noConfiguration)

/-! ## Loading -/

/-- A text whose lines all end in a line feed. -/
def unifyLines : List Char → List Char
  | [] => []
  | '\r' :: '\n' :: rest => '\n' :: unifyLines rest
  | character :: rest => (if character == '\r' then '\n' else character) :: unifyLines rest

/-- Reads the document on standard input. -/
def readInput (surroundings : Surroundings) : Except Failure Entries :=
  if Text.isBlankText surroundings.input then .error (.problem .blankInput)
  else Document.read .unknown "stdin" surroundings.input

/-- What the type of a response says about the format. -/
def hintOfType (contentType : String) : Document.Hint :=
  let mentions := fun (word : String) => Text.occurs word.toList contentType.toList
  if mentions "json" then .json
  else if mentions "yaml" || mentions "yml" then .yaml
  else .unknown

/-- What the ending of a path says about the format. -/
def hintOfSuffix (suffix : String) : Document.Hint :=
  if suffix == ".json" then .json
  else if suffix == ".yaml" || suffix == ".yml" then .yaml
  else .unknown

/-- The time allowed for fetching a configuration, in seconds. -/
def fetchTimeout : Value := .float (Number.Binary64.ofInt 30)

/-- Fetches the document at an address. -/
def fetch (address : String) : Action Entries := do
  let url ← Action.ofExcept (Http.urlFailure (Http.Url.parse address))
  let resolved ← Action.ofExcept (Http.urlFailure url.forRequest)
  let request ← Action.ofExcept (Http.Request.make "GET" resolved [] .nothing)
  match ← Http.exchange fetchTimeout true request with
  | .error reason => throw (.problem (.fetchFailed address reason))
  | .ok response =>
      if !Http.isSuccess response.status then
        throw (.problem (.fetchRefused response.status address))
      let contentType := (response.headers.get? "content-type").getD ""
      let text ← Action.ofExcept response.text
      Action.ofExcept (Document.read (hintOfType contentType) address text)

/-- Reads the document in a file. -/
def readFile (files : Files) (path : String) : Except Failure Entries := do
  match ← files.read? path with
  | none => throw (.problem (.fileMissing path))
  | some bytes =>
      match Text.utf8Decode bytes with
      | .error _ => throw .undecodable
      | .ok text =>
          let content := String.ofList (unifyLines text)
          if Text.isBlankText content then throw (.problem (.fileBlank path))
          Document.read (hintOfSuffix (pathSuffix path)) path content

/-- Whether a source is an address on the web. -/
def isAddress (source : String) : Bool :=
  Text.startsWith "http://".toList source.toList || Text.startsWith "https://".toList source.toList

/-- Reads the document at a source. -/
def readDocument (surroundings : Surroundings) (source : String) : Action Entries :=
  if source == "-" then Action.ofExcept (readInput surroundings)
  else if isAddress source then fetch source
  else Action.ofExcept (readFile surroundings.files source)

/-- Loads the configuration at a source. -/
def load (surroundings : Surroundings) (source : String) : Action ClientConfig := do
  let entries ← readDocument surroundings source
  match Schema.check entries with
  | .ok config => return config
  | .error issues => throw (.problem (.invalidSource source issues))

end Routebook.Source

import Routebook.Json.Reader
import Routebook.Yaml.Document

/-!
# Documents that hold configurations

A document is JSON or YAML.  A hint can name the format; without one JSON is tried first and YAML is
the fallback.  Either way the document must hold a mapping.
-/

namespace Routebook.Document

set_option autoImplicit false

variable [Runtime]

/-- What is known about the format of a document. -/
inductive Hint
  | json
  | yaml
  | unknown
  deriving DecidableEq, Repr

/-- The hint that a word gives. -/
def Hint.named (word : String) : Hint :=
  if word == "json" then .json else if word == "yaml" then .yaml else .unknown

/-- The name of what a document holds instead of a mapping. -/
def foundName : Value → String
  | .null => "empty document"
  | value => value.typeName

/-- The entries of the mapping that a document holds. -/
def requireMapping (source : String) (value : Value) : Except Failure Entries :=
  match value.opened with
  | .mapping entries => .ok entries
  | _ => .error (.problem (.notObject source (foundName value)))

/-- Reads a document as YAML; `jsonReason` says why it is not JSON, if that was tried. -/
def readYaml (source : String) (jsonReason : Option String) (content : String) :
    Except Failure Entries :=
  match Yaml.parse content with
  | .ok value => requireMapping source value
  | .error (.malformed complaint) =>
      .error (.problem (.notStructured source jsonReason complaint.message))
  | .error (.failure cause) => .error cause

/-- Reads a document. -/
def read (hint : Hint) (source content : String) : Except Failure Entries :=
  match hint with
  | .yaml => readYaml source none content
  | _ =>
      match Json.parse content with
      | .ok value => requireMapping source value
      | .error .tooManyDigits => .error .badValue
      | .error .tooDeep => .error .tooDeep
      | .error fault =>
          if hint == .json then .error (.problem (.notJson source fault.message))
          else readYaml source (some fault.message) content

end Routebook.Document

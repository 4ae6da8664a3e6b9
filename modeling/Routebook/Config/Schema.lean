import Routebook.Config.Basic
import Routebook.Text.Blank
import Routebook.Text.Utf8
import Routebook.Value.Display

/-!
# The schema of configurations

Checking a mapping against the schema yields a configuration, or every issue in the order of the
fields.  A field may be written under its key in the file format or under its plain name; the former
wins when both are present, and unknown keys are ignored.
-/

namespace Routebook.Schema

set_option autoImplicit false

variable [Runtime]

/-- The outcome of a check: a result, or the issues found. -/
abbrev Checked (α : Type) := Except (List Issue) α

/-- The issues of a check. -/
def issuesOf {α : Type} : Checked α → List Issue
  | .ok _ => []
  | .error issues => issues

/-- A single issue. -/
def refuse {α : Type} (place : List Place) (violation : Violation) : Checked α :=
  .error [⟨place, violation⟩]

/-- The results of several checks, or all their issues in order. -/
def gather {α : Type} : List (Checked α) → Checked (List α)
  | [] => .ok []
  | check :: rest =>
      match check, gather rest with
      | .ok result, .ok results => .ok (result :: results)
      | .ok _, .error issues => .error issues
      | .error issues, others => .error (issues ++ issuesOf others)

/-! ## Simple values -/

/-- Whether a whole number fits a machine integer. -/
def isMachineSized (value : Int) : Bool :=
  -0x8000000000000000 ≤ value && value < 0x8000000000000000

/-- The step on the way to a value at a key: texts and machine integers show as they are, other keys
by their notation. -/
def keyPlace : Value → Place
  | .text name => .name name
  | .truth flag => .position (if flag then 1 else 0)
  | .int value =>
      if isMachineSized value then .position value
      else if Number.isTooLong value then .name "<unprintable int object>"
      else .name (toString value)
  | other => .name other.shown

/-- A text: a text, or bytes that are text. -/
def checkText (place : List Place) : Value → Checked String
  | .text value => .ok value
  | .bytes bytes =>
      match Text.utf8Decode bytes with
      | .ok text => .ok (String.ofList text)
      | .error _ => refuse place .undecodableText
  | _ => refuse place .notText

/-- The words for a truth value, in lower case. -/
def truthWords : List (String × Bool) :=
  [("0", false), ("f", false), ("n", false), ("no", false), ("off", false), ("false", false),
   ("1", true), ("t", true), ("y", true), ("on", true), ("yes", true), ("true", true)]

/-- A truth value written as a word in any case. -/
def checkTruthWord (place : List Place) (word : String) : Checked Bool :=
  match truthWords.find? fun entry => entry.1 == word.toLower with
  | some entry => .ok entry.2
  | none => refuse place .unknownTruthValue

/-- Whether a number has no fractional part and lies strictly within the machine integers. -/
def isMachineInteger (number : Number.Binary64) : Bool :=
  if number.isNaN || number.isInfinite then false
  else
    let fraction := number.toFraction
    fraction.1.natAbs % fraction.2 == 0 && fraction.1.natAbs / fraction.2 < 0x8000000000000000

/-- A truth value: itself, zero or one, or a word. -/
def checkTruth (place : List Place) : Value → Checked Bool
  | .truth flag => .ok flag
  | .text word => checkTruthWord place word
  | .bytes bytes =>
      match Text.utf8Decode bytes with
      | .ok text => checkTruthWord place (String.ofList text)
      | .error _ => refuse place .unknownTruthValue
  | .int value =>
      if value == 0 then .ok false
      else if value == 1 then .ok true
      else if isMachineSized value then refuse place .unknownTruthValue
      else refuse place .notTruthValue
  | .float value =>
      if value.equalsInt 0 then .ok false
      else if value.equalsInt 1 then .ok true
      else if isMachineInteger value then refuse place .unknownTruthValue
      else refuse place .notTruthValue
  | _ => refuse place .notTruthValue

/-- The root: a text that is not blank. -/
def checkRoot (place : List Place) (value : Value) : Checked String :=
  match checkText place value with
  | .error issues => .error issues
  | .ok root => if Text.isBlankText root then refuse place .blankRoot else .ok root

/-! ## Mappings -/

/-- A key of a mapping whose keys are texts. -/
def checkKey (place : List Place) (key : Value) : Checked String :=
  checkText (place ++ [keyPlace key, .name "[key]"]) key

/-- The entries of a mapping from texts to values that pass a check; later entries win over earlier
ones with the same key. -/
def checkMapping {α : Type} (place : List Place) (checkValue : List Place → Value → Checked α)
    (value : Value) : Checked (List (String × α)) :=
  match value.opened with
  | .mapping entries =>
      gather (entries.map fun entry =>
        match checkKey place entry.1, checkValue (place ++ [keyPlace entry.1]) entry.2 with
        | .ok key, .ok result => .ok (key, result)
        | .ok _, .error issues => .error issues
        | .error issues, others => .error (issues ++ issuesOf others))
  | _ => refuse place .notMapping

/-- The entries with a later one written over an earlier one with the same key. -/
def writeEntry {α : Type} (key : String) (value : α) : List (String × α) → List (String × α)
  | [] => [(key, value)]
  | entry :: rest =>
      if entry.1 == key then (key, value) :: rest else entry :: writeEntry key value rest

/-- The entries with every key once. -/
def settle {α : Type} (entries : List (String × α)) : List (String × α) :=
  entries.foldl (fun written entry => writeEntry entry.1 entry.2 written) []

/-- A mapping from texts to any values. -/
def checkOptions (place : List Place) (value : Value) : Checked Entries :=
  (checkMapping place (fun _ option => Except.ok option) value).map fun entries =>
    (settle entries).map fun entry => (.text entry.1, entry.2)

/-- A mapping from texts to any values, or null. -/
def checkDefaults (place : List Place) : Value → Checked (Option Entries)
  | .null => .ok none
  | value => (checkOptions place value).map some

/-! ## Fields -/

/-- A field's value with the place of the spelling under which it stands. -/
def field? (entries : Entries) (label name : String) : Option (Place × Value) :=
  match Value.lookupText label entries with
  | some value => some (.name label, value)
  | none => (Value.lookupText name entries).map fun value => (.name name, value)

/-- A required field. -/
def required {α : Type} (place : List Place) (entries : Entries) (label name : String)
    (check : List Place → Value → Checked α) : Checked α :=
  match field? entries label name with
  | some (step, value) => check (place ++ [step]) value
  | none => refuse (place ++ [.name label]) .missing

/-- A field that may be missing. -/
def optional {α : Type} (place : List Place) (entries : Entries) (label name : String) (default : α)
    (check : List Place → Value → Checked α) : Checked α :=
  match field? entries label name with
  | some (step, value) => check (place ++ [step]) value
  | none => .ok default

/-! ## Routes -/

/-- The structured form of a route. -/
def checkDetailed (place : List Place) (value : Value) : Checked RouteEntry :=
  match value.opened with
  | .mapping entries =>
      match required place entries "pathPattern" "path_pattern" checkText,
        optional place entries "requestOptions" "request_options" [] checkOptions with
      | .ok pathPattern, .ok requestOptions => .ok (.detailed pathPattern requestOptions)
      | first, second => .error (issuesOf first ++ issuesOf second)
  | _ => refuse place .notRoute

/-- A route in either form; the issues of both are reported when neither fits. -/
def checkRoute (place : List Place) (value : Value) : Checked RouteEntry :=
  match checkText (place ++ [.name "str"]) value with
  | .ok template => .ok (.template template)
  | .error textIssues =>
      match checkDetailed (place ++ [.name "RouteSpec"]) value with
      | .ok entry => .ok entry
      | .error issues => .error (textIssues ++ issues)

/-- The routes under one method. -/
def checkRoutes (entries : Entries) (method : Method) : Checked (List (String × RouteEntry)) :=
  optional [] entries method.key method.key [] fun place value =>
    (checkMapping place checkRoute value).map settle

/-- Checks a mapping as a configuration. -/
def check (entries : Entries) : Except (List Issue) ClientConfig :=
  let root := required [] entries "root" "root" checkRoot
  let parseJson := optional [] entries "parseJson" "parse_json" false checkTruth
  let encodeValues := optional [] entries "encodeValues" "encode_values" false checkTruth
  let requestDefaults := optional [] entries "requestDefaults" "request_defaults" none checkDefaults
  let delete := checkRoutes entries .delete
  let get := checkRoutes entries .get
  let head := checkRoutes entries .head
  let patch := checkRoutes entries .patch
  let post := checkRoutes entries .post
  let put := checkRoutes entries .put
  match root, parseJson, encodeValues, requestDefaults, delete, get, head, patch, post, put with
  | .ok root, .ok parseJson, .ok encodeValues, .ok requestDefaults, .ok delete, .ok get, .ok head,
    .ok patch, .ok post, .ok put =>
      .ok { root, parseJson, encodeValues, requestDefaults
            declarations := { delete, get, head, patch, post, put } }
  | _, _, _, _, _, _, _, _, _, _ =>
      .error (issuesOf root ++ issuesOf parseJson ++ issuesOf encodeValues
        ++ issuesOf requestDefaults ++ issuesOf delete ++ issuesOf get ++ issuesOf head
        ++ issuesOf patch ++ issuesOf post ++ issuesOf put)

end Routebook.Schema

namespace Routebook

variable [Runtime]

/-- Checks a value that is to become a client as a configuration: a mapping or a sequence of pairs.
-/
def ClientConfig.ofValue (value : Value) : Except Failure ClientConfig := do
  let entries ← value.toEntries
  match Schema.check entries with
  | .ok config => return config
  | .error issues => throw (.problem (.invalidClient issues))

/-- Checks a value as a configuration without taking anything but a mapping for one. -/
def ClientConfig.validate (value : Value) : Except Failure ClientConfig :=
  match value with
  | .mapping entries =>
      match Schema.check entries with
      | .ok config => .ok config
      | .error issues => .error (.invalid issues)
  | _ => .error (.invalid [⟨[], .notClient⟩])

end Routebook

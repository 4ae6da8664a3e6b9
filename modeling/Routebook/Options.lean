import Routebook.Value.Display

/-!
# Request options

Options are mappings laid over one another.  Every option of the upper layer replaces the one below,
except that header fields present in both layers are laid over one another in turn.
-/

namespace Routebook.Options

set_option autoImplicit false

variable [Runtime]

/-- A mapping that is required to be one. -/
def requireMapping (value : Value) : Except Failure Entries :=
  match value.opened with
  | .mapping entries => .ok entries
  | _ => .error .wrongType

/-- The header fields of two layers, if both have some. -/
def mergeHeaders (base override : Entries) : Except Failure (Option Entries) :=
  match Value.lookupText "headers" base, Value.lookupText "headers" override with
  | some lower, some upper => do
      return some (Value.overlay (Value.ofPairs (← requireMapping lower)) (← requireMapping upper))
  | _, _ => .ok none

/-- One layer of options over another. -/
def merge (base override : Entries) : Except Failure Entries := do
  let merged := Value.overlay base override
  match ← mergeHeaders base override with
  | some headers => return Value.insertText "headers" (.mapping headers) merged
  | none => return merged

/-- The options that influence a request. -/
def known : List String :=
  ["uri", "url", "method", "body", "json", "headers", "qs", "form", "timeout", "followRedirect",
   "strictSSL"]

/-- Whether a key is a known option. -/
def isKnown : Value → Bool
  | .text name => known.contains name
  | _ => false

/-- The line about an option that has no influence, if its key has a text. -/
def ignoredLine (key : Value) : Except Failure String := do
  return "Ignoring unsupported request option '" ++ (← key.asText) ++ "'"

/-- The lines about options that have no influence, in the order of their text. -/
def ignoredLines (options : Entries) : Except Failure (List String) := do
  let lines ← ((options.map Prod.fst).filter (!isKnown ·)).mapM ignoredLine
  return lines.mergeSort (fun first second => decide (first ≤ second))

/-- The value of an option; null if it is not given. -/
def get (options : Entries) (name : String) : Value :=
  (Value.lookupText name options).getD .null

/-- The value of an option, or a default if it is not given. -/
def getOr (options : Entries) (name : String) (default : Value) : Value :=
  (Value.lookupText name options).getD default

/-- The first of two values, or the second if the first counts as false. -/
def firstTruthy (first second : Value) : Value :=
  if first.isTruthy then first else second

end Routebook.Options

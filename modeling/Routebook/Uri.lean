import Routebook.Template
import Routebook.Text.Utf8
import Routebook.Text.Whole
import Routebook.Value.Display

/-!
# Building addresses

The address of a call is built from the root, the pattern of the route and the arguments.  Each
argument is resolved by its key: a path variable replaces its placeholder everywhere in the path,
any other declared query parameter is appended to the query, and the rest is left out.  The report
says what became of every path variable and every key.
-/

namespace Routebook

set_option autoImplicit false

variable [Runtime]

namespace Uri

/-! ## Parts of an address -/

/-- Root and path with exactly one slash where they meet, if the path brings at most one. -/
def joinCharacters (root path : List Char) : List Char :=
  let base := if root.getLast? == some '/' then root else root ++ ['/']
  match path with
  | '/' :: rest => base ++ rest
  | _ => base ++ path

/-- Root and path joined by a slash. -/
def join (root path : String) : String :=
  String.ofList (joinCharacters root.toList path.toList)

/-- The text of a value in an address: truth values and null as in JSON, texts as they are, and
everything else by its notation, if it has one. -/
def stringify : Value → Except Failure String
  | .truth flag => .ok (if flag then "true" else "false")
  | .null => .ok "null"
  | other => other.asText

/-- Whether a character stands for itself in an encoded text. -/
def isUnreserved (character : Char) : Bool :=
  character.isAlphanum || character == '_' || character == '.' || character == '-'
    || character == '~'

/-- The upper-case hexadecimal digit of a number below sixteen. -/
def upperHexDigit (number : Nat) : Char :=
  (Nat.digitChar number).toUpper

/-- A byte as a percent sign and two hexadecimal digits. -/
def percentByte (byte : UInt8) : List Char :=
  ['%', upperHexDigit (byte.toNat / 16), upperHexDigit (byte.toNat % 16)]

/-- A character as it stands in an encoded text. -/
def percentCharacter (character : Char) : List Char :=
  if isUnreserved character then [character]
  else (Text.utf8Bytes character).flatMap percentByte

/-- A text with every reserved character encoded. -/
def percentEncode (text : List Char) : List Char :=
  text.flatMap percentCharacter

/-- The text of a value in an address, encoded if asked for. -/
def renderValue (encode : Bool) (value : Value) : Except Failure (List Char) := do
  let text ← stringify value
  if encode then
    Text.requireWhole text.toList
    return percentEncode text.toList
  else return text.toList

/-! ## Resolving arguments -/

/-- What became of a path variable. -/
inductive Outcome
  | substituted
  | leftAsLiteral
  deriving DecidableEq, Repr

/-- The name of an outcome. -/
def Outcome.name : Outcome → String
  | .substituted => "substituted"
  | .leftAsLiteral => "left_as_literal"

/-- The state of a build: the address so far and what has been resolved. -/
structure Progress where
  address : List Char
  placeholders : List (String × Outcome)
  query : List (String × List Char)
  ignored : List Value

/-- An address with the placeholder of a name replaced everywhere. -/
def substitute (name : String) (replacement address : List Char) : List Char :=
  Text.replaceAll '$' ('\x7b' :: (name.toList ++ ['\x7d'])) replacement address

/-- The outcomes with a name marked as substituted. -/
def markSubstituted (name : String) (outcomes : List (String × Outcome)) :
    List (String × Outcome) :=
  outcomes.map fun entry => if entry.1 == name then (name, .substituted) else entry

/-- The state with the placeholder of a path variable replaced. -/
def Progress.fill (progress : Progress) (name : String) (text : List Char) : Progress :=
  { progress with
    address := substitute name text progress.address
    placeholders := markSubstituted name progress.placeholders }

/-- The state with one more entry of the query. -/
def Progress.ask (progress : Progress) (name : String) (text : List Char) : Progress :=
  { progress with query := progress.query ++ [(name, text)] }

/-- The state with one more key left out. -/
def Progress.ignore (progress : Progress) (key : Value) : Progress :=
  { progress with ignored := progress.ignored ++ [key] }

/-- Resolves one argument. -/
def Progress.resolve (pattern : Pattern) (encode : Bool) (progress : Progress)
    (argument : Value × Value) : Except Failure Progress :=
  match argument.1 with
  | .text name =>
      if pattern.isPathVariable name then
        (renderValue encode argument.2).map (progress.fill name)
      else if pattern.isQueryParameter name then
        (renderValue encode argument.2).map (progress.ask name)
      else .ok (progress.ignore argument.1)
  | _ => .ok (progress.ignore argument.1)

/-- The state before any argument is resolved. -/
def Progress.start (root : String) (pattern : Pattern) : Progress where
  address := joinCharacters root.toList pattern.literalPath.toList
  placeholders := pattern.distinctPathVariables.map fun name => (name, .leftAsLiteral)
  query := []
  ignored := []

/-- The state after the arguments are resolved in their order. -/
def Progress.run (root : String) (pattern : Pattern) (encode : Bool) (arguments : Entries) :
    Except Failure Progress :=
  arguments.foldlM (Progress.resolve pattern encode) (Progress.start root pattern)

/-- A query as it stands in an address, its question mark included; none if it is empty. -/
def queryCharacters : List (String × List Char) → List Char
  | [] => []
  | entries => '?' :: ['&'].intercalate (entries.map fun entry => entry.1.toList ++ '=' :: entry.2)

/-- An address with the report of how it was built. -/
structure Resolution where
  /-- The address. -/
  uri : String
  /-- Every path variable once, in order of first appearance, with what became of it. -/
  placeholders : List (String × Outcome)
  /-- The entries of the query, in the order of the arguments. -/
  query : List (String × String)
  /-- The keys that were left out. -/
  ignored : List String
  deriving DecidableEq, Repr

/-- The path variables that were not supplied. -/
def Resolution.unresolved (resolution : Resolution) : List String :=
  (resolution.placeholders.filter fun entry => entry.2 == .leftAsLiteral).map Prod.fst

/-- A key as text: a text, or bytes that are text. -/
def keyText : Value → Except Violation String
  | .text name => .ok name
  | .bytes bytes =>
      match Text.utf8Decode bytes with
      | .ok text => .ok (String.ofList text)
      | .error _ => .error .undecodableText
  | _ => .error .notText

/-- The keys as texts, or the issues of those that are not. -/
def keyTexts (keys : List Value) : Except Failure (List String) :=
  let issues := keys.zipIdx.filterMap fun (key, index) =>
    match keyText key with
    | .ok _ => none
    | .error violation => some ⟨[.name "ignored", .position index], violation⟩
  if issues.isEmpty then
    .ok (keys.filterMap fun key => (keyText key).toOption)
  else .error (.invalid issues)

/-- The report of a finished build. -/
def Progress.finish (progress : Progress) : Except Failure Resolution :=
  (keyTexts progress.ignored).map fun ignored =>
    { uri := String.ofList (progress.address ++ queryCharacters progress.query)
      placeholders := progress.placeholders
      query := progress.query.map fun entry => (entry.1, String.ofList entry.2)
      ignored := ignored }

/-- Builds the address of a pattern from the entries of the arguments. -/
def resolve (root : String) (pattern : Pattern) (encode : Bool) (arguments : Entries) :
    Except Failure Resolution := do
  (← Progress.run root pattern encode arguments).finish

/-- The entries of the arguments of a call: a mapping, or any value that counts as false. -/
def argumentEntries (arguments : Value) : Except Failure Entries :=
  match arguments with
  | .mapping entries => .ok entries
  | other => if other.isTruthy then .error .missingAttribute else .ok []

/-- Builds the address of a pattern from the arguments of a call. -/
def build (root : String) (pattern : Pattern) (encode : Bool) (arguments : Value) :
    Except Failure Resolution := do
  resolve root pattern encode (← argumentEntries arguments)

end Uri

end Routebook

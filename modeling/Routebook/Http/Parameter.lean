import Routebook.Failure
import Routebook.Http.Percent
import Routebook.Text.Blank
import Routebook.Text.Charset
import Routebook.Text.Quoted

/-!
# Parameters of a field

The value of a field such as a content type is a list of pieces between semicolons, each a name with
a value.  A value may stand between quotes, it may come in numbered pieces, and it may be given with
the encoding and the language of its text, written with escapes.
-/

namespace Routebook.Http

set_option autoImplicit false

variable [Runtime]

/-! ## Pieces -/

/-- The pieces of a field between semicolons; a semicolon inside quotes does not count, and neither
does a quote after a backslash. -/
def splitPieces : (quoted escaped : Bool) → List Char → List (List Char)
  | _, _, [] => [[]]
  | quoted, escaped, character :: rest =>
      if character == ';' && !quoted then [] :: splitPieces false false rest
      else
        let turns := character == '"' && !escaped
        match splitPieces (quoted != turns) (character == '\\') rest with
        | [] => [[character]]
        | piece :: pieces => (character :: piece) :: pieces

/-- The name of a piece, in lower case, and its value; a piece without an equals sign is a name as
written with an empty value. -/
def readPiece (piece : List Char) : List Char × List Char :=
  match Text.cut '=' piece with
  | (name, some value) => ((Text.trim name).map Char.toLower, Text.trim value)
  | (name, none) => (Text.trim name, [])

/-- A value without the quotes or angle brackets around it. -/
def unwrapValue (value : List Char) : List Char :=
  match value with
  | '"' :: second :: rest =>
      if (second :: rest).getLast? == some '"' then
        Text.replaceAll '\\' ['"'] ['"']
          (Text.replaceAll '\\' ['\\'] ['\\'] (second :: rest).dropLast)
      else value
  | '<' :: second :: rest =>
      if (second :: rest).getLast? == some '>' then (second :: rest).dropLast else value
  | _ => value

/-! ## Numbered pieces -/

/-- A piece of a value that comes in pieces. -/
structure Fragment where
  /-- The number of the piece; a value that is given whole has none. -/
  number : Option Nat
  text : List Char
  /-- Whether the text is written with escapes. -/
  isEscaped : Bool

/-- Whether a character can stand in a word: a letter, a digit or a low line. -/
def isWordCharacter (character : Char) : Bool := character.isAlphanum || character == '_'

/-- The name and the number in the marked name of a piece, such as `title*1*`. -/
def readMarkedName? (name : List Char) : Option (List Char × Option Nat) :=
  let base := name.takeWhile isWordCharacter
  if base.isEmpty then none
  else
    match name.drop base.length with
    | ['*'] => some (base, none)
    | '*' :: rest =>
        let digits := rest.takeWhile Char.isDigit
        let after := rest.drop digits.length
        if !digits.isEmpty && (after.isEmpty || after == ['*']) then
          some (base, some (Number.digitsValue digits))
        else none
    | _ => none

/-- Whether a text comes before another one or equals it, by code points. -/
def isOrderedText : List Char → List Char → Bool
  | [], _ => true
  | _ :: _, [] => false
  | first :: rest, second :: other =>
      first.toNat < second.toNat || (first == second && isOrderedText rest other)

/-- Whether a piece comes before another one or at the same place. -/
def Fragment.isOrdered (first second : Fragment) : Bool :=
  if first.number != second.number then first.number.getD 0 < second.number.getD 0
  else if first.text != second.text then isOrderedText first.text second.text
  else !first.isEscaped || second.isEscaped

/-- A text with its escapes replaced by the characters of the first 256 code points. -/
def unescapeBytes : List Char → List Char
  | '%' :: first :: second :: rest =>
      match Json.hexNumber? [first, second] with
      | some code => Char.ofNat code :: unescapeBytes rest
      | none => '%' :: unescapeBytes (first :: second :: rest)
  | character :: rest => character :: unescapeBytes rest
  | [] => []
termination_by text => text.length

/-! ## Values -/

/-- The value of a parameter: a text, or a text with the encoding that its characters, taken as
bytes, are to be read in. -/
inductive ParameterValue
  | plain (text : List Char)
  | encoded (encoding : Option (List Char)) (text : List Char)
  deriving DecidableEq, Repr

/-- The value that pieces make together.  Pieces with and without a number do not go together. -/
def joinFragments (fragments : List Fragment) : Except Failure ParameterValue :=
  let numbered := fragments.any fun fragment => fragment.number.isSome
  let unnumbered := fragments.any fun fragment => fragment.number.isNone
  if numbered && unnumbered then .error .wrongType
  else
    let text := (fragments.mergeSort Fragment.isOrdered).flatMap fun fragment =>
      if fragment.isEscaped then unescapeBytes fragment.text else fragment.text
    if fragments.any Fragment.isEscaped then
      match Text.cut '\'' text with
      | (encoding, some rest) =>
          match Text.cut '\'' rest with
          | (_, some content) => .ok (.encoded (some encoding) content)
          | (_, none) => .ok (.encoded none text)
      | (_, none) => .ok (.encoded none text)
    else .ok (.plain text)

/-- The parameters of a field: those given whole, and then those that come in pieces. -/
def readParameters (field : List Char) : Except Failure (List (List Char × ParameterValue)) := do
  let pieces := (splitPieces false false field).map readPiece
  let whole := fun (piece : List Char × List Char) =>
    (piece.1, ParameterValue.plain (unwrapValue piece.2))
  match pieces with
  | [] => return []
  | first :: rest =>
      let marked := rest.filterMap fun (name, value) =>
        (readMarkedName? name).map fun (base, number) =>
          (base, (⟨number, unwrapValue value, name.getLast? == some '*'⟩ : Fragment))
      let unmarked := rest.filter fun piece => (readMarkedName? piece.1).isNone
      let names := (marked.map Prod.fst).eraseDups
      let joined ← names.mapM fun name => do
        let fragments := marked.filter fun entry => entry.1 == name
        return (name, ← joinFragments (fragments.map Prod.snd))
      return whole first :: unmarked.map whole ++ joined

/-! ## The encoding of a text -/

/-- The characters of a text as bytes; one beyond the first 256 is written with an escape. -/
def rawBytes (text : List Char) : List UInt8 :=
  text.flatMap fun character =>
    let code := character.toNat
    if code < 0x100 then [UInt8.ofNat code]
    else
      let escape := if code < 0x10000 then '\\' :: 'u' :: Text.hexPadded 4 code
        else '\\' :: 'U' :: Text.hexPadded 8 code
      escape.map fun digit => UInt8.ofNat digit.toNat

/-- The text of the value of a parameter. -/
def ParameterValue.text : ParameterValue → List Char
  | .plain text => text
  | .encoded encoding text =>
      let name := String.ofList (encoding.getD "us-ascii".toList)
      match Text.Charset.named? name with
      | some (.ok found) => (found.decode? (rawBytes text)).getD text
      | _ => text

/-- The name of an encoding that a content type gives, if it is ASCII. -/
def charset? (contentType : String) : Except Failure (Option String) := do
  let parameters ← readParameters contentType.toList
  match parameters.find? fun parameter => parameter.1.map Char.toLower == "charset".toList with
  | none => return none
  | some parameter =>
      let name := parameter.2.text
      return if name.all fun character => character.toNat < 0x80 then some (String.ofList name)
        else none

end Routebook.Http

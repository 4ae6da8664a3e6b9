import Routebook.Number.Decimal
import Routebook.Runtime
import Routebook.Text.Encoding
import Routebook.Text.Search
import Routebook.Value.Basic

/-!
# Reading JSON

A document is one value with blanks around it.  Besides the standard grammar the three texts `NaN`,
`Infinity` and `-Infinity` are numbers.  A malformed document is reported with the place of the
first character that cannot continue it; inside the reader a place is the number of characters left.
-/

namespace Routebook.Json

set_option autoImplicit false

variable [Runtime]

/-! ## Faults -/

/-- Why a text is not a document. -/
inductive Reason
  | valueExpected
  | nameExpected
  | colonExpected
  | commaExpected
  | extraData
  | controlCharacter
  | unterminatedText
  | unknownEscape
  | brokenCodePoint
  | byteOrderMark
  deriving DecidableEq, Repr

/-- The wording of a reason. -/
def Reason.message : Reason → String
  | .valueExpected => "Expecting value"
  | .nameExpected => "Expecting property name enclosed in double quotes"
  | .colonExpected => "Expecting ':' delimiter"
  | .commaExpected => "Expecting ',' delimiter"
  | .extraData => "Extra data"
  | .controlCharacter => "Invalid control character at"
  | .unterminatedText => "Unterminated string starting at"
  | .unknownEscape => "Invalid \\escape"
  | .brokenCodePoint => "Invalid \\uXXXX escape"
  | .byteOrderMark => "Unexpected UTF-8 BOM (decode using utf-8-sig)"

/-- A fault inside the reader: what is wrong, with the number of characters left. -/
inductive Stop
  | malformed (reason : Reason) (remaining : Nat)
  | tooManyDigits
  | tooDeep
  deriving DecidableEq, Repr

/-- Why a document cannot be read. -/
inductive Fault
  /-- The text is not a document; lines and columns count from one, the offset from zero. -/
  | malformed (reason : Reason) (line column offset : Nat)
  /-- The bytes are not text. -/
  | undecodable (damage : Text.Undecodable)
  /-- An integer has more digits than are read. -/
  | tooManyDigits
  /-- Containers are nested more deeply than they are read. -/
  | tooDeep
  deriving DecidableEq, Repr

/-- The report of a fault. -/
def Fault.message : Fault → String
  | .malformed reason line column offset =>
      reason.message ++ ": line " ++ toString line ++ " column " ++ toString column ++ " (char "
        ++ toString offset ++ ")"
  | .undecodable damage => damage.message
  | .tooManyDigits => "Exceeds the limit (" ++ toString Number.digitLimit
      ++ " digits) for integer string conversion"
  | .tooDeep => Failure.tooDeep.message

/-- A fault of the reader placed in the text it was reading. -/
def Stop.locate (text : List Char) : Stop → Fault
  | .tooManyDigits => .tooManyDigits
  | .tooDeep => .tooDeep
  | .malformed reason remaining =>
      let offset := text.length - remaining
      let before := text.take offset
      let lastLine := (before.reverse.takeWhile (· != '\n')).length
      .malformed reason (before.count '\n' + 1) (lastLine + 1) offset

/-! ## Tokens -/

/-- Whether a character is a blank between tokens. -/
def isBlank (character : Char) : Bool :=
  character == ' ' || character == '\t' || character == '\n' || character == '\r'

/-- The text after leading blanks. -/
def skipBlanks (text : List Char) : List Char :=
  text.dropWhile isBlank

/-- The number that a hexadecimal digit stands for. -/
def hexDigit? (character : Char) : Option Nat :=
  if character.isDigit then some (character.toNat - '0'.toNat)
  else if 'a' ≤ character && character ≤ 'f' then some (character.toNat - 'a'.toNat + 10)
  else if 'A' ≤ character && character ≤ 'F' then some (character.toNat - 'A'.toNat + 10)
  else none

/-- The number that a list of hexadecimal digits stands for. -/
def hexNumber? (digits : List Char) : Option Nat :=
  digits.foldlM (fun total digit => (hexDigit? digit).map (total * 16 + ·)) 0

/-- The character that a one-letter escape stands for. -/
def escaped? : Char → Option Char
  | '"' => some '"'
  | '\\' => some '\\'
  | '/' => some '/'
  | 'b' => some '\x08'
  | 'f' => some '\x0C'
  | 'n' => some '\n'
  | 'r' => some '\r'
  | 't' => some '\t'
  | _ => none

/-- The code point written by the four hexadecimal digits after a `u`, and the text after them; at
least one character must follow the digits. -/
def codeUnit (afterLetter : List Char) : Except Stop (Nat × List Char) :=
  let fault := Stop.malformed .brokenCodePoint (afterLetter.length + 1)
  match afterLetter with
  | a :: b :: c :: d :: next :: rest =>
      match hexNumber? [a, b, c, d] with
      | some code => .ok (code, next :: rest)
      | none => .error fault
  | _ => .error fault

/-- The character written by an escaped code unit, joined with a following trailing half if it is a
leading half; a half that stands alone is kept. -/
def joinHalves (code : Nat) (rest : List Char) : Except Stop (Char × List Char) :=
  if 0xD800 ≤ code && code < 0xDC00 then
    match rest with
    | '\\' :: 'u' :: tail =>
        if tail.length ≤ 4 then .ok (Text.Halves.standIn code, rest)
        else do
          let (trailing, after) ← codeUnit tail
          if 0xDC00 ≤ trailing && trailing < 0xE000 then
            return (Char.ofNat (0x10000 + (code - 0xD800) * 0x400 + (trailing - 0xDC00)), after)
          else return (Text.Halves.standIn code, rest)
    | _ => .ok (Text.Halves.standIn code, rest)
  else if 0xDC00 ≤ code && code < 0xE000 then .ok (Text.Halves.standIn code, rest)
  else .ok (Char.ofNat code, rest)

/-- Reads a quoted text after its opening quote; `opening` is the number of characters left at that
quote, and `budget` bounds the number of steps. -/
def readText (opening : Nat) : Nat → List Char → Except Stop (List Char × List Char)
  | 0, _ => .error (.malformed .unterminatedText opening)
  | _, [] => .error (.malformed .unterminatedText opening)
  | _, ['\\'] => .error (.malformed .unterminatedText opening)
  | _ + 1, '"' :: rest => .ok ([], rest)
  | budget + 1, '\\' :: 'u' :: rest => do
      let (code, after) ← codeUnit rest
      let (character, after) ← joinHalves code after
      let (tail, final) ← readText opening budget after
      return (character :: tail, final)
  | budget + 1, '\\' :: letter :: rest =>
      match escaped? letter with
      | none => .error (.malformed .unknownEscape (rest.length + 2))
      | some character => do
          let (tail, final) ← readText opening budget rest
          return (character :: tail, final)
  | budget + 1, character :: rest =>
      if character.toNat ≤ 0x1F then
        .error (.malformed .controlCharacter (rest.length + 1))
      else do
        let (tail, final) ← readText opening budget rest
        return (character :: tail, final)

/-- Splits off a fraction: a point with at least one digit. -/
def takeFraction : List Char → List Char × List Char
  | '.' :: rest =>
      let digits := rest.takeWhile Char.isDigit
      if digits.isEmpty then ([], '.' :: rest) else (digits, rest.dropWhile Char.isDigit)
  | text => ([], text)

/-- Splits off an exponent: a letter, an optional sign and at least one digit. -/
def takeExponent (text : List Char) : Option Int × List Char :=
  let digitsOf := fun (sign : Int) (rest : List Char) =>
    let digits := rest.takeWhile Char.isDigit
    if digits.isEmpty then (none, text)
    else (some (sign * (Number.digitsValue digits : Int)), rest.dropWhile Char.isDigit)
  match text with
  | letter :: rest =>
      if letter == 'e' || letter == 'E' then
        match rest with
        | '+' :: tail => digitsOf 1 tail
        | '-' :: tail => digitsOf (-1) tail
        | tail => digitsOf 1 tail
      else (none, text)
  | [] => (none, text)

/-- Splits off the whole part of a number: zero, or digits that do not start with zero. -/
def takeWhole : List Char → List Char × List Char
  | '0' :: rest => (['0'], rest)
  | text => (text.takeWhile Char.isDigit, text.dropWhile Char.isDigit)

/-- Reads a number after its sign, if there is one here. -/
def readNumber? (negative : Bool) (text : List Char) : Option (Except Stop (Value × List Char)) :=
  let (whole, afterWhole) := takeWhole text
  if whole.isEmpty then none
  else
    let (fraction, afterFraction) := takeFraction afterWhole
    let (exponent, rest) := takeExponent afterFraction
    if fraction.isEmpty && exponent.isNone then
      if Number.digitLimit < whole.length then some (.error .tooManyDigits)
      else
        let size : Int := Number.digitsValue whole
        some (.ok (.int (if negative then -size else size), rest))
    else
      let digits := Number.digitsValue (whole ++ fraction)
      let power := exponent.getD 0 - fraction.length
      some (.ok (.float (Number.Binary64.ofDecimal negative digits power), rest))

/-- The words that stand for values. -/
def words : List (List Char × Value) :=
  [("null".toList, .null), ("true".toList, .truth true), ("false".toList, .truth false),
   ("NaN".toList, .float Number.Binary64.nan),
   ("Infinity".toList, .float (Number.Binary64.infinity false)),
   ("-Infinity".toList, .float (Number.Binary64.infinity true))]

/-- Reads one of the words that stand for values, if the text starts with one. -/
def readWord? (text : List Char) : Option (Value × List Char) :=
  words.findSome? fun entry => (Text.dropWord? entry.1 text).map fun rest => (entry.2, rest)

/-! ## Values -/

mutual
/-- Reads a value that starts at the first character; `room` is the number of containers that may
still be opened inside one another, and `budget` bounds the number of steps. -/
def readValue (room : Nat) : Nat → List Char → Except Stop (Value × List Char)
  | 0, text => .error (.malformed .valueExpected text.length)
  | _, [] => .error (.malformed .valueExpected 0)
  | _ + 1, '"' :: rest => do
      let (content, after) ← readText (rest.length + 1) (rest.length + 1) rest
      return (.text (String.ofList content), after)
  | budget + 1, '[' :: rest =>
      if room == 0 then .error .tooDeep
      else
        match skipBlanks rest with
        | ']' :: after => .ok (.list [], after)
        | content => do
            let (items, after) ← readItems (room - 1) budget content
            return (.list items, after)
  | budget + 1, '\x7b' :: rest =>
      if room == 0 then .error .tooDeep
      else
        match skipBlanks rest with
        | '\x7d' :: after => .ok (.mapping [], after)
        | content => do
            let (members, after) ← readMembers (room - 1) budget content
            return (.mapping (Value.ofPairs members), after)
  | _ + 1, text =>
      match readWord? text with
      | some found => .ok found
      | none =>
          let number := match text with
            | '-' :: rest => readNumber? true rest
            | _ => readNumber? false text
          number.getD (.error (.malformed .valueExpected text.length))

/-- Reads the items of a list up to its closing bracket. -/
def readItems (room : Nat) : Nat → List Char → Except Stop (List Value × List Char)
  | 0, text => .error (.malformed .valueExpected text.length)
  | budget + 1, text => do
      let (item, after) ← readValue room budget text
      match skipBlanks after with
      | ']' :: rest => return ([item], rest)
      | ',' :: rest => do
          let (items, final) ← readItems room budget (skipBlanks rest)
          return (item :: items, final)
      | other => throw (.malformed .commaExpected other.length)

/-- Reads the members of a mapping up to its closing brace. -/
def readMembers (room : Nat) : Nat → List Char → Except Stop (List (Value × Value) × List Char)
  | 0, text => .error (.malformed .nameExpected text.length)
  | budget + 1, '"' :: text => do
      let (name, afterName) ← readText (text.length + 1) (text.length + 1) text
      match skipBlanks afterName with
      | ':' :: afterColon => do
          let (value, after) ← readValue room budget (skipBlanks afterColon)
          let member := (Value.text (String.ofList name), value)
          match skipBlanks after with
          | '\x7d' :: rest => return ([member], rest)
          | ',' :: rest => do
              let (members, final) ← readMembers room budget (skipBlanks rest)
              return (member :: members, final)
          | other => throw (.malformed .commaExpected other.length)
      | other => throw (.malformed .colonExpected other.length)
  | _ + 1, text => .error (.malformed .nameExpected text.length)
end

/-- Reads a document: one value and nothing but blanks around it. -/
def readDocument (text : List Char) : Except Stop Value := do
  let (value, after) ← readValue Runtime.jsonDepth (2 * text.length + 2) (skipBlanks text)
  match skipBlanks after with
  | [] => return value
  | extra => throw (.malformed .extraData extra.length)

/-- Refuses the mark of an encoding at the start of a text. -/
def refuseMark (text : List Char) : Except Stop Unit :=
  match text with
  | '\uFEFF' :: _ => .error (.malformed .byteOrderMark text.length)
  | _ => .ok ()

/-- The result of a reading, its place in the text made out. -/
def located (text : List Char) (result : Except Stop Value) : Except Fault Value :=
  match result with
  | .ok value => .ok value
  | .error stop => .error (stop.locate text)

/-- Reads a document from text, which must not start with the mark of an encoding. -/
def parse (text : String) : Except Fault Value :=
  located text.toList (do
    refuseMark text.toList
    readDocument text.toList)

/-- Reads a document from bytes, in the encoding that their start reveals. -/
def parseBytes (bytes : List UInt8) : Except Fault Value :=
  match (Text.Encoding.detect bytes).decodeWith true bytes with
  | .error damage => .error (.undecodable damage)
  | .ok text => located text (readDocument text)

end Routebook.Json

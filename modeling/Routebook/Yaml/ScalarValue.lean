import Routebook.Json.Reader
import Routebook.Text.Blank
import Routebook.Text.Digit
import Routebook.Yaml.Binary
import Routebook.Yaml.Cursor
import Routebook.Yaml.Tag

/-!
# Values of scalars

A scalar is read by the type that its tag names.  An explicit tag can stand before any text, so the
readers take more texts than the forms by which plain scalars are recognized, and refuse the rest.
-/

namespace Routebook.Yaml

set_option autoImplicit false

/-! ## Numbers -/

/-- The digit that a character is in a base. -/
def baseDigit? (base : Nat) (character : Char) : Option Nat :=
  match Json.hexDigit? character with
  | some digit => if digit < base then some digit else none
  | none => none

/-- The whole number that a text is in a base: blanks around it, a sign and the mark of the base are
allowed. -/
def intOfText (base : Nat) (text : List Char) : Except Fault Int := do
  let trimmed := Text.asciiDigits (Text.trim text)
  let negative := trimmed.head? == some '-'
  let unsigned := dropSign trimmed
  let digits := match base, unsigned with
    | 2, '0' :: letter :: rest => if letter == 'b' || letter == 'B' then rest else unsigned
    | 8, '0' :: letter :: rest => if letter == 'o' || letter == 'O' then rest else unsigned
    | 16, '0' :: letter :: rest => if letter == 'x' || letter == 'X' then rest else unsigned
    | _, _ => unsigned
  if digits.isEmpty then throw (.failure .badValue)
  if base == 10 && digits.all Char.isDigit && Number.digitLimit < digits.length then
    throw (.failure .badValue)
  match digits.foldlM (fun total digit => (baseDigit? base digit).map (total * base + ·)) 0 with
  | none => throw (.failure .badValue)
  | some size => return if negative then -(size : Int) else size

/-- A text without underscores and its leading sign, and whether the sign was negative; an empty
text has no first character to look at. -/
def splitSign (text : List Char) : Except Fault (Bool × List Char) :=
  let clean := text.filter (· != '_')
  match clean with
  | [] => .error (.failure .badIndex)
  | first :: rest => .ok (first == '-', if first == '-' || first == '+' then rest else clean)

/-- The number whose places to base sixty are given, the least first. -/
def ofSixtieths : List Int → Int
  | [] => 0
  | place :: rest => place + 60 * ofSixtieths rest

/-- The integer that a scalar stands for. -/
def intScalar (text : String) : Except Fault Int := do
  let (negative, unsigned) ← splitSign text.toList
  let size ←
    match unsigned with
    | ['0'] => pure 0
    | '0' :: 'b' :: digits => intOfText 2 digits
    | '0' :: 'x' :: digits => intOfText 16 digits
    | '0' :: _ => intOfText 8 unsigned
    | [] => throw (.failure .badIndex)
    | _ =>
        if unsigned.contains ':' then do
          let places ← (Text.split ':' unsigned).mapM (intOfText 10)
          pure (ofSixtieths places.reverse)
        else intOfText 10 unsigned
  return if negative then -size else size

/-- The floating-point number that a text in lower case is. -/
def floatOfText (text : List Char) : Except Fault Number.Binary64 := do
  let trimmed := Text.asciiDigits (Text.trim text)
  let negative := trimmed.head? == some '-'
  let unsigned := dropSign trimmed
  if unsigned == "inf".toList || unsigned == "infinity".toList then
    return Number.Binary64.infinity negative
  if unsigned == "nan".toList then return Number.Binary64.nan
  let whole := unsigned.takeWhile Char.isDigit
  let afterWhole := unsigned.dropWhile Char.isDigit
  let (fraction, afterFraction) := match afterWhole with
    | '.' :: rest => (rest.takeWhile Char.isDigit, rest.dropWhile Char.isDigit)
    | rest => ([], rest)
  let (exponent, rest) := Json.takeExponent afterFraction
  if (whole.isEmpty && fraction.isEmpty) || !rest.isEmpty then throw (.failure .badValue)
  return Number.Binary64.ofDecimal negative (Number.digitsValue (whole ++ fraction))
    (exponent.getD 0 - fraction.length)

/-- The sum of the places of a number to base sixty, the least first, each step rounded; the weight
of every place must be a finite number. -/
def addSixtieths (total : Number.Binary64) (weight : Int) :
    List Number.Binary64 → Except Fault Number.Binary64
  | [] => .ok total
  | place :: rest =>
      let factor := Number.Binary64.ofInt weight
      if factor.isInfinite then .error (.failure .overflow)
      else addSixtieths (total.add (place.multiply factor)) (weight * 60) rest

/-- Whether a text without underscores and sign is the word for the undefined number. -/
def isUndefinedWord (unsigned : List Char) : Bool := unsigned == ".nan".toList

/-- The floating-point number that a scalar stands for. -/
def floatScalar (text : String) : Except Fault Number.Binary64 := do
  let (negative, unsigned) ← splitSign (text.toList.map Char.toLower)
  let size ←
    if unsigned == ".inf".toList then pure (Number.Binary64.infinity false)
    else if isUndefinedWord unsigned then pure Number.Binary64.nan
    else if unsigned.contains ':' then do
      let places ← (Text.split ':' unsigned).mapM floatOfText
      addSixtieths (Number.Binary64.zero false) 1 places.reverse
    else floatOfText unsigned
  return if negative && !size.isNaN then size.negate else size

/-- Whether a scalar is the word for the undefined number in any case. -/
def isUndefinedScalar (text : String) : Bool :=
  match splitSign (text.toList.map Char.toLower) with
  | .ok (_, unsigned) => isUndefinedWord unsigned
  | .error _ => false

/-! ## Other scalars -/

/-- The microseconds that the digits of a fraction stand for. -/
def microseconds (fraction : List Char) : Nat :=
  Number.digitsValue ((fraction ++ List.replicate 6 '0').take 6)

/-- The date or time that a scalar stands for. -/
def timestampScalar (text : String) : Except Fault Value :=
  match Timestamp.read? (withoutFinalBreak text.toList) with
  | none => .error (.failure .missingAttribute)
  | some timestamp =>
      let number := Number.digitsValue
      let date := Date.ofFields? (number timestamp.year) (number timestamp.month)
        (number timestamp.day)
      match timestamp.time with
      | none =>
          match date with
          | some date => .ok (.date date)
          | none => .error (.failure .badValue)
      | some (hour, minute, second, fraction) =>
          let offset : Option Int := timestamp.zone.map fun zone =>
            match zone with
            | none => 0
            | some (sign, hours, minutes) =>
                let seconds : Int := (number hours * 3600 + number minutes * 60 : Nat)
                if sign == '-' then -seconds else seconds
          match Moment.ofFields? date (number hour) (number minute) (number second)
            (microseconds fraction) offset with
          | some moment => .ok (.moment moment)
          | none => .error (.failure .badValue)

/-- The bytes that a scalar stands for. -/
def binaryScalar (text : String) : Except Fault Value :=
  if text.toList.all fun character => character.toNat < 0x80 then
    match base64Decode? text.toList with
    | some bytes => .ok (.bytes bytes)
    | none => .error (.malformed .undecodableBinary)
  else .error (.malformed .undecodableBinary)

/-- The truth value that a scalar stands for. -/
def truthScalar (text : String) : Except Fault Value :=
  match truthWords.find? fun entry => entry.1 == text.toLower with
  | some entry => .ok (.truth entry.2)
  | none => .error (.failure .missingKey)

/-- The readers of scalars by the names of their types. -/
def scalarReaders : List (String × (String → Except Fault Value)) :=
  [("str", fun text => .ok (.text text)), ("null", fun _ => .ok .null), ("bool", truthScalar),
   ("int", fun text => (intScalar text).map .int),
   ("float", fun text => (floatScalar text).map .float),
   ("binary", binaryScalar), ("timestamp", timestampScalar)]

/-- The reader of the scalars with a tag. -/
def scalarReader? (tag : String) : Option (String → Except Fault Value) :=
  (scalarReaders.find? fun entry => standardTag entry.1 == tag).map Prod.snd

end Routebook.Yaml

import Routebook.Number.Decimal
import Routebook.Calendar

/-!
# Tags of plain scalars

A plain scalar without a tag gets one by its form: a truth value, a number, a merge key, null, a
date or a time, the key of a mapping's own scalar, a lone indicator, or else a text.  The forms are
tried in this order.
-/

namespace Routebook.Yaml

set_option autoImplicit false

/-- A tag of the standard repository. -/
def standardTag (name : String) : String := "tag:yaml.org,2002:" ++ name

/-- The tag of texts. -/
def textTag : String := standardTag "str"

/-- The tag of sequences. -/
def sequenceTag : String := standardTag "seq"

/-- The tag of mappings. -/
def mappingTag : String := standardTag "map"

/-- The tag of the keys that merge other mappings in. -/
def mergeTag : String := standardTag "merge"

/-- The tag of the keys of a mapping's own scalar. -/
def valueTag : String := standardTag "value"

/-- The tag of dates and times. -/
def timestampTag : String := standardTag "timestamp"

/-! ## Forms -/

/-- The words for truth values, in lower case. -/
def truthWords : List (String × Bool) :=
  [("yes", true), ("no", false), ("true", true), ("false", false), ("on", true), ("off", false)]

/-- Whether a text is a word in lower case, in upper case or capitalized. -/
def isCasingOf (word text : String) : Bool :=
  text == word || text == word.toUpper || text == word.capitalize

/-- Whether a text is a truth value. -/
def isTruthForm (text : String) : Bool :=
  truthWords.any fun entry => isCasingOf entry.1 text

/-- Whether a text is null. -/
def isNullForm (text : String) : Bool :=
  text == "" || text == "~" || isCasingOf "null" text

/-- Whether a character is a digit or an underscore. -/
def isSpacedDigit (character : Char) : Bool := character.isDigit || character == '_'

/-- A text without a leading sign. -/
def dropSign : List Char → List Char
  | '+' :: rest | '-' :: rest => rest
  | text => text

/-- Whether a text starts with a digit and goes on with digits and underscores up to its end. -/
def isDigitRun : List Char → Bool
  | [] => false
  | first :: rest => first.isDigit && rest.all isSpacedDigit

/-- Whether a text is nonempty and holds characters with a property only. -/
def isRunOf (property : Char → Bool) (text : List Char) : Bool :=
  !text.isEmpty && text.all property

/-- The text after one place of a number to base sixty: a colon and one or two digits below sixty;
the longer reading is tried first. -/
def dropSixtieth : List Char → List (List Char)
  | ':' :: first :: second :: rest =>
      if '0' ≤ first && first ≤ '5' && second.isDigit then
        if first.isDigit then [rest, second :: rest] else [rest]
      else if first.isDigit then [second :: rest] else []
  | [':', first] => if first.isDigit then [[]] else []
  | _ => []

/-- Whether a text is one or more places of a number to base sixty, followed by a rest that passes a
test. -/
def isSixtieths (accepts : List Char → Bool) : Nat → List Char → Bool
  | 0, _ => false
  | steps + 1, text =>
      (dropSixtieth text).any fun rest => accepts rest || isSixtieths accepts steps rest

/-- Whether a text is an exponent with its sign, or empty. -/
def isExponent : List Char → Bool
  | [] => true
  | letter :: sign :: digits =>
      (letter == 'e' || letter == 'E') && (sign == '-' || sign == '+')
        && isRunOf Char.isDigit digits
  | _ => false

/-- Whether a text is a floating-point number. -/
def isFloatForm (text : List Char) : Bool :=
  let unsigned := dropSign text
  let afterWhole := unsigned.dropWhile isSpacedDigit
  let startsWithDigit := (unsigned.head?.map Char.isDigit).getD false
  let isPointed := match afterWhole with
    | '.' :: rest => startsWithDigit && isExponent (rest.dropWhile isSpacedDigit)
    | _ => false
  let isFraction := match text with
    | '.' :: first :: rest => first.isDigit && isExponent (rest.dropWhile isSpacedDigit)
    | _ => false
  let isSexagesimal := startsWithDigit
    && isSixtieths (fun rest => match rest with
      | '.' :: fraction => fraction.all isSpacedDigit
      | _ => false) afterWhole.length afterWhole
  let isInfinity := [".inf".toList, ".Inf".toList, ".INF".toList].contains unsigned
  let isNaN := [".nan".toList, ".NaN".toList, ".NAN".toList].contains text
  isPointed || isFraction || isSexagesimal || isInfinity || isNaN

/-- Whether a character is a hexadecimal digit. -/
def isHexDigit (character : Char) : Bool :=
  character.isDigit || ('a' ≤ character && character ≤ 'f') || ('A' ≤ character && character ≤ 'F')

/-- Whether a text is an integer. -/
def isIntForm (text : List Char) : Bool :=
  match dropSign text with
  | ['0'] => true
  | '0' :: 'b' :: digits =>
      isRunOf (fun digit => digit == '0' || digit == '1' || digit == '_') digits
  | '0' :: 'x' :: digits => isRunOf (fun digit => isHexDigit digit || digit == '_') digits
  | '0' :: digits => isRunOf (fun digit => ('0' ≤ digit && digit ≤ '7') || digit == '_') digits
  | unsigned =>
      isDigitRun unsigned
        || (isDigitRun (unsigned.takeWhile isSpacedDigit)
          && isSixtieths List.isEmpty unsigned.length (unsigned.dropWhile isSpacedDigit))

/-! ## Dates and times -/

/-- The fields of a date with an optional time, as written. -/
structure Timestamp where
  year : List Char
  month : List Char
  day : List Char
  /-- Hour, minute, second and the digits of the fraction. -/
  time : Option (List Char × List Char × List Char × List Char)
  /-- The zone: its sign, hours and minutes; universal time has none of these. -/
  zone : Option (Option (Char × List Char × List Char))

/-- Splits off between a least and a greatest number of digits, as many as there are. -/
def takeDigits? (least greatest : Nat) (text : List Char) : Option (List Char × List Char) :=
  let digits := (text.take greatest).takeWhile Char.isDigit
  if digits.length < least then none else some (digits, text.drop digits.length)

/-- The text after a character that it starts with. -/
def dropCharacter? (expected : Char) : List Char → Option (List Char)
  | character :: rest => if character == expected then some rest else none
  | [] => none

/-- The zone at the end of a time. -/
def readZone? (text : List Char) : Option (Option (Option (Char × List Char × List Char))) :=
  match text.dropWhile fun character => character == ' ' || character == '\t' with
  | [] => if text.isEmpty then some none else none
  | ['Z'] => some (some none)
  | sign :: rest =>
      if sign == '+' || sign == '-' then do
        let (hours, afterHours) ← takeDigits? 1 2 rest
        match afterHours with
        | [] => return some (some (sign, hours, []))
        | _ =>
            let (minutes, afterMinutes) ← takeDigits? 2 2 (← dropCharacter? ':' afterHours)
            if afterMinutes.isEmpty then return some (some (sign, hours, minutes)) else none
      else none

/-- The time after a date. -/
def readTime? (text : List Char) : Option (List Char) :=
  match text with
  | 'T' :: rest | 't' :: rest => some rest
  | _ =>
      let rest := text.dropWhile fun character => character == ' ' || character == '\t'
      if rest.length < text.length then some rest else none

/-- The date and time that a text is. -/
def Timestamp.read? (text : List Char) : Option Timestamp := do
  let (year, afterYear) ← takeDigits? 4 4 text
  let (month, afterMonth) ← takeDigits? 1 2 (← dropCharacter? '-' afterYear)
  let (day, afterDay) ← takeDigits? 1 2 (← dropCharacter? '-' afterMonth)
  if afterDay.isEmpty then return ⟨year, month, day, none, none⟩
  let (hour, afterHour) ← takeDigits? 1 2 (← readTime? afterDay)
  let (minute, afterMinute) ← takeDigits? 2 2 (← dropCharacter? ':' afterHour)
  let (second, afterSecond) ← takeDigits? 2 2 (← dropCharacter? ':' afterMinute)
  let (fraction, afterFraction) := match afterSecond with
    | '.' :: rest => (rest.takeWhile Char.isDigit, rest.dropWhile Char.isDigit)
    | rest => ([], rest)
  let zone ← readZone? afterFraction
  return ⟨year, month, day, some (hour, minute, second, fraction), zone⟩

/-- Whether a text is a date or a time; a date alone has two digits for month and day. -/
def isTimestampForm (text : List Char) : Bool :=
  match Timestamp.read? text with
  | none => false
  | some timestamp => timestamp.time.isSome || text.length == 10

/-! ## Resolution -/

/-- A text without the line feed at its end, unless there is nothing else in it. -/
def withoutFinalBreak (text : List Char) : List Char :=
  if text.getLast? == some '\n' && 1 < text.length then text.dropLast else text

/-- The tag of a scalar that has none of its own; a line feed at its end does not count. -/
def resolveScalar (content : String) : String :=
  let characters := withoutFinalBreak content.toList
  let text := String.ofList characters
  standardTag
    (if isTruthForm text then "bool"
    else if isFloatForm characters then "float"
    else if isIntForm characters then "int"
    else if text == "<<" then "merge"
    else if isNullForm text then "null"
    else if isTimestampForm characters then "timestamp"
    else if text == "=" then "value"
    else if text == "!" || text == "&" || text == "*" then "yaml"
    else "str")

end Routebook.Yaml

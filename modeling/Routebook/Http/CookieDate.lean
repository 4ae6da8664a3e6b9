import Routebook.Calendar
import Routebook.Http.Parameter
import Routebook.Http.Url

/-!
# Dates of cookies

The date until which a cookie is kept comes in several forms: with or without the day of the week,
with blanks, hyphens or slashes between its parts, with a year of two digits, without a time, and
with a zone.  A date is read as the seconds since the start of 1970.
-/

namespace Routebook.Http

set_option autoImplicit false

/-! ## Parts of a date -/

/-- The names of the months, in lower case. -/
def monthNames : List String :=
  ["jan", "feb", "mar", "apr", "may", "jun", "jul", "aug", "sep", "oct", "nov", "dec"]

/-- The names of the days of the week, in lower case. -/
def weekdayNames : List String := ["sun", "mon", "tue", "wed", "thu", "fri", "sat"]

/-- The number of the month with a name. -/
def monthNamed? (name : List Char) : Option Nat :=
  let lower := String.ofList (name.map Char.toLower)
  (monthNames.findIdx? (· == lower)).map (· + 1)

/-- The number of the month that a name or a number stands for. -/
def monthOf? (text : List Char) : Option Nat :=
  match monthNamed? text with
  | some month => some month
  | none =>
      match looseInteger? text with
      | some number => if 1 ≤ number && number ≤ 12 then some number.toNat else none
      | none => none

/-- The year that a number of fewer than four digits stands for: the one nearest to the present year
among those in three centuries. -/
def completeYear (present year : Nat) : Nat :=
  if 1000 ≤ year then year
  else
    let century := present - present % 100
    let within := present % 100
    let candidate := year + century
    if within + 50 < year then candidate - 100
    else if year + 50 < within then candidate + 100
    else candidate

/-- The number of days from the start of 1970 to a day of a year from 1970 on; the day may lie
beyond the end of its month. -/
def dayNumber (year month day : Nat) : Int :=
  let before := year - 1
  let leapDays := before / 4 - before / 100 + before / 400
  let months := (List.range (month - 1)).foldl (fun days index =>
    days + daysInMonth year (index + 1)) 0
  Int.ofNat (365 * before + leapDays + months + day) - 719163

/-- The seconds from the start of 1970 to a time, if all its parts are in range. -/
def secondsOf? (year month day hour minute second : Nat) : Option Int :=
  if 1970 ≤ year && 1 ≤ day && day ≤ 31 && hour ≤ 24 && minute ≤ 59 && second ≤ 61 then
    some (dayNumber year month day * 86400 + Int.ofNat (hour * 3600 + minute * 60 + second))
  else none

/-- The offset of a zone in seconds, if it is known. -/
def zoneOffset? (zone : List Char) : Option Int :=
  if ["GMT", "UTC", "UT", "Z"].contains (String.ofList (zone.map Char.toUpper)) then some 0
  else
    let (negative, unsigned) := match zone with
      | '-' :: rest => (true, rest)
      | '+' :: rest => (false, rest)
      | rest => (false, rest)
    let digits := unsigned.filter Char.isDigit
    if digits.length != unsigned.length then none
    else
      let hours := Number.digitsValue (digits.take (if digits.length ≤ 2 then 2 else
        digits.length - 2))
      let minutes := if digits.length ≤ 2 then 0
        else Number.digitsValue (digits.drop (digits.length - 2))
      let size := Int.ofNat (hours * 3600 + minutes * 60)
      some (if negative then -size else size)

/-! ## The exact form -/

/-- Whether a text has a letter of each kind at each place; `d` stands for a digit, `u` for an
upper-case and `l` for a lower-case letter, anything else for itself. -/
def fitsPattern : List Char → List Char → Bool
  | [], [] => true
  | kind :: kinds, character :: rest =>
      (if kind == 'd' then character.isDigit
        else if kind == 'u' then character.isUpper
        else if kind == 'l' then character.isLower
        else kind == character) && fitsPattern kinds rest
  | _, _ => false

/-- The pattern of the exact form, such as `Sun, 06 Nov 1994 08:49:37 GMT`. -/
def exactPattern : List Char := "ull, dd ull dddd dd:dd:dd GMT".toList

/-- The number at a place of a text. -/
def numberAt (start length : Nat) (text : List Char) : Nat :=
  Number.digitsValue ((text.drop start).take length)

/-- Whether a text has the exact form; the names need not be those of a day and a month, but they
start like one. -/
def isExactDate (text : List Char) : Bool :=
  fitsPattern exactPattern text
    && (text.head?.map fun first => "SMTWF".toList.contains first).getD false
    && ((text.drop 8).head?.map fun first => "JFMASOND".toList.contains first).getD false

/-! ## Loose forms -/

/-- Whether a character is a blank of ASCII. -/
def isAsciiBlank (character : Char) : Bool :=
  character == ' ' || (0x09 ≤ character.toNat && character.toNat ≤ 0x0D)

/-- The text after the day of the week that it may start with. -/
def dropWeekday (text : List Char) : List Char :=
  let lead := String.ofList ((text.take 3).map Char.toLower)
  if !weekdayNames.contains lead then text
  else
    let rest := (text.drop 3).dropWhile Char.isAlpha
    let afterComma := match rest with
      | ',' :: after => after
      | _ => rest
    afterComma.dropWhile isAsciiBlank

/-- The text after the separator of two parts of a date: blanks, a hyphen or a slash. -/
def dropSeparator? : List Char → Option (List Char)
  | '-' :: rest | '/' :: rest => some rest
  | character :: rest =>
      if isAsciiBlank character then some (rest.dropWhile isAsciiBlank) else none
  | [] => none

/-- The characters of one kind at the start of a text, and the text after them. -/
def takeRun (isMember : Char → Bool) (text : List Char) : List Char × List Char :=
  (text.takeWhile isMember, text.dropWhile isMember)

/-- The seconds that may follow a time. -/
def takeSeconds : List Char → Nat × List Char
  | ':' :: first :: second :: rest =>
      if first.isDigit && second.isDigit then (Number.digitsValue [first, second], rest)
      else (0, ':' :: first :: second :: rest)
  | text => (0, text)

/-- The hour, minute and second after a date, and the text after them, if there is a time. -/
def takeTime? (text : List Char) : Option ((Nat × Nat × Nat) × List Char) :=
  let start := match text with
    | ':' :: rest => some rest
    | character :: rest =>
        if isAsciiBlank character then some (rest.dropWhile isAsciiBlank) else none
    | [] => none
  match start.map (takeRun Char.isDigit) with
  | some (hour, ':' :: first :: second :: rest) =>
      if (hour.length == 1 || hour.length == 2) && first.isDigit && second.isDigit then
        let (seconds, after) := takeSeconds rest
        some ((Number.digitsValue hour, Number.digitsValue [first, second], seconds), after)
      else none
  | _ => none

/-- Whether letters are the half of a day rather than a zone. -/
def isHalfOfDay (letters after : List Char) : Bool :=
  ["am", "pm"].contains (String.ofList (letters.map Char.toLower))
    && (after.head?.map fun next => !isWordCharacter next).getD true

/-- The zone at the start of a text, if there is one, and the text after it. -/
def takeZone (text : List Char) : Option (List Char) × List Char :=
  let (sign, unsigned) := match text with
    | '-' :: rest => (['-'], rest)
    | '+' :: rest => (['+'], rest)
    | rest => ([], rest)
  let (digits, afterDigits) := takeRun Char.isDigit unsigned
  if 2 ≤ digits.length && digits.length ≤ 4 then (some (sign ++ digits), afterDigits)
  else
    let (letters, afterLetters) := takeRun Char.isAlpha text
    if letters.isEmpty || isHalfOfDay letters afterLetters then (none, text)
    else (some letters, afterLetters)

/-- Whether a text is nothing, or one word in brackets. -/
def isRemark (text : List Char) : Bool :=
  match text with
  | [] => true
  | '(' :: rest =>
      let (word, after) := takeRun isWordCharacter rest
      match after with
      | ')' :: blanks => !word.isEmpty && blanks.all isAsciiBlank
      | _ => false
  | _ => false

/-- A date in a loose form; it may name a year by fewer than four digits. -/
def looseDate? (present : Nat) (text : List Char) : Option Int := do
  let (day, afterDay) := takeRun Char.isDigit (dropWeekday (text.dropWhile Text.isBlank))
  if day.isEmpty || 2 < day.length then none
  let (month, afterMonth) := takeRun isWordCharacter (← dropSeparator? afterDay)
  if month.isEmpty then none
  let (year, afterYear) := takeRun Char.isDigit (← dropSeparator? afterMonth)
  if year.isEmpty then none
  let ((hour, minute, second), afterTime) := (takeTime? afterYear).getD ((0, 0, 0), afterYear)
  let (zone, afterZone) := takeZone (afterTime.dropWhile isAsciiBlank)
  if !isRemark (afterZone.dropWhile isAsciiBlank) then none
  let number := Number.digitsValue year
  if 9999 < number then none
  let seconds ← secondsOf? (completeYear present number) (← monthOf? month) (Number.digitsValue day) hour
    minute second
  let offset ← zoneOffset? (zone.getD "UTC".toList)
  return seconds - offset

/-! ## Reading -/

/-- Reads a date.  A text in the exact form whose month is none cannot be read at all; any other
text that is no date is no date. -/
def readCookieDate (present : Nat) (text : List Char) : Option (Option Int) :=
  if isExactDate text then
    match monthNamed? ((text.drop 8).take 3) with
    | none => none
    | some month =>
        some (secondsOf? (numberAt 12 4 text) month (numberAt 5 2 text) (numberAt 17 2 text)
          (numberAt 20 2 text) (numberAt 23 2 text))
  else some (looseDate? present text)

end Routebook.Http

/-!
# Dates and times

Days of the proleptic calendar and times of day to the microsecond, optionally with the offset of a
time zone in seconds.  A value is built only from fields in range, and is written year first.
-/

namespace Routebook

set_option autoImplicit false

/-- Whether a year has a leap day. -/
def isLeapYear (year : Nat) : Bool :=
  year % 4 == 0 && (year % 100 != 0 || year % 400 == 0)

/-- The number of days of a month. -/
def daysInMonth (year month : Nat) : Nat :=
  if month == 2 then (if isLeapYear year then 29 else 28)
  else if month == 4 || month == 6 || month == 9 || month == 11 then 30
  else 31

/-- A day of the calendar. -/
structure Date where
  year : Nat
  month : Nat
  day : Nat
  deriving DecidableEq, Repr

/-- The day with the given fields, if they are in range. -/
def Date.ofFields? (year month day : Nat) : Option Date :=
  if 1 ≤ year && year ≤ 9999 && 1 ≤ month && month ≤ 12 && 1 ≤ day && day ≤ daysInMonth year month
  then some ⟨year, month, day⟩
  else none

/-- A moment: a day, a time of day and, if known, the offset of its time zone in seconds. -/
structure Moment where
  date : Date
  hour : Nat
  minute : Nat
  second : Nat
  microsecond : Nat
  offset : Option Int
  deriving DecidableEq, Repr

/-- The moment with the given fields, if they are in range; an offset is less than a day. -/
def Moment.ofFields? (date : Option Date) (hour minute second microsecond : Nat)
    (offset : Option Int) : Option Moment :=
  match date with
  | none => none
  | some day =>
      let offsetFits := match offset with
        | none => true
        | some seconds => seconds.natAbs < 86400
      if hour < 24 && minute < 60 && second < 60 && microsecond < 1000000 && offsetFits then
        some ⟨day, hour, minute, second, microsecond, offset⟩
      else none

/-! ## Text -/

/-- A number padded with zeros to a width. -/
def padded (width number : Nat) : String :=
  let digits := (toString number).toList
  String.ofList (List.replicate (width - digits.length) '0' ++ digits)

/-- A day as year, month and day. -/
def Date.text (date : Date) : String :=
  padded 4 date.year ++ "-" ++ padded 2 date.month ++ "-" ++ padded 2 date.day

/-- An offset as sign, hours and minutes, and seconds where they are not zero. -/
def offsetText (offset : Int) : String :=
  let size := offset.natAbs
  let seconds := if size % 60 == 0 then "" else ":" ++ padded 2 (size % 60)
  (if offset < 0 then "-" else "+") ++ padded 2 (size / 3600) ++ ":" ++ padded 2 (size / 60 % 60)
    ++ seconds

/-- A moment as day and time with the given separator between them. -/
def Moment.text (separator : String) (moment : Moment) : String :=
  let fraction := if moment.microsecond == 0 then "" else "." ++ padded 6 moment.microsecond
  moment.date.text ++ separator ++ padded 2 moment.hour ++ ":" ++ padded 2 moment.minute ++ ":"
    ++ padded 2 moment.second ++ fraction ++ (match moment.offset with
      | none => ""
      | some offset => offsetText offset)

/-! ## Constructor text

Inside a container a day or a moment shows as the call that would build it. -/

/-- The whole days and remaining seconds of an offset. -/
def durationText (seconds : Int) : String :=
  let days := seconds.fdiv 86400
  let rest := seconds.fmod 86400
  let parts := (if days == 0 then [] else ["days=" ++ toString days])
    ++ (if rest == 0 then [] else ["seconds=" ++ toString rest])
  "datetime.timedelta(" ++ (if parts.isEmpty then "0" else ", ".intercalate parts) ++ ")"

/-- The call that builds a day. -/
def Date.constructorText (date : Date) : String :=
  "datetime.date(" ++ toString date.year ++ ", " ++ toString date.month ++ ", " ++ toString date.day
    ++ ")"

/-- The call that builds a moment; a microsecond of zero is left out, and then a second of zero. -/
def Moment.constructorText (moment : Moment) : String :=
  let fields := [moment.date.year, moment.date.month, moment.date.day, moment.hour, moment.minute]
  let tail := if moment.microsecond != 0 then [moment.second, moment.microsecond]
    else if moment.second != 0 then [moment.second] else []
  let zone := match moment.offset with
    | none => ""
    | some offset =>
        if offset == 0 then ", tzinfo=datetime.timezone.utc"
        else ", tzinfo=datetime.timezone(" ++ durationText offset ++ ")"
  "datetime.datetime(" ++ ", ".intercalate ((fields ++ tail).map toString) ++ zone ++ ")"

end Routebook

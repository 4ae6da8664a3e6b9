import Routebook.Number.Binary64

/-!
# Decimal text of numbers

A double-precision number is written with the fewest digits that read back to it and, of those, with
the ones nearest to its value.  The digits are found by exact comparison with the interval of values
that round to the number; the layout is a separate decision.
-/

namespace Routebook.Number

set_option autoImplicit false

/-- The value `digits * 10 ^ exponent`. -/
structure Decimal where
  digits : Nat
  exponent : Int
  deriving DecidableEq, Repr

/-! ## The fewest digits -/

/-- Compares `a * 10 ^ i` with `n * 2 ^ j`. -/
def compareScaled (a : Nat) (i : Int) (n : Nat) (j : Int) : Ordering :=
  compare (a * Nat.pow 10 i.toNat * Nat.pow 2 (-j).toNat)
    (n * Nat.pow 2 j.toNat * Nat.pow 10 (-i).toNat)

/-- Whether a decimal value reads back to the size of a finite number: it lies between the midpoints
to the two neighbours, an even number claiming the midpoints too. -/
def readsBack (number : Binary64) (value : Decimal) : Bool :=
  let size := number.significand
  let narrowBelow := number.fractionField == 0 && 1 < number.exponentField
  let low := if narrowBelow then 4 * size - 1 else 4 * size - 2
  let high := 4 * size + 2
  let unit := number.scale - 2
  let inclusive := size % 2 == 0
  let fromLow := compareScaled value.digits value.exponent low unit
  let fromHigh := compareScaled value.digits value.exponent high unit
  (fromLow == .gt || (inclusive && fromLow == .eq))
    && (fromHigh == .lt || (inclusive && fromHigh == .eq))

/-- The least `k` at or above a start with `m * 2 ^ q < 10 ^ k`, tried for a few steps. -/
def decimalMagnitude (size : Nat) (unit : Int) : Nat → Int → Int
  | 0, start => start
  | steps + 1, start =>
      if compareScaled 1 start size unit == .gt then start
      else decimalMagnitude size unit steps (start + 1)

/-- The two multiples of `10 ^ exponent` next to the size of a number. -/
def gridNeighbours (number : Binary64) (exponent : Int) : Decimal × Decimal :=
  let unit := number.scale
  let below := number.significand * Nat.pow 2 unit.toNat * Nat.pow 10 (-exponent).toNat
    / (Nat.pow 2 (-unit).toNat * Nat.pow 10 exponent.toNat)
  (⟨below, exponent⟩, ⟨below + 1, exponent⟩)

/-- The neighbour on a grid that reads back: of two the nearer, of two equally near the even one. -/
def gridHit (number : Binary64) (exponent : Int) : Option Decimal :=
  let neighbours := gridNeighbours number exponent
  match readsBack number neighbours.1, readsBack number neighbours.2 with
  | false, false => none
  | true, false => some neighbours.1
  | false, true => some neighbours.2
  | true, true =>
      match compareScaled (2 * neighbours.1.digits + 1) exponent (2 * number.significand)
          number.scale with
      | .gt => some neighbours.1
      | .lt => some neighbours.2
      | .eq => some (if neighbours.1.digits % 2 == 0 then neighbours.1 else neighbours.2)

/-- Trailing zeros moved from the digits into the exponent. -/
def Decimal.strip : Nat → Decimal → Decimal
  | 0, value => value
  | steps + 1, value =>
      if value.digits != 0 && value.digits % 10 == 0 then
        Decimal.strip steps ⟨value.digits / 10, value.exponent + 1⟩
      else value

/-- The first grid, from coarse to fine, on which a neighbour reads back. -/
def firstHit (number : Binary64) (magnitude : Int) : Nat → Nat → Option Decimal
  | 0, _ => none
  | steps + 1, places =>
      match gridHit number (magnitude - places) with
      | some value => some value
      | none => firstHit number magnitude steps (places + 1)

/-- The exact value of a finite number. -/
def exactDecimal (number : Binary64) : Decimal :=
  ⟨number.significand * Nat.pow 2 number.scale.toNat * Nat.pow 5 (-number.scale).toNat,
    if number.scale < 0 then number.scale else 0⟩

/-- The decimal with the fewest digits that reads back to the size of a finite nonzero number. -/
def shortestDecimal (number : Binary64) : Decimal :=
  let size := number.significand
  let exponent : Int := (size.log2 : Int) + number.scale
  let start := (exponent * 1233).fdiv 4096
  let magnitude := decimalMagnitude size number.scale 4 start
  let found := match firstHit number magnitude 17 1 with
    | some value => value
    | none => exactDecimal number
  found.strip 800

/-! ## Layout -/

/-- Numbers are written positionally when the exponent of the leading digit is at least minus four
and below sixteen, whole ones with `.0`; otherwise with a signed exponent of at least two digits. -/
def Decimal.layout (value : Decimal) : List Char :=
  let digits := (toString value.digits).toList
  let count := digits.length
  let lead : Int := value.exponent + count - 1
  if -4 ≤ lead && lead < 16 then
    if 0 ≤ value.exponent then
      digits ++ List.replicate value.exponent.toNat '0' ++ ['.', '0']
    else if 0 ≤ lead then
      digits.take (lead.toNat + 1) ++ ['.'] ++ digits.drop (lead.toNat + 1)
    else
      ['0', '.'] ++ List.replicate ((-lead).toNat - 1) '0' ++ digits
  else
    let mantissa := match digits with
      | [] => []
      | [single] => [single]
      | first :: rest => first :: '.' :: rest
    let size := (toString lead.natAbs).toList
    let padded := if size.length < 2 then '0' :: size else size
    mantissa ++ ['e', if lead < 0 then '-' else '+'] ++ padded

/-- The text of a number. -/
def Binary64.text (number : Binary64) : String :=
  if number.isNaN then "nan"
  else
    let size :=
      if number.isInfinite then "inf".toList
      else if number.isZero then "0.0".toList
      else (shortestDecimal number).layout
    String.ofList (if number.negative then '-' :: size else size)

/-! ## Reading -/

/-- The whole number written by decimal digits, most significant first. -/
def digitsValue (digits : List Char) : Nat :=
  digits.foldl (fun total digit => total * 10 + (digit.toNat - '0'.toNat)) 0

/-- The longest text of an integer that is read or written, in digits. -/
def digitLimit : Nat := 4300

/-- The least number with more digits than are read or written. -/
def digitBound : Nat := Nat.pow 10 digitLimit

/-- Whether an integer has too many digits to be written. -/
def isTooLong (value : Int) : Bool := digitBound ≤ value.natAbs

end Routebook.Number

/-!
# Double-precision numbers

A number is held by its sixty-four bits and computed with exactly: the bits are decoded into a whole
number times a power of two, the result of an operation is an exact fraction, and the fraction is
rounded once, to the nearest number and to the even one of two equally near.
-/

namespace Routebook.Number

set_option autoImplicit false

/-- A double-precision number, given by its bits. -/
structure Binary64 where
  bits : UInt64
  deriving DecidableEq, Repr

namespace Binary64

/-! ## Parts of a number -/

/-- The weight of the sign bit. -/
def signUnit : Nat := 0x8000000000000000

/-- The weight of the lowest bit of the exponent: one more than the largest fraction. -/
def exponentUnit : Nat := 0x10000000000000

/-- Whether the sign bit is set. -/
def negative (number : Binary64) : Bool :=
  signUnit ≤ number.bits.toNat

/-- The eleven bits of the exponent. -/
def exponentField (number : Binary64) : Nat :=
  number.bits.toNat / exponentUnit % 2048

/-- The fifty-two bits of the fraction. -/
def fractionField (number : Binary64) : Nat :=
  number.bits.toNat % exponentUnit

/-- Whether the number is not a number. -/
def isNaN (number : Binary64) : Bool :=
  number.exponentField == 2047 && number.fractionField != 0

/-- Whether the number is infinite. -/
def isInfinite (number : Binary64) : Bool :=
  number.exponentField == 2047 && number.fractionField == 0

/-- Whether the number is zero, of either sign. -/
def isZero (number : Binary64) : Bool :=
  number.exponentField == 0 && number.fractionField == 0

/-- The whole number `m` in the size `m * 2 ^ q` of a finite number. -/
def significand (number : Binary64) : Nat :=
  if number.exponentField == 0 then number.fractionField else exponentUnit + number.fractionField

/-- The exponent `q` in the size `m * 2 ^ q` of a finite number. -/
def scale (number : Binary64) : Int :=
  if number.exponentField == 0 then -1074 else (number.exponentField : Int) - 1075

/-- The number with the given sign, exponent field and fraction field. -/
def ofFields (isNegative : Bool) (exponent fraction : Nat) : Binary64 :=
  ⟨UInt64.ofNat ((if isNegative then signUnit else 0) + exponent * exponentUnit + fraction)⟩

/-- Infinity of the given sign. -/
def infinity (isNegative : Bool) : Binary64 := ofFields isNegative 2047 0

/-- Zero of the given sign. -/
def zero (isNegative : Bool) : Binary64 := ofFields isNegative 0 0

/-- The number that is not a number. -/
def nan : Binary64 := ofFields false 2047 (exponentUnit / 2)

/-- The number with the opposite sign. -/
def negate (number : Binary64) : Binary64 :=
  ofFields (!number.negative) number.exponentField number.fractionField

/-! ## Rounding an exact fraction -/

/-- The quotient rounded to the nearest whole number, to the even one of two equally near. -/
def roundQuotient (numerator denominator : Nat) : Nat :=
  let quotient := numerator / denominator
  let remainder := numerator % denominator
  if 2 * remainder < denominator then quotient
  else if denominator < 2 * remainder then quotient + 1
  else if quotient % 2 == 0 then quotient
  else quotient + 1

/-- The largest `e` with `2 ^ e ≤ numerator / denominator`, for positive arguments. -/
def binaryExponent (numerator denominator : Nat) : Int :=
  let guess : Int := (numerator.log2 : Int) - (denominator.log2 : Int)
  let fits : Bool :=
    denominator * Nat.pow 2 guess.toNat ≤ numerator * Nat.pow 2 (-guess).toNat
  if fits then guess else guess - 1

/-- The number nearest to a fraction. -/
def ofFraction (isNegative : Bool) (numerator denominator : Nat) : Binary64 :=
  if numerator == 0 then zero isNegative
  else
    let exponent := binaryExponent numerator denominator
    let unit : Int := max (exponent - 52) (-1074)
    let rounded := roundQuotient (numerator * Nat.pow 2 (-unit).toNat)
      (denominator * Nat.pow 2 unit.toNat)
    -- Rounding up may reach the next power of two; the fields then carry over correctly.
    let field : Int := unit + 1074
    let code : Int := if rounded < exponentUnit then (rounded : Int)
      else (field + 1) * exponentUnit + ((rounded : Int) - exponentUnit)
    if code < 2047 * exponentUnit then
      ⟨UInt64.ofNat ((if isNegative then signUnit else 0) + code.toNat)⟩
    else infinity isNegative

/-- The number nearest to `digits * 10 ^ exponent`.  Sizes far outside the range are settled without
forming the power of ten. -/
def ofDecimal (isNegative : Bool) (digits : Nat) (exponent : Int) : Binary64 :=
  if digits == 0 then zero isNegative
  else
    let size : Int := ((toString digits).length : Int) + exponent
    if 400 < size then infinity isNegative
    else if size < -400 then zero isNegative
    else ofFraction isNegative (digits * Nat.pow 10 exponent.toNat) (Nat.pow 10 (-exponent).toNat)

/-- The number nearest to a whole number. -/
def ofInt (value : Int) : Binary64 :=
  ofFraction (value < 0) value.natAbs 1

/-! ## Exact arithmetic -/

/-- A finite number as an exact fraction with its sign. -/
def toFraction (number : Binary64) : Int × Nat :=
  let size : Int := number.significand * Nat.pow 2 number.scale.toNat
  (if number.negative then -size else size, Nat.pow 2 (-number.scale).toNat)

/-- The sum of two numbers, rounded once. -/
def add (first second : Binary64) : Binary64 :=
  if first.isNaN || second.isNaN then nan
  else if first.isInfinite then
    if second.isInfinite && first.negative != second.negative then nan else first
  else if second.isInfinite then second
  else
    let left := first.toFraction
    let right := second.toFraction
    let sum := left.1 * (right.2 : Int) + right.1 * (left.2 : Int)
    if sum == 0 then zero (first.negative && second.negative)
    else ofFraction (sum < 0) sum.natAbs (left.2 * right.2)

/-- The product of two numbers, rounded once. -/
def multiply (first second : Binary64) : Binary64 :=
  let isNegative := first.negative != second.negative
  if first.isNaN || second.isNaN then nan
  else if first.isInfinite || second.isInfinite then
    if first.isZero || second.isZero then nan else infinity isNegative
  else
    let left := first.toFraction
    let right := second.toFraction
    ofFraction isNegative (left.1.natAbs * right.1.natAbs) (left.2 * right.2)

/-! ## Comparison -/

/-- Whether two numbers have the same value; zero equals zero of the other sign. -/
def sameValue (first second : Binary64) : Bool :=
  if first.isNaN || second.isNaN then false
  else first == second || (first.isZero && second.isZero)

/-- Whether a number has the value of a whole number. -/
def equalsInt (number : Binary64) (value : Int) : Bool :=
  if number.isNaN || number.isInfinite then false
  else
    let fraction := number.toFraction
    fraction.1 == value * (fraction.2 : Int)

end Binary64

end Routebook.Number

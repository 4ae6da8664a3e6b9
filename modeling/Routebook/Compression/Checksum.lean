/-!
# Checksums

Two checksums that protect compressed data: the remainder of a division of polynomials over two
elements, and a pair of sums modulo a prime.
-/

namespace Routebook.Compression

set_option autoImplicit false

/-- The polynomial that a remainder is taken by, its lowest coefficients first. -/
def remainderPolynomial : UInt32 := 0xEDB88320

/-- A remainder moved on by a number of bits. -/
def shiftRemainder : Nat → UInt32 → UInt32
  | 0, remainder => remainder
  | steps + 1, remainder =>
      shiftRemainder steps
        (if remainder % 2 == 1 then (remainder / 2) ^^^ remainderPolynomial else remainder / 2)

/-- The remainder of data. -/
def remainder (bytes : List UInt8) : Nat :=
  let total := bytes.foldl (fun remainder byte => shiftRemainder 8 (remainder ^^^ byte.toUInt32))
    (0xFFFFFFFF : UInt32)
  (total ^^^ 0xFFFFFFFF).toNat

/-- The prime that sums are taken modulo. -/
def sumModulus : Nat := 65521

/-- The sum of the bytes of data and the sum of these sums, in the low and the high half. -/
def pairedSum (bytes : List UInt8) : Nat :=
  let (low, high) := bytes.foldl (fun (low, high) byte =>
    let next := (low + byte.toNat) % sumModulus
    (next, (high + next) % sumModulus)) (1, 0)
  high * 65536 + low

end Routebook.Compression

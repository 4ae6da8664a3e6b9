import Routebook.Text.Search

/-!
# Compact forms of labels

A label with characters beyond ASCII has a form within ASCII: its ASCII characters, and after a
hyphen the others in ascending order, each as the difference from the one before it in a count of
characters and places.  A difference is written with digits whose weights adapt to the differences
so far.
-/

namespace Routebook.Text

set_option autoImplicit false

/-! ## Digits and weights -/

/-- The digit that stands for a number in the compact form of a label. -/
def punycodeDigit (number : Nat) : Char :=
  if number < 26 then Char.ofNat ('a'.toNat + number) else Char.ofNat ('0'.toNat + number - 26)

/-- A difference divided until it is small, and the bias that the divisions add up to. -/
def punycodeShrink (bias value : Nat) : Nat × Nat :=
  if 455 < value then punycodeShrink (bias + 36) (value / 35) else (bias, value)
termination_by value
decreasing_by omega

/-- The adapted bias after a difference was written. -/
def punycodeAdapt (delta points : Nat) (isFirst : Bool) : Nat :=
  let start := if isFirst then delta / 700 else delta / 2
  let (bias, value) := punycodeShrink 0 (start + start / points)
  bias + 36 * value / (value + 38)

/-- The weight from which on a digit is the last one, at a place given by the sum of the bases. -/
def punycodeThreshold (bias base : Nat) : Nat :=
  if base ≤ bias then 1 else if bias + 26 ≤ base then 26 else base - bias

/-! ## Writing -/

/-- A difference written with digits whose weights depend on the bias. -/
def punycodeNumber (bias : Nat) : Nat → Nat → Nat → List Char
  | 0, _, _ => []
  | steps + 1, base, value =>
      let threshold := punycodeThreshold bias base
      if value < threshold then [punycodeDigit value]
      else
        punycodeDigit (threshold + (value - threshold) % (36 - threshold))
          :: punycodeNumber bias steps (base + 36) ((value - threshold) / (36 - threshold))

/-- The state of writing a label: the difference so far, the bias, the points written, the output.
-/
structure PunycodeState where
  delta : Nat
  bias : Nat
  written : Nat
  output : List Char

/-- Writes the occurrences of one code point among the characters of a label. -/
def punycodePass (code basic : Nat) (label : List Char) (state : PunycodeState) : PunycodeState :=
  label.foldl (fun state character =>
    if character.toNat < code then { state with delta := state.delta + 1 }
    else if character.toNat == code then
      { delta := 0
        bias := punycodeAdapt state.delta (state.written + 1) (state.written == basic)
        written := state.written + 1
        output := state.output ++ punycodeNumber state.bias 64 36 state.delta }
    else state) state

/-- The compact form of a label: its ASCII characters, and where the others stand. -/
def punycode (label : List Char) : List Char :=
  let basic := label.filter fun character => character.toNat < 0x80
  let others := ((label.filter fun character => 0x80 ≤ character.toNat).map Char.toNat).eraseDups
  let codes := others.mergeSort (fun first second => first ≤ second)
  let start : PunycodeState :=
    ⟨0, 72, basic.length, if basic.isEmpty then [] else basic ++ ['-']⟩
  (codes.foldl (fun (state, next) code =>
    let passed := punycodePass code basic.length label
      { state with delta := state.delta + (code - next) * (state.written + 1) }
    ({ passed with delta := passed.delta + 1 }, code + 1)) (start, 0x80)).1.output

/-! ## Reading -/

/-- The number that a digit of the compact form stands for. -/
def punycodeValue? (digit : Char) : Option Nat :=
  if digit.isDigit then some (digit.toNat - '0'.toNat + 26)
  else if digit.isAlpha then some (digit.toLower.toNat - 'a'.toNat)
  else none

/-- The difference at the start of a row of digits, and the digits after it.  `base` is the sum of
the bases up to the place at hand, `weight` its weight, and `total` what came before. -/
def readPunycodeNumber (bias base weight total : Nat) : List Char → Option (Nat × List Char)
  | [] => none
  | digit :: rest =>
      match punycodeValue? digit with
      | none => none
      | some value =>
          let threshold := punycodeThreshold bias base
          let sum := total + value * weight
          if value < threshold then some (sum, rest)
          else readPunycodeNumber bias (base + 36) (weight * (36 - threshold)) sum rest

/-- A label with the characters put in that a row of digits describes, with a bound on their number.
`code` and `place` tell where the count of characters and places stands. -/
def insertCharacters (bias code place : Nat) (isFirst : Bool) :
    Nat → List Char → List Char → Option (List Char)
  | _, label, [] => some label
  | 0, _, _ :: _ => none
  | steps + 1, label, digits =>
      match readPunycodeNumber bias 36 1 0 digits with
      | none => none
      | some (difference, rest) =>
          let size := label.length + 1
          let moved := place + difference
          let next := code + moved / size
          if 0x10FFFF < next then none
          else
            let index := moved % size
            -- A number that is no character stands in the label as the replacement character.
            let character := if next.isValidChar then Char.ofNat next else '\uFFFD'
            insertCharacters (punycodeAdapt difference size isFirst) next (index + 1) false steps
              (label.take index ++ character :: label.drop index) rest

/-- The label that a compact form stands for. -/
def readPunycode (text : List Char) : Option (List Char) :=
  let (reversedDigits, reversedBasic) := cut '-' text.reverse
  let digits := reversedDigits.reverse
  insertCharacters 72 0x80 0 true digits.length (reversedBasic.getD []).reverse digits

end Routebook.Text

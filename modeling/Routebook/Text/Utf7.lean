import Routebook.Text.Half
import Routebook.Text.Piecewise

/-!
# UTF-7

Text in seven-bit bytes: ASCII stands for itself, and a plus sign starts a section of sixteen-bit
units written in base sixty-four, which ends before the first other character.
-/

namespace Routebook.Text

set_option autoImplicit false

variable [Halves]

/-- The number of a character of base sixty-four. -/
def base64Place? (byte : Nat) : Option Nat :=
  if 0x41 ≤ byte && byte ≤ 0x5A then some (byte - 0x41)
  else if 0x61 ≤ byte && byte ≤ 0x7A then some (byte - 0x61 + 26)
  else if 0x30 ≤ byte && byte ≤ 0x39 then some (byte - 0x30 + 52)
  else if byte == 0x2B then some 62
  else if byte == 0x2F then some 63
  else none

/-- What has been read of a section: bits that make no unit yet, how many they are, and the first
half of a pair. -/
structure Utf7Section where
  bits : Nat
  count : Nat
  half : Option Nat
  deriving DecidableEq, Repr

/-- The characters that one more unit completes, and the half of a pair that it leaves. -/
def completeUnit (half : Option Nat) (unit : Nat) : List Char × Option Nat :=
  let alone := fun (before : List Char) =>
    if 0xD800 ≤ unit && unit < 0xDC00 then (before, some unit)
    else if 0xDC00 ≤ unit && unit < 0xE000 then (before ++ [Halves.standIn unit], none)
    else (before ++ [Char.ofNat unit], none)
  match half with
  | none => alone []
  | some first =>
      if 0xDC00 ≤ unit && unit < 0xE000 then
        ([Char.ofNat (0x10000 + (first - 0xD800) * 0x400 + (unit - 0xDC00))], none)
      else alone [Halves.standIn first]

/-- The section with one more character of base sixty-four, and the characters that completes. -/
def Utf7Section.extend (state : Utf7Section) (place : Nat) : List Char × Utf7Section :=
  let bits := state.bits * 64 + place
  let count := state.count + 6
  if 16 ≤ count then
    let unitScale := Nat.pow 2 (count - 16)
    let (characters, half) := completeUnit state.half (bits / unitScale)
    (characters, ⟨bits % unitScale, count - 16, half⟩)
  else ([], ⟨bits, count, state.half⟩)

/-- Whether a section cannot end here. -/
def Utf7Section.isBroken (state : Utf7Section) : Bool := 6 ≤ state.count || state.bits != 0

/-- The next piece; what a section leaves open where the text ends is reported as damage. -/
def utf7Step (state : Option Utf7Section) (first : Nat) (rest : List Nat) :
    Piece × Option Utf7Section :=
  let plain : Piece × Option Utf7Section :=
    if first == 0x2B then
      match rest with
      | 0x2D :: _ => (.text ['+'] 2, none)
      | second :: _ =>
          if (base64Place? second).isSome then (.text [] 1, some ⟨0, 0, none⟩)
          else (.damage 2, none)
      | [] => (.text [] 1, none)
    else if first < 0x80 then (.ofByte first, none)
    else (.damage 1, none)
  match state with
  | none => plain
  | some current =>
      match base64Place? first with
      | some place =>
          let (characters, next) := current.extend place
          let isCutOff := rest.isEmpty && (next.half.isSome || next.isBroken)
          let ending := if isCutOff then ['\uFFFD'] else []
          (.text (characters ++ ending) 1, some next)
      | none =>
          if current.isBroken then (.damage 1, none)
          else
            let lost := if first < 0x80 then current.half.toList.map Halves.standIn else []
            if first == 0x2D then (.text lost 1, none)
            else
              match plain with
              | (.text characters length, next) => (.text (lost ++ characters) length, next)
              | damaged => damaged

/-- The reader of UTF-7. -/
def utf7Reader : PieceReader := ⟨Option Utf7Section, none, utf7Step⟩

end Routebook.Text

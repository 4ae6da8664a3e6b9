import Routebook.Text.Half
import Routebook.Text.Piecewise

/-!
# Text with escapes

Text in which every byte is the character of its number and a backslash starts an escape: a raw text
has escapes for code points alone, others have those of string literals too.
-/

namespace Routebook.Text

set_option autoImplicit false

variable [Halves]

/-- The value of a digit of base sixteen. -/
def hexDigit? (byte : Nat) : Option Nat :=
  if 0x30 ≤ byte && byte ≤ 0x39 then some (byte - 0x30)
  else if 0x41 ≤ byte && byte ≤ 0x46 then some (byte - 0x41 + 10)
  else if 0x61 ≤ byte && byte ≤ 0x66 then some (byte - 0x61 + 10)
  else none

/-- Whether a byte is a digit of base eight. -/
def isOctal (byte : Nat) : Bool := 0x30 ≤ byte && byte ≤ 0x37

/-- The piece of a code point in so many digits of base sixteen behind two bytes; damage reaches up
to the first byte that is no digit. -/
def codePointPiece (digits : Nat) (rest : List Nat) : Piece :=
  let found := (rest.take digits).takeWhile fun byte => (hexDigit? byte).isSome
  let code := found.foldl (fun total byte => total * 16 + (hexDigit? byte).getD 0) 0
  if found.length < digits || 0x110000 ≤ code then .damage (2 + found.length)
  else if 0xD800 ≤ code && code < 0xE000 then .text [Halves.standIn code] (2 + digits)
  else .text [Char.ofNat code] (2 + digits)

/-- The character that a backslash and one more character stand for in a literal. -/
def literalEscape? (byte : Nat) : Option Nat :=
  match Char.ofNat byte with
  | '\\' | '\'' | '"' => some byte
  | 'a' => some 0x07
  | 'b' => some 0x08
  | 't' => some 0x09
  | 'n' => some 0x0A
  | 'v' => some 0x0B
  | 'f' => some 0x0C
  | 'r' => some 0x0D
  | _ => none

/-- The piece of an escape in a literal that is not for a code point in four or eight digits. -/
def literalPiece (second : Nat) (tail : List Nat) : Piece :=
  match literalEscape? second with
  | some code => .text [Char.ofNat code] 2
  | none =>
      if second == 0x0A then .text [] 2
      else if second == 0x78 then codePointPiece 2 tail
      else if second == 0x4E then
        match tail with
        | 0x7B :: name => .damage (3 + (name.takeWhile (· != 0x7D)).length
            + if name.head? == some 0x7D || !name.contains 0x7D then 0 else 1)
        | _ => .damage 2
      else if isOctal second then
        let digits := second :: (tail.take 2).takeWhile isOctal
        .text [Char.ofNat (digits.foldl (fun total byte => total * 8 + (byte - 0x30)) 0)]
          (1 + digits.length)
      else .text ['\\', Char.ofNat second] 2

/-- The next piece of a text with escapes. -/
def escapedStep (raw : Bool) (first : Nat) (rest : List Nat) : Piece :=
  if first != 0x5C then .ofByte first
  else
    match rest with
    | [] => if raw then .ofByte first else .damage 1
    | 0x75 :: tail => codePointPiece 4 tail
    | 0x55 :: tail => codePointPiece 8 tail
    | second :: tail => if raw then .text ['\\', Char.ofNat second] 2 else literalPiece second tail

end Routebook.Text

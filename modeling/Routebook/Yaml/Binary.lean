/-!
# Bytes written as base sixty-four

Four characters stand for three bytes.  Characters outside the alphabet are skipped; the text must
end where a group of bytes ends, filled up with the padding character if need be.
-/

namespace Routebook.Yaml

set_option autoImplicit false

/-- The six bits that a character of the alphabet stands for. -/
def sixBits? (character : Char) : Option Nat :=
  if character.isUpper then some (character.toNat - 'A'.toNat)
  else if character.isLower then some (character.toNat - 'a'.toNat + 26)
  else if character.isDigit then some (character.toNat - '0'.toNat + 52)
  else if character == '+' then some 62
  else if character == '/' then some 63
  else none

/-- Reads the bytes of a text; `pending` are the six-bit numbers of the open group, the last one
first, and `padding` the number of padding characters since. -/
def readBase64 : List Nat → Nat → List Char → Option (List UInt8)
  | pending, padding, character :: rest =>
      if character == '=' then
        if 2 ≤ pending.length && 4 ≤ pending.length + padding + 1 then some []
        else readBase64 pending (if 2 ≤ pending.length then padding + 1 else padding) rest
      else
        match sixBits? character with
        | none => readBase64 pending padding rest
        | some bits =>
            match pending with
            | [] => readBase64 [bits] 0 rest
            | [first] =>
                (readBase64 [bits, first] 0 rest).map
                  (UInt8.ofNat ((first * 4 + bits / 16) % 256) :: ·)
            | [second, first] =>
                (readBase64 [bits, second, first] 0 rest).map
                  (UInt8.ofNat ((second * 16 + bits / 4) % 256) :: ·)
            | third :: _ =>
                (readBase64 [] 0 rest).map (UInt8.ofNat ((third * 64 + bits) % 256) :: ·)
  | pending, _, [] => if pending.isEmpty then some [] else none

/-- The bytes that a text stands for. -/
def base64Decode? (text : List Char) : Option (List UInt8) :=
  readBase64 [] 0 text

end Routebook.Yaml

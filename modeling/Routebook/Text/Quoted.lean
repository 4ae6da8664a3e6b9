import Routebook.Text.Half
import Routebook.Text.Printable
import Routebook.Text.Utf8

/-!
# Quoted text

A quoted text stands between apostrophes, or between double quotes when it holds an apostrophe and
no double quote.  The delimiter and the backslash are escaped, and so is every character that does
not show as itself.
-/

namespace Routebook.Text

set_option autoImplicit false

variable [Halves]

/-- The lower-case hexadecimal digits of a number, padded with zeros to a width. -/
def hexPadded (width number : Nat) : List Char :=
  let digits := Nat.toDigits 16 number
  List.replicate (width - digits.length) '0' ++ digits

/-- The delimiter of a quoted text. -/
def quoteFor (text : List Char) : Char :=
  if text.contains '\'' && !text.contains '"' then '"' else '\''

/-- A character as it stands inside a quoted text. -/
def quotedCharacter (quote character : Char) : List Char :=
  if character == quote || character == '\\' then ['\\', character]
  else if character == '\t' then ['\\', 't']
  else if character == '\n' then ['\\', 'n']
  else if character == '\r' then ['\\', 'r']
  else
    match Halves.code? character with
    | some code => '\\' :: 'u' :: hexPadded 4 code
    | none =>
        if isPrintable character then [character]
        else
          let code := character.toNat
          if code < 0x100 then '\\' :: 'x' :: hexPadded 2 code
          else if code < 0x10000 then '\\' :: 'u' :: hexPadded 4 code
          else '\\' :: 'U' :: hexPadded 8 code

/-- A text between quotes. -/
def quoted (text : List Char) : List Char :=
  let quote := quoteFor text
  quote :: text.flatMap (quotedCharacter quote) ++ [quote]

/-- Bytes between quotes, marked with a `b`; bytes beyond ASCII are escaped. -/
def quotedBytes (bytes : List UInt8) : List Char :=
  let text := bytes.map fun byte => Char.ofNat byte.toNat
  let quote := quoteFor text
  let shown := fun character : Char =>
    if character.toNat < 0x80 then quotedCharacter quote character
    else '\\' :: 'x' :: hexPadded 2 character.toNat
  'b' :: quote :: text.flatMap shown ++ [quote]

end Routebook.Text

import Routebook.Json.Reader
import Routebook.Uri

/-!
# Percent encoding in addresses

The parts of an address keep the characters that are safe in them, and escapes that are already
there; every other character is written as its bytes, each a percent sign with two hexadecimal
digits.
-/

namespace Routebook.Http

set_option autoImplicit false

/-- Whether a text starts with an escape. -/
def startsWithEscape : List Char → Bool
  | '%' :: first :: second :: _ =>
      (Json.hexDigit? first).isSome && (Json.hexDigit? second).isSome
  | _ => false

/-- A text with the unsafe characters encoded and the escapes that it holds kept. -/
def quoteKeeping (isSafe : Char → Bool) : List Char → List Char
  | [] => []
  | character :: rest =>
      if startsWithEscape (character :: rest) || Uri.isUnreserved character || isSafe character then
        character :: quoteKeeping isSafe rest
      else (Text.utf8Bytes character).flatMap Uri.percentByte ++ quoteKeeping isSafe rest

/-- The bytes that a text with escapes stands for. -/
def unquoteBytes (text : List Char) : List UInt8 :=
  match text with
  | [] => []
  | '%' :: first :: second :: rest =>
      match Json.hexNumber? [first, second] with
      | some code => UInt8.ofNat code :: unquoteBytes rest
      | none => UInt8.ofNat '%'.toNat :: unquoteBytes (first :: second :: rest)
  | character :: rest => Text.utf8Bytes character ++ unquoteBytes rest
termination_by text.length

/-- The text that a text with escapes stands for; damaged bytes are replaced. -/
def unquote (text : List Char) : List Char :=
  Text.utf8DecodeReplacing (unquoteBytes text)

/-! ## Forms -/

/-- A text as it stands in a form: as in an address, but with a plus sign for a space. -/
def formEncode (text : List Char) : List Char :=
  text.flatMap fun character => if character == ' ' then ['+'] else Uri.percentCharacter character

/-- The text that a piece of a form stands for. -/
def formDecode (text : List Char) : List Char :=
  unquote (text.map fun character => if character == '+' then ' ' else character)

/-- The text of a form with the given entries. -/
def encodeForm (entries : List (String × String)) : List Char :=
  ['&'].intercalate (entries.map fun entry =>
    formEncode entry.1.toList ++ '=' :: formEncode entry.2.toList)

/-- The entry that a piece of a form stands for; a piece without an equals sign has an empty value.
-/
def decodeEntry (piece : List Char) : String × String :=
  let (name, value) := Text.cut '=' piece
  (String.ofList (formDecode name), String.ofList (formDecode (value.getD [])))

/-- The entries of the text of a form; empty pieces are skipped. -/
def decodeForm (text : List Char) : List (String × String) :=
  ((Text.split '&' text).filter (!·.isEmpty)).map decodeEntry

end Routebook.Http

import Routebook.Failure
import Routebook.Text.Quoted

/-!
# Whole text

A text that holds a lone half of a surrogate pair cannot be encoded.  Data with such a text in it is
refused; in diagnostics the half shows as an escape.
-/

namespace Routebook.Text

set_option autoImplicit false

variable [Halves]

/-- Whether a text holds no lone half. -/
def isWhole (text : List Char) : Bool :=
  text.all fun character => (Halves.code? character).isNone

/-- Requires that a text can be encoded. -/
def requireWhole (text : List Char) : Except Failure Unit :=
  if isWhole text then .ok () else .error .unencodable

/-- A character as it stands in diagnostics. -/
def plainCharacter (character : Char) : List Char :=
  match Halves.code? character with
  | some code => '\\' :: 'u' :: hexPadded 4 code
  | none => [character]

/-- A text with an escape for every lone half. -/
def withoutHalves (text : String) : String :=
  String.ofList (text.toList.flatMap plainCharacter)

end Routebook.Text

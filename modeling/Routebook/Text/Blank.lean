import Routebook.Text.Ranges

/-!
# White space

The blank characters are those with the white space property and the four information separators.
A text is blank when it holds nothing else.
-/

namespace Routebook.Text

set_option autoImplicit false

/-- The blank code points. -/
def blankRanges : List (Nat × Nat) :=
  [(0x09, 0x0D), (0x1C, 0x20), (0x85, 0x85), (0xA0, 0xA0), (0x1680, 0x1680), (0x2000, 0x200A),
   (0x2028, 0x2029), (0x202F, 0x202F), (0x205F, 0x205F), (0x3000, 0x3000)]

/-- Whether a character is white space. -/
def isBlank (character : Char) : Bool :=
  inRanges blankRanges character.toNat

/-- Whether a text holds white space only. -/
def isBlankText (text : String) : Bool :=
  text.toList.all isBlank

/-- A text without the white space at its end. -/
def trimEnd (text : List Char) : List Char :=
  (text.reverse.dropWhile isBlank).reverse

/-- A text without the white space at both ends. -/
def trim (text : List Char) : List Char :=
  trimEnd (text.dropWhile isBlank)

end Routebook.Text

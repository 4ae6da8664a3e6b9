import Routebook.Text.HostCharacter
import Routebook.Text.Punycode

/-!
# Labels of hosts

The name of a host is a row of labels between dots.  A label with characters beyond ASCII travels in
its compact form behind a mark.  A label is sound when it is composed, its characters are allowed
where they stand, and its direction of writing is plain.
-/

namespace Routebook.Text

set_option autoImplicit false

/-- What is wrong with a label or a name. -/
inductive LabelFault
  /-- It is empty, too long, not composed, starts with a mark, has misplaced hyphens, or its compact
  form cannot be read. -/
  | form
  /-- A character is not allowed. -/
  | character
  /-- A character is not allowed where it stands. -/
  | neighbours
  /-- Its directions of writing do not go together. -/
  | direction
  deriving DecidableEq, Repr

/-! ## Labels -/

/-- Whether the hyphens of a label are inside it, and not two in third and fourth place. -/
def hyphensFit (label : List Char) : Bool :=
  (label.drop 2).take 2 != ['-', '-'] && label.head? != some '-' && label.getLast? != some '-'

/-- Checks the characters of a label one by one; `before` is the text before them in reverse. -/
def checkCharacters (label : List Char) : List Char → List Char → Except LabelFault Unit
  | _, [] => .ok ()
  | before, character :: rest =>
      if inRanges hostRanges character.toNat then checkCharacters label (character :: before) rest
      else if !needsNeighbours character then .error .character
      else if fitsNeighbours label before rest character then
        checkCharacters label (character :: before) rest
      else .error .neighbours

/-- Checks that a label is sound. -/
def checkLabel (label : List Char) : Except LabelFault Unit := do
  if label.isEmpty || !isComposed label || !hyphensFit label
      || label.head?.any isMark then throw .form
  checkCharacters label [] label
  if !isDirectionSound label then throw .direction

/-- The mark in front of a compact form. -/
def compactMark : List Char := "xn--".toList

/-- The longest label. -/
def maxLabelLength : Nat := 63

/-- Checks a label of ASCII characters; a compact form has to stand for a sound label. -/
def checkAsciiLabel (label : List Char) : Except LabelFault Unit :=
  let lower := label.map Char.toLower
  match dropWord? compactMark lower with
  | none => checkLabel lower
  | some digits =>
      if digits.isEmpty || digits.getLast? == some '-' then .error .form
      else
        match readPunycode digits with
        | none => .error .form
        | some shown => checkLabel shown

/-- Whether a text holds ASCII only. -/
def isAscii (text : List Char) : Bool := text.all fun character => character.toNat < 0x80

/-- A label in its form within ASCII. -/
def asciiLabel (label : List Char) : Except LabelFault (List Char) := do
  let encoded ←
    if isAscii label then do
      checkAsciiLabel label
      pure label
    else do
      checkLabel label
      pure (compactMark ++ punycode label)
  if maxLabelLength < encoded.length then throw .form
  return encoded

/-! ## Names -/

/-- The characters that count as the dot between two labels. -/
def labelDots : List Char := ['.', '\u3002', '\uFF0E', '\uFF61']

/-- The labels of a name, and whether a dot ends it. -/
def splitName (name : List Char) : List (List Char) × Bool :=
  let labels := split '.' (name.map fun character =>
    if labelDots.contains character then '.' else character)
  if labels.getLast? == some [] then (labels.dropLast, true) else (labels, false)

/-- The longest name, a dot at its end aside. -/
def maxNameLength : Nat := 253

/-- A name in its form within ASCII. -/
def asciiHost (name : List Char) : Except LabelFault (List Char) := do
  let (labels, isRooted) := splitName name
  if labels.isEmpty then throw .form
  let encoded ← labels.mapM asciiLabel
  let joined := ['.'].intercalate encoded
  if maxNameLength < joined.length then throw .form
  return if isRooted then joined ++ ['.'] else joined

/-- Checks a name within ASCII whose first label is a compact form; any other name is taken as it
is. -/
def checkShownHost (name : List Char) : Except LabelFault Unit := do
  if startsWith compactMark name then
    (splitName name).1.forM checkAsciiLabel

end Routebook.Text

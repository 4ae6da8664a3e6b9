import Routebook.Terminal.Dialect
import Routebook.Terminal.Shortcode
import Routebook.Text.Search

/-!
# Markup of terminal text

Styled text is written with tags in square brackets: a name opens a style, a name after a slash
closes the last style of that name, and a slash alone closes the last style of all.  Backslashes
before a tag escape it; a pair of them stands for one.  A style may have parameters behind an equals
sign; those of a handler, which is a style with an at sign in front, are evaluated when it is
closed.  A terminal that is asked for the text alone drops the tags.  It refuses a closing tag that
closes nothing, and parameters of a handler that have no value.
-/

namespace Routebook.Terminal

set_option autoImplicit false

/-! ## Pieces -/

/-- A piece of marked text. -/
inductive Piece
  | plain (text : List Char)
  | tag (content : List Char)
  deriving DecidableEq, Repr

/-- Whether a character can be the first one of a tag. -/
def opensTag (character : Char) : Bool :=
  character.isLower || character == '#' || character == '/' || character == '@'

/-- The rest of a tag up to its closing bracket, and the text after it. -/
def tagRest? : List Char → Option (List Char × List Char)
  | [] => none
  | character :: rest =>
      if character == ']' then some ([], rest)
      else if character == '[' then none
      else (tagRest? rest).map fun found => (character :: found.1, found.2)

/-- The content of the tag that a text starts with, and the text after the tag. -/
def tag? : List Char → Option (List Char × List Char)
  | '[' :: first :: rest =>
      if opensTag first then (tagRest? rest).map fun found => (first :: found.1, found.2) else none
  | _ => none

/-- The number of backslashes before the tag that a text starts with, its content, and the text
after the tag. -/
def escapedTag? : List Char → Option (Nat × List Char × List Char)
  | [] => none
  | character :: rest =>
      if character == '\\' then (escapedTag? rest).map fun found => (found.1 + 1, found.2)
      else (tag? (character :: rest)).map fun found => (0, found)

/-- What follows the rest of a tag is shorter. -/
theorem length_lt_of_tagRest? {text content after : List Char}
    (found : tagRest? text = some (content, after)) : after.length < text.length := by
  induction text generalizing content with
  | nil => simp [tagRest?] at found
  | cons character rest inductionHypothesis =>
      unfold tagRest? at found
      split at found
      · simp only [Option.some.injEq, Prod.mk.injEq] at found
        simp [← found.2]
      · split at found
        · simp at found
        · obtain ⟨inner, innerFound, equation⟩ := Option.map_eq_some_iff.1 found
          simp only [Prod.mk.injEq] at equation
          have shorter := @inductionHypothesis inner.1 (by rw [innerFound, ← equation.2])
          simp only [List.length_cons]
          omega

/-- What follows a tag is shorter than the text that starts with it. -/
theorem length_lt_of_tag? {text content after : List Char}
    (found : tag? text = some (content, after)) : after.length < text.length := by
  unfold tag? at found
  split at found
  · split at found
    · obtain ⟨inner, innerFound, equation⟩ := Option.map_eq_some_iff.1 found
      simp only [Prod.mk.injEq] at equation
      have shorter := @length_lt_of_tagRest? _ inner.1 inner.2 innerFound
      rw [equation.2] at shorter
      simp only [List.length_cons]
      omega
    · simp at found
  · simp at found

/-- What follows an escaped tag is shorter than the text that starts with it. -/
theorem length_lt_of_escapedTag? {text content after : List Char} {count : Nat}
    (found : escapedTag? text = some (count, content, after)) : after.length < text.length := by
  induction text generalizing count with
  | nil => simp [escapedTag?] at found
  | cons character rest inductionHypothesis =>
      unfold escapedTag? at found
      split at found
      · obtain ⟨inner, innerFound, equation⟩ := Option.map_eq_some_iff.1 found
        simp only [Prod.mk.injEq] at equation
        have shorter := @inductionHypothesis inner.1 (by rw [innerFound, ← equation.2])
        simp only [List.length_cons]
        omega
      · obtain ⟨inner, innerFound, equation⟩ := Option.map_eq_some_iff.1 found
        simp only [Prod.mk.injEq] at equation
        exact length_lt_of_tag? (innerFound.trans (by rw [equation.2]))

/-- The pieces that a run of backslashes before a tag and the tag stand for. -/
def escapedPieces (count : Nat) (content : List Char) : List Piece :=
  let kept := if count / 2 == 0 then [] else [Piece.plain (List.replicate (count / 2) '\\')]
  kept ++ [if count % 2 == 1 then .plain ('[' :: (content ++ [']'])) else .tag content]

/-- The pieces of a marked text; `pending` holds the characters of the piece at hand, last one
first. -/
def piecesFrom (pending text : List Char) : List Piece :=
  let flushed := if pending.isEmpty then [] else [Piece.plain pending.reverse]
  match text with
  | [] => flushed
  | character :: rest =>
      match _ : escapedTag? (character :: rest) with
      | some (count, content, after) =>
          flushed ++ escapedPieces count content ++ piecesFrom [] after
      | none => piecesFrom (character :: pending) rest
termination_by text.length
decreasing_by
  · exact length_lt_of_escapedTag? ‹escapedTag? _ = some _›
  · simp

/-- The pieces of a marked text. -/
def pieces (text : List Char) : List Piece := piecesFrom [] text

/-! ## Styles -/

variable [Dialect]

/-- A style that is open: its normal form, and the parameters of its tag if it has some. -/
structure OpenStyle where
  name : String
  parameters : Option (List Char)
  deriving DecidableEq, Repr

/-- Whether a style stands for a handler. -/
def OpenStyle.isHandler (style : OpenStyle) : Bool := style.name.toList.head? == some '@'

/-- Requires that a style with the parameters of its tag can be looked up; those of a handler are
left alone until it is closed. -/
def OpenStyle.requireReadable (style : OpenStyle) : Except Failure Unit :=
  match style.parameters with
  | some given =>
      if style.isHandler then .ok ()
      else (Dialect.normalStyle (style.name.toList ++ ' ' :: given)).map fun _ => ()
  | none => .ok ()

/-- Requires that the parameters of a handler that is closed have a value. -/
def OpenStyle.requireValue (style : OpenStyle) : Except Failure Unit :=
  if style.isHandler && !(style.parameters.getD []).isEmpty
      && !Dialect.evaluates (style.parameters.getD []) then
    .error .malformedMarkup
  else .ok ()

/-- The last open style of a name, and the open styles without it. -/
def takeStyle (name : String) : List OpenStyle → Option (OpenStyle × List OpenStyle)
  | [] => none
  | style :: rest =>
      if style.name == name then some (style, rest)
      else (takeStyle name rest).map fun found => (found.1, style :: found.2)

/-- The open style that a closing tag closes, and the open styles without it. -/
def closeStyle (openStyles : List OpenStyle) (written : List Char) :
    Except Failure (OpenStyle × List OpenStyle) :=
  if (Text.trim written).isEmpty then
    match openStyles with
    | [] => .error .malformedMarkup
    | last :: rest => .ok (last, rest)
  else do
    match takeStyle (← Dialect.normalStyle (Text.trim written)) openStyles with
    | none => throw .malformedMarkup
    | some found => return found

/-- The open styles after a tag. -/
def applyTag (openStyles : List OpenStyle) (content : List Char) :
    Except Failure (List OpenStyle) := do
  let (name, parameters) := Text.cut '=' content
  match name with
  | '/' :: written =>
      let (closed, rest) ← closeStyle openStyles written
      closed.requireValue
      return rest
  | name =>
      let style : OpenStyle := ⟨← Dialect.normalStyle name, parameters⟩
      style.requireReadable
      return style :: openStyles

/-! ## Text -/

/-- Whether a character controls the terminal and is dropped. -/
def isControl (character : Char) : Bool :=
  [7, 8, 11, 12, 13].contains character.toNat

/-- The text that a piece shows. -/
def shownPiece (text : List Char) : List Char :=
  expandShortcodes (Text.replaceAll '\\' ['['] ['['] text)

/-- The text of pieces, given the styles that are open, last one first. -/
def textOfPieces : List OpenStyle → List Piece → Except Failure (List Char)
  | _, [] => .ok []
  | openStyles, .plain text :: rest =>
      (textOfPieces openStyles rest).map (shownPiece text ++ ·)
  | openStyles, .tag content :: rest => do
      textOfPieces (← applyTag openStyles content) rest

/-- The text that a marked text shows. -/
def markedText (text : List Char) : Except Failure (List Char) :=
  (textOfPieces [] (pieces text)).map fun shown => shown.filter (!isControl ·)

/-- The text that a text without markup shows. -/
def unmarkedText (text : List Char) : List Char :=
  (expandShortcodes text).filter (!isControl ·)

/-! ## Escaping -/

/-- A text with every tag in it escaped. -/
def escapeTags (text : List Char) : List Char :=
  match text with
  | [] => []
  | character :: rest =>
      match _ : escapedTag? (character :: rest) with
      | some (count, content, after) =>
          List.replicate (2 * count + 1) '\\' ++ '[' :: (content ++ ']' :: escapeTags after)
      | none => character :: escapeTags rest
termination_by text.length
decreasing_by
  · exact length_lt_of_escapedTag? ‹escapedTag? _ = some _›
  · simp

/-- A text escaped so that it can stand before a tag: a single backslash at its end is doubled. -/
def escape (text : List Char) : List Char :=
  let escaped := escapeTags text
  match escaped.reverse with
  | ['\\'] => escaped ++ ['\\']
  | '\\' :: before :: _ => if before == '\\' then escaped else escaped ++ ['\\']
  | _ => escaped

/-- A text between the tags of a style. -/
def styled (style : String) (text : List Char) : List Char :=
  '[' :: (style.toList ++ ']' :: (text ++ '[' :: '/' :: (style.toList ++ [']'])))

end Routebook.Terminal

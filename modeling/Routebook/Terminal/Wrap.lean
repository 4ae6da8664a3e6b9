import Routebook.Text.Blank
import Routebook.Text.Search
import Routebook.Text.Width

/-!
# Wrapping lines

A text is laid out in lines of a given width.  Tabs reach to the next multiple of eight cells.  A
line that is too long is broken before a word; a word that fits on no line is either folded over
several lines or cut off.
-/

namespace Routebook.Terminal

set_option autoImplicit false

/-! ## Tabs -/

/-- The distance between tab stops. -/
def tabStop : Nat := 8

/-- A line without tabs; `column` is the number of cells before it. -/
def expandTabs (column : Nat) : List Char → List Char
  | [] => []
  | character :: rest =>
      if character == '\t' then
        let width := tabStop - column % tabStop
        List.replicate width ' ' ++ expandTabs (column + width) rest
      else character :: expandTabs (column + Text.cellWidth character) rest

/-! ## Words -/

/-- The pieces of a line between the places where white space ends. -/
def pieceAfterBlank : List Char → List (List Char)
  | [] => []
  | [character] => [[character]]
  | character :: next :: rest =>
      match pieceAfterBlank (next :: rest) with
      | [] => [[character]]
      | piece :: pieces =>
          if Text.isBlank character && !Text.isBlank next then [character] :: piece :: pieces
          else (character :: piece) :: pieces

/-- The words of a line, each with the white space that follows it.  White space at the start
belongs to the first word, and a line of white space only has no word. -/
def words (line : List Char) : List (List Char) :=
  if line.all Text.isBlank then []
  else
    match pieceAfterBlank line with
    | first :: second :: rest =>
        if first.all Text.isBlank then (first ++ second) :: rest else first :: second :: rest
    | pieces => pieces

/-! ## Breaking -/

/-- A word cut into pieces that are at most as wide as given; `used` is the width of the piece at
hand. -/
def foldWord (width used : Nat) : List Char → List (List Char)
  | [] => [[]]
  | character :: rest =>
      let own := Text.cellWidth character
      if width < used + own then
        match foldWord width own rest with
        | [] => [[], [character]]
        | piece :: pieces => [] :: (character :: piece) :: pieces
      else
        match foldWord width (used + own) rest with
        | [] => [[character]]
        | piece :: pieces => (character :: piece) :: pieces

/-- The lines under construction: the finished ones and the one at hand, with the width it takes. -/
structure Layout where
  finished : List (List Char)
  current : List Char
  used : Nat

/-- The lines with another one begun, unless the one at hand is empty. -/
def Layout.break (layout : Layout) : List (List Char) :=
  if layout.current.isEmpty then layout.finished else layout.finished ++ [layout.current]

/-- The lines with one more word. -/
def Layout.add (width : Nat) (folds : Bool) (layout : Layout) (word : List Char) : Layout :=
  let needed := Text.cells (Text.trimEnd word)
  if layout.used + needed ≤ width then
    { layout with current := layout.current ++ word, used := layout.used + Text.cells word }
  else if width < needed then
    if folds then
      let pieces := foldWord width 0 word
      let last := pieces.getLast?.getD []
      ⟨layout.break ++ pieces.dropLast, last, Text.cells last⟩
    else ⟨layout.break, word, Text.cells word⟩
  else ⟨layout.break, word, Text.cells word⟩

/-- A line broken into lines of a width. -/
def breakLine (width : Nat) (folds : Bool) (line : List Char) : List (List Char) :=
  match words line with
  | [] => [line]
  | found =>
      let layout := found.foldl (Layout.add width folds) ⟨[], [], 0⟩
      layout.finished ++ [layout.current]

/-- A line without the white space at its end that reaches beyond a width. -/
def dropExcess (width : Nat) (line : List Char) : List Char :=
  let excess := line.length - width
  let blanks := (line.reverse.takeWhile Text.isBlank).length
  line.take (line.length - min blanks excess)

/-- The longest start of a line that fits into a width, filled up with a space if a wide character
would reach beyond it. -/
def fit (width : Nat) : List Char → List Char
  | [] => []
  | character :: rest =>
      let own := Text.cellWidth character
      if own ≤ width then character :: fit (width - own) rest
      else if width == 0 then [] else [' ']

/-- A line cut to a width; with `marks` the cut is marked. -/
def truncate (width : Nat) (marks : Bool) (line : List Char) : List Char :=
  if Text.cells line ≤ width then line
  else if marks then fit (width - 1) line ++ ['…']
  else fit width line

/-- The lines of a text, none wider than given.  With `folds`, words that are too wide are folded;
without it they are cut and the cut is marked. -/
def wrap (width : Nat) (folds : Bool) (text : List Char) : List (List Char) :=
  (Text.split '\n' text).flatMap fun line =>
    (breakLine width folds (expandTabs 0 line)).map fun piece =>
      truncate width (!folds) (dropExcess width piece)

/-! ## Alignment -/

/-- A line filled up with spaces at its end. -/
def padEnd (width : Nat) (line : List Char) : List Char :=
  line ++ List.replicate (width - Text.cells line) ' '

/-- A line in the middle between spaces. -/
def padMiddle (width : Nat) (line : List Char) : List Char :=
  let trimmed := Text.trimEnd line
  padEnd width (List.replicate ((width - Text.cells trimmed) / 2) ' ' ++ trimmed)

end Routebook.Terminal

import Routebook.Terminal.Markup
import Routebook.Terminal.Wrap

/-!
# Tables

A table has a row of headings above its rows of cells, with ruled lines around them and a title in
the middle above it.  A column is as wide as its widest cell; when the table is too wide, the widest
columns give way first.  Headings stand at the bottom of their row and cells at the top of theirs.
-/

namespace Routebook.Terminal

set_option autoImplicit false

variable [Dialect]

/-! ## Widths -/

/-- The characters that end a line for the width of a text. -/
def lineEnds : List Char :=
  ['\n', '\r', '\x0B', '\x0C', '\x1C', '\x1D', '\x1E', '\x85', '\u2028', '\u2029']

/-- The width of a text: that of its widest line. -/
def textWidth (text : List Char) : Nat :=
  let lines := Text.split '\n' (text.map fun character =>
    if lineEnds.contains character then '\n' else character)
  (lines.map Text.cells).foldl max 0

/-- The widths taken together. -/
def totalWidth (widths : List Nat) : Nat := widths.foldl (· + ·) 0

/-- The space on both sides of a cell. -/
def cellPadding : Nat := 2

/-- A share of a number, rounded to the nearest; a half goes to the even neighbour. -/
def roundedShare (number shares : Nat) : Nat :=
  let quotient := number / shares
  let remainder := 2 * (number % shares)
  if remainder < shares then quotient
  else if shares < remainder then quotient + 1
  else quotient + quotient % 2

/-- The widths with those that are marked made smaller, by at most a limit each and by a total if
the limit allows. -/
def reduceMarked (limit : Nat) : Nat → Nat → List (Nat × Bool) → List Nat
  | _, _, [] => []
  | total, shares, (width, marked) :: rest =>
      if marked && 0 < shares then
        let taken := min limit (roundedShare total shares)
        (width - taken) :: reduceMarked limit (total - taken) (shares - 1) rest
      else width :: reduceMarked limit total shares rest

/-- The widths with the widest made smaller, down to the next smaller width at most. -/
def reduceWidest (excess : Nat) (widths : List Nat) : List Nat :=
  let widest := widths.foldl max 0
  let second := (widths.filter (· != widest)).foldl max 0
  let marked := widths.map fun width => (width, width == widest)
  reduceMarked (min excess (widest - second)) excess (widths.filter (· == widest)).length marked

/-- The widths made small enough for a total, with a bound on the number of steps. -/
def fitWidths (available : Nat) : Nat → List Nat → List Nat
  | 0, widths => widths
  | steps + 1, widths =>
      let total := totalWidth widths
      if total ≤ available then widths
      else fitWidths available steps (reduceWidest (total - available) widths)

/-! ## Rows -/

/-- The vertical rules of a line of a table. -/
structure Rules where
  left : Char
  middle : Char
  right : Char

/-- A horizontal line. -/
def ruleLine (rules : Rules) (dash : Char) (widths : List Nat) : List Char :=
  rules.left :: ([rules.middle].intercalate (widths.map fun width => List.replicate width dash)
    ++ [rules.right])

/-- The lines of a cell, each as wide as the column.  A column with no room for a text has none. -/
def cellLines (width : Nat) (text : List Char) : List (List Char) :=
  match width - cellPadding with
  | 0 => []
  | inner => (wrap inner false text).map fun line => ' ' :: (padEnd inner line ++ [' '])

/-- The lines of a column filled up to a height; with `sinks` they stand at the bottom. -/
def fillColumn (sinks : Bool) (height width : Nat) (lines : List (List Char)) : List (List Char) :=
  let blank := List.replicate (height - lines.length) (List.replicate width ' ')
  if sinks then blank ++ lines else lines ++ blank

/-- The lines of a row, which is one line high at least; with `sinks` the cells stand at its
bottom. -/
def rowLines (rules : Rules) (sinks : Bool) (widths : List Nat) (cells : List (List Char)) :
    List (List Char) :=
  let columns := (widths.zip cells).map fun (width, text) => (width, cellLines width text)
  let height := (columns.map fun column => column.2.length).foldl max 1
  let filled := columns.map fun (width, lines) => fillColumn sinks height width lines
  (List.range height).map fun index =>
    rules.left :: ([rules.middle].intercalate (filled.map fun lines => lines[index]?.getD [])
      ++ [rules.right])

/-- The row with empty cells added up to a number of columns. -/
def padRow (count : Nat) (cells : List (List Char)) : List (List Char) :=
  cells ++ List.replicate (count - cells.length) []

/-! ## Tables -/

/-- A table with marked texts. -/
structure Table where
  title : String
  headings : List String
  rows : List (List String)

/-- The texts that marked texts show. -/
def shownTexts (texts : List String) : Except Failure (List (List Char)) :=
  texts.mapM fun text => markedText text.toList

/-- The lines of a table on a terminal of a width. -/
def Table.lines (table : Table) (width : Nat) : Except Failure (List (List Char)) := do
  let headings ← shownTexts table.headings
  let rows ← table.rows.mapM shownTexts
  let count := ((headings :: rows).map List.length).foldl max 0
  if count == 0 then return [[]]
  let headingRow := padRow count headings
  let cellRows := rows.map (padRow count)
  let available := width - (count + 1)
  let natural := (List.range count).map fun index =>
    let widest := ((headingRow :: cellRows).map fun row =>
      textWidth (row[index]?.getD [])).foldl max 0
    min available (widest + cellPadding)
  let widths := fitWidths available (totalWidth natural) natural
  let title ←
    if table.title.isEmpty then pure []
    else do
      let text ← markedText table.title.toList
      let length := totalWidth widths + count + 1
      pure ((wrap length true text).map (padMiddle length))
  return title
    ++ [ruleLine ⟨'┏', '┳', '┓'⟩ '━' widths]
    ++ rowLines ⟨'┃', '┃', '┃'⟩ true widths headingRow
    ++ [ruleLine ⟨'┡', '╇', '┩'⟩ '━' widths]
    ++ cellRows.flatMap (rowLines ⟨'│', '│', '│'⟩ false widths)
    ++ [ruleLine ⟨'└', '┴', '┘'⟩ '─' widths]

end Routebook.Terminal

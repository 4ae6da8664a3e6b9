import Routebook.Json.Reader
import Routebook.Json.Writer
import Routebook.Session
import Routebook.Surroundings
import Routebook.Terminal.Table

/-!
# Output

Data goes to one stream and diagnostics to another.  Data is printed as JSON, as plain lines, or
laid out for a terminal.
-/

namespace Routebook

set_option autoImplicit false

variable [Runtime]

namespace Output

/-- The output for a requested format and the given switches.  Without a request, a terminal with
colour gets the layout for terminals and everything else plain lines. -/
def make (surroundings : Surroundings) (requested : Option Format) (noColor quiet verbose : Bool) :
    Output :=
  let colored := !(noColor || surroundings.refusesColor)
  let automatic := if surroundings.terminal && colored then Format.rich else .plain
  { format := requested.getD automatic, colored, quiet, verbose, width := surroundings.width }

/-! ## Diagnostics -/

/-- Notes a line with a value in it, which is written out only if the line shows.  With colour, only
information can be something else than a text. -/
def announce (kind : String → Notice) (data : Value) : Action Unit := do
  let output := (← get).output
  match data, kind "" with
  | .text text, _ => Action.note (kind text)
  | value, notice =>
      let isInfo := notice == .info ""
      if output.shows notice then
        if output.colored && !isInfo then throw .wrongType
        Action.ofExcept value.requireText
      Action.note (if output.colored && isInfo then .shown value.display else kind value.display)

/-! ## Data -/

/-- A text decoded from JSON if it is JSON. -/
def decodeText (text : String) : Except Failure (Option Value) :=
  match Json.parse text with
  | .ok value => .ok (some value)
  | .error .tooManyDigits => .error .badValue
  | .error .tooDeep => .error .tooDeep
  | .error _ => .ok none

/-- Prints a response body as JSON; a text that is not JSON is printed as it is. -/
def printJson (data : Value) : Action Unit := do
  match data with
  | .text text =>
      match ← Action.ofExcept (decodeText text) with
      | none => Action.print text
      | some value => Action.print (← Action.ofExcept (Json.render .readable value))
  | value => Action.print (← Action.ofExcept (Json.render .readable value))

/-- The line of an item: the values of a mapping separated by tabs, or the text of the item. -/
def itemLine : Value → Except Failure String
  | .mapping entries => do
      return "\t".intercalate (← entries.mapM fun entry => entry.2.asText)
  | item => item.asText

/-- The line of an entry of a mapping: key and value separated by a tab. -/
def entryLine (entry : Value × Value) : Except Failure String := do
  return (← entry.1.asText) ++ "\t" ++ (← entry.2.asText)

/-- The plain lines of a response body. -/
def plainLines : Value → List (Except Failure String)
  | .mapping entries => entries.map entryLine
  | .list items => items.map itemLine
  | .null => []
  | value => [value.asText]

/-- Prints a value for a terminal. -/
def printRichValue (width : Nat) (data : Value) : Action Unit := do
  match data with
  | .null => pure ()
  | .mapping _ | .list _ =>
      Action.print (wrapped width (← Action.ofExcept (Json.render .readable data)).toList)
  | value => do
      let text ← Action.ofExcept value.asText
      Action.print (wrapped width (Terminal.unmarkedText text.toList))

/-- Prints a response body for a terminal. -/
def printRich (width : Nat) (data : Value) : Action Unit := do
  match data with
  | .text text =>
      match ← Action.ofExcept (decodeText text) with
      | none => Action.print (wrapped width (Terminal.unmarkedText text.toList))
      | some value => printRichValue width value
  | value => printRichValue width value

/-- Prints a response body in the format of the session. -/
def printResponse (data : Value) : Action Unit := do
  let output := (← get).output
  match output.format with
  | .json => printJson data
  | .plain => (plainLines data).forM fun line => do Action.print (← Action.ofExcept line)
  | .rich => printRich output.width data

/-! ## Tables -/

/-- What a table is made of: a title, headings and rows of cells, which may be any values. -/
structure TableData where
  title : Value
  headings : Value
  rows : Value
  deriving Repr

/-- The values that a value consists of. -/
def parts (value : Value) : Except Failure (List Value) :=
  match value.items? with
  | some items => .ok items
  | none => .error .wrongType

/-- The text of a value that has to be a text. -/
def textPart (value : Value) : Except Failure String :=
  match value with
  | .text text => .ok text
  | _ => .error .wrongType

/-- A row of a table as a mapping from headings to cells. -/
def record (headings row : Value) : Except Failure Value := do
  let pairs := (← parts headings).zip (← parts row)
  if pairs.all fun pair => pair.1.isHashable then return .mapping (Value.ofPairs pairs)
  else throw .wrongType

/-- The line of a row, its cells separated by tabs. -/
def rowLine (row : Value) : Except Failure String := do
  return "\t".intercalate (← (← parts row).mapM textPart)

/-- The text in a cell of a table for a terminal. -/
def cellText (cell : Value) : Except Failure String :=
  match cell with
  | .null => .ok ""
  | .text text => .ok text
  | _ => .error .notRenderable

/-- The lines of a table for a terminal.  Its columns are laid out one after the other, each from
its heading on, and the title last. -/
def tableLines (width : Nat) (data : TableData) : Except Failure (List (List Char)) := do
  let headings ← parts data.headings
  let rows ← (← parts data.rows).mapM fun row => do (← parts row).mapM cellText
  let texts := (headings.takeWhile (textPart · |>.isOk)).filterMap (textPart · |>.toOption)
  let count := texts.length
  if count < headings.length then
    if 0 < count then
      let _ ← Terminal.Table.lines ⟨"", texts, rows.map (List.take count)⟩ width
    throw .notRenderable
  match data.title with
  | .text title => Terminal.Table.lines ⟨title, texts, rows⟩ width
  | title => do
      let lines ← Terminal.Table.lines ⟨"", texts, rows⟩ width
      let isEmpty := headings.isEmpty && rows.all List.isEmpty
      if title.isTruthy && !isEmpty then throw .notRenderable
      return lines

/-- Prints a table in the format of the session. -/
def printTable (data : TableData) : Action Unit := do
  let output := (← get).output
  match output.format with
  | .json =>
      let records ← Action.ofExcept do
        (← parts data.rows).mapM (record data.headings)
      Action.print (← Action.ofExcept (Json.render .records (.list records)))
  | .plain =>
      Action.print (← Action.ofExcept (rowLine data.headings))
      for row in ← Action.ofExcept (parts data.rows) do
        Action.print (← Action.ofExcept (rowLine row))
  | .rich =>
      let lines ← Action.ofExcept (tableLines output.width data)
      Action.print (String.ofList (['\n'].intercalate lines))

end Output

end Routebook

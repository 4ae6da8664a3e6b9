import Routebook.Runtime
import Routebook.Terminal.Markup
import Routebook.Terminal.Wrap
import Routebook.Text.Whole

/-!
# Diagnostics

Diagnostics are lines; those for debugging show only when asked for, those that inform can be
silenced, and warnings and errors always show.  With colour a line is written with marks and wrapped
to the width of the terminal.
-/

namespace Routebook

set_option autoImplicit false

variable [Runtime]

/-! ## Formats -/

/-- How data is printed. -/
inductive Format
  | json
  | plain
  | rich
  deriving DecidableEq, Repr

/-- The name of a format. -/
def Format.name : Format → String
  | .json => "json"
  | .plain => "plain"
  | .rich => "rich"

/-- The format of a name. -/
def Format.named? (name : String) : Option Format :=
  [Format.json, .plain, .rich].find? fun format => format.name == name

/-- How output is written. -/
structure Output where
  format : Format
  colored : Bool
  quiet : Bool
  verbose : Bool
  width : Nat
  deriving DecidableEq, Repr

/-- What is written unless something else is asked for. -/
def Output.default : Output where
  format := .plain
  colored := false
  quiet := false
  verbose := false
  width := 80

/-! ## Lines -/

/-- A line for the diagnostics. -/
inductive Notice
  | debug (text : String)
  | info (text : String)
  /-- The text of a value that is not a text itself, as information. -/
  | shown (text : String)
  | success (text : String)
  | warning (text : String)
  | error (text : String)
  deriving DecidableEq, Repr

namespace Output

/-- Whether a line shows. -/
def shows (output : Output) : Notice → Bool
  | .debug _ => output.verbose
  | .info _ | .shown _ | .success _ => !output.quiet
  | .warning _ | .error _ => true

/-- A line without colour. -/
def plainNotice : Notice → String
  | .debug text => "[debug] " ++ text
  | .info text | .shown text | .success text => text
  | .warning text => "Warning: " ++ text
  | .error text => "Error: " ++ text

/-- The text that a line with colour shows before it is wrapped. -/
def markedNotice : Notice → List Char
  | .info text => Terminal.unmarkedText text.toList
  | .shown text => text.toList
  | notice =>
      let marked := match notice with
        | .success text => Terminal.styled "green" (Terminal.escape text.toList)
        | .warning text =>
            Terminal.styled "yellow" "Warning:".toList ++ ' ' :: Terminal.escape text.toList
        | .error text =>
            Terminal.styled "bold red" "Error:".toList ++ ' ' :: Terminal.escape text.toList
        | .debug text =>
            Terminal.styled "dim" ("\\[debug] ".toList ++ Terminal.escape text.toList)
        | .info text | .shown text => text.toList
      match Terminal.markedText marked with
      | .ok text => text
      | .error _ => marked

/-- A text laid out in lines of a width. -/
def wrapped (width : Nat) (text : List Char) : String :=
  String.ofList (['\n'].intercalate (Terminal.wrap width true text))

/-- The text of a line for the diagnostics. -/
def noticeText (output : Output) (notice : Notice) : String :=
  if output.colored then wrapped output.width (markedNotice notice) else plainNotice notice

/-- What is written for a line: nothing if it does not show, and an escape for every lone half. -/
def writeNotice (output : Output) (notice : Notice) : String :=
  if output.shows notice then Text.withoutHalves (output.noticeText notice) ++ "\n" else ""

/-- What is written for a list of lines. -/
def writeNotices (output : Output) (notices : List Notice) : String :=
  String.join (notices.map output.writeNotice)

end Output

end Routebook

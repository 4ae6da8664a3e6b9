import Routebook.Number.Decimal
import Routebook.Value.Display

/-!
# Writing JSON

Values are written in one of two layouts: indented for readers, compact for request bodies.  The
layouts differ in spacing, in what happens to numbers that the standard grammar lacks, and in what
happens to values that have no JSON form.
-/

namespace Routebook.Json

set_option autoImplicit false

variable [Runtime]

/-- The decisions of a layout. -/
structure Layout where
  /-- Spaces added for each level of nesting, each item standing on a line of its own. -/
  indent : Option Nat
  /-- What stands between the key and the value of a member. -/
  keySeparator : String
  /-- Whether infinities and the number that is not a number are written. -/
  allowNonFinite : Bool
  /-- Whether a value without a JSON form is written as its text. -/
  displayOthers : Bool
  deriving DecidableEq, Repr

/-- The layout for readers. -/
def Layout.readable : Layout where
  indent := some 2
  keySeparator := ": "
  allowNonFinite := true
  displayOthers := true

/-- The layout for tables, which hold texts only. -/
def Layout.records : Layout where
  indent := some 2
  keySeparator := ": "
  allowNonFinite := true
  displayOthers := false

/-- The layout of request bodies. -/
def Layout.compact : Layout where
  indent := none
  keySeparator := ":"
  allowNonFinite := false
  displayOthers := false

/-- A character as it stands inside a quoted text: quotes, backslashes and controls are escaped. -/
def escapeCharacter (character : Char) : List Char :=
  if character == '"' then ['\\', '"']
  else if character == '\\' then ['\\', '\\']
  else if character == '\n' then ['\\', 'n']
  else if character == '\r' then ['\\', 'r']
  else if character == '\t' then ['\\', 't']
  else if character == '\x08' then ['\\', 'b']
  else if character == '\x0C' then ['\\', 'f']
  else if character.toNat < 0x20 then '\\' :: 'u' :: Text.hexPadded 4 character.toNat
  else [character]

/-- A quoted text. -/
def quote (text : String) : String :=
  String.ofList ('"' :: text.toList.flatMap escapeCharacter ++ ['"'])

/-- The text of a number. -/
def numberText (layout : Layout) (number : Number.Binary64) : Except Failure String :=
  if number.isNaN then
    if layout.allowNonFinite then .ok "NaN" else .error .badValue
  else if number.isInfinite then
    if layout.allowNonFinite then .ok (if number.negative then "-Infinity" else "Infinity")
    else .error .badValue
  else .ok number.text

/-- The text of an integer, unless it has too many digits. -/
def integerText (value : Int) : Except Failure String :=
  if Number.isTooLong value then .error .badValue else .ok (toString value)

/-- The name of a member: a text, or the JSON text of a number, a truth value or null. -/
def memberName (layout : Layout) : Value → Except Failure String
  | .text value => .ok value
  | .null => .ok "null"
  | .truth flag => .ok (if flag then "true" else "false")
  | .int value => integerText value
  | .float value => numberText layout value
  | _ => .error .wrongType

/-- What separates and encloses the items of a nonempty container at a depth. -/
def lineBreak (layout : Layout) (depth : Nat) : String :=
  match layout.indent with
  | none => ""
  | some width => "\n" ++ String.ofList (List.replicate (width * depth) ' ')

/-- A nonempty container from its items, written at a depth. -/
def enclose (layout : Layout) (depth : Nat) (opening closing : String) (items : List String) :
    String :=
  opening ++ lineBreak layout (depth + 1)
    ++ ("," ++ lineBreak layout (depth + 1)).intercalate items
    ++ lineBreak layout depth ++ closing

mutual
/-- The text of a value at a depth. -/
def renderAt (layout : Layout) (depth : Nat) : Value → Except Failure String
  | .null => .ok "null"
  | .truth flag => .ok (if flag then "true" else "false")
  | .int value => integerText value
  | .float value => numberText layout value
  | .text value => .ok (quote value)
  | .list [] | .tuple [] => .ok "[]"
  | .list items | .tuple items =>
      (renderItems layout (depth + 1) items).map (enclose layout depth "[" "]")
  | .mapping [] => .ok "\x7b\x7d"
  | .mapping entries =>
      (renderMembers layout (depth + 1) entries).map (enclose layout depth "\x7b" "\x7d")
  | .knot _ _ => .error .badValue
  | other => if layout.displayOthers then .ok (quote other.display) else .error .wrongType

/-- The texts of the items of a list. -/
def renderItems (layout : Layout) (depth : Nat) : List Value → Except Failure (List String)
  | [] => .ok []
  | item :: rest => do
      let text ← renderAt layout depth item
      let texts ← renderItems layout depth rest
      return text :: texts

/-- The texts of the members of a mapping. -/
def renderMembers (layout : Layout) (depth : Nat) :
    List (Value × Value) → Except Failure (List String)
  | [] => .ok []
  | (key, value) :: rest => do
      let name ← memberName layout key
      let text ← renderAt layout depth value
      let texts ← renderMembers layout depth rest
      return (quote name ++ layout.keySeparator ++ text) :: texts
end

/-- The text of a value. -/
def render (layout : Layout) (value : Value) : Except Failure String :=
  renderAt layout 0 value

end Routebook.Json

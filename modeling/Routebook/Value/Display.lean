import Routebook.Number.Decimal
import Routebook.Runtime
import Routebook.Text.Quoted
import Routebook.Value.Basic

/-!
# Text of values

A text shows as itself and every other value by a notation from which it could be rebuilt.  Inside a
container texts are quoted, so that the notation of a container is unambiguous.  A container that
contains itself is written out once, and inside itself it is three dots between its brackets.
-/

namespace Routebook.Value

set_option autoImplicit false

variable [Runtime]

/-- The notation of a truth value. -/
def truthNotation (flag : Bool) : String := if flag then "True" else "False"

/-- The pieces between brackets, separated by a comma and a space. -/
def bracketed (opening closing : String) (pieces : List String) : String :=
  opening ++ ", ".intercalate pieces ++ closing

/-- A tuple's notation; a single item is followed by a comma. -/
def tupleNotation : List String → String
  | [single] => "(" ++ single ++ ",)"
  | pieces => bracketed "(" ")" pieces

/-- A set's notation; the empty set is written as a call. -/
def setNotation : List String → String
  | [] => "set()"
  | pieces => bracketed "\x7b" "\x7d" pieces

/-- The tree of a container of a knot: its links are followed, unless they lead back to a container
around them. -/
def unrollAt (containers : List Value) : Nat → List Nat → Nat → Value
  | 0, _, _ => .null
  | steps + 1, around, index =>
      let follow := fun (item : Value) =>
        match item with
        | .link target _ =>
            if (index :: around).contains target then item
            else unrollAt containers steps (index :: around) target
        | other => other
      match containers[index]? with
      | some (.list items) => .list (items.map follow)
      | some (.tuple items) => .tuple (items.map follow)
      | some (.mapping entries) => .mapping (entries.map fun entry => (entry.1, follow entry.2))
      | _ => .null

mutual
/-- A value with its knots written out as trees. -/
def unrolled : Value → Value
  | .list items => .list (unrolledItems items)
  | .tuple items => .tuple (unrolledItems items)
  | .mapping entries => .mapping (unrolledEntries entries)
  | .knot containers index =>
      let trees := unrolledItems containers
      unrollAt trees (trees.length + 1) [] index
  | other => other

/-- The items of a container with their knots written out. -/
def unrolledItems : List Value → List Value
  | [] => []
  | item :: rest => unrolled item :: unrolledItems rest

/-- The entries of a mapping with their knots written out. -/
def unrolledEntries : List (Value × Value) → List (Value × Value)
  | [] => []
  | (key, value) :: rest => (key, unrolled value) :: unrolledEntries rest
end

mutual
/-- The notation of a value. -/
def shown : Value → String
  | .null => "None"
  | .truth flag => truthNotation flag
  | .int value => toString value
  | .float value => value.text
  | .text value => String.ofList (Text.quoted value.toList)
  | .bytes value => String.ofList (Text.quotedBytes value)
  | .list items => bracketed "[" "]" (shownItems items)
  | .tuple items => tupleNotation (shownItems items)
  | .set items => setNotation (shownItems items)
  | .mapping entries => bracketed "\x7b" "\x7d" (shownEntries entries)
  | .date value => value.constructorText
  | .moment value => value.constructorText
  | .problem cause => cause.message
  | .response content =>
      "<Response [" ++ toString content.status ++ " " ++ Http.reasonPhrase content.status ++ "]>"
  | .route method name => "<RouteFunction " ++ method ++ " " ++ name ++ ">"
  | .foreign name => "<" ++ name ++ ">"
  | .knot _ _ => ""
  | .link _ .square => "[...]"
  | .link _ .curly => "\x7b...\x7d"
  | .link _ .round => "(...)"

/-- The notations of the items of a container. -/
def shownItems : List Value → List String
  | [] => []
  | item :: rest => shown item :: shownItems rest

/-- The notations of the entries of a mapping. -/
def shownEntries : List (Value × Value) → List String
  | [] => []
  | (key, value) :: rest => (shown key ++ ": " ++ shown value) :: shownEntries rest
end

/-- The text of a value: a text is itself, days and moments are written out, and everything else
shows by its notation. -/
def display : Value → String
  | .text value => value
  | .date value => value.text
  | .moment value => value.text " "
  | other => other.unrolled.shown

/-! ## Values that cannot be written -/

mutual
/-- The first thing from left to right that keeps a value from being written: an integer with too
many digits, or a container inside so many others that there is no room for it. -/
def obstacle? (room : Nat) : Value → Option Failure
  | .int value => if Number.isTooLong value then some .badValue else none
  | .list items | .tuple items | .set items =>
      if room == 0 then some .tooDeep else obstacleIn? (room - 1) items
  | .mapping entries => if room == 0 then some .tooDeep else obstacleAmong? (room - 1) entries
  | .knot _ _ => some .tooDeep
  | _ => none

/-- The first obstacle among the items of a container. -/
def obstacleIn? (room : Nat) : List Value → Option Failure
  | [] => none
  | item :: rest => (obstacle? room item).or (obstacleIn? room rest)

/-- The first obstacle among the entries of a mapping. -/
def obstacleAmong? (room : Nat) : List (Value × Value) → Option Failure
  | [] => none
  | (key, value) :: rest =>
      ((obstacle? room key).or (obstacle? room value)).or (obstacleAmong? room rest)
end

/-- Requires that a value has a text. -/
def requireText (value : Value) : Except Failure Unit :=
  match value.unrolled.obstacle? Runtime.textDepth with
  | some failure => .error failure
  | none => .ok ()

/-- The text of a value that has one. -/
def asText (value : Value) : Except Failure String := do
  value.requireText
  return value.display

end Routebook.Value

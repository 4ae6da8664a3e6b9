import Routebook.Text.Search

/-!
# Templates of addresses

A template is a path with placeholders, each a name between `${` and the next closing brace,
optionally followed by a question mark and the names of query parameters separated by bars.  Every
text is a template.  The names are captured from left to right over the whole text; an opening that
is closed at once or never closed is ordinary text.
-/

namespace Routebook

set_option autoImplicit false

namespace Template

/-- The name of a placeholder and the text after it, for a text that starts behind an opening. -/
def capture? (text : List Char) : Option (List Char × List Char) :=
  match Text.cut '\x7d' text with
  | ([], _) => none
  | (_, none) => none
  | (name, some after) => some (name, after)

/-- What follows a placeholder is shorter than what follows its opening. -/
theorem length_lt_of_capture? {text name after : List Char}
    (found : capture? text = some (name, after)) : after.length < text.length := by
  unfold capture? at found
  split at found
  · simp at found
  · simp at found
  · rename_i before rest shape equation
    simp only [Option.some.injEq, Prod.mk.injEq] at found
    rw [← found.2]
    exact Text.length_lt_of_cut equation

/-- The names of the placeholders of a text, in order and with repetitions. -/
def names (text : List Char) : List (List Char) :=
  match text with
  | [] => []
  | [_] => []
  | first :: second :: rest =>
      if first == '$' && second == '\x7b' then
        match _ : capture? rest with
        | some (name, after) => name :: names after
        | none => names (second :: rest)
      else names (second :: rest)
termination_by text.length
decreasing_by
  · have shorter := length_lt_of_capture? ‹capture? _ = some _›
    simp only [List.length_cons]
    omega
  · simp
  · simp

/-- The text of a placeholder. -/
def placeholder (name : List Char) : List Char :=
  '$' :: '\x7b' :: (name ++ ['\x7d'])

end Template

/-- The parsed form of a template. -/
structure Pattern where
  /-- The text before the first question mark, placeholders included. -/
  literalPath : String
  /-- The captured names, in order and with repetitions. -/
  pathVariables : List String
  /-- The query names in order of first appearance, each once; none without a question mark. -/
  queryNames : List String
  deriving DecidableEq, Repr

/-- The parsed form of a text. -/
def Template.parse (template : String) : Pattern :=
  let (path, query) := Text.cut '?' template.toList
  { literalPath := String.ofList path
    pathVariables := (Template.names template.toList).map String.ofList
    queryNames := match query with
      | none => []
      | some text => ((Text.split '|' text).map String.ofList).eraseDups }

namespace Pattern

/-- Whether a name is one of the path variables. -/
def isPathVariable (pattern : Pattern) (name : String) : Bool :=
  pattern.pathVariables.contains name

/-- Whether a name is one of the query parameters. -/
def isQueryParameter (pattern : Pattern) (name : String) : Bool :=
  pattern.queryNames.contains name

/-- The path variables in order of first appearance, each once. -/
def distinctPathVariables (pattern : Pattern) : List String :=
  pattern.pathVariables.eraseDups

/-- The query parameters in the order of their code points. -/
def sortedQueryNames (pattern : Pattern) : List String :=
  pattern.queryNames.mergeSort (fun first second => decide (first ≤ second))

end Pattern

end Routebook

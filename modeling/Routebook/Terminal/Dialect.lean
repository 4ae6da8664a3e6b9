import Routebook.Failure

/-!
# What a terminal makes of tags

Two things about tags are up to the terminal: the normal form of a style, by which opening and
closing tags are matched, and whether the parameters of a handler have a value.
-/

namespace Routebook.Terminal

set_option autoImplicit false

/-- The styles of diagnostics. -/
def diagnosticStyles : List String := ["green", "yellow", "bold red", "dim"]

/-- What a terminal makes of styles and of the parameters of handlers. -/
class Dialect where
  /-- The normal form of a style; some texts that look like styles cannot be read at all. -/
  normalStyle : List Char → Except Failure String
  /-- Whether the parameters of a handler have a value. -/
  evaluates : List Char → Bool
  /-- The styles of diagnostics have a normal form. -/
  normalStyle_diagnostic : ∀ style ∈ diagnosticStyles, (normalStyle style.toList).isOk = true

end Routebook.Terminal

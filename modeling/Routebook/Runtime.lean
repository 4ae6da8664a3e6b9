import Routebook.Terminal.Dialect
import Routebook.Terminal.Style
import Routebook.Text.Half

/-!
# Runtimes

What runs a program sets limits to it: documents, copies and notations of values can be nested only
so deeply.  It also determines how lone halves of surrogate pairs are told from characters, and what
the terminal makes of styles.  What a computation does depends on nothing else of its runtime.
-/

namespace Routebook

set_option autoImplicit false

/-- What runs a program. -/
class Runtime extends Text.Halves, Terminal.Dialect where
  /-- How many containers of a JSON document can be open inside one another. -/
  jsonDepth : Nat
  /-- How many collections of a YAML document can be open inside one another. -/
  yamlDepth : Nat
  /-- How many steps of a copy can be under way inside one another. -/
  copyDepth : Nat
  /-- How many containers inside one another can be written out. -/
  textDepth : Nat

/-- The usual runtime, in which about a thousand calls can be under way inside one another. -/
@[reducible]
def Runtime.usual : Runtime where
  toHalves := Text.Halves.usual
  toDialect := Terminal.Dialect.usual
  jsonDepth := 980
  yamlDepth := 485
  copyDepth := 980
  textDepth := 980

end Routebook

import Routebook.Json.Reader
import Routebook.Text.Search
import Routebook.Value.Basic

/-!
# Assignments

On a command line a value is given to a key by `key=value`.  A value that is JSON is decoded; any
other text stands for itself.  Later assignments to a key replace earlier ones and keep their place.
-/

namespace Routebook.Assignment

set_option autoImplicit false

variable [Runtime]

/-- The value that a text on a command line stands for. -/
def parseValue (text : String) : Except Failure Value :=
  match Json.parse text with
  | .ok value => .ok value
  | .error .tooManyDigits => .error .badValue
  | .error .tooDeep => .error .tooDeep
  | .error _ => .ok (.text text)

/-- The key and the value of one assignment, given after a flag. -/
def parseOne (flag text : String) : Except Failure (Value × Value) :=
  match Text.cut '=' text.toList with
  | (_ :: _, some value) => do
      let key := (Text.cut '=' text.toList).1
      return (.text (String.ofList key), ← parseValue (String.ofList value))
  | _ => .error (.problem (.malformedAssignment flag text))

/-- The entries that a list of assignments makes. -/
def parse (flag : String) (texts : List String) : Except Failure Entries :=
  (texts.mapM (parseOne flag)).map Value.ofPairs

end Routebook.Assignment

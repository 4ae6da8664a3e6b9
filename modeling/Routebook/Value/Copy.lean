import Routebook.Runtime
import Routebook.Value.Display

/-!
# Copies of values

A copy is made from the outside in, and the steps that copy a container stay under way while its
items are copied.  So a value that is nested too deeply cannot be copied.
-/

namespace Routebook.Value

set_option autoImplicit false

mutual
/-- How many steps are under way where a copy of a value goes deepest. -/
def copySteps : Value → Nat
  | .list items => 2 + itemSteps items
  | .tuple items => 3 + itemSteps items
  | .set items => 5 + itemSteps items
  | .mapping entries => 2 + entrySteps entries
  | .date _ | .moment _ => 5
  | _ => 2

/-- The most steps that one of the items of a container takes. -/
def itemSteps : List Value → Nat
  | [] => 0
  | item :: rest => max (copySteps item) (itemSteps rest)

/-- The most steps that a key or a value of a mapping takes. -/
def entrySteps : List (Value × Value) → Nat
  | [] => 0
  | (key, value) :: rest => max (max (copySteps key) (copySteps value)) (entrySteps rest)
end

variable [Runtime]

/-- Requires that a value can be copied. -/
def requireCopyable (value : Value) : Except Failure Unit :=
  if value.unrolled.copySteps ≤ Runtime.copyDepth then .ok () else .error .tooDeep

end Routebook.Value

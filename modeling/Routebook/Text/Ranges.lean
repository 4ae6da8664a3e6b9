/-!
# Sets of characters given by ranges

A property of characters is stored as the ascending closed ranges of the code points that have it.
-/

namespace Routebook.Text

set_option autoImplicit false

/-- Whether a code point lies in one of the ranges; the ranges ascend, so the search stops early. -/
def inRanges : List (Nat × Nat) → Nat → Bool
  | [], _ => false
  | range :: rest, code =>
      if code < range.1 then false
      else if code ≤ range.2 then true
      else inRanges rest code

end Routebook.Text

import Routebook.Value.Display

/-!
# Stated problems

A caller states a problem by its kind, a message and, if it wishes, an exit status of its own.  The
problem of an unreadable body has a message of its own and takes no other exit status.
-/

namespace Routebook.Problem

set_option autoImplicit false

variable [Runtime]

/-- The exit status that a value asks for; null asks for none. -/
def exitCodeOf : Value → Except Failure (Option Int)
  | .null => .ok none
  | .int code => .ok (some code)
  | _ => .error .wrongType

/-- The problem that a caller states. -/
def state (kind : Kind) (arguments : List Value) : Except Failure Problem :=
  match kind, arguments with
  | .unreadableBody, [] => .ok .bodyNotJson
  | .unreadableBody, [message] => .ok (.stated kind message.display none)
  | .unreadableBody, _ => .error .wrongType
  | _, [message] => .ok (.stated kind message.display none)
  | _, [message, code] => (exitCodeOf code).map (.stated kind message.display ·)
  | _, _ => .error .wrongType

end Routebook.Problem

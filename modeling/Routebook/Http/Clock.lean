/-!
# The time

What a computation can tell of the time: cookies end at some second, and years are completed from
the present one.
-/

namespace Routebook.Http

set_option autoImplicit false

/-- A time. -/
structure Clock where
  /-- The seconds since the start of 1970. -/
  seconds : Int
  /-- The year. -/
  year : Nat
  deriving DecidableEq, Repr

/-- The start of 1970. -/
def Clock.start : Clock := ⟨0, 1970⟩

end Routebook.Http

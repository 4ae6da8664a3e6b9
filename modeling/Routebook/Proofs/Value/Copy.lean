import Routebook.Value.Copy

/-!
# Values that can be copied

A value can be copied when it is not nested more deeply than copies can be under way inside one
another (`Value.Copyable`); nothing else stands against a copy.
-/

namespace Routebook.Value

set_option autoImplicit false

variable [Runtime]

/-- Whether a value can be copied. -/
def Copyable (value : Value) : Prop := value.unrolled.copySteps ≤ Runtime.copyDepth

instance (value : Value) : Decidable value.Copyable := inferInstanceAs (Decidable (_ ≤ _))

theorem requireCopyable_of_copyable {value : Value} (copyable : value.Copyable) :
    value.requireCopyable = .ok () := if_pos copyable

theorem requireCopyable_of_not_copyable {value : Value} (deep : ¬value.Copyable) :
    value.requireCopyable = .error .tooDeep := if_neg deep

end Routebook.Value

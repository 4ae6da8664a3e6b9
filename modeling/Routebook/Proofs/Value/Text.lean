import Routebook.Proofs.Outcome
import Routebook.Text.Whole
import Routebook.Value.Display

/-!
# Texts of values

Most values have a text: those without a long integer in them that are not nested too deeply
(`Value.asText_eq_ok_iff`).  Texts, truth values, null and integers of few digits have one on every
runtime.
-/

namespace Routebook

set_option autoImplicit false

variable [Runtime]

namespace Value

/-- A value has a text exactly when nothing keeps it from being written, and then it shows as its
text.
-/
theorem asText_eq_ok_iff {value : Value} {text : String} :
    value.asText = .ok text
      ↔ value.unrolled.obstacle? Runtime.textDepth = none ∧ value.display = text := by
  unfold asText requireText
  cases value.unrolled.obstacle? Runtime.textDepth with
  | none => exact ⟨fun made => ⟨rfl, Except.ok.inj made⟩, fun both => congrArg Except.ok both.2⟩
  | some failure => exact ⟨nofun, fun both => nomatch both.1⟩

@[simp] theorem asText_text (text : String) : (Value.text text).asText = .ok text :=
  asText_eq_ok_iff.mpr ⟨rfl, rfl⟩

@[simp] theorem asText_null : Value.null.asText = .ok "None" :=
  asText_eq_ok_iff.mpr ⟨rfl, rfl⟩

theorem asText_int {number : Int} (short : Number.isTooLong number = false) :
    (Value.int number).asText = .ok (toString number) := by
  refine asText_eq_ok_iff.mpr ⟨?_, rfl⟩
  change (if Number.isTooLong number then some Failure.badValue else none) = none
  rw [short]
  rfl

end Value

end Routebook

import Routebook.Text.Whole

/-!
# Texts without lone halves

A text is whole when no character in it stands for a lone half.  Texts of assigned characters are
whole whatever code points stand for halves.
-/

namespace Routebook.Text

set_option autoImplicit false

variable [Halves] {text more : List Char}

theorem isWhole_iff : isWhole text = true ↔ ∀ character ∈ text, Halves.code? character = none := by
  simp [isWhole]

@[simp] theorem isWhole_append : isWhole (text ++ more) = (isWhole text && isWhole more) :=
  List.all_append

theorem isWhole_cons (character : Char) :
    isWhole (character :: text) = ((Halves.code? character).isNone && isWhole text) := rfl

/-- A part of a whole text is whole. -/
theorem isWhole_of_subset (whole : isWhole text = true) (part : more ⊆ text) : isWhole more = true :=
  isWhole_iff.mpr fun character present => isWhole_iff.mp whole character (part present)

theorem isWhole_flatten {texts : List (List Char)} :
    isWhole texts.flatten = true ↔ ∀ text ∈ texts, isWhole text = true := by
  simp [isWhole]

theorem isWhole_of_assigned (assigned : text.all (!isUnassigned ·) = true) : isWhole text = true :=
  isWhole_iff.mpr fun character present => Halves.code?_assigned character
    ((Bool.not_eq_true' _).mp (List.all_eq_true.mp assigned character present))

theorem isWhole_replicate {character : Char} (assigned : isUnassigned character = false) (count : Nat) :
    isWhole (List.replicate count character) = true :=
  isWhole_of_assigned (List.all_eq_true.mpr fun other present => by
    rw [List.eq_of_mem_replicate present, assigned]
    rfl)

/-- A whole text has no halves to be escaped. -/
theorem withoutHalves_of_whole {text : String} (whole : isWhole text.toList = true) :
    withoutHalves text = text := by
  have characters : ∀ part : List Char, isWhole part = true → part.flatMap plainCharacter = part := by
    intro part
    induction part with
    | nil => exact fun _ => rfl
    | cons character rest inductionHypothesis =>
        intro wholePart
        rw [isWhole_cons, Bool.and_eq_true, Option.isNone_iff_eq_none] at wholePart
        rw [List.flatMap_cons, plainCharacter, wholePart.1, inductionHypothesis wholePart.2]
        rfl
  rw [withoutHalves, characters _ whole, String.ofList_toList]

theorem requireWhole_eq_ok_iff : requireWhole text = .ok () ↔ isWhole text = true := by
  unfold requireWhole
  split <;> simp [*]

theorem requireWhole_of_not_whole (halved : ¬isWhole text = true) :
    requireWhole text = .error .unencodable := if_neg halved

end Routebook.Text

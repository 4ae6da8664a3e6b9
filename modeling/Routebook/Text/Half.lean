/-!
# Lone halves

A text may hold a half of a surrogate pair that stands alone, which is no character.  Texts are made
of characters here, so for each such half a code point is named that stands for it, in a plane in
which no character is assigned.  Which ones these are makes no difference elsewhere: what is said of
texts is said for every choice of them, also for the choice of none, with which every character
stands for itself.
-/

namespace Routebook.Text

set_option autoImplicit false

/-- Whether a code point lies in one of the planes in which no character is assigned. -/
def isUnassigned (character : Char) : Bool :=
  0x40000 ≤ character.toNat && character.toNat < 0xE0000

/-- A choice of characters that stand for lone halves of surrogate pairs. -/
class Halves where
  /-- The character that stands for a half, by the number of the half. -/
  standIn : Nat → Char
  /-- The number of the half that a character stands for; a character that stands for itself has
  none. -/
  code? : Char → Option Nat
  /-- Where characters are assigned, they stand for themselves. -/
  code?_assigned : ∀ character : Char, isUnassigned character = false → code? character = none

namespace Halves

/-- The first of the characters that stand for lone halves by the usual choice. -/
def firstStandIn : Nat := 0xB5800

/-- The usual choice: a part of one of these planes. -/
@[reducible]
def usual : Halves where
  standIn code := Char.ofNat (firstStandIn + (code - 0xD800))
  code? character :=
    if firstStandIn ≤ character.toNat ∧ character.toNat < firstStandIn + 0x800 then
      some (0xD800 + (character.toNat - firstStandIn))
    else none
  code?_assigned character assigned := if_neg fun ⟨above, below⟩ => by
    have unassigned : isUnassigned character = true := by
      unfold firstStandIn at above below
      exact Bool.and_eq_true_iff.mpr ⟨decide_eq_true (by omega), decide_eq_true (by omega)⟩
    exact absurd (unassigned.symm.trans assigned) (by decide)

theorem toNat_ofNat {number : Nat} (valid : number.isValidChar) :
    (Char.ofNat number).toNat = number := by
  rw [Char.ofNat, dif_pos valid]
  rfl

/-- The usual choice keeps all lone halves apart. -/
theorem code?_standIn_usual {code : Nat} (least : 0xD800 ≤ code) (most : code < 0xE000) :
    usual.code? (usual.standIn code) = some code := by
  have valid : (firstStandIn + (code - 0xD800)).isValidChar := by
    unfold firstStandIn
    exact .inr ⟨by omega, by omega⟩
  have back : 0xD800 + (firstStandIn + (code - 0xD800) - firstStandIn) = code := by omega
  let standIn := Char.ofNat (firstStandIn + (code - 0xD800))
  change (if firstStandIn ≤ standIn.toNat ∧ standIn.toNat < firstStandIn + 0x800 then
    some (0xD800 + (standIn.toNat - firstStandIn)) else none) = some code
  rw [show standIn.toNat = firstStandIn + (code - 0xD800) from toNat_ofNat valid,
    if_pos ⟨Nat.le_add_right _ _, by omega⟩, back]

end Halves

end Routebook.Text

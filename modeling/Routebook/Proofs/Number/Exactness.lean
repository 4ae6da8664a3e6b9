import Routebook.Number.Binary64

/-!
# Sizes of numbers

A finite number is decoded into a whole number times a power of two, and only the two zeros are
decoded to the same size (`Binary64.eq_or_zero_of_toFraction`).  So numbers that equal one whole
number equal one another (`Binary64.sameValue_of_equalsInt`).
-/

namespace Routebook.Number.Binary64

set_option autoImplicit false

variable {first second : Binary64}

/-! ## Fields -/

theorem fractionField_lt (number : Binary64) : number.fractionField < exponentUnit :=
  Nat.mod_lt _ (by decide)

/-- A number is made of its sign and its fields. -/
theorem toNat_bits (number : Binary64) :
    number.bits.toNat = (if number.negative then signUnit else 0)
      + number.exponentField * exponentUnit + number.fractionField := by
  have bound : number.bits.toNat < 18446744073709551616 := number.bits.toNat_lt
  unfold negative exponentField fractionField signUnit exponentUnit
  simp only [decide_eq_true_eq]
  split <;> omega

theorem eq_of_fields (sign : first.negative = second.negative)
    (exponent : first.exponentField = second.exponentField)
    (fraction : first.fractionField = second.fractionField) : first = second := by
  have bits : first.bits.toNat = second.bits.toNat := by
    rw [toNat_bits, toNat_bits, sign, exponent, fraction]
  cases first
  cases second
  exact congrArg Binary64.mk (UInt64.toNat_inj.mp bits)

theorem significand_eq_zero_iff (number : Binary64) :
    number.significand = 0 ↔ number.isZero = true := by
  unfold significand isZero exponentUnit
  simp only [Bool.and_eq_true, beq_iff_eq]
  split <;> omega

/-- The whole number in the size of a number has fewer than fifty-four bits. -/
theorem significand_lt (number : Binary64) : number.significand < 2 * exponentUnit := by
  have bound := number.fractionField_lt
  unfold significand
  split <;> omega

/-- Above the least exponent the whole number has all its fifty-three bits. -/
theorem le_significand_of_lt_scale {number : Binary64} (above : -1074 < number.scale) :
    exponentUnit ≤ number.significand := by
  unfold scale at above
  unfold significand
  split
  · rename_i least
    rw [if_pos least] at above
    omega
  · exact Nat.le_add_right _ _

theorem le_scale (number : Binary64) : -1074 ≤ number.scale := by
  unfold scale
  split
  · exact Int.le_refl _
  · rename_i positive
    have nonzero : number.exponentField ≠ 0 := fun zero => positive (beq_iff_eq.mpr zero)
    omega

/-- The fields are given by the whole number and the exponent of two. -/
theorem fields_of_parts (significand : first.significand = second.significand)
    (scale : first.scale = second.scale) :
    first.exponentField = second.exponentField ∧ first.fractionField = second.fractionField := by
  have bound := first.fractionField_lt
  have otherBound := second.fractionField_lt
  unfold Binary64.significand at significand
  unfold Binary64.scale at scale
  simp only [beq_iff_eq] at significand scale
  split at scale
  · rename_i least
    split at scale
    · rename_i otherLeast
      rw [if_pos least, if_pos otherLeast] at significand
      exact ⟨least.trans otherLeast.symm, significand⟩
    · rename_i otherAbove
      rw [if_pos least, if_neg otherAbove] at significand
      omega
  · rename_i above
    split at scale
    · rename_i otherLeast
      rw [if_neg above, if_pos otherLeast] at significand
      omega
    · rename_i otherAbove
      rw [if_neg above, if_neg otherAbove] at significand
      omega

/-! ## Sizes -/

/-- The size of a number without its sign. -/
theorem natAbs_toFraction (number : Binary64) :
    number.toFraction.1.natAbs = number.significand * Nat.pow 2 number.scale.toNat := by
  unfold toFraction
  dsimp only
  split
  · rw [Int.natAbs_neg]
    rfl
  · rfl

theorem toFraction_snd (number : Binary64) :
    number.toFraction.2 = Nat.pow 2 (-number.scale).toNat := rfl

theorem toFraction_snd_pos (number : Binary64) : 0 < number.toFraction.2 :=
  Nat.two_pow_pos _

/-- A number that is not zero is negative when its size is. -/
theorem negative_iff {number : Binary64} (nonzero : number.significand ≠ 0) :
    number.negative = true ↔ number.toFraction.1 < 0 := by
  have positive : (0 : Int) < number.significand * Nat.pow 2 number.scale.toNat :=
    Int.mul_pos (Int.natCast_pos.mpr (Nat.pos_of_ne_zero nonzero))
      (Int.natCast_pos.mpr (Nat.two_pow_pos _))
  unfold toFraction
  dsimp only
  split
  · rename_i sign
    exact ⟨fun _ => Int.neg_neg_of_pos positive, fun _ => sign⟩
  · rename_i sign
    exact ⟨fun negative => absurd negative sign,
      fun below => absurd below (Int.not_lt.mpr (Int.le_of_lt positive))⟩

theorem pow_two_add (left right : Nat) :
    Nat.pow 2 (left + right) = Nat.pow 2 left * Nat.pow 2 right :=
  Nat.pow_add 2 left right

/-- Of two numbers of one size neither has the greater exponent of two: its whole number would be
too small for the other one. -/
theorem scale_le_of_size {left right : Nat}
    (size : first.significand * Nat.pow 2 left = second.significand * Nat.pow 2 right)
    (shift : (left : Int) + second.scale = right + first.scale) : first.scale ≤ second.scale := by
  refine Int.not_lt.mp fun above => ?_
  obtain ⟨excess, rfl⟩ : ∃ excess, left = right + (excess + 1) :=
    ⟨left - right - 1, by omega⟩
  have wide : exponentUnit ≤ first.significand :=
    le_significand_of_lt_scale (by have := second.le_scale; omega)
  have narrow := second.significand_lt
  have shifted : first.significand * Nat.pow 2 (excess + 1) = second.significand := by
    rw [pow_two_add, Nat.mul_comm (Nat.pow 2 right), ← Nat.mul_assoc] at size
    exact Nat.eq_of_mul_eq_mul_right (Nat.two_pow_pos right) size
  have even : 2 ≤ Nat.pow 2 (excess + 1) :=
    Nat.le_trans (by decide) (Nat.pow_le_pow_right (by decide) (Nat.le_add_left 1 excess))
  have doubled : first.significand * 2 ≤ first.significand * Nat.pow 2 (excess + 1) :=
    Nat.mul_le_mul_left _ even
  omega

/-- Numbers of one size have the same parts. -/
theorem parts_of_size {left right : Nat}
    (size : first.significand * Nat.pow 2 left = second.significand * Nat.pow 2 right)
    (shift : (left : Int) + second.scale = right + first.scale) :
    first.significand = second.significand ∧ first.scale = second.scale := by
  have scale : first.scale = second.scale :=
    Int.le_antisymm (scale_le_of_size size shift) (scale_le_of_size size.symm shift.symm)
  have same : left = right := by omega
  rw [same] at size
  exact ⟨Nat.eq_of_mul_eq_mul_right (Nat.two_pow_pos right) size, scale⟩

/-- **Numbers that are decoded to the same size are the same, or both are zero.** -/
theorem eq_or_zero_of_toFraction
    (same : first.toFraction.1 * second.toFraction.2 = second.toFraction.1 * first.toFraction.2) :
    first = second ∨ (first.isZero = true ∧ second.isZero = true) := by
  have size := congrArg Int.natAbs same
  rw [Int.natAbs_mul, Int.natAbs_mul, natAbs_toFraction, natAbs_toFraction, Int.natAbs_natCast,
    Int.natAbs_natCast, toFraction_snd, toFraction_snd, Nat.mul_assoc, Nat.mul_assoc,
    ← pow_two_add, ← pow_two_add] at size
  obtain ⟨significand, scale⟩ := parts_of_size size (by omega)
  obtain ⟨exponent, fraction⟩ := fields_of_parts significand scale
  by_cases zero : first.significand = 0
  · exact .inr ⟨(significand_eq_zero_iff first).mp zero,
      (significand_eq_zero_iff second).mp (significand ▸ zero)⟩
  · left
    have sign : first.toFraction.1 < 0 ↔ second.toFraction.1 < 0 := by
      have left : (0 : Int) < second.toFraction.2 := Int.natCast_pos.mpr second.toFraction_snd_pos
      have right : (0 : Int) < first.toFraction.2 := Int.natCast_pos.mpr first.toFraction_snd_pos
      constructor
      · intro below
        exact Int.neg_of_mul_neg_left (same ▸ Int.mul_neg_of_neg_of_pos below left) right
      · intro below
        exact Int.neg_of_mul_neg_left (same ▸ Int.mul_neg_of_neg_of_pos below right) left
    rw [← negative_iff zero, ← negative_iff (significand ▸ zero), ← Bool.eq_iff_iff] at sign
    exact eq_of_fields sign exponent fraction

/-! ## Numbers that equal whole numbers -/

theorem equalsInt_iff {number : Binary64} {value : Int} :
    number.equalsInt value = true ↔ number.isNaN = false ∧ number.isInfinite = false ∧
      number.toFraction.1 = value * number.toFraction.2 := by
  unfold equalsInt
  cases number.isNaN with
  | true => simp
  | false =>
      cases number.isInfinite with
      | true => simp
      | false => simp

theorem sameValue_iff :
    first.sameValue second = true ↔ first.isNaN = false ∧ second.isNaN = false ∧
      (first = second ∨ (first.isZero = true ∧ second.isZero = true)) := by
  unfold sameValue
  cases first.isNaN with
  | true => simp
  | false =>
      cases second.isNaN with
      | true => simp
      | false => simp

/-- **Numbers that equal one whole number equal one another.** -/
theorem sameValue_of_equalsInt {value : Int} (left : first.equalsInt value = true)
    (right : second.equalsInt value = true) : first.sameValue second = true := by
  obtain ⟨number, -, size⟩ := equalsInt_iff.mp left
  obtain ⟨otherNumber, -, otherSize⟩ := equalsInt_iff.mp right
  refine sameValue_iff.mpr ⟨number, otherNumber, eq_or_zero_of_toFraction ?_⟩
  rw [size, otherSize, Int.mul_right_comm]

/-- A number equals one whole number at most. -/
theorem eq_of_equalsInt {value other : Int} (left : first.equalsInt value = true)
    (right : first.equalsInt other = true) : value = other := by
  obtain ⟨-, -, size⟩ := equalsInt_iff.mp left
  obtain ⟨-, -, otherSize⟩ := equalsInt_iff.mp right
  rw [size] at otherSize
  have positive : (first.toFraction.2 : Int) ≠ 0 :=
    Int.natCast_ne_zero.mpr (Nat.ne_of_gt first.toFraction_snd_pos)
  exact Int.eq_of_mul_eq_mul_right positive otherSize

theorem toFraction_of_isZero {number : Binary64} (zero : number.isZero = true) :
    number.toFraction.1 = 0 := by
  have none := (significand_eq_zero_iff number).mpr zero
  have size := natAbs_toFraction number
  rw [none, Nat.zero_mul] at size
  exact Int.natAbs_eq_zero.mp size

theorem finite_of_isZero {number : Binary64} (zero : number.isZero = true) :
    number.isNaN = false ∧ number.isInfinite = false := by
  obtain ⟨exponent, -⟩ := (Bool.and_eq_true _ _).mp zero
  unfold isNaN isInfinite
  rw [beq_iff_eq.mp exponent]
  exact ⟨rfl, rfl⟩

/-- Numbers that equal one another equal the same whole numbers. -/
theorem equalsInt_of_sameValue {value : Int} (same : first.sameValue second = true)
    (left : first.equalsInt value = true) : second.equalsInt value = true := by
  obtain ⟨-, -, rfl | ⟨zero, otherZero⟩⟩ := sameValue_iff.mp same
  · exact left
  · obtain ⟨-, -, size⟩ := equalsInt_iff.mp left
    obtain ⟨number, finite⟩ := finite_of_isZero otherZero
    refine equalsInt_iff.mpr ⟨number, finite, ?_⟩
    have positive : (first.toFraction.2 : Int) ≠ 0 :=
      Int.natCast_ne_zero.mpr (Nat.ne_of_gt first.toFraction_snd_pos)
    rw [toFraction_of_isZero zero, eq_comm, Int.mul_eq_zero] at size
    rw [toFraction_of_isZero otherZero, size.resolve_right positive, Int.zero_mul]

theorem sameValue_comm (first second : Binary64) :
    first.sameValue second = second.sameValue first := by
  rw [Bool.eq_iff_iff, sameValue_iff, sameValue_iff]
  constructor
  · rintro ⟨number, otherNumber, same | ⟨zero, otherZero⟩⟩
    · exact ⟨otherNumber, number, .inl same.symm⟩
    · exact ⟨otherNumber, number, .inr ⟨otherZero, zero⟩⟩
  · rintro ⟨number, otherNumber, same | ⟨zero, otherZero⟩⟩
    · exact ⟨otherNumber, number, .inl same.symm⟩
    · exact ⟨otherNumber, number, .inr ⟨otherZero, zero⟩⟩

theorem sameValue_trans {third : Binary64} (left : first.sameValue second = true)
    (right : second.sameValue third = true) : first.sameValue third = true := by
  obtain ⟨number, -, same⟩ := sameValue_iff.mp left
  obtain ⟨-, otherNumber, otherSame⟩ := sameValue_iff.mp right
  refine sameValue_iff.mpr ⟨number, otherNumber, ?_⟩
  rcases same with rfl | ⟨zero, middle⟩
  · exact otherSame
  · rcases otherSame with rfl | ⟨-, last⟩
    · exact .inr ⟨zero, middle⟩
    · exact .inr ⟨zero, last⟩

end Routebook.Number.Binary64

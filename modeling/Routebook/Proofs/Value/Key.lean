import Routebook.Proofs.Number.Exactness
import Routebook.Value.Basic

/-!
# Keys

On the values that can be keys equality is symmetric and transitive, whatever the types of the
numbers (`Value.same_comm`, `Value.same_trans`).  It is not reflexive: a number that is not a number
is the same key as none.
-/

namespace Routebook.Value

set_option autoImplicit false

open Number

/-! ## Symmetry -/

mutual
/-- A key equals a value when the value equals the key. -/
theorem same_comm (first second : Value) (hashable : first.isHashable = true) :
    same first second = same second first := by
  cases first with
  | tuple items =>
      cases second with
      | tuple others =>
          rw [same, same]
          exact sameItems_comm items others hashable
      | _ => simp only [same]
  | truth flag =>
      cases second with
      | truth other => simp only [same, Bool.beq_comm]
      | int other => simp only [same, BEq.comm]
      | _ => simp only [same]
  | int value =>
      cases second with
      | truth other => simp only [same, BEq.comm]
      | int other => simp only [same, BEq.comm]
      | _ => simp only [same]
  | float value =>
      cases second with
      | float other => simp only [same, Binary64.sameValue_comm]
      | _ => simp only [same]
  | list items => cases hashable
  | set items => cases hashable
  | mapping entries => cases hashable
  | knot containers index => cases hashable
  | link index brackets => cases hashable
  | route method name =>
      cases second with
      | route otherMethod otherName => simp only [same, BEq.comm]
      | _ => simp only [same]
  | _ => cases second <;> simp only [same, BEq.comm]

theorem sameItems_comm (first second : List Value) (hashable : allHashable first = true) :
    sameItems first second = sameItems second first := by
  match first, second with
  | [], [] => rfl
  | [], _ :: _ | _ :: _, [] => rw [sameItems, sameItems] <;> nofun
  | item :: rest, other :: others =>
      obtain ⟨here, later⟩ := (Bool.and_eq_true _ _).mp hashable
      rw [sameItems, sameItems, same_comm item other here, sameItems_comm rest others later]
end

/-! ## Transitivity -/

/-- A truth value as the number that it equals. -/
def unflagged : Value → Value
  | .truth flag => .int (if flag then 1 else 0)
  | value => value

theorem same_unflagged (first second : Value) :
    same first.unflagged second.unflagged = same first second := by
  cases first with
  | truth flag =>
      cases second with
      | truth other => cases flag <;> cases other <;> simp only [unflagged, same] <;> decide
      | _ => simp only [unflagged, same]
  | _ => cases second <;> simp only [unflagged, same]

/-- The numbers besides the truth values. -/
inductive Numeric : Value → Prop
  | int (value : Int) : Numeric (.int value)
  | float (value : Binary64) : Numeric (.float value)

namespace Numeric

variable {first second third : Value}

/-- Only a number equals a number. -/
theorem of_same (numeric : Numeric first.unflagged) (equal : same first second = true) :
    Numeric second.unflagged := by
  cases first with
  | truth flag | int value | float value =>
      cases second with
      | truth other => exact .int _
      | int other => exact .int _
      | float other => exact .float _
      | _ => simp only [same, Bool.false_eq_true] at equal
  | _ => cases numeric

theorem same_trans (numeric : Numeric first) (middle : Numeric second) (last : Numeric third)
    (left : same first second = true) (right : same second third = true) :
    same first third = true := by
  cases numeric with
  | int value =>
      cases middle with
      | int other =>
          simp only [same, beq_iff_eq] at left
          rwa [left]
      | float other =>
          simp only [same] at left
          cases last with
          | int final =>
              simp only [same, beq_iff_eq] at right ⊢
              exact Binary64.eq_of_equalsInt left right
          | float final =>
              simp only [same] at right ⊢
              exact Binary64.equalsInt_of_sameValue right left
  | float value =>
      cases middle with
      | int other =>
          simp only [same] at left
          cases last with
          | int final =>
              simp only [same, beq_iff_eq] at right
              simp only [same, ← right, left]
          | float final =>
              simp only [same] at right ⊢
              exact Binary64.sameValue_of_equalsInt left right
      | float other =>
          simp only [same] at left
          cases last with
          | int final =>
              simp only [same] at right ⊢
              exact Binary64.equalsInt_of_sameValue (Binary64.sameValue_comm _ _ ▸ left) right
          | float final =>
              simp only [same] at right ⊢
              exact Binary64.sameValue_trans left right

end Numeric

/-- Whether a value is neither a number nor a container. -/
def isPlain : Value → Bool
  | .null | .text _ | .bytes _ | .date _ | .moment _ | .problem _ | .response _ | .route _ _
  | .foreign _ => true
  | _ => false

/-- A value that is neither a number nor a container equals itself alone. -/
theorem eq_of_same {first second : Value} (plain : first.isPlain = true)
    (equal : same first second = true) : first = second := by
  cases first with
  | truth _ | int _ | float _ | list _ | tuple _ | set _ | mapping _ | knot _ _ | link _ _ =>
      cases plain
  | _ =>
      cases second <;> simp only [same, Bool.false_eq_true, Bool.and_eq_true, beq_iff_eq] at equal
      all_goals simp only [equal]

mutual
/-- **A key that equals a value equals all that the value equals.** -/
theorem same_trans (first second third : Value) (hashable : first.isHashable = true)
    (left : same first second = true) (right : same second third = true) :
    same first third = true := by
  have number : Numeric first.unflagged → same first third = true := by
    intro numeric
    have middle := numeric.of_same left
    have last := middle.of_same right
    rw [← same_unflagged] at left right ⊢
    exact numeric.same_trans middle last left right
  have plain : first.isPlain = true → same first third = true := by
    intro plain
    rwa [eq_of_same plain left]
  cases first with
  | truth flag | int value => exact number (.int _)
  | float value => exact number (.float _)
  | tuple items =>
      cases second with
      | tuple others =>
          cases third with
          | tuple last =>
              simp only [same] at left right ⊢
              exact sameItems_trans items others last hashable left right
          | _ => simp only [same, Bool.false_eq_true] at right
      | _ => simp only [same, Bool.false_eq_true] at left
  | list items | set items | mapping entries | knot containers index | link index brackets =>
      cases hashable
  | _ => exact plain rfl

theorem sameItems_trans (first second third : List Value) (hashable : allHashable first = true)
    (left : sameItems first second = true) (right : sameItems second third = true) :
    sameItems first third = true := by
  match first, second, third with
  | [], [], _ => exact right
  | [], _ :: _, _ | _ :: _, [], _ =>
      simp only [sameItems, Bool.false_eq_true] at left
  | _ :: _, _ :: _, [] =>
      simp only [sameItems, Bool.false_eq_true] at right
  | item :: rest, other :: others, final :: finals =>
      obtain ⟨here, later⟩ := (Bool.and_eq_true _ _).mp hashable
      simp only [sameItems, Bool.and_eq_true] at left right ⊢
      exact ⟨same_trans item other final here left.1 right.1,
        sameItems_trans rest others finals later left.2 right.2⟩
end

end Routebook.Value

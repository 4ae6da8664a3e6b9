import Routebook.Http.Reply
import Routebook.Proofs.Outcome

/-!
# Replies whose text cannot be made out

The text of a response may be illegible in several ways, and none of them is a problem that the
caller is told about (`Http.unreported_text`).
-/

namespace Routebook

set_option autoImplicit false

variable [Runtime]

/-- Whether a failure is no problem that the caller is told about. -/
def Failure.IsUnreported (failure : Failure) : Prop := ∀ cause, failure ≠ .problem cause

/-- A computation fails by no problem that the caller is told about. -/
abbrev Unreported {α : Type} (result : Except Failure α) : Prop :=
  Outcome Failure.IsUnreported (fun _ => True) result

namespace Http

omit [Runtime] in
theorem unreported_joinFragments (fragments : List Fragment) :
    Unreported (joinFragments fragments) := by
  unfold joinFragments
  dsimp only
  split
  · exact nofun
  · split
    · split
      · split <;> exact trivial
      · exact trivial
    · exact trivial

omit [Runtime] in
theorem unreported_readParameters (text : List Char) : Unreported (readParameters text) := by
  unfold readParameters
  dsimp only
  split
  · exact trivial
  · refine .bind (@Outcome.mapM _ _ _ _ (fun _ => True) _ _ fun name => ?_) fun _ _ => trivial
    exact .bind (unreported_joinFragments _) fun _ _ => trivial

theorem unreported_charset? (contentType : String) : Unreported (charset? contentType) := by
  refine .bind (unreported_readParameters contentType.toList) fun parameters _ => ?_
  split <;> exact trivial

theorem unreported_charset (response : Response) : Unreported response.charset := by
  unfold Response.charset
  split
  · exact trivial
  · refine .bind (unreported_charset? _) fun name _ => ?_
    split
    · exact trivial
    · exact trivial
    · exact nofun

/-- **A response whose text cannot be made out is no problem that the caller is told about.** -/
theorem unreported_text (response : Response) : Unreported response.text := by
  unfold Response.text
  split
  · exact trivial
  · refine .bind (unreported_charset response) fun found _ => ?_
    cases found.lacksMark response.body with
    | true => exact nofun
    | false =>
        cases found.leavesTooMuch response.body with
        | true => exact nofun
        | false => exact trivial

end Http

end Routebook

import Routebook.Terminal.Picture
import Routebook.Text.Blank
import Routebook.Text.Lowercase

/-!
# Picture shortcodes

A terminal shows a picture for its name between colons.  A name ends at the next colon and holds no
white space; an unknown name stays as it is written, its colons included.  A name may end with a
wish for the plain or the coloured form of the picture.
-/

namespace Routebook.Terminal

set_option autoImplicit false

/-- The picture of a name; the case of its letters does not count. -/
def picture? (name : List Char) : Option (List Char) :=
  let key := String.ofList (Text.lower name)
  (pictures.find? fun entry => entry.1 == key).map Prod.snd

/-- A name without a wish for a form, and the mark that stands for the wish. -/
def separateForm (name : List Char) : List Char × List Char :=
  let reversed := name.reverse
  if "ijome-".toList.isPrefixOf reversed then ((reversed.drop 6).reverse, ['\uFE0F'])
  else if "txet-".toList.isPrefixOf reversed then ((reversed.drop 5).reverse, ['\uFE0E'])
  else (name, [])

/-- The name between a colon and the next one, and the text after it, for a text that starts behind
a colon. -/
def shortcode? : List Char → Option (List Char × List Char)
  | [] => none
  | character :: rest =>
      if character == ':' then some ([], rest)
      else if Text.isBlank character then none
      else (shortcode? rest).map fun found => (character :: found.1, found.2)

/-- What follows a name is shorter than what follows its first colon. -/
theorem length_lt_of_shortcode? {text name after : List Char}
    (found : shortcode? text = some (name, after)) : after.length < text.length := by
  induction text generalizing name with
  | nil => simp [shortcode?] at found
  | cons character rest inductionHypothesis =>
      unfold shortcode? at found
      split at found
      · simp only [Option.some.injEq, Prod.mk.injEq] at found
        simp [← found.2]
      · split at found
        · simp at found
        · obtain ⟨inner, innerFound, equation⟩ := Option.map_eq_some_iff.1 found
          simp only [Prod.mk.injEq] at equation
          have shorter := @inductionHypothesis inner.1 (by rw [innerFound, ← equation.2])
          simp only [List.length_cons]
          omega

/-- What a name between colons shows as. -/
def showShortcode (name : List Char) : List Char :=
  let (plainName, form) := separateForm name
  match picture? plainName with
  | some picture => picture ++ form
  | none => ':' :: (name ++ [':'])

/-- A text with the names between colons replaced by their pictures. -/
def expandShortcodes (text : List Char) : List Char :=
  match text with
  | [] => []
  | character :: rest =>
      if character == ':' then
        match _ : shortcode? rest with
        | some (name, after) => showShortcode name ++ expandShortcodes after
        | none => ':' :: expandShortcodes rest
      else character :: expandShortcodes rest
termination_by text.length
decreasing_by
  · have shorter := length_lt_of_shortcode? ‹shortcode? _ = some _›
    simp only [List.length_cons]
    omega
  · simp
  · simp

end Routebook.Terminal

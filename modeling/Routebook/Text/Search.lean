/-!
# Finding and replacing

The ways in which texts are taken apart: at the first occurrence of a character, at every
occurrence, and at the occurrences of a word, found from left to right without overlap.
-/

namespace Routebook.Text

set_option autoImplicit false

/-! ## Splitting at a character -/

/-- The text before the first occurrence of a character and, if there is one, the text after it. -/
def cut (separator : Char) : List Char → List Char × Option (List Char)
  | [] => ([], none)
  | character :: rest =>
      if character == separator then ([], some rest)
      else
        let (before, after) := cut separator rest
        (character :: before, after)

/-- The text after the first occurrence of a character is shorter than the whole text. -/
theorem length_lt_of_cut {separator : Char} {text before after : List Char}
    (found : cut separator text = (before, some after)) : after.length < text.length := by
  induction text generalizing before with
  | nil => simp [cut] at found
  | cons character rest inductionHypothesis =>
      unfold cut at found
      split at found
      · simp only [Prod.mk.injEq, Option.some.injEq] at found
        simp [← found.2]
      · simp only [Prod.mk.injEq] at found
        have shorter := @inductionHypothesis (cut separator rest).1 (Prod.ext rfl found.2)
        simp only [List.length_cons]
        omega

/-- The pieces between the occurrences of a character; a text without it is one piece. -/
def split (separator : Char) : List Char → List (List Char)
  | [] => [[]]
  | character :: rest =>
      if character == separator then [] :: split separator rest
      else
        match split separator rest with
        | [] => [[character]]
        | piece :: pieces => (character :: piece) :: pieces

/-- The pieces of a text between the occurrences of a character. -/
def splitText (separator : Char) (text : String) : List String :=
  (split separator text.toList).map String.ofList

/-! ## Words -/

/-- The text after a word that it starts with. -/
def dropWord? : List Char → List Char → Option (List Char)
  | [], text => some text
  | _ :: _, [] => none
  | expected :: word, character :: text =>
      if expected == character then dropWord? word text else none

/-- A text that starts with a word is longer than what follows the word by the length of the word.
-/
theorem length_of_dropWord? {word text after : List Char}
    (found : dropWord? word text = some after) :
    text.length = word.length + after.length := by
  induction word generalizing text with
  | nil =>
      simp only [dropWord?, Option.some.injEq] at found
      simp [found]
  | cons expected word inductionHypothesis =>
      cases text with
      | nil => simp [dropWord?] at found
      | cons character text =>
          unfold dropWord? at found
          split at found
          · simp only [List.length_cons, inductionHypothesis found]
            omega
          · simp at found

/-- Whether a text starts with a word. -/
def startsWith (word text : List Char) : Bool :=
  (dropWord? word text).isSome

/-- Whether a text ends with a word. -/
def endsWith (word text : List Char) : Bool :=
  startsWith word.reverse text.reverse

/-- Whether a word occurs in a text. -/
def occurs (word : List Char) : List Char → Bool
  | [] => word.isEmpty
  | character :: rest => startsWith word (character :: rest) || occurs word rest

/-- A text with every occurrence of the word `first :: more` replaced, from left to right. -/
def replaceAll (first : Char) (more replacement : List Char) (text : List Char) : List Char :=
  match text with
  | [] => []
  | character :: rest =>
      match _ : dropWord? (first :: more) (character :: rest) with
      | some after => replacement ++ replaceAll first more replacement after
      | none => character :: replaceAll first more replacement rest
termination_by text.length
decreasing_by
  · have lengths := length_of_dropWord? ‹dropWord? _ _ = some _›
    simp only [List.length_cons] at lengths ⊢
    omega
  · simp

end Routebook.Text

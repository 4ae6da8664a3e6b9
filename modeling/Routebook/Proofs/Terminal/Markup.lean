import Mathlib.Data.List.Infix
import Routebook.Terminal.Markup
import Routebook.Proofs.Outcome
import Routebook.Proofs.Terminal.Shortcode
import Routebook.Proofs.Text.Search

/-!
# Marked texts

A marked text is read in pieces: tags, and stretches between them that are shown.  A stretch shows
as it is exactly when it is literal (`Terminal.shownPiece_eq_self_iff`), and a text that is handed
to the terminal as it is shows as it is exactly when besides no tag occurs in it
(`Terminal.markedText_eq_self_iff`).

A text in which the tags are escaped falls into the stretches of `Terminal.fragments`, and shows as
it is exactly when each of them is literal (`Terminal.shownText_eq_self_iff`).  The converses rest
on the number of marks: whatever reading changes, marks are lost.
-/

namespace Routebook.Terminal

set_option autoImplicit false

/-! ## A stretch of text -/

/-- Whether a stretch of text shows as it is: no backslash in it stands before a bracket, and none
of the names that are met in it is that of a picture. -/
def Literal (text : List Char) : Prop := ¬ ['\\', '['] <:+: text ∧ Pictureless text

instance (text : List Char) : Decidable (Literal text) := inferInstanceAs (Decidable (_ ∧ _))

/-- Dropping backslashes before brackets does not add marks. -/
theorem marks_unescape_le (text : List Char) :
    marks (Text.replaceAll '\\' ['['] ['['] text) ≤ marks text := by
  fun_induction Text.replaceAll '\\' ['['] ['['] text with
  | case1 => exact Nat.le_refl _
  | case2 character rest after dropped inductionHypothesis =>
      rw [Text.dropWord?_eq_some_iff.mp dropped]
      simp only [List.cons_append, List.nil_append, marks_bracket, marks_backslash]
      omega
  | case3 character rest dropped inductionHypothesis =>
      simp only [marks_cons]
      omega

/-- Dropping a backslash takes marks away. -/
theorem marks_unescape_lt {text : List Char} (escaped : ['\\', '['] <:+: text) :
    marks (Text.replaceAll '\\' ['['] ['['] text) < marks text := by
  fun_induction Text.replaceAll '\\' ['['] ['['] text with
  | case1 => cases List.infix_nil.mp escaped
  | case2 character rest after dropped inductionHypothesis =>
      have fewer := marks_unescape_le after
      rw [Text.dropWord?_eq_some_iff.mp dropped]
      simp only [List.cons_append, List.nil_append, marks_bracket, marks_backslash]
      omega
  | case3 character rest dropped inductionHypothesis =>
      have later : ['\\', '['] <:+: rest := by
        rcases List.infix_cons_iff.mp escaped with ⟨after, same⟩ | later
        · rw [Text.dropWord?_eq_some_iff.mpr same.symm] at dropped
          cases dropped
        · exact later
      have fewer := inductionHypothesis later
      simp only [marks_cons]
      omega

theorem shownPiece_eq_self {text : List Char} (literal : Literal text) : shownPiece text = text := by
  rw [shownPiece, Text.replaceAll_eq_self literal.1, expandShortcodes_eq_self literal.2]

theorem marks_shownPiece_le (text : List Char) : marks (shownPiece text) ≤ marks text :=
  Nat.le_trans (marks_expandShortcodes_le _) (marks_unescape_le text)

/-- A stretch that does not show as it is loses marks. -/
theorem marks_shownPiece_lt {text : List Char} (changed : ¬ Literal text) :
    marks (shownPiece text) < marks text := by
  by_cases escaped : ['\\', '['] <:+: text
  · exact Nat.lt_of_le_of_lt (marks_expandShortcodes_le _) (marks_unescape_lt escaped)
  · have pictured : ¬ Pictureless text := fun plain => changed ⟨escaped, plain⟩
    rw [shownPiece, Text.replaceAll_eq_self escaped]
    exact marks_expandShortcodes_lt pictured

/-- **A stretch shows as it is exactly when it is literal.** -/
theorem shownPiece_eq_self_iff {text : List Char} : shownPiece text = text ↔ Literal text :=
  eq_self_iff_of_marks shownPiece_eq_self marks_shownPiece_lt

@[simp] theorem shownPiece_nil : shownPiece [] = [] := by
  rw [shownPiece, Text.replaceAll_nil, expandShortcodes_nil]

/-- A space at the start of a stretch stays. -/
theorem shownPiece_space (text : List Char) : shownPiece (' ' :: text) = ' ' :: shownPiece text := by
  have elsewhere : ∀ after, ' ' :: text ≠ '\\' :: ['['] ++ after := nofun
  rw [shownPiece, Text.replaceAll_cons elsewhere, expandShortcodes_cons (by decide)]
  rfl

/-- Backslashes at the end of a stretch stay. -/
theorem shownPiece_backslashes (text : List Char) (count : Nat) :
    shownPiece (text ++ List.replicate count '\\') = shownPiece text ++ List.replicate count '\\' := by
  have bracketless : '[' ∉ List.replicate count '\\' := by simp
  have colonless : ':' ∉ List.replicate count '\\' := by simp
  have unescaped : Text.replaceAll '\\' ['['] ['['] (text ++ List.replicate count '\\')
      = Text.replaceAll '\\' ['['] ['['] text ++ List.replicate count '\\' := by
    fun_induction Text.replaceAll '\\' ['['] ['['] text with
    | case1 =>
        refine Text.replaceAll_eq_self fun escaped => bracketless ?_
        exact escaped.subset (by simp)
    | case2 character rest after dropped inductionHypothesis =>
        rw [Text.dropWord?_eq_some_iff.mp dropped, List.append_assoc, Text.replaceAll_word,
          inductionHypothesis, List.append_assoc]
    | case3 character rest dropped inductionHypothesis =>
        rw [List.cons_append, Text.replaceAll_cons, inductionHypothesis, List.cons_append]
        intro after same
        cases rest with
        | nil =>
            have later := (List.cons.inj same).2
            rw [List.nil_append] at later
            exact bracketless (by simp [later])
        | cons next rest =>
            obtain ⟨rfl, later⟩ := List.cons.inj same
            obtain ⟨rfl, -⟩ := List.cons.inj later
            cases dropped
  rw [shownPiece, unescaped, expandShortcodes_append colonless]
  rfl

/-! ## Tags -/

/-- Whether a text can stand between the brackets of a tag. -/
def IsTagContent (content : List Char) : Prop :=
  content.head?.any opensTag = true ∧ '[' ∉ content ∧ ']' ∉ content

instance (content : List Char) : Decidable (IsTagContent content) :=
  inferInstanceAs (Decidable (_ ∧ _ ∧ _))

/-- A text from a tag on: backslashes, the tag in its brackets, and what follows. -/
def tagged (count : Nat) (content after : List Char) : List Char :=
  List.replicate count '\\' ++ '[' :: (content ++ ']' :: after)

theorem tagRest?_eq_some_iff {text content after : List Char} :
    tagRest? text = some (content, after)
      ↔ text = content ++ ']' :: after ∧ '[' ∉ content ∧ ']' ∉ content := by
  induction text generalizing content with
  | nil => simp [tagRest?]
  | cons character rest inductionHypothesis =>
      rw [tagRest?]
      by_cases closes : character = ']'
      · subst closes
        cases content <;> simp
        rintro rfl - - - other
        exact absurd rfl other
      · by_cases opens : character = '['
        · subst opens
          cases content <;> simp
          rintro rfl - other
          exact absurd rfl other
        · cases content with
          | nil => simp [closes, opens]
          | cons first content =>
              simp only [beq_eq_false_iff_ne.mpr closes, beq_eq_false_iff_ne.mpr opens,
                Bool.false_eq_true, if_false, Option.map_eq_some_iff, Prod.mk.injEq,
                List.cons.injEq, Prod.exists, List.cons_append, List.mem_cons, not_or]
              constructor
              · rintro ⟨inner, later, found, ⟨rfl, rfl⟩, rfl⟩
                obtain ⟨parts, noOpening, noClosing⟩ := inductionHypothesis.mp found
                exact ⟨⟨rfl, parts⟩, ⟨Ne.symm opens, noOpening⟩, Ne.symm closes, noClosing⟩
              · rintro ⟨⟨rfl, parts⟩, ⟨-, noOpening⟩, -, noClosing⟩
                exact ⟨content, after, inductionHypothesis.mpr ⟨parts, noOpening, noClosing⟩,
                  ⟨rfl, rfl⟩, rfl⟩

theorem tag?_eq_some_iff {text content after : List Char} :
    tag? text = some (content, after) ↔ text = tagged 0 content after ∧ IsTagContent content := by
  unfold tag? tagged IsTagContent
  split
  · rename_i first rest
    split
    · rename_i opens
      simp only [Option.map_eq_some_iff, Prod.mk.injEq, Prod.exists, tagRest?_eq_some_iff,
        List.replicate_zero, List.nil_append, List.cons.injEq, true_and]
      constructor
      · rintro ⟨inner, later, ⟨parts, noOpening, noClosing⟩, rfl, rfl⟩
        have notOpening : '[' ≠ first := by
          rintro rfl
          revert opens
          decide
        have notClosing : ']' ≠ first := by
          rintro rfl
          revert opens
          decide
        simp [parts, opens, notOpening, notClosing, noOpening, noClosing]
      · rintro ⟨parts, opens, noOpening, noClosing⟩
        cases content with
        | nil => simp at opens
        | cons first content =>
            rw [List.mem_cons, not_or] at noOpening noClosing
            obtain ⟨rfl, rfl⟩ := List.cons.inj parts
            exact ⟨content, after, ⟨rfl, noOpening.2, noClosing.2⟩, rfl, rfl⟩
    · rename_i opens
      simp only [reduceCtorEq, List.replicate_zero, List.nil_append, List.cons.injEq, true_and,
        false_iff]
      rintro ⟨parts, starts, -⟩
      cases content with
      | nil => simp at starts
      | cons other content =>
          obtain ⟨rfl, -⟩ := List.cons.inj parts
          simp [opens] at starts
  · rename_i other
    simp only [reduceCtorEq, List.replicate_zero, List.nil_append, false_iff]
    rintro ⟨parts, starts, -⟩
    cases content with
    | nil => simp at starts
    | cons first content => exact other first _ parts

/-- The tag that a text starts with, after backslashes. -/
theorem escapedTag?_eq_some_iff {text content after : List Char} {count : Nat} :
    escapedTag? text = some (count, content, after)
      ↔ text = tagged count content after ∧ IsTagContent content := by
  induction text generalizing count with
  | nil => simp [escapedTag?, tagged]
  | cons character rest inductionHypothesis =>
      unfold escapedTag?
      by_cases backslash : character = '\\'
      · subst backslash
        simp only [beq_self_eq_true, if_true, Option.map_eq_some_iff, Prod.mk.injEq, Prod.exists]
        constructor
        · rintro ⟨number, inner, later, found, rfl, rfl, rfl⟩
          obtain ⟨parts, isContent⟩ := inductionHypothesis.mp found
          exact ⟨congrArg ('\\' :: ·) parts, isContent⟩
        · rintro ⟨parts, isContent⟩
          cases count with
          | zero => simp [tagged] at parts
          | succ number =>
              have same : rest = tagged number content after := (List.cons.inj parts).2
              exact ⟨number, content, after, inductionHypothesis.mpr ⟨same, isContent⟩, rfl, rfl, rfl⟩
      · simp only [beq_eq_false_iff_ne.mpr backslash, Bool.false_eq_true, if_false,
          Option.map_eq_some_iff, Prod.mk.injEq, Prod.exists, tag?_eq_some_iff]
        constructor
        · rintro ⟨inner, later, ⟨parts, isContent⟩, rfl, rfl, rfl⟩
          exact ⟨parts, isContent⟩
        · rintro ⟨parts, isContent⟩
          cases count with
          | zero => exact ⟨content, after, ⟨parts, isContent⟩, rfl, rfl, rfl⟩
          | succ number => exact absurd (List.cons.inj parts).1 backslash

/-! ## Reading on -/

/-- Whether a text that follows another one cannot complete a tag of that one. -/
def Apart (text : List Char) : Prop := tagRest? text = none ∧ text.head?.all (!opensTag ·) = true

theorem tagRest?_append {back : List Char} (unclosed : tagRest? back = none) (front : List Char) :
    tagRest? (front ++ back) = (tagRest? front).map fun found => (found.1, found.2 ++ back) := by
  induction front with
  | nil => exact unclosed
  | cons character front inductionHypothesis =>
      rw [List.cons_append, tagRest?, tagRest?, inductionHypothesis]
      split
      · rfl
      · split
        · rfl
        · simp [Function.comp_def]

theorem tag?_of_ne {character : Char} (other : character ≠ '[') (text : List Char) :
    tag? (character :: text) = none := by
  unfold tag?
  split
  · rename_i same
    exact absurd (List.cons.inj same).1 other
  · rfl

/-- No tag starts with a bracket that something else than the start of a tag follows. -/
theorem tag?_of_head {text : List Char} (closed : text.head?.all (!opensTag ·) = true) :
    tag? ('[' :: text) = none := by
  cases text with
  | nil => rfl
  | cons first rest =>
      have closedFirst : opensTag first = false := by simpa using closed
      rw [tag?, closedFirst]
      rfl

theorem tag?_append {back front : List Char} (apart : Apart back) (nonempty : front ≠ []) :
    tag? (front ++ back) = (tag? front).map fun found => (found.1, found.2 ++ back) := by
  cases front with
  | nil => exact absurd rfl nonempty
  | cons character front =>
      rw [List.cons_append]
      by_cases opens : character = '['
      · subst opens
        cases front with
        | nil => exact tag?_of_head apart.2
        | cons first rest =>
            rw [List.cons_append, tag?, tag?, tagRest?_append apart.1]
            split
            · simp [Function.comp_def]
            · rfl
      · rw [tag?_of_ne opens, tag?_of_ne opens]
        rfl

/-- A text whose last character is not a backslash is read on its own. -/
theorem escapedTag?_append {back front : List Char} (apart : Apart back)
    (unfinished : ∃ character ∈ front, character ≠ '\\') :
    escapedTag? (front ++ back)
      = (escapedTag? front).map fun found => (found.1, found.2.1, found.2.2 ++ back) := by
  induction front with
  | nil => simp at unfinished
  | cons character front inductionHypothesis =>
      rw [List.cons_append, escapedTag?, escapedTag?]
      split
      · rename_i backslash
        obtain ⟨other, present, different⟩ := unfinished
        rcases List.mem_cons.mp present with rfl | later
        · exact absurd (eq_of_beq backslash) different
        · rw [inductionHypothesis ⟨other, later, different⟩]
          simp [Function.comp_def]
      · rw [← List.cons_append, tag?_append apart (List.cons_ne_nil _ _)]
        simp [Function.comp_def]

/-! ## Fragments -/

/-- The stretch that is put together so far, unless it is empty. -/
def flushed (pending : List Char) : List (List Char) :=
  if pending.isEmpty then [] else [pending.reverse]

/-- Backslashes as a stretch, unless there are none. -/
def backslashes (count : Nat) : List (List Char) :=
  if count == 0 then [] else [List.replicate count '\\']

/-- The stretches that a text falls into at its tags: what stands before a tag, the backslashes
before the tag, and the tag itself. -/
def fragmentsFrom (pending text : List Char) : List (List Char) :=
  match text with
  | [] => flushed pending
  | character :: rest =>
      match _ : escapedTag? (character :: rest) with
      | some (count, content, after) =>
          flushed pending ++ backslashes count ++ ('[' :: (content ++ [']'])) :: fragmentsFrom [] after
      | none => fragmentsFrom (character :: pending) rest
termination_by text.length
decreasing_by
  · exact length_lt_of_escapedTag? ‹escapedTag? _ = some _›
  · simp

/-- The stretches of a text. -/
def fragments (text : List Char) : List (List Char) := fragmentsFrom [] text

section Steps

variable {character : Char} {pending text rest content after : List Char} {count : Nat}

theorem fragmentsFrom_nil : fragmentsFrom pending [] = flushed pending := by
  rw [fragmentsFrom]

theorem fragmentsFrom_tag (found : escapedTag? text = some (count, content, after)) :
    fragmentsFrom pending text
      = flushed pending ++ backslashes count
          ++ ('[' :: (content ++ [']'])) :: fragmentsFrom [] after := by
  cases text with
  | nil => cases found
  | cons character rest =>
      rw [fragmentsFrom]
      split
      · rename_i same
        rw [found] at same
        cases same
        rfl
      · rename_i same
        rw [found] at same
        cases same

theorem fragmentsFrom_cons (missing : escapedTag? (character :: rest) = none) :
    fragmentsFrom pending (character :: rest) = fragmentsFrom (character :: pending) rest := by
  rw [fragmentsFrom]
  split
  · rename_i same
    rw [missing] at same
    cases same
  · rfl

theorem piecesFrom_nil : piecesFrom pending [] = (flushed pending).map .plain := by
  rw [piecesFrom, flushed]
  split <;> rfl

theorem piecesFrom_tag (found : escapedTag? text = some (count, content, after)) :
    piecesFrom pending text
      = (flushed pending).map .plain ++ escapedPieces count content ++ piecesFrom [] after := by
  cases text with
  | nil => cases found
  | cons character rest =>
      rw [piecesFrom, flushed]
      split
      · rename_i same
        rw [found] at same
        cases same
        split <;> rfl
      · rename_i same
        rw [found] at same
        cases same

theorem piecesFrom_cons (missing : escapedTag? (character :: rest) = none) :
    piecesFrom pending (character :: rest) = piecesFrom (character :: pending) rest := by
  rw [piecesFrom]
  split
  · rename_i same
    rw [missing] at same
    cases same
  · rfl

@[simp] theorem escapeTags_nil : escapeTags [] = [] := by
  rw [escapeTags]

theorem escapeTags_tag (found : escapedTag? text = some (count, content, after)) :
    escapeTags text = tagged (2 * count + 1) content (escapeTags after) := by
  cases text with
  | nil => cases found
  | cons character rest =>
      rw [escapeTags]
      split
      · rename_i same
        rw [found] at same
        cases same
        rfl
      · rename_i same
        rw [found] at same
        cases same

theorem escapeTags_cons (missing : escapedTag? (character :: rest) = none) :
    escapeTags (character :: rest) = character :: escapeTags rest := by
  rw [escapeTags]
  split
  · rename_i same
    rw [missing] at same
    cases same
  · rfl

end Steps

/-- The stretches of a text make up the text. -/
theorem flatten_fragmentsFrom (pending text : List Char) :
    (fragmentsFrom pending text).flatten = pending.reverse ++ text := by
  have flattenFlushed : ∀ pending : List Char, (flushed pending).flatten = pending.reverse := by
    intro pending
    cases pending <;> simp [flushed]
  fun_induction fragmentsFrom pending text with
  | case1 pending => rw [flattenFlushed, List.append_nil]
  | case2 pending character rest count content after found inductionHypothesis =>
      rw [(escapedTag?_eq_some_iff.mp found).1]
      cases count <;> simp [flattenFlushed, backslashes, tagged, inductionHypothesis]
  | case3 pending character rest missing inductionHypothesis =>
      rw [inductionHypothesis, List.reverse_cons, List.append_assoc, List.singleton_append]

/-- What stretches show, taken together. -/
def shownFragments (stretches : List (List Char)) : List Char := stretches.flatMap shownPiece

theorem shownFragments_append (front back : List (List Char)) :
    shownFragments (front ++ back) = shownFragments front ++ shownFragments back :=
  List.flatMap_append

theorem shownFragments_cons (stretch : List Char) (rest : List (List Char)) :
    shownFragments (stretch :: rest) = shownPiece stretch ++ shownFragments rest := rfl

theorem shownFragments_flushed (pending : List Char) :
    shownFragments (flushed pending) = shownPiece pending.reverse := by
  cases pending <;> simp [flushed, shownFragments]

theorem marks_shownFragments_le (stretches : List (List Char)) :
    marks (shownFragments stretches) ≤ marks stretches.flatten := by
  induction stretches with
  | nil => exact Nat.le_refl _
  | cons stretch rest inductionHypothesis =>
      rw [shownFragments_cons, List.flatten_cons, marks_append, marks_append]
      exact Nat.add_le_add (marks_shownPiece_le stretch) inductionHypothesis

theorem shownFragments_eq_flatten {stretches : List (List Char)}
    (literal : ∀ stretch ∈ stretches, Literal stretch) :
    shownFragments stretches = stretches.flatten := by
  induction stretches with
  | nil => rfl
  | cons stretch rest inductionHypothesis =>
      rw [List.forall_mem_cons] at literal
      rw [shownFragments_cons, List.flatten_cons, shownPiece_eq_self literal.1,
        inductionHypothesis literal.2]

/-- Stretches lose marks if one of them does not show as it is. -/
theorem marks_shownFragments_lt {stretches : List (List Char)}
    (changed : ¬ ∀ stretch ∈ stretches, Literal stretch) :
    marks (shownFragments stretches) < marks stretches.flatten := by
  induction stretches with
  | nil => exact absurd (List.forall_mem_nil _) changed
  | cons stretch rest inductionHypothesis =>
      rw [List.forall_mem_cons, Classical.not_and_iff_not_or_not] at changed
      rw [shownFragments_cons, List.flatten_cons, marks_append, marks_append]
      have here := marks_shownPiece_le stretch
      have there := marks_shownFragments_le rest
      rcases changed with first | later
      · have fewer := marks_shownPiece_lt first
        omega
      · have fewer := inductionHypothesis later
        omega

/-- Stretches are shown one after another. -/
theorem textOfPieces_map_plain [Dialect] (openStyles : List OpenStyle)
    (stretches : List (List Char))
    (more : List Piece) :
    textOfPieces openStyles (stretches.map .plain ++ more)
      = (textOfPieces openStyles more).map (shownFragments stretches ++ ·) := by
  induction stretches with
  | nil =>
      rw [List.map_nil, List.nil_append]
      cases textOfPieces openStyles more <;> rfl
  | cons stretch rest inductionHypothesis =>
      rw [List.map_cons, List.cons_append, textOfPieces, inductionHypothesis]
      cases textOfPieces openStyles more with
      | error failure => rfl
      | ok text => simp [Except.map, shownFragments_cons]

/-- What the stretches of a text show. -/
def shownText (text : List Char) : List Char := shownFragments (fragments text)

/-- Whether the stretches of a text show as they are. -/
def Verbatim (text : List Char) : Prop := ∀ stretch ∈ fragments text, Literal stretch

instance (text : List Char) : Decidable (Verbatim text) :=
  inferInstanceAs (Decidable (∀ stretch ∈ fragments text, Literal stretch))

theorem flatten_fragments (text : List Char) : (fragments text).flatten = text :=
  flatten_fragmentsFrom [] text

theorem shownText_eq_self {text : List Char} (verbatim : Verbatim text) : shownText text = text :=
  (shownFragments_eq_flatten verbatim).trans (flatten_fragments text)

theorem marks_shownText_le (text : List Char) : marks (shownText text) ≤ marks text := by
  have fewer := marks_shownFragments_le (fragments text)
  rwa [flatten_fragments] at fewer

theorem marks_shownText_lt {text : List Char} (changed : ¬ Verbatim text) :
    marks (shownText text) < marks text := by
  have fewer := marks_shownFragments_lt changed
  rwa [flatten_fragments] at fewer

/-- **The stretches of a text show as they are exactly when they show the text.** -/
theorem shownText_eq_self_iff {text : List Char} : shownText text = text ↔ Verbatim text :=
  eq_self_iff_of_marks shownText_eq_self marks_shownText_lt

/-- A space in front of a text does not change what the text shows. -/
theorem shownFragments_space (pending text : List Char) :
    shownFragments (fragmentsFrom (pending ++ [' ']) text)
      = ' ' :: shownFragments (fragmentsFrom pending text) := by
  have flushedSpace : ∀ pending : List Char,
      shownFragments (flushed (pending ++ [' '])) = ' ' :: shownFragments (flushed pending) := by
    intro pending
    rw [shownFragments_flushed, shownFragments_flushed, List.reverse_append]
    exact shownPiece_space _
  fun_induction fragmentsFrom pending text with
  | case1 pending => rw [fragmentsFrom_nil, flushedSpace]
  | case2 pending character rest count content after found inductionHypothesis =>
      rw [fragmentsFrom_tag found]
      simp only [shownFragments_append, flushedSpace, List.cons_append]
  | case3 pending character rest missing inductionHypothesis =>
      rw [fragmentsFrom_cons missing]
      exact inductionHypothesis

/-! ## Texts that are read as they are -/

/-- The characters of a text that do not control the terminal. -/
def uncontrolled (text : List Char) : List Char := text.filter (!isControl ·)

/-- Whether no tag occurs in a text. -/
def Untagged (text : List Char) : Prop :=
  ∀ content, IsTagContent content → ¬ '[' :: (content ++ [']']) <:+: text

/-- No tag starts at the start of a text without tags. -/
theorem Untagged.escapedTag? {text : List Char} (untagged : Untagged text) :
    escapedTag? text = none := by
  cases found : Terminal.escapedTag? text with
  | none => rfl
  | some result =>
      obtain ⟨count, content, after⟩ := result
      obtain ⟨parts, isContent⟩ := escapedTag?_eq_some_iff.mp found
      refine absurd ⟨List.replicate count '\\', after, ?_⟩ (untagged content isContent)
      rw [parts, tagged]
      simp

theorem Untagged.tail {character : Char} {rest : List Char} (untagged : Untagged (character :: rest)) :
    Untagged rest := fun content isContent occurs =>
  untagged content isContent (List.infix_cons_iff.mpr (.inr occurs))

/-- A text at whose start no tag starts has a tag only if what follows has one. -/
theorem untagged_cons {character : Char} {rest : List Char}
    (missing : escapedTag? (character :: rest) = none) (untagged : Untagged rest) :
    Untagged (character :: rest) := by
  intro content isContent occurs
  rcases List.infix_cons_iff.mp occurs with ⟨after, starts⟩ | later
  · have found : escapedTag? (character :: rest) = some (0, content, after) :=
      escapedTag?_eq_some_iff.mpr ⟨by simp [← starts, tagged], isContent⟩
    rw [missing] at found
    cases found
  · exact untagged content isContent later

/-- No tag occurs in a text when none starts anywhere in it. -/
theorem untagged_iff {text : List Char} :
    Untagged text ↔ ∀ rest ∈ text.tails, Terminal.escapedTag? rest = none := by
  induction text with
  | nil =>
      have empty : Untagged [] := fun content _ occurs => by cases List.infix_nil.mp occurs
      simpa [empty] using empty.escapedTag?
  | cons character rest inductionHypothesis =>
      rw [List.tails_cons, List.forall_mem_cons, ← inductionHypothesis]
      exact ⟨fun untagged => ⟨untagged.escapedTag?, untagged.tail⟩, fun both =>
        untagged_cons both.1 both.2⟩

instance (text : List Char) : Decidable (Untagged text) := decidable_of_iff' _ untagged_iff

/-- A text without tags is one piece. -/
theorem piecesFrom_untagged {text : List Char} (untagged : Untagged text) (pending : List Char) :
    piecesFrom pending text = (flushed (text.reverse ++ pending)).map .plain := by
  induction text generalizing pending with
  | nil => exact piecesFrom_nil
  | cons character rest inductionHypothesis =>
      rw [piecesFrom_cons untagged.escapedTag?, inductionHypothesis untagged.tail, List.reverse_cons,
        List.append_assoc, List.singleton_append]

theorem textOfPieces_untagged [Dialect] {text : List Char} (untagged : Untagged text) :
    textOfPieces [] (pieces text) = .ok (shownPiece text) := by
  have whole := textOfPieces_map_plain [] (flushed (text.reverse ++ [])) []
  rw [List.append_nil, shownFragments_flushed, List.append_nil, List.reverse_reverse] at whole
  rw [pieces, piecesFrom_untagged untagged, List.append_nil, whole]
  exact congrArg Except.ok (List.append_nil _)

/-- The text in pieces that are not tags. -/
def plainText (found : List Piece) : List Char :=
  found.flatMap fun
    | .plain text => text
    | .tag _ => []

theorem plainText_append (front back : List Piece) :
    plainText (front ++ back) = plainText front ++ plainText back :=
  List.flatMap_append

theorem plainText_flushed (pending : List Char) :
    plainText ((flushed pending).map .plain) = pending.reverse := by
  cases pending <;> simp [flushed, plainText]

/-- Pieces show no more marks than the text in them has. -/
theorem marks_textOfPieces_le [Dialect] {openStyles : List OpenStyle} {found : List Piece}
    {shown : List Char}
    (reads : textOfPieces openStyles found = .ok shown) : marks shown ≤ marks (plainText found) := by
  induction found generalizing openStyles shown with
  | nil =>
      cases reads
      exact Nat.le_refl _
  | cons piece rest inductionHypothesis =>
      cases piece with
      | plain text =>
          rw [textOfPieces] at reads
          obtain ⟨others, later, made⟩ := Outcome.exists_of_bind reads
          cases made
          change marks (shownPiece text ++ others) ≤ marks (text ++ plainText rest)
          rw [marks_append, marks_append]
          exact Nat.add_le_add (marks_shownPiece_le text) (inductionHypothesis later)
      | tag content =>
          rw [textOfPieces] at reads
          obtain ⟨styles, -, later⟩ := Outcome.exists_of_bind reads
          exact inductionHypothesis later

theorem plainText_escapedPieces (count : Nat) (content : List Char) :
    plainText (escapedPieces count content)
      = List.replicate (count / 2) '\\' ++ if count % 2 = 1 then '[' :: (content ++ [']']) else [] := by
  rw [escapedPieces, plainText_append]
  congr 1
  · split
    · rename_i alone
      rw [eq_of_beq alone]
      rfl
    · exact List.append_nil _
  · by_cases odd : count % 2 = 1
    · rw [if_pos odd, if_pos (by simpa using odd)]
      exact List.append_nil _
    · rw [if_neg odd, if_neg (by simpa using odd)]
      rfl

/-- Something of a tag and the backslashes before it is lost. -/
theorem marks_escapedPieces_lt (count : Nat) (content after : List Char) :
    marks (plainText (escapedPieces count content)) + marks after
      < marks (tagged count content after) := by
  have closing : ∀ text, marks (']' :: text) = marks text := fun text => by simp [marks_cons, isMark]
  rw [plainText_escapedPieces, tagged]
  split
  all_goals
    simp only [marks_append, marks_backslashes, marks_bracket, closing, marks_nil]
    omega

theorem marks_piecesFrom_le (pending text : List Char) :
    marks (plainText (piecesFrom pending text)) ≤ marks pending.reverse + marks text := by
  fun_induction fragmentsFrom pending text with
  | case1 pending =>
      rw [piecesFrom_nil, plainText_flushed]
      exact Nat.le_add_right _ _
  | case2 pending character rest count content after found inductionHypothesis =>
      have lost := marks_escapedPieces_lt count content after
      rw [← (escapedTag?_eq_some_iff.mp found).1] at lost
      rw [piecesFrom_tag found]
      simp only [plainText_append, plainText_flushed, marks_append, List.reverse_nil, marks_nil]
        at inductionHypothesis ⊢
      omega
  | case3 pending character rest missing inductionHypothesis =>
      rw [piecesFrom_cons missing]
      simp only [List.reverse_cons, marks_append, marks_cons, marks_nil] at inductionHypothesis ⊢
      omega

/-- A text with a tag loses marks when it is read. -/
theorem marks_piecesFrom_lt {pending text : List Char} (tagged : ¬ Untagged text) :
    marks (plainText (piecesFrom pending text)) < marks pending.reverse + marks text := by
  fun_induction fragmentsFrom pending text with
  | case1 pending => exact absurd (fun content _ occurs => by cases List.infix_nil.mp occurs) tagged
  | case2 pending character rest count content after found inductionHypothesis =>
      have lost := marks_escapedPieces_lt count content after
      have others := marks_piecesFrom_le [] after
      rw [← (escapedTag?_eq_some_iff.mp found).1] at lost
      rw [piecesFrom_tag found]
      simp only [plainText_append, plainText_flushed, marks_append, List.reverse_nil, marks_nil]
        at others ⊢
      omega
  | case3 pending character rest missing inductionHypothesis =>
      have fewer := inductionHypothesis (mt (untagged_cons missing) tagged)
      rw [piecesFrom_cons missing]
      simp only [List.reverse_cons, marks_append, marks_cons, marks_nil] at fewer ⊢
      omega

theorem marks_uncontrolled_le (text : List Char) : marks (uncontrolled text) ≤ marks text :=
  (List.filter_sublist).countP_le

/-- What a marked text shows before characters that control the terminal are dropped. -/
theorem exists_of_markedText [Dialect] {text shown : List Char}
    (reads : markedText text = .ok shown) :
    ∃ whole, textOfPieces [] (pieces text) = .ok whole ∧ uncontrolled whole = shown := by
  rw [markedText] at reads
  obtain ⟨whole, read, made⟩ := Outcome.exists_of_bind reads
  exact ⟨whole, read, Except.ok.inj made⟩

/-- Whether a text that is not escaped shows as it is: no tag occurs in it, and it is literal. -/
structure Unmarked (text : List Char) : Prop where
  untagged : Untagged text
  literal : Literal text

instance (text : List Char) : Decidable (Unmarked text) :=
  decidable_of_iff (Untagged text ∧ Literal text)
    ⟨fun both => ⟨both.1, both.2⟩, fun unmarked => ⟨unmarked.untagged, unmarked.literal⟩⟩

theorem markedText_of_unmarked [Dialect] {text : List Char} (unmarked : Unmarked text) :
    markedText text = .ok (uncontrolled text) := by
  rw [markedText, textOfPieces_untagged unmarked.untagged, shownPiece_eq_self unmarked.literal]
  rfl

/-- Reading a marked text does not add marks. -/
theorem marks_markedText_le [Dialect] {text shown : List Char} (reads : markedText text = .ok shown)
    :
    marks shown ≤ marks text := by
  obtain ⟨whole, read, rfl⟩ := exists_of_markedText reads
  have kept := marks_uncontrolled_le whole
  have bound := marks_textOfPieces_le read
  have all := marks_piecesFrom_le [] text
  rw [List.reverse_nil, marks_nil, ← pieces] at all
  omega

/-- A text that does not show as it is loses marks. -/
theorem marks_markedText_lt [Dialect] {text shown : List Char} (changed : ¬ Unmarked text)
    (reads : markedText text = .ok shown) : marks shown < marks text := by
  obtain ⟨whole, read, rfl⟩ := exists_of_markedText reads
  have kept := marks_uncontrolled_le whole
  by_cases untagged : Untagged text
  · have fewer := marks_shownPiece_lt fun literal => changed ⟨untagged, literal⟩
    rw [textOfPieces_untagged untagged] at read
    rw [← Except.ok.inj read] at kept
    rw [← Except.ok.inj read]
    omega
  · have bound := marks_textOfPieces_le read
    have fewer := @marks_piecesFrom_lt [] text untagged
    rw [List.reverse_nil, marks_nil, ← pieces] at fewer
    omega

/-- **A text without control characters that is not escaped shows as it is exactly when no tag
occurs in it and it is literal.** -/
theorem markedText_eq_self_iff [Dialect] {text : List Char} (visible : uncontrolled text = text) :
    markedText text = .ok text ↔ Unmarked text := by
  refine ⟨fun same => ?_, fun unmarked => ?_⟩
  · by_contra changed
    exact Nat.lt_irrefl _ (marks_markedText_lt changed same)
  · rw [markedText_of_unmarked unmarked, visible]

end Routebook.Terminal

import Routebook.Terminal.Shortcode
import Mathlib.Data.List.Basic

/-!
# Names between colons

A terminal replaces the name of a picture between colons by the picture.  A text stays as it is
exactly when none of the names that are met from left to right is that of a picture
(`Terminal.expandShortcodes_eq_self_iff`).

Marks are the characters that markup and names of pictures are made of.  Their number measures what
a terminal changes: pictures have none, so a text in which a name is replaced loses marks
(`Terminal.marks_expandShortcodes_lt`).
-/

namespace Routebook.Terminal

set_option autoImplicit false

/-! ## Marks -/

/-- Whether a character can take part in markup. -/
def isMark (character : Char) : Bool := character == ':' || character == '\\' || character == '['

/-- The number of marks in a text. -/
def marks (text : List Char) : Nat := text.countP isMark

@[simp] theorem marks_nil : marks [] = 0 := rfl

@[simp] theorem marks_append (front back : List Char) :
    marks (front ++ back) = marks front + marks back :=
  List.countP_append

theorem marks_cons (character : Char) (rest : List Char) :
    marks (character :: rest) = marks rest + if isMark character then 1 else 0 :=
  List.countP_cons

@[simp] theorem marks_colon (rest : List Char) : marks (':' :: rest) = marks rest + 1 := by
  simp [marks_cons, isMark]

@[simp] theorem marks_backslash (rest : List Char) : marks ('\\' :: rest) = marks rest + 1 := by
  simp [marks_cons, isMark]

@[simp] theorem marks_bracket (rest : List Char) : marks ('[' :: rest) = marks rest + 1 := by
  simp [marks_cons, isMark]

@[simp] theorem marks_backslashes (count : Nat) : marks (List.replicate count '\\') = count := by
  simp [marks, List.countP_replicate, isMark]

/-- A text without one of its characters has no more marks. -/
theorem marks_le_cons (character : Char) (rest : List Char) :
    marks rest ≤ marks (character :: rest) := by
  rw [marks_cons]
  exact Nat.le_add_right _ _

/-- What loses marks unless a condition holds, and is the text if it does, is the text exactly when
the condition holds. -/
theorem eq_self_iff_of_marks {condition : Prop} {shown text : List Char}
    (kept : condition → shown = text) (lost : ¬condition → marks shown < marks text) :
    shown = text ↔ condition := by
  refine ⟨fun same => ?_, kept⟩
  by_contra changed
  have fewer := lost changed
  rw [same] at fewer
  exact Nat.lt_irrefl _ fewer

/-! ## Characters of pictures -/

/-- Whether a character can be part of a picture. -/
def isPictorial (character : Char) : Bool :=
  '\\' < character || ('!' < character && character < ':')

theorem isMark_eq_false_of_isPictorial {character : Char} (pictorial : isPictorial character = true) :
    isMark character = false := by
  simp only [isPictorial, isMark, Bool.or_eq_true, Bool.and_eq_true, decide_eq_true_eq] at pictorial ⊢
  have differs : character ≠ ':' ∧ character ≠ '\\' ∧ character ≠ '[' := by
    refine ⟨?_, ?_, ?_⟩
    all_goals
      rintro rfl
      revert pictorial
      decide
  simp [differs]

/-- The pictures that are known consist of such characters. -/
theorem pictures_pictorial :
    pictures.all (fun entry => entry.2.all isPictorial) = true := by
  decide +kernel

/-- So do the pictures that are shown for names. -/
theorem isPictorial_of_mem_picture {name picture : List Char} (found : picture? name = some picture)
    {character : Char} (present : character ∈ picture) : isPictorial character = true := by
  obtain ⟨entry, entryFound, rfl⟩ := Option.map_eq_some_iff.mp found
  have pictorial := List.all_eq_true.mp pictures_pictorial entry (List.mem_of_find?_eq_some entryFound)
  exact List.all_eq_true.mp pictorial character present

theorem isPictorial_of_mem_form {name : List Char} {character : Char}
    (present : character ∈ (separateForm name).2) : isPictorial character = true := by
  unfold separateForm at present
  dsimp only at present
  split at present
  · rw [List.mem_singleton.mp present]
    decide
  · split at present
    · rw [List.mem_singleton.mp present]
      decide
    · cases present

/-! ## One name -/

/-- A name between colons is what precedes the next colon, without white space. -/
theorem shortcode?_eq_some_iff {text name after : List Char} :
    shortcode? text = some (name, after)
      ↔ text = name ++ ':' :: after ∧ ':' ∉ name ∧
        ∀ character ∈ name, Text.isBlank character = false := by
  induction text generalizing name with
  | nil => simp [shortcode?]
  | cons character rest inductionHypothesis =>
      unfold shortcode?
      by_cases colon : character = ':'
      · subst colon
        cases name with
        | nil => simp
        | cons first name =>
            simp only [beq_self_eq_true, if_true, Option.some.injEq, Prod.mk.injEq, reduceCtorEq,
              false_and, List.cons_append, List.cons.injEq, List.mem_cons, not_or, false_iff]
            rintro ⟨⟨same, -⟩, ⟨other, -⟩, -⟩
            exact other same
      · have notBlank : Text.isBlank ':' = false := by decide
        cases name with
        | nil =>
            cases blank : Text.isBlank character <;> simp [colon]
        | cons first name =>
            cases blank : Text.isBlank character with
            | true =>
                simp only [beq_eq_false_iff_ne.mpr colon, if_true, Bool.false_eq_true, if_false,
                  reduceCtorEq, List.cons_append, List.cons.injEq, List.mem_cons, forall_eq_or_imp,
                  false_iff]
                rintro ⟨⟨rfl, -⟩, -, notBlank, -⟩
                rw [blank] at notBlank
                cases notBlank
            | false =>
                simp only [beq_eq_false_iff_ne.mpr colon, Bool.false_eq_true, if_false,
                  Option.map_eq_some_iff, Prod.mk.injEq, List.cons.injEq, Prod.exists,
                  List.cons_append, List.mem_cons, not_or, forall_eq_or_imp]
                constructor
                · rintro ⟨inner, later, found, ⟨rfl, rfl⟩, rfl⟩
                  obtain ⟨parts, noColon, noBlank⟩ := inductionHypothesis.mp found
                  exact ⟨⟨rfl, parts⟩, ⟨Ne.symm colon, noColon⟩, blank, noBlank⟩
                · rintro ⟨⟨rfl, parts⟩, ⟨-, noColon⟩, -, noBlank⟩
                  exact ⟨name, after, inductionHypothesis.mpr ⟨parts, noColon, noBlank⟩,
                    ⟨rfl, rfl⟩, rfl⟩

/-- A name is shown with its colons exactly when it is not that of a picture. -/
theorem showShortcode_eq_iff (name : List Char) :
    showShortcode name = ':' :: (name ++ [':']) ↔ picture? (separateForm name).1 = none := by
  unfold showShortcode
  dsimp only
  cases found : picture? (separateForm name).1 with
  | none => simp
  | some picture =>
      simp only [reduceCtorEq, iff_false]
      intro same
      have colon : ':' ∈ picture ++ (separateForm name).2 := by simp [same]
      have pictorial : isPictorial ':' = true := by
        rcases List.mem_append.mp colon with inPicture | inForm
        · exact isPictorial_of_mem_picture found inPicture
        · exact isPictorial_of_mem_form inForm
      revert pictorial
      decide

/-- A picture has no marks. -/
theorem marks_showShortcode_eq_zero {name : List Char}
    (known : picture? (separateForm name).1 ≠ none) : marks (showShortcode name) = 0 := by
  obtain ⟨picture, found⟩ := Option.ne_none_iff_exists'.mp known
  unfold showShortcode
  simp only [found]
  refine List.countP_eq_zero.mpr fun character present => ?_
  rw [Bool.not_eq_true]
  apply isMark_eq_false_of_isPictorial
  rcases List.mem_append.mp present with inPicture | inForm
  · exact isPictorial_of_mem_picture found inPicture
  · exact isPictorial_of_mem_form inForm

/-- A name between its colons does not gain marks. -/
theorem marks_showShortcode_le (name : List Char) :
    marks (showShortcode name) ≤ marks (':' :: (name ++ [':'])) := by
  by_cases unknown : picture? (separateForm name).1 = none
  · exact Nat.le_of_eq (congrArg marks ((showShortcode_eq_iff name).mpr unknown))
  · rw [marks_showShortcode_eq_zero unknown]
    exact Nat.zero_le _

/-! ## All names -/

/-- The names between colons that are met in a text from left to right. -/
def metNames (text : List Char) : List (List Char) :=
  match text with
  | [] => []
  | character :: rest =>
      if character == ':' then
        match _ : shortcode? rest with
        | some (name, after) => name :: metNames after
        | none => metNames rest
      else metNames rest
termination_by text.length
decreasing_by
  · have shorter := length_lt_of_shortcode? ‹shortcode? _ = some _›
    simp only [List.length_cons]
    omega
  · simp
  · simp

/-- Whether none of the names that are met is that of a picture. -/
def Pictureless (text : List Char) : Prop :=
  ∀ name ∈ metNames text, picture? (separateForm name).1 = none

instance (text : List Char) : Decidable (Pictureless text) :=
  inferInstanceAs (Decidable (∀ name ∈ metNames text, picture? (separateForm name).1 = none))

section Steps

variable {character : Char} {rest name after : List Char}

theorem expandShortcodes_name (found : shortcode? rest = some (name, after)) :
    expandShortcodes (':' :: rest) = showShortcode name ++ expandShortcodes after := by
  rw [expandShortcodes, if_pos (by rfl)]
  split
  · rename_i same
    rw [found] at same
    obtain ⟨rfl, rfl⟩ := Prod.mk.inj (Option.some.inj same)
    rfl
  · rename_i same
    rw [found] at same
    cases same

theorem expandShortcodes_colon (missing : shortcode? rest = none) :
    expandShortcodes (':' :: rest) = ':' :: expandShortcodes rest := by
  rw [expandShortcodes, if_pos (by rfl)]
  split
  · rename_i same
    rw [missing] at same
    cases same
  · rfl

@[simp] theorem expandShortcodes_nil : expandShortcodes [] = [] := by
  rw [expandShortcodes]

theorem expandShortcodes_cons (other : character ≠ ':') :
    expandShortcodes (character :: rest) = character :: expandShortcodes rest := by
  rw [expandShortcodes, if_neg (by simpa using other)]

theorem pictureless_nil : Pictureless [] := by
  rw [Pictureless, metNames]
  nofun

theorem pictureless_name (found : shortcode? rest = some (name, after)) :
    Pictureless (':' :: rest) ↔ picture? (separateForm name).1 = none ∧ Pictureless after := by
  have names : metNames (':' :: rest) = name :: metNames after := by
    rw [metNames, if_pos (by rfl)]
    split
    · rename_i same
      rw [found] at same
      obtain ⟨rfl, rfl⟩ := Prod.mk.inj (Option.some.inj same)
      rfl
    · rename_i same
      rw [found] at same
      cases same
  rw [Pictureless, names, List.forall_mem_cons]
  rfl

theorem pictureless_colon (missing : shortcode? rest = none) :
    Pictureless (':' :: rest) ↔ Pictureless rest := by
  have names : metNames (':' :: rest) = metNames rest := by
    rw [metNames, if_pos (by rfl)]
    split
    · rename_i same
      rw [missing] at same
      cases same
    · rfl
  rw [Pictureless, names]
  rfl

theorem pictureless_cons (other : character ≠ ':') :
    Pictureless (character :: rest) ↔ Pictureless rest := by
  rw [Pictureless, metNames, if_neg (by simpa using other)]
  rfl

end Steps

/-- A text with no name of a picture stays as it is. -/
theorem expandShortcodes_eq_self {text : List Char} (plain : Pictureless text) :
    expandShortcodes text = text := by
  fun_induction expandShortcodes text with
  | case1 => rfl
  | case2 character rest isColon name after found inductionHypothesis =>
      obtain rfl := eq_of_beq isColon
      obtain ⟨unknown, later⟩ := (pictureless_name found).mp plain
      rw [(showShortcode_eq_iff name).mpr unknown, inductionHypothesis later,
        (shortcode?_eq_some_iff.mp found).1]
      simp
  | case3 character rest isColon missing inductionHypothesis =>
      obtain rfl := eq_of_beq isColon
      rw [inductionHypothesis ((pictureless_colon missing).mp plain)]
  | case4 character rest notColon inductionHypothesis =>
      have other : character ≠ ':' := by simpa using notColon
      rw [inductionHypothesis ((pictureless_cons other).mp plain)]

/-- Replacing names does not add marks. -/
theorem marks_expandShortcodes_le (text : List Char) : marks (expandShortcodes text) ≤ marks text := by
  fun_induction expandShortcodes text with
  | case1 => exact Nat.le_refl _
  | case2 character rest isColon name after found inductionHypothesis =>
      obtain rfl := eq_of_beq isColon
      have here := marks_showShortcode_le name
      rw [(shortcode?_eq_some_iff.mp found).1]
      simp only [marks_append, marks_colon, marks_nil] at here ⊢
      omega
  | case3 character rest isColon missing inductionHypothesis =>
      obtain rfl := eq_of_beq isColon
      simp only [marks_colon]
      omega
  | case4 character rest notColon inductionHypothesis =>
      simp only [marks_cons]
      omega

/-- Replacing a name by a picture takes marks away. -/
theorem marks_expandShortcodes_lt {text : List Char} (pictured : ¬ Pictureless text) :
    marks (expandShortcodes text) < marks text := by
  fun_induction expandShortcodes text with
  | case1 => exact absurd pictureless_nil pictured
  | case2 character rest isColon name after found inductionHypothesis =>
      obtain rfl := eq_of_beq isColon
      rw [pictureless_name found, Classical.not_and_iff_not_or_not] at pictured
      rw [(shortcode?_eq_some_iff.mp found).1]
      have here := marks_showShortcode_le name
      have there := marks_expandShortcodes_le after
      simp only [marks_append, marks_colon, marks_nil] at here ⊢
      rcases pictured with known | later
      · rw [marks_showShortcode_eq_zero known]
        omega
      · have fewer := inductionHypothesis later
        omega
  | case3 character rest isColon missing inductionHypothesis =>
      obtain rfl := eq_of_beq isColon
      have fewer := inductionHypothesis (mt (pictureless_colon missing).mpr pictured)
      simp only [marks_colon]
      omega
  | case4 character rest notColon inductionHypothesis =>
      have other : character ≠ ':' := by simpa using notColon
      have fewer := inductionHypothesis (mt (pictureless_cons other).mpr pictured)
      simp only [marks_cons]
      omega

/-- **A text stays as it is exactly when none of the names that are met in it is that of a
picture.** -/
theorem expandShortcodes_eq_self_iff {text : List Char} :
    expandShortcodes text = text ↔ Pictureless text :=
  eq_self_iff_of_marks expandShortcodes_eq_self marks_expandShortcodes_lt

/-! ## Text without colons at the end -/

theorem shortcode?_of_colonless {text : List Char} (colonless : ':' ∉ text) :
    shortcode? text = none := by
  cases found : shortcode? text with
  | none => rfl
  | some result =>
      obtain ⟨parts, -, -⟩ := shortcode?_eq_some_iff.mp found
      refine absurd ?_ colonless
      rw [parts]
      simp

/-- Text without colons at the end of a text takes no part in the next name. -/
theorem shortcode?_append {text back : List Char} (colonless : ':' ∉ back) :
    shortcode? (text ++ back) = (shortcode? text).map fun found => (found.1, found.2 ++ back) := by
  induction text with
  | nil => exact shortcode?_of_colonless colonless
  | cons character rest inductionHypothesis =>
      rw [List.cons_append, shortcode?, shortcode?, inductionHypothesis]
      split
      · rfl
      · split
        · rfl
        · simp [Function.comp_def]

theorem pictureless_of_colonless {text : List Char} (colonless : ':' ∉ text) : Pictureless text := by
  induction text with
  | nil => exact pictureless_nil
  | cons character rest inductionHypothesis =>
      obtain ⟨other, later⟩ := not_or.mp (mt List.mem_cons.mpr colonless)
      exact (pictureless_cons (Ne.symm other)).mpr (inductionHypothesis later)

/-- Text without colons at the end of a text stays. -/
theorem expandShortcodes_append {text back : List Char} (colonless : ':' ∉ back) :
    expandShortcodes (text ++ back) = expandShortcodes text ++ back := by
  fun_induction expandShortcodes text with
  | case1 =>
      exact expandShortcodes_eq_self (pictureless_of_colonless colonless)
  | case2 character rest isColon name after found inductionHypothesis =>
      obtain rfl := eq_of_beq isColon
      have stillFound : shortcode? (rest ++ back) = some (name, after ++ back) := by
        rw [shortcode?_append colonless, found]
        rfl
      rw [List.cons_append, expandShortcodes_name stillFound, inductionHypothesis, List.append_assoc]
  | case3 character rest isColon missing inductionHypothesis =>
      obtain rfl := eq_of_beq isColon
      have stillMissing : shortcode? (rest ++ back) = none := by
        rw [shortcode?_append colonless, missing]
        rfl
      rw [List.cons_append, expandShortcodes_colon stillMissing, inductionHypothesis, List.cons_append]
  | case4 character rest notColon inductionHypothesis =>
      have other : character ≠ ':' := by simpa using notColon
      rw [List.cons_append, expandShortcodes_cons other, inductionHypothesis, List.cons_append]

end Routebook.Terminal

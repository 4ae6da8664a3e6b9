import Routebook.Text.Search

/-!
# Words in texts

A word can be dropped from the texts that start with it, and a separator cuts a text where it first
stands.  Splitting finds the pieces of a text between its separators (`Text.mem_split_iff`).
Replacing a word goes through a text from left to right: at an occurrence the replacement is put in
place of the word, and every other character stays.
-/

namespace Routebook.Text

set_option autoImplicit false

/-! ## Cutting -/

/-- A text that is cut at a separator falls into what stands before it, the separator, and the
rest. -/
theorem cut_append {separator : Char} {before : List Char} (absent : separator ∉ before)
    (after : List Char) : cut separator (before ++ separator :: after) = (before, some after) := by
  induction before with
  | nil => simp [cut]
  | cons character before inductionHypothesis =>
      rw [List.mem_cons, not_or] at absent
      simp [cut, Ne.symm absent.1, inductionHypothesis absent.2]

/-- Two texts that are equal have their first separator at the same place. -/
theorem append_separator_inj {separator : Char} {before after before' after' : List Char}
    (absent : separator ∉ before) (absent' : separator ∉ before')
    (same : before ++ separator :: after = before' ++ separator :: after') :
    before = before' ∧ after = after' := by
  have cuts := congrArg (cut separator) same
  rw [cut_append absent, cut_append absent'] at cuts
  obtain ⟨front, back⟩ := Prod.ext_iff.mp cuts
  exact ⟨front, Option.some.inj back⟩

/-- A text without the separator is not cut. -/
theorem cut_of_not_mem {separator : Char} {text : List Char} (absent : separator ∉ text) :
    cut separator text = (text, none) := by
  induction text with
  | nil => rfl
  | cons character text inductionHypothesis =>
      rw [List.mem_cons, not_or] at absent
      simp [cut, Ne.symm absent.1, inductionHypothesis absent.2]

/-- What stands before a separator is the start of the text. -/
theorem cut_fst_prefix (separator : Char) (text : List Char) :
    ∃ rest, text = (cut separator text).1 ++ rest := by
  by_cases present : separator ∈ text
  · obtain ⟨before, after, rfl, absent⟩ := List.eq_append_cons_of_mem present
    exact ⟨_, by rw [cut_append absent]⟩
  · exact ⟨[], by rw [cut_of_not_mem present, List.append_nil]⟩

/-- What stands before a separator does not contain it. -/
theorem not_mem_cut_fst (separator : Char) (text : List Char) :
    separator ∉ (cut separator text).1 := by
  by_cases present : separator ∈ text
  · obtain ⟨before, after, rfl, absent⟩ := List.eq_append_cons_of_mem present
    rwa [cut_append absent]
  · rwa [cut_of_not_mem present]

/-- A text is split at a character as any list is. -/
theorem split_eq_splitOn (separator : Char) (text : List Char) :
    split separator text = text.splitOn separator := by
  induction text with
  | nil => exact (List.splitOn_nil separator).symm
  | cons character text inductionHypothesis =>
      rw [split, inductionHypothesis, List.splitOn_cons_eq_if_modifyHead]
      by_cases here : character == separator
      · rw [if_pos here, if_pos here]
      · rw [if_neg here, if_neg here]
        obtain ⟨piece, pieces, found⟩ :=
          List.exists_cons_of_ne_nil (List.splitOn_ne_nil separator text)
        rw [found]
        rfl

/-- Pieces without the separator are found again when they have been joined by it. -/
theorem split_intercalate {separator : Char} {pieces : List (List Char)} (nonempty : pieces ≠ [])
    (absent : ∀ piece ∈ pieces, separator ∉ piece) :
    split separator ([separator].intercalate pieces) = pieces := by
  rw [split_eq_splitOn]
  exact List.splitOn_intercalate separator absent nonempty

/-- Joining pieces brings no character that neither the pieces nor the separator have. -/
theorem not_mem_intercalate {character : Char} {separator : List Char} {pieces : List (List Char)}
    (foreign : character ∉ separator) (absent : ∀ piece ∈ pieces, character ∉ piece) :
    character ∉ separator.intercalate pieces := by
  induction pieces with
  | nil => exact List.not_mem_nil
  | cons piece pieces inductionHypothesis =>
      rw [List.forall_mem_cons] at absent
      cases pieces with
      | nil => simpa using absent.1
      | cons next pieces =>
          rw [List.intercalate_cons_cons, List.mem_append, List.mem_append, not_or, not_or]
          exact ⟨⟨absent.1, foreign⟩, inductionHypothesis absent.2⟩

/-- Splitting takes a text apart at any of its separators. -/
theorem split_append (separator : Char) (before after : List Char) :
    split separator (before ++ separator :: after)
      = split separator before ++ split separator after := by
  simp only [split_eq_splitOn]
  exact List.splitOn_append_cons_self before after

/-- A text without the separator is one piece. -/
theorem split_of_not_mem {separator : Char} {text : List Char} (absent : separator ∉ text) :
    split separator text = [text] := by
  rw [split_eq_splitOn]
  exact List.splitOn_eq_singleton absent

/-- There is at least one piece. -/
theorem split_ne_nil (separator : Char) (text : List Char) : split separator text ≠ [] := by
  rw [split_eq_splitOn]
  exact List.splitOn_ne_nil separator text

/-- A piece of a text that is taken apart at a separator: a part without the separator that cannot
be made longer, since on either side of it stands a separator or the end of the text. -/
def IsPiece (separator : Char) (text piece : List Char) : Prop :=
  separator ∉ piece ∧ ∃ before after, text = before ++ piece ++ after ∧
    (before = [] ∨ [separator] <:+ before) ∧ (after = [] ∨ [separator] <+: after)

theorem isPiece_of_mem_split {separator : Char} {text piece : List Char}
    (found : piece ∈ split separator text) : IsPiece separator text piece := by
  by_cases present : separator ∈ text
  · obtain ⟨first, rest, rfl, absent⟩ := List.eq_append_cons_of_mem present
    rw [split_append, split_of_not_mem absent, List.singleton_append, List.mem_cons] at found
    rcases found with rfl | later
    · exact ⟨absent, [], separator :: rest, by simp, .inl rfl, .inr ⟨rest, rfl⟩⟩
    · -- A piece of the rest is one of the text, with the first piece and its separator before it.
      obtain ⟨plain, before, after, rfl, start, finish⟩ := isPiece_of_mem_split later
      refine ⟨plain, first ++ separator :: before, after, by simp, .inr ?_, finish⟩
      rcases start with rfl | ends
      · exact List.suffix_append _ _
      · exact ends.trans ⟨first ++ [separator], by simp⟩
  · rw [split_of_not_mem present, List.mem_singleton] at found
    subst found
    exact ⟨present, [], [], by simp, .inl rfl, .inl rfl⟩
termination_by text.length
decreasing_by
  simp only [List.length_append, List.length_cons, *]
  omega

/-- **Splitting finds exactly the pieces of a text.** -/
theorem mem_split_iff {separator : Char} {text piece : List Char} :
    piece ∈ split separator text ↔ IsPiece separator text piece := by
  refine ⟨isPiece_of_mem_split, ?_⟩
  rintro ⟨plain, before, after, rfl, start, finish⟩
  -- The piece is the first one of what starts with it.
  have first : piece ∈ split separator (piece ++ after) := by
    rcases finish with rfl | ⟨rest, rfl⟩
    · rw [List.append_nil, split_of_not_mem plain]
      exact List.mem_singleton_self _
    · rw [List.singleton_append, split_append, split_of_not_mem plain]
      exact List.mem_cons_self
  rcases start with rfl | ⟨front, rfl⟩
  · rwa [List.nil_append]
  · rw [List.append_assoc, List.append_assoc, List.singleton_append, split_append]
    exact List.mem_append_right _ first

/-! ## Dropping words -/

/-- A word can be dropped from exactly the texts that start with it. -/
theorem dropWord?_eq_some_iff {word text after : List Char} :
    dropWord? word text = some after ↔ text = word ++ after := by
  induction word generalizing text with
  | nil => simp [dropWord?, eq_comm]
  | cons expected word inductionHypothesis =>
      cases text with
      | nil => simp [dropWord?]
      | cons character text =>
          by_cases same : expected = character
          · simp [dropWord?, same, inductionHypothesis]
          · simp [dropWord?, same, Ne.symm same]

/-- A text starts with a word when the word is its beginning. -/
theorem startsWith_iff {word text : List Char} : startsWith word text = true ↔ word <+: text := by
  rw [startsWith, Option.isSome_iff_exists]
  constructor
  · rintro ⟨after, dropped⟩
    exact ⟨after, (dropWord?_eq_some_iff.mp dropped).symm⟩
  · rintro ⟨after, rfl⟩
    exact ⟨after, dropWord?_eq_some_iff.mpr rfl⟩

/-- A word occurs in a text when it is a part of it. -/
theorem occurs_iff {word text : List Char} : occurs word text = true ↔ word <:+: text := by
  induction text with
  | nil => rw [occurs, List.isEmpty_iff, List.infix_nil]
  | cons character text inductionHypothesis =>
      rw [occurs, Bool.or_eq_true, startsWith_iff, inductionHypothesis, List.infix_cons_iff]

/-! ## Replacing words -/

variable {first : Char} {more replacement : List Char}

theorem replaceAll_nil : replaceAll first more replacement [] = [] := by
  rw [replaceAll]

/-- An occurrence at the start of a text is replaced. -/
theorem replaceAll_word (after : List Char) :
    replaceAll first more replacement (first :: more ++ after)
      = replacement ++ replaceAll first more replacement after := by
  have found : dropWord? (first :: more) (first :: (more ++ after)) = some after :=
    dropWord?_eq_some_iff.mpr rfl
  rw [List.cons_append, replaceAll]
  split
  · rename_i rest dropped
    rw [found, Option.some.injEq] at dropped
    rw [dropped]
  · rename_i dropped
    rw [found] at dropped
    cases dropped

/-- A character at which no occurrence starts stays. -/
theorem replaceAll_cons {character : Char} {rest : List Char}
    (elsewhere : ∀ after, character :: rest ≠ first :: more ++ after) :
    replaceAll first more replacement (character :: rest)
      = character :: replaceAll first more replacement rest := by
  rw [replaceAll]
  split
  · rename_i after dropped
    exact absurd (dropWord?_eq_some_iff.mp dropped) (elsewhere after)
  · rfl

/-- A text in which no occurrence starts stays. -/
theorem replaceAll_append_of_elsewhere {before text : List Char}
    (elsewhere : ∀ character rest, character :: rest <:+ before →
      ¬ first :: more <+: character :: rest ++ text) :
    replaceAll first more replacement (before ++ text)
      = before ++ replaceAll first more replacement text := by
  induction before with
  | nil => rfl
  | cons character before inductionHypothesis =>
      have later : ∀ other rest, other :: rest <:+ before →
          ¬ first :: more <+: other :: rest ++ text :=
        fun other rest within => elsewhere other rest (within.trans (List.suffix_cons _ _))
      rw [List.cons_append, replaceAll_cons, inductionHypothesis later, List.cons_append]
      intro after same
      exact elsewhere character before (List.suffix_refl _) ⟨after, same.symm⟩

/-- A text in which the word does not occur stays. -/
theorem replaceAll_eq_self {text : List Char} (absent : ¬ first :: more <:+: text) :
    replaceAll first more replacement text = text := by
  have stays : replaceAll first more replacement (text ++ [])
      = text ++ replaceAll first more replacement [] := by
    refine replaceAll_append_of_elsewhere fun character rest within starts => absent ?_
    rw [List.append_nil] at starts
    exact starts.isInfix.trans within.isInfix
  rwa [replaceAll_nil, List.append_nil] at stays

/-- A text that starts with a character that is not in front does not start there. -/
theorem infix_of_infix_append {character : Char} {rest before after : List Char}
    (outside : character ∉ before) (within : character :: rest <:+: before ++ after) :
    character :: rest <:+: after := by
  induction before with
  | nil => exact within
  | cons other before inductionHypothesis =>
      rw [List.mem_cons, not_or] at outside
      rcases List.infix_cons_iff.mp within with starts | later
      · exact absurd (List.cons_prefix_cons.mp starts).1 outside.1
      · exact inductionHypothesis outside.2 later

/-- A replacement is apart from a text when no end of the text goes on from it or begins with it. -/
def Apart (replacement target : List Char) : Prop :=
  ∀ part, part ≠ [] → part <:+ target → ¬ part <+: replacement ∧ ¬ replacement <+: part

theorem Apart.of_suffix {target part : List Char} (apart : Apart replacement target)
    (ends : part <:+ target) : Apart replacement part :=
  fun rest nonempty within => apart rest nonempty (within.trans ends)

/-- What a text starts with after replacing, apart from what is put in, it started with before. -/
theorem prefix_of_prefix_replaceAll {target text : List Char} (apart : Apart replacement target)
    (starts : target <+: replaceAll first more replacement text) : target <+: text := by
  fun_induction replaceAll first more replacement text generalizing target with
  | case1 => exact starts
  | case2 found rest after dropped inductionHypothesis =>
      by_cases empty : target = []
      · rw [empty]
        exact List.nil_prefix
      · obtain ⟨inside, around⟩ := apart target empty (List.suffix_refl _)
        rcases List.prefix_or_prefix_of_prefix starts (List.prefix_append _ _) with less | more
        · exact absurd less inside
        · exact absurd more around
  | case3 found rest dropped inductionHypothesis =>
      cases target with
      | nil => exact List.nil_prefix
      | cons character target =>
          obtain ⟨same, later⟩ := List.cons_prefix_cons.mp starts
          exact List.cons_prefix_cons.mpr
            ⟨same, inductionHypothesis (apart.of_suffix (List.suffix_cons _ _)) later⟩

/-- **Replacing brings nothing that is apart from what is put in.** -/
theorem infix_of_infix_replaceAll {character : Char} {target text : List Char}
    (outside : character ∉ replacement) (apart : Apart replacement (character :: target))
    (within : character :: target <:+: replaceAll first more replacement text) :
    character :: target <:+: text := by
  fun_induction replaceAll first more replacement text with
  | case1 => exact within
  | case2 found rest after dropped inductionHypothesis =>
      rw [dropWord?_eq_some_iff.mp dropped]
      exact (inductionHypothesis (infix_of_infix_append outside within)).trans
        (List.suffix_append _ _).isInfix
  | case3 found rest dropped inductionHypothesis =>
      have stays : replaceAll first more replacement (found :: rest)
          = found :: replaceAll first more replacement rest :=
        replaceAll_cons fun after same => by
          rw [dropWord?_eq_some_iff.mpr same] at dropped
          cases dropped
      rcases List.infix_cons_iff.mp within with starts | later
      · exact (prefix_of_prefix_replaceAll apart (stays ▸ starts)).isInfix
      · exact List.infix_cons_iff.mpr (.inr (inductionHypothesis later))

/-- **A word that is replaced is gone**, if it is apart from what is put in. -/
theorem not_infix_replaceAll (outside : first ∉ replacement)
    (apart : Apart replacement (first :: more)) (text : List Char) :
    ¬ first :: more <:+: replaceAll first more replacement text := by
  fun_induction replaceAll first more replacement text with
  | case1 => simp
  | case2 found rest after dropped inductionHypothesis =>
      exact fun within => inductionHypothesis (infix_of_infix_append outside within)
  | case3 found rest dropped inductionHypothesis =>
      intro within
      have elsewhere : ∀ after, found :: rest ≠ first :: more ++ after := by
        intro after same
        rw [dropWord?_eq_some_iff.mpr same] at dropped
        cases dropped
      rcases List.infix_cons_iff.mp within with starts | later
      · rw [← replaceAll_cons elsewhere] at starts
        obtain ⟨after, same⟩ := prefix_of_prefix_replaceAll apart starts
        exact elsewhere after same.symm
      · exact inductionHypothesis later

/-- A replacement brings no character that neither the text nor what is put in has. -/
theorem not_mem_replaceAll {character : Char} {text : List Char} (absent : character ∉ text)
    (foreign : character ∉ replacement) : character ∉ replaceAll first more replacement text := by
  fun_induction replaceAll first more replacement text with
  | case1 => exact absent
  | case2 found rest after dropped inductionHypothesis =>
      rw [dropWord?_eq_some_iff.mp dropped, List.mem_append, not_or] at absent
      rw [List.mem_append, not_or]
      exact ⟨foreign, inductionHypothesis absent.2⟩
  | case3 found rest dropped inductionHypothesis =>
      rw [List.mem_cons, not_or] at absent ⊢
      exact ⟨absent.1, inductionHypothesis absent.2⟩

end Routebook.Text

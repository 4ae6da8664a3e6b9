import Routebook.Proofs.Template.Scan

/-!
# Filling in placeholders

A text is filled in when all placeholders that have a value are replaced in a single scan from left
to right (`Template.fill`).  Replacing every occurrence of one placeholder is filling in its name
alone (`Template.replaceAll_eq_fill`).  The placeholder must not occur within that of another
captured name, which it does exactly when it ends it (`Template.placeholder_infix_iff`); where no
captured name contains an opening that is out of the question.
-/

namespace Routebook

set_option autoImplicit false

namespace Template

/-! ## A single scan -/

/-- The text in which every placeholder that has a value is replaced by it, in one scan from left to
right; all other text stays as it is. -/
def fill (value : List Char → Option (List Char)) (text : List Char) : List Char :=
  match text with
  | [] => []
  | [last] => [last]
  | first :: second :: rest =>
      if first == '$' && second == '\x7b' then
        match _ : capture? rest with
        | some (name, after) => (value name).getD (placeholder name) ++ fill value after
        | none => first :: fill value (second :: rest)
      else first :: fill value (second :: rest)
termination_by text.length
decreasing_by
  · have shorter := length_lt_of_capture? ‹capture? _ = some _›
    simp only [List.length_cons]
    omega
  · simp
  · simp

section Scanning

variable {value : List Char → Option (List Char)}

/-- A placeholder is filled in when its name has a value. -/
theorem fill_placeholder {name after : List Char} (nonempty : name ≠ [])
    (unclosed : '\x7d' ∉ name) : fill value (placeholder name ++ after)
      = (value name).getD (placeholder name) ++ fill value after := by
  have found : capture? (name ++ '\x7d' :: after) = some (name, after) :=
    capture?_eq_some_iff.mpr ⟨nonempty, unclosed, rfl⟩
  simp only [placeholder, List.cons_append, List.append_assoc, List.nil_append]
  rw [fill]
  simp only [beq_self_eq_true, Bool.and_self, if_true]
  split <;> simp_all [placeholder]

theorem fill_cons {first : Char} {rest : List Char}
    (plain : ¬ StartsPlaceholder (first :: rest)) :
    fill value (first :: rest) = first :: fill value rest := by
  cases rest with
  | nil => rw [fill, fill]
  | cons second rest =>
      rw [fill]
      split
      · rename_i opens
        rw [Bool.and_eq_true, beq_iff_eq, beq_iff_eq] at opens
        obtain ⟨rfl, rfl⟩ := opens
        rw [startsPlaceholder_iff, Option.not_isSome_iff_eq_none] at plain
        split
        · simp_all
        · rfl
      · rfl

theorem fill_eq_self {text : List Char} (absent : '\x7d' ∉ text) : fill value text = text := by
  induction text with
  | nil => rw [fill]
  | cons first rest inductionHypothesis =>
      rw [fill_cons (not_startsPlaceholder_of_not_mem absent),
        inductionHypothesis fun present => absent (List.mem_cons_of_mem _ present)]

/-- Only the values of the captured names matter. -/
theorem fill_congr {other : List Char → Option (List Char)} {text : List Char}
    (agree : ∀ name ∈ names text, value name = other name) :
    fill value text = fill other text := by
  induction scan text with
  | done => rw [fill, fill]
  | captured nonempty unclosed _ inductionHypothesis =>
      rw [names_placeholder nonempty unclosed] at agree
      rw [fill_placeholder nonempty unclosed, fill_placeholder nonempty unclosed,
        agree _ List.mem_cons_self,
        inductionHypothesis fun name captured => agree name (List.mem_cons_of_mem _ captured)]
  | copied plain _ inductionHypothesis =>
      rw [names_cons plain] at agree
      rw [fill_cons plain, fill_cons plain, inductionHypothesis agree]

/-- With no values at all a text stays as it is. -/
theorem fill_none (text : List Char) : fill (fun _ => none) text = text := by
  induction scan text with
  | done => rw [fill]
  | captured nonempty unclosed _ inductionHypothesis =>
      rw [fill_placeholder nonempty unclosed, inductionHypothesis, Option.getD_none]
  | copied plain _ inductionHypothesis => rw [fill_cons plain, inductionHypothesis]

/-- Where no captured name has a value a text stays as it is. -/
theorem fill_eq_self_of_none {text : List Char} (missing : ∀ name ∈ names text, value name = none) :
    fill value text = text := by
  rw [fill_congr missing, fill_none]

/-- What stands for a captured name stands in the filled text. -/
theorem infix_fill_of_mem_names {captured text : List Char} (listed : captured ∈ names text) :
    (value captured).getD (placeholder captured) <:+: fill value text := by
  induction scan text with
  | done => rw [names] at listed; cases listed
  | @captured found after full open' _ inductionHypothesis =>
      rw [fill_placeholder full open']
      rw [names_placeholder full open', List.mem_cons] at listed
      rcases listed with rfl | later
      · exact (List.prefix_append _ _).isInfix
      · exact (inductionHypothesis later).trans (List.suffix_append _ _).isInfix
  | copied plain _ inductionHypothesis =>
      rw [names_cons plain] at listed
      rw [fill_cons plain]
      exact (inductionHypothesis listed).trans (List.suffix_cons _ _).isInfix

end Scanning

/-- The placeholder of a captured name stands in the text. -/
theorem infix_of_mem_names {captured text : List Char} (listed : captured ∈ names text) :
    placeholder captured <:+: text := by
  have stands := @infix_fill_of_mem_names (fun _ => none) captured text listed
  rwa [fill_none] at stands

/-- The value of one name alone. -/
def single (name replacement : List Char) : List Char → Option (List Char) :=
  fun other => if other = name then some replacement else none

/-! ## Names within names -/

/-- A name is nested in another one whose placeholder ends with its own. -/
def Nested (name other : List Char) : Prop := opening ++ name <:+ other

instance (name other : List Char) : Decidable (Nested name other) :=
  inferInstanceAs (Decidable (opening ++ name <:+ other))

/-- In a name without openings no other one is nested. -/
theorem not_nested_of_clean {name other : List Char} (clean : Text.occurs opening other = false) :
    ¬ Nested name other := by
  intro nested
  have opens : opening <:+: other := (List.prefix_append opening name).isInfix.trans nested.isInfix
  rw [← Text.occurs_iff, clean] at opens
  exact Bool.false_ne_true opens

theorem not_nested_self (name : List Char) : ¬ Nested name name := by
  intro nested
  have shorter := nested.length_le
  simp only [opening, List.length_append, List.length_cons, List.length_nil] at shorter
  omega

/-- The placeholder of a nested name ends that of the other. -/
theorem Nested.infix_placeholder {name other : List Char} (nested : Nested name other) :
    placeholder name <:+: placeholder other := by
  obtain ⟨before, rfl⟩ := nested
  refine ⟨opening ++ before, [], ?_⟩
  rw [placeholder_eq, placeholder_eq]
  simp only [List.append_assoc, List.append_nil]

/-- **A placeholder occurs in that of another name only when the name is nested there.** -/
theorem placeholder_infix_iff {name other : List Char} (unclosed : '\x7d' ∉ other) :
    placeholder name <:+: placeholder other ↔ name = other ∨ Nested name other := by
  have absent : '\x7d' ∉ opening ++ other := by simp [opening, unclosed]
  have outside : ¬ placeholder name <:+: opening ++ other :=
    fun inside => absent (inside.mem (by simp [placeholder]))
  -- The only closing brace of the other placeholder is its last character, so that both end there.
  have ends : placeholder name <:+: placeholder other ↔ opening ++ name <:+ opening ++ other := by
    rw [placeholder_eq other, List.infix_concat_iff, or_iff_left outside, placeholder_eq name]
    exact List.suffix_append_self_iff
  rw [ends]
  constructor
  · rintro ⟨_ | ⟨first, _ | ⟨second, before⟩⟩, same⟩
    · exact .inl (List.append_cancel_left same)
    · cases same
    · exact .inr ⟨before, (List.cons.inj (List.cons.inj same).2).2⟩
  · rintro (rfl | nested)
    · exact List.suffix_refl _
    · exact nested.trans (List.suffix_append _ _)

/-- A text without the marks of a placeholder stands within one only if it is part of its name. -/
theorem infix_of_infix_placeholder {part name : List Char}
    (plain : ∀ mark ∈ ['$', '\x7b', '\x7d'], mark ∉ part) (within : part <:+: placeholder name) :
    part <:+: name := by
  have behind : ∀ {mark : Char} {text : List Char}, mark ∉ part → part <:+: mark :: text →
      part <:+: text := by
    intro mark text absent within
    rcases List.infix_cons_iff.mp within with starts | later
    · cases part with
      | nil => exact List.nil_infix
      | cons first rest =>
          exact absurd ((List.cons_prefix_cons.mp starts).1 ▸ List.mem_cons_self) absent
    · exact later
  have opened : part <:+: name ++ ['\x7d'] :=
    behind (plain _ (by simp)) (behind (plain _ (by simp)) within)
  rcases List.infix_concat_iff.mp opened with ends | before
  · rcases List.suffix_concat_iff.mp ends with rfl | ⟨front, rfl, -⟩
    · exact List.nil_infix
    · exact absurd (List.mem_append_right front (List.mem_singleton_self _)) (plain _ (by simp))
  · exact before

/-- What is put in for a placeholder is apart from another one, unless it is part of the name. -/
theorem apart_placeholder {replacement name : List Char}
    (plain : ∀ mark ∈ ['$', '\x7b', '\x7d'], mark ∉ replacement)
    (foreign : ¬ replacement <:+: name) : Text.Apart replacement (placeholder name) := by
  intro part nonempty ends
  constructor
  · intro starts
    obtain ⟨front, rfl, -⟩ := (List.suffix_concat_iff.mp (placeholder_eq name ▸ ends)).resolve_left
      nonempty
    exact plain '\x7d' (by simp) (starts.mem (List.mem_append_right front (List.mem_singleton_self _)))
  · intro starts
    exact foreign (infix_of_infix_placeholder plain (starts.isInfix.trans ends.isInfix))

/-! ## Filling in one name -/

section Replacing

variable {name replacement : List Char}

/-- Text in which nothing opens is not touched, unless what follows it completes an opening. -/
theorem replaceAll_append_of_clean {more before text : List Char} (clean : ¬ opening <:+: before)
    (apart : ∀ rest, text ≠ '\x7b' :: rest) :
    Text.replaceAll '$' ('\x7b' :: more) replacement (before ++ text)
      = before ++ Text.replaceAll '$' ('\x7b' :: more) replacement text := by
  refine Text.replaceAll_append_of_elsewhere ?_
  rintro character rest within ⟨after, same⟩
  obtain ⟨rfl, behind⟩ := List.cons.inj same
  cases rest with
  | nil => exact apart _ behind.symm
  | cons second rest =>
      obtain ⟨rfl, -⟩ := List.cons.inj behind
      exact clean ((List.prefix_append opening rest).isInfix.trans within.isInfix)

/-- The placeholder of another name is not touched, unless the name is nested there. -/
theorem replaceAll_placeholder {other : List Char} (unclosed : '\x7d' ∉ name)
    (unclosed' : '\x7d' ∉ other) (different : name ≠ other) (apart : ¬ Nested name other)
    (after : List Char) :
    Text.replaceAll '$' ('\x7b' :: (name ++ ['\x7d'])) replacement (placeholder other ++ after)
      = placeholder other ++
        Text.replaceAll '$' ('\x7b' :: (name ++ ['\x7d'])) replacement after := by
  refine Text.replaceAll_append_of_elsewhere ?_
  rintro character rest within ⟨tail, same⟩
  -- An occurrence ends at its only closing brace, and so does the placeholder.
  rw [placeholder_eq, List.suffix_concat_iff] at within
  obtain ⟨front, left, within⟩ := within.resolve_left (List.cons_ne_nil _ _)
  have open' : '\x7d' ∉ front := fun present => by
    have absent : '\x7d' ∉ opening ++ other := by simp [opening, unclosed']
    exact absent (within.mem present)
  have ends : opening ++ name ++ '\x7d' :: tail = front ++ '\x7d' :: after := by
    rw [left] at same
    simpa [opening] using same
  obtain ⟨rfl, -⟩ := Text.append_separator_inj (by simp [opening, unclosed]) open' ends
  have inside : placeholder name <:+: placeholder other := by
    rw [placeholder_eq, placeholder_eq]
    exact (List.suffix_append_self_iff.mpr within).isInfix
  rcases (placeholder_infix_iff unclosed').mp inside with here | nested
  · exact different here
  · exact apart nested

/-- **Replacing every occurrence of a placeholder is filling in its name alone.** -/
theorem replaceAll_eq_fill (nonempty : name ≠ []) (unclosed : '\x7d' ∉ name) {text : List Char}
    (apart : ∀ captured ∈ names text, ¬ Nested name captured) :
    Text.replaceAll '$' ('\x7b' :: (name ++ ['\x7d'])) replacement text
      = fill (single name replacement) text := by
  induction scan text with
  | done => rw [fill, Text.replaceAll_nil]
  | @captured found after full open' _ inductionHypothesis =>
      rw [names_placeholder full open', List.forall_mem_cons] at apart
      rw [fill_placeholder full open', single]
      by_cases same : found = name
      · subst same
        have word : placeholder found ++ after = '$' :: ('\x7b' :: (found ++ ['\x7d'])) ++ after := rfl
        rw [word, Text.replaceAll_word, inductionHypothesis apart.2, if_pos rfl, Option.getD_some]
      · rw [replaceAll_placeholder unclosed open' (Ne.symm same) apart.1,
          inductionHypothesis apart.2, if_neg same, Option.getD_none]
  | @copied first rest plain _ inductionHypothesis =>
      rw [names_cons plain] at apart
      rw [fill_cons plain, Text.replaceAll_cons, inductionHypothesis apart]
      intro after same
      exact plain ⟨name, after, nonempty, unclosed, same⟩

end Replacing

end Template

end Routebook

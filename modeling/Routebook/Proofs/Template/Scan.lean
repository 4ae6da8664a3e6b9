import Routebook.Proofs.Text.Search
import Routebook.Template

/-!
# Taking templates apart

A text falls from left to right into placeholders and characters at which no placeholder starts
(`Template.Scan`).  The names that are captured from a template are read off this decomposition, so
facts about them are proved by induction on it.  A text without dollar signs contributes no names to
what follows it (`Template.names_append`), and the names of the start of a text are names of the
whole text (`Template.names_subset_append`): where the start ends within a placeholder, nothing is
captured from there on.
-/

namespace Routebook

set_option autoImplicit false

/-! ## Placeholders -/

namespace Template

/-- The two characters that open a placeholder. -/
def opening : List Char := ['$', '\x7b']

/-- A placeholder is a name between an opening and a closing brace. -/
theorem placeholder_eq (name : List Char) : placeholder name = opening ++ name ++ ['\x7d'] := rfl

/-- Behind an opening a name is captured when a closing brace follows it and it is not empty. -/
theorem capture?_eq_some_iff {text name after : List Char} :
    capture? text = some (name, after)
      ↔ name ≠ [] ∧ '\x7d' ∉ name ∧ text = name ++ '\x7d' :: after := by
  constructor
  · intro found
    by_cases closed : '\x7d' ∈ text
    · obtain ⟨before, rest, rfl, absent⟩ := List.eq_append_cons_of_mem closed
      rw [capture?, Text.cut_append absent] at found
      cases before with
      | nil => cases found
      | cons character before =>
          cases found
          exact ⟨List.cons_ne_nil _ _, absent, rfl⟩
    · rw [capture?, Text.cut_of_not_mem closed] at found
      cases text <;> cases found
  · rintro ⟨nonempty, absent, rfl⟩
    rw [capture?, Text.cut_append absent]
    cases name with
    | nil => exact absurd rfl nonempty
    | cons character name => rfl

/-- Behind an opening that captures nothing stands a closing brace at once, or none at all. -/
theorem closing_of_capture?_eq_none {text : List Char} (missed : capture? text = none) :
    (∃ rest, text = '\x7d' :: rest) ∨ '\x7d' ∉ text := by
  by_cases closed : '\x7d' ∈ text
  · obtain ⟨before, rest, rfl, absent⟩ := List.eq_append_cons_of_mem closed
    cases before with
    | nil => exact .inl ⟨rest, rfl⟩
    | cons character before =>
        have found : capture? (character :: before ++ '\x7d' :: rest)
            = some (character :: before, rest) :=
          capture?_eq_some_iff.mpr ⟨List.cons_ne_nil _ _, absent, rfl⟩
        rw [missed] at found
        cases found
  · exact .inr closed

/-- A text that starts with a placeholder. -/
def StartsPlaceholder (text : List Char) : Prop :=
  ∃ name after, name ≠ [] ∧ '\x7d' ∉ name ∧ text = placeholder name ++ after

/-- A placeholder starts where an opening is followed by a name that is captured. -/
theorem startsPlaceholder_iff {rest : List Char} :
    StartsPlaceholder ('$' :: '\x7b' :: rest) ↔ (capture? rest).isSome := by
  rw [Option.isSome_iff_exists, Prod.exists]
  simp only [capture?_eq_some_iff, StartsPlaceholder, placeholder, List.cons_append,
    List.append_assoc, List.nil_append, List.cons.injEq, true_and]

/-- A text taken apart from left to right, into placeholders and characters at which none starts. -/
inductive Scan : List Char → Prop
  | done : Scan []
  | captured {name after : List Char} (nonempty : name ≠ []) (unclosed : '\x7d' ∉ name)
      (next : Scan after) : Scan (placeholder name ++ after)
  | copied {first : Char} {rest : List Char} (plain : ¬ StartsPlaceholder (first :: rest))
      (next : Scan rest) : Scan (first :: rest)

/-- Every text can be taken apart. -/
theorem scan (text : List Char) : Scan text := by
  by_cases starts : StartsPlaceholder text
  · obtain ⟨name, after, nonempty, unclosed, rfl⟩ := starts
    exact .captured nonempty unclosed (scan after)
  · cases text with
    | nil => exact .done
    | cons first rest => exact .copied starts (scan rest)
termination_by text.length
decreasing_by
  · simp only [placeholder, List.length_append, List.length_cons, *]
    omega
  · simp [*]

/-- A placeholder contributes its name. -/
theorem names_placeholder {name after : List Char} (nonempty : name ≠ [])
    (unclosed : '\x7d' ∉ name) : names (placeholder name ++ after) = name :: names after := by
  have found : capture? (name ++ '\x7d' :: after) = some (name, after) :=
    capture?_eq_some_iff.mpr ⟨nonempty, unclosed, rfl⟩
  simp only [placeholder, List.cons_append, List.append_assoc, List.nil_append]
  rw [names]
  simp only [beq_self_eq_true, Bool.and_self, if_true]
  split <;> simp_all

theorem names_cons {first : Char} {rest : List Char}
    (plain : ¬ StartsPlaceholder (first :: rest)) : names (first :: rest) = names rest := by
  cases rest with
  | nil => rw [names, names]
  | cons second rest =>
      rw [names]
      split
      · rename_i opens
        rw [Bool.and_eq_true, beq_iff_eq, beq_iff_eq] at opens
        obtain ⟨rfl, rfl⟩ := opens
        rw [startsPlaceholder_iff, Option.not_isSome_iff_eq_none] at plain
        split
        · simp_all
        · rfl
      · rfl

/-- A captured name is not empty and contains no closing brace. -/
theorem captured_of_mem_names {text name : List Char} (captured : name ∈ names text) :
    name ≠ [] ∧ '\x7d' ∉ name := by
  induction scan text with
  | done => rw [names] at captured; cases captured
  | captured nonempty unclosed _ inductionHypothesis =>
      rw [names_placeholder nonempty unclosed, List.mem_cons] at captured
      rcases captured with rfl | later
      · exact ⟨nonempty, unclosed⟩
      · exact inductionHypothesis later
  | copied plain _ inductionHypothesis =>
      rw [names_cons plain] at captured
      exact inductionHypothesis captured

/-- A text without closing braces has no placeholders. -/
theorem not_startsPlaceholder_of_not_mem {text : List Char} (absent : '\x7d' ∉ text) :
    ¬ StartsPlaceholder text := by
  rintro ⟨name, after, _, _, rfl⟩
  exact absent (by simp [placeholder])

theorem names_eq_nil {text : List Char} (absent : '\x7d' ∉ text) : names text = [] := by
  induction text with
  | nil => rw [names]
  | cons first rest inductionHypothesis =>
      rw [names_cons (not_startsPlaceholder_of_not_mem absent)]
      exact inductionHypothesis fun present => absent (List.mem_cons_of_mem _ present)

/-- A text without dollar signs contributes no names to what it stands before. -/
theorem names_append {before : List Char} (absent : '$' ∉ before) (text : List Char) :
    names (before ++ text) = names text := by
  induction before with
  | nil => rfl
  | cons first before inductionHypothesis =>
      rw [List.mem_cons, not_or] at absent
      rw [List.cons_append, names_cons, inductionHypothesis absent.2]
      rintro ⟨name, after, _, _, same⟩
      exact absent.1 (List.cons.inj same).1.symm

/-- When a placeholder starts in a text but does not end in it, no other one does either. -/
theorem not_mem_of_startsPlaceholder_append {first : Char} {rest more : List Char}
    (plain : ¬ StartsPlaceholder (first :: rest))
    (starts : StartsPlaceholder (first :: (rest ++ more))) : '\x7d' ∉ rest := by
  obtain ⟨name, after, nonempty, unclosed, same⟩ := starts
  have unclosed' : '\x7d' ∉ '\x7b' :: name := by simp [unclosed]
  simp only [placeholder, List.cons_append, List.append_assoc, List.nil_append,
    List.cons.injEq] at same
  obtain ⟨rfl, same⟩ := same
  rcases List.append_eq_append_iff.mp (same.trans (List.cons_append).symm) with
    ⟨tail, inside, _⟩ | ⟨tail, outside, ending⟩
  · rw [inside, List.mem_append, not_or] at unclosed'
    exact unclosed'.1
  · cases tail with
    | nil => rwa [outside, List.append_nil]
    | cons brace tail =>
        obtain ⟨rfl, -⟩ := List.cons.inj ending
        exact absurd ⟨name, tail, nonempty, unclosed, by rw [outside]; simp [placeholder]⟩ plain

/-- The names of the start of a text are names of the whole text: where the start ends within a
placeholder, nothing is captured from there on. -/
theorem names_subset_append (text more : List Char) : names text ⊆ names (text ++ more) := by
  induction scan text with
  | done => rw [names]; exact List.nil_subset _
  | captured nonempty unclosed _ inductionHypothesis =>
      rw [List.append_assoc, names_placeholder nonempty unclosed, names_placeholder nonempty unclosed]
      exact List.cons_subset_cons _ inductionHypothesis
  | @copied first rest plain _ inductionHypothesis =>
      rw [names_cons plain, List.cons_append]
      by_cases starts : StartsPlaceholder (first :: (rest ++ more))
      · rw [names_eq_nil (not_mem_of_startsPlaceholder_append plain starts)]
        exact List.nil_subset _
      · rw [names_cons starts]
        exact inductionHypothesis

/-- Without repetitions every name is listed once. -/
theorem nodup_eraseDups (names : List String) : names.eraseDups.Nodup := by
  cases names with
  | nil => exact List.nodup_nil
  | cons name names =>
      rw [List.eraseDups_cons, List.nodup_cons]
      refine ⟨?_, nodup_eraseDups _⟩
      intro repeated
      rw [List.mem_eraseDups, List.mem_filter] at repeated
      simp at repeated
termination_by names.length
decreasing_by
  have shorter := List.length_filter_le (fun other => !other == name) names
  simp only [List.length_cons]
  omega

end Template

end Routebook

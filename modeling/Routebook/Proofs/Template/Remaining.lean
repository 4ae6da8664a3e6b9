import Routebook.Proofs.Template.Composition

/-!
# Placeholders that are left

In a text that was filled in a placeholder occurs only where a captured name has no value, or within
what was put in (`Template.placeholder_infix_fill_iff`): the values are whole, so no placeholder
comes about across their ends.  When more text follows, a placeholder can also start in the filled
text and end behind it.  Where it does can be told from the text before it was filled in
(`Template.placeholder_infix_fill_append_iff`), for a filling does not touch the start of a
placeholder at the end of a text (`Template.start_suffix_fill_iff`).
-/

namespace Routebook

set_option autoImplicit false

namespace Template

/-! ## Starts of placeholders -/

/-- A text is the start of a placeholder, without its closing brace. -/
structure StartOf (name start : List Char) : Prop where
  started : start ≠ []
  within : start <+: opening ++ name

variable {name start : List Char}

/-- The start of a placeholder is a dollar sign, or an opening with the start of the name. -/
theorem StartOf.eq (starts : StartOf name start) :
    start = ['$'] ∨ ∃ front, front <+: name ∧ start = opening ++ front := by
  have part : start <+: '$' :: '\x7b' :: name := starts.within
  obtain ⟨more, rfl, behind⟩ := (List.prefix_cons_iff.mp part).resolve_left starts.started
  rcases List.prefix_cons_iff.mp behind with rfl | ⟨front, rfl, within⟩
  · exact .inl rfl
  · exact .inr ⟨front, within, rfl⟩

/-- The first of two parts of a placeholder is a start of it. -/
theorem startOf_of_append {rest : List Char} (started : start ≠ []) (unfinished : rest ≠ [])
    (whole : placeholder name = start ++ rest) : StartOf name start := by
  have within : start <+: opening ++ name ++ ['\x7d'] := ⟨rest, by rw [← whole, placeholder_eq]⟩
  rcases List.prefix_concat_iff.mp within with all | within
  · rw [all, ← placeholder_eq] at whole
    exact absurd (List.self_eq_append_right.mp whole) unfinished
  · exact ⟨started, within⟩

variable (unclosed : '\x7d' ∉ name)
include unclosed

/-- The second of two parts of a placeholder has the closing brace. -/
theorem mem_of_placeholder_eq {rest : List Char} (started : start ≠ []) (unfinished : rest ≠ [])
    (whole : placeholder name = start ++ rest) : '\x7d' ∈ rest := by
  have absent : '\x7d' ∉ start := fun present => by
    have within := (startOf_of_append started unfinished whole).within
    simpa [opening, unclosed] using within.mem present
  have brace : '\x7d' ∈ start ++ rest := by
    rw [← whole]
    simp [placeholder]
  exact (List.mem_append.mp brace).resolve_left absent

/-- A sealed text does not end in the start of a placeholder. -/
theorem Sealed.not_start_suffix {text : List Char} (closed : Sealed text)
    (starts : StartOf name start) : ¬ start <:+ text := by
  intro ends
  rcases starts.eq with rfl | ⟨front, part, rfl⟩
  · exact closed.noDollar ends
  · exact unclosed (part.mem (closed.closed front ends))

/-- A placeholder occurs on one side of the end of a sealed text. -/
theorem Sealed.placeholder_infix_append_iff {text : List Char} (closed : Sealed text)
    (more : List Char) : placeholder name <:+: text ++ more
      ↔ placeholder name <:+: text ∨ placeholder name <:+: more := by
  rw [List.infix_append_iff_ne_nil, ← or_assoc, or_iff_left]
  rintro ⟨start, rest, started, unfinished, whole, ends, -⟩
  exact closed.not_start_suffix unclosed (startOf_of_append started unfinished whole) ends

/-- The start of a placeholder at the end of a text does not reach into a sealed text before it. -/
theorem Sealed.start_suffix_append_iff {text : List Char} (closed : Sealed text)
    (starts : StartOf name start) (more : List Char) : start <:+ text ++ more ↔ start <:+ more := by
  refine ⟨fun ends => ?_, fun ends => ends.trans (List.suffix_append _ _)⟩
  rcases List.suffix_or_suffix_of_suffix ends (List.suffix_append text more) with
    shorter | ⟨front, rfl⟩
  · exact shorter
  · rw [List.suffix_append_self_iff] at ends
    by_cases nothing : front = []
    · rw [nothing]
      exact List.suffix_refl _
    · have part : StartOf name front := ⟨nothing, (List.prefix_append _ _).trans starts.within⟩
      exact absurd ends (closed.not_start_suffix unclosed part)

/-! ## Filled texts -/

section Filled

variable {value : List Char → Option (List Char)}
  (whole : ∀ name replacement, value name = some replacement → Whole replacement)
include whole

/-- **A placeholder occurs in a filled text only within what stands for a captured name.** -/
theorem placeholder_infix_fill_iff (nonempty : name ≠ []) {text : List Char} :
    placeholder name <:+: fill value text ↔ ∃ captured ∈ names text,
      placeholder name <:+: (value captured).getD (placeholder captured) := by
  induction scan text with
  | done =>
      rw [fill, names, List.infix_nil]
      simp [placeholder]
  | @captured found after full open' _ inductionHypothesis =>
      rw [fill_placeholder full open', names_placeholder full open',
        (whole_getD whole found).toSealed.placeholder_infix_append_iff unclosed, inductionHypothesis]
      simp only [List.mem_cons, or_and_right, exists_or, exists_eq_left]
  | @copied first rest plain _ inductionHypothesis =>
      rw [fill_cons plain, names_cons plain, List.infix_cons_iff, inductionHypothesis, or_iff_right]
      rintro ⟨after, same⟩
      exact not_startsPlaceholder_fill whole plain ⟨name, after, nonempty, unclosed, same.symm⟩

/-- Where a filled text is the start of a placeholder, no placeholder was filled in. -/
theorem fill_eq_self_of_startOf {first : Char} {rest : List Char}
    (plain : ¬ StartsPlaceholder (first :: rest))
    (starts : StartOf name (first :: fill value rest)) : fill value rest = rest := by
  rcases starts.eq with alone | ⟨front, part, same⟩
  · obtain ⟨-, nothing⟩ := List.cons.inj alone
    rw [nothing, eq_nil_of_fill_eq_nil whole nothing]
  · obtain ⟨rfl, opened⟩ := List.cons.inj same
    obtain ⟨behind, rfl, filled⟩ := eq_cons_of_fill_eq_cons whole opened
    rw [startsPlaceholder_iff, Option.not_isSome_iff_eq_none] at plain
    rcases closing_of_capture?_eq_none plain with ⟨tail, rfl⟩ | absent
    · -- the name would have to contain the closing brace
      rw [fill_cons (by rintro ⟨_, _, _, _, other⟩; cases other)] at filled
      have shown : front = '\x7d' :: fill value tail := filled
      exact absurd (part.mem (by rw [shown]; exact List.mem_cons_self)) unclosed
    · exact fill_eq_self (by simp [absent])

/-- **A filling keeps the start of a placeholder at the end of a text, and makes none.** -/
theorem start_suffix_fill_iff (starts : StartOf name start) {text : List Char} :
    start <:+ fill value text ↔ start <:+ text := by
  induction scan text with
  | done => rw [fill]
  | @captured found after full open' _ inductionHypothesis =>
      rw [fill_placeholder full open',
        (whole_getD whole found).toSealed.start_suffix_append_iff unclosed starts,
        (whole_placeholder found).toSealed.start_suffix_append_iff unclosed starts,
        inductionHypothesis]
  | @copied first rest plain _ inductionHypothesis =>
      rw [fill_cons plain, List.suffix_cons_iff, List.suffix_cons_iff, inductionHypothesis]
      refine or_congr_left ?_
      constructor
      · rintro rfl
        rw [fill_eq_self_of_startOf unclosed whole plain starts]
      · rintro rfl
        have absent : '\x7d' ∉ rest := fun present => by
          simpa [opening, unclosed] using starts.within.mem (List.mem_cons_of_mem _ present)
        rw [fill_eq_self absent]

/-! ## Text behind a filled text -/

/-- A placeholder of a name occurs in a text that is filled in with more text behind it. -/
inductive LeftIn (value : List Char → Option (List Char)) (text more name : List Char) : Prop
  /-- It occurs within what stands for a captured name. -/
  | text {captured : List Char} (listed : captured ∈ names text)
      (within : placeholder name <:+: (value captured).getD (placeholder captured))
  /-- It occurs behind the text. -/
  | behind (within : placeholder name <:+: more)
  /-- It starts at the end of the text and ends behind it. -/
  | across {start rest : List Char} (whole : placeholder name = start ++ rest)
      (started : start ≠ []) (unfinished : rest ≠ []) (ends : start <:+ text)
      (goesOn : rest <+: more)

/-- **Where a placeholder occurs can be told before the text is filled in.** -/
theorem placeholder_infix_fill_append_iff (nonempty : name ≠ []) {text more : List Char} :
    placeholder name <:+: fill value text ++ more ↔ LeftIn value text more name := by
  rw [List.infix_append_iff_ne_nil, placeholder_infix_fill_iff unclosed whole nonempty]
  constructor
  · rintro (⟨captured, listed, within⟩ | within
      | ⟨start, rest, started, unfinished, split, ends, goesOn⟩)
    · exact .text listed within
    · exact .behind within
    · have starts := startOf_of_append started unfinished split
      rw [start_suffix_fill_iff unclosed whole starts] at ends
      exact .across split started unfinished ends goesOn
  · rintro (⟨listed, within⟩ | within | ⟨split, started, unfinished, ends, goesOn⟩)
    · exact .inl ⟨_, listed, within⟩
    · exact .inr (.inl within)
    · have starts := startOf_of_append started unfinished split
      rw [← start_suffix_fill_iff unclosed whole starts] at ends
      exact .inr (.inr ⟨_, _, started, unfinished, split, ends, goesOn⟩)

end Filled

/-- In a text a placeholder occurs only within that of a captured name. -/
theorem placeholder_infix_iff_exists (nonempty : name ≠ []) {text : List Char} :
    placeholder name <:+: text ↔
      ∃ captured ∈ names text, placeholder name <:+: placeholder captured := by
  have occurs : placeholder name <:+: fill (fun _ => none) text ↔
      ∃ captured ∈ names text, placeholder name <:+: placeholder captured :=
    placeholder_infix_fill_iff unclosed (fun _ _ missing => by cases missing) nonempty
  rwa [fill_none] at occurs

end Template

end Routebook

import Routebook.Proofs.Template.Filling

/-!
# Filling in filled texts

What is put into a text may hold placeholders of its own, which a further filling replaces.  Such a
text is whole when no placeholder can come about at its ends: every opening in it is closed, it does
not end in a dollar sign, and it does not start with an opening brace (`Template.Whole`).  Whole
texts are filled in side by side (`Template.fill_append`), and what whole values put into a text are
the names they hold themselves (`Template.mem_names_fill_iff`).  Filling in a text that was filled
with whole values is filling it in once, with values that were filled in themselves
(`Template.fill_fill`).
-/

namespace Routebook

set_option autoImplicit false

namespace Template

/-! ## Texts that can be put in -/

/-- A text out of which no placeholder can reach into what follows. -/
structure Sealed (text : List Char) : Prop where
  /-- Every opening is closed. -/
  closed : ∀ after, opening ++ after <:+ text → '\x7d' ∈ after
  /-- There is no dollar sign at the end. -/
  noDollar : ¬ ['$'] <:+ text

/-- A text that can be put in for a placeholder: no placeholder can reach out of it or into it. -/
structure Whole (text : List Char) : Prop extends Sealed text where
  nonempty : text ≠ []
  /-- It does not complete an opening. -/
  detached : ∀ rest, text ≠ '\x7b' :: rest

/-- A text in which no placeholder can start or end. -/
structure Inert (text : List Char) : Prop where
  nonempty : text ≠ []
  noDollar : '$' ∉ text
  noOpeningBrace : '\x7b' ∉ text

theorem Sealed.of_suffix {text rest : List Char} (closed : Sealed text) (later : rest <:+ text) :
    Sealed rest :=
  ⟨fun after opens => closed.closed after (opens.trans later),
    fun ends => closed.noDollar (ends.trans later)⟩

theorem sealed_of_not_mem {text : List Char} (absent : '$' ∉ text) : Sealed text where
  closed := fun _ opens => absurd (opens.mem (by simp [opening])) absent
  noDollar := fun ends => absent (ends.mem List.mem_cons_self)

theorem Inert.whole {text : List Char} (inert : Inert text) : Whole text where
  toSealed := sealed_of_not_mem inert.noDollar
  nonempty := inert.nonempty
  detached := fun _ same => inert.noOpeningBrace (same ▸ List.mem_cons_self)

/-- A placeholder is whole. -/
theorem whole_placeholder (name : List Char) : Whole (placeholder name) where
  closed := by
    intro after opens
    rw [placeholder_eq, List.suffix_concat_iff] at opens
    obtain ⟨front, same, -⟩ := opens.resolve_left (List.cons_ne_nil _ _)
    have brace : '\x7d' ∈ opening ++ after := by simp [same]
    simpa [opening] using brace
  noDollar := by
    intro ends
    rw [placeholder_eq, List.suffix_concat_iff] at ends
    obtain ⟨front, same, -⟩ := ends.resolve_left (List.cons_ne_nil _ _)
    have last := congrArg List.getLast? same
    simp at last
  nonempty := List.cons_ne_nil _ _
  detached := fun _ same => by cases same

/-- Nothing is captured from an inert text. -/
theorem Inert.names_eq_nil {text : List Char} (inert : Inert text) : names text = [] := by
  have none := names_append inert.noDollar []
  rwa [List.append_nil, names] at none

/-- A placeholder has its own name alone. -/
theorem names_placeholder_self {name : List Char} (nonempty : name ≠ []) (unclosed : '\x7d' ∉ name) :
    names (placeholder name) = [name] := by
  have alone : names (placeholder name ++ []) = name :: names [] :=
    names_placeholder nonempty unclosed
  rwa [List.append_nil, names] at alone

/-- The value of one name is the only one. -/
theorem whole_of_single (name : List Char) {replacement : List Char} (whole : Whole replacement) :
    ∀ other found, single name replacement other = some found → Whole found := by
  intro other found present
  rw [single] at present
  split at present
  · exact Option.some.inj present ▸ whole
  · cases present

/-! ## Side by side -/

/-- What does not start a placeholder does not start one when something follows. -/
theorem Sealed.not_startsPlaceholder_append {first : Char} {rest : List Char}
    (whole : Sealed (first :: rest)) (plain : ¬ StartsPlaceholder (first :: rest))
    (more : List Char) : ¬ StartsPlaceholder (first :: (rest ++ more)) := by
  intro starts
  have absent := not_mem_of_startsPlaceholder_append plain starts
  obtain ⟨name, after, -, -, same⟩ := starts
  obtain ⟨rfl, behind⟩ := List.cons.inj same
  cases rest with
  | nil => exact whole.noDollar (List.suffix_refl _)
  | cons second rest =>
      obtain ⟨rfl, -⟩ := List.cons.inj behind
      exact absent (List.mem_cons_of_mem _ (whole.closed rest (List.suffix_refl _)))

variable {value : List Char → Option (List Char)} {before : List Char}

/-- A sealed text is filled in on its own. -/
theorem fill_append (whole : Sealed before) (text : List Char) :
    fill value (before ++ text) = fill value before ++ fill value text := by
  induction scan before with
  | done => rw [fill, List.nil_append, List.nil_append]
  | captured nonempty unclosed _ inductionHypothesis =>
      rw [List.append_assoc, fill_placeholder nonempty unclosed, fill_placeholder nonempty unclosed,
        inductionHypothesis (whole.of_suffix (List.suffix_append _ _)), List.append_assoc]
  | copied plain _ inductionHypothesis =>
      rw [List.cons_append, fill_cons (whole.not_startsPlaceholder_append plain text),
        fill_cons plain, inductionHypothesis (whole.of_suffix (List.suffix_cons _ _)),
        List.cons_append]

/-- The names of a sealed text are captured on their own. -/
theorem names_append_of_sealed (whole : Sealed before) (text : List Char) :
    names (before ++ text) = names before ++ names text := by
  induction scan before with
  | done => rw [names, List.nil_append, List.nil_append]
  | captured nonempty unclosed _ inductionHypothesis =>
      rw [List.append_assoc, names_placeholder nonempty unclosed,
        names_placeholder nonempty unclosed,
        inductionHypothesis (whole.of_suffix (List.suffix_append _ _)), List.cons_append]
  | copied plain _ inductionHypothesis =>
      rw [List.cons_append, names_cons (whole.not_startsPlaceholder_append plain text),
        names_cons plain, inductionHypothesis (whole.of_suffix (List.suffix_cons _ _))]

/-! ## Filled texts -/

section Filled

variable (whole : ∀ name replacement, value name = some replacement → Whole replacement)
include whole

/-- What stands for a captured name is whole. -/
theorem whole_getD (name : List Char) : Whole ((value name).getD (placeholder name)) := by
  cases found : value name with
  | none => exact whole_placeholder name
  | some replacement => exact whole name replacement found

/-- Only an empty text is empty when it is filled in. -/
theorem eq_nil_of_fill_eq_nil {text : List Char} (same : fill value text = []) : text = [] := by
  cases scan text with
  | done => rfl
  | @captured found after full open' _ =>
      rw [fill_placeholder full open'] at same
      exact absurd (List.append_eq_nil_iff.mp same).1 (whole_getD whole found).nonempty
  | copied plain _ =>
      rw [fill_cons plain] at same
      cases same

/-- A filled text starts with an opening brace only where the text itself does. -/
theorem eq_cons_of_fill_eq_cons {text tail : List Char} (same : fill value text = '\x7b' :: tail) :
    ∃ rest, text = '\x7b' :: rest ∧ tail = fill value rest := by
  cases scan text with
  | done => rw [fill] at same; cases same
  | @captured name after nonempty unclosed _ =>
      rw [fill_placeholder nonempty unclosed] at same
      have put := whole_getD whole name
      cases shown : (value name).getD (placeholder name) with
      | nil => exact absurd shown put.nonempty
      | cons character rest =>
          rw [shown] at same
          obtain ⟨rfl, -⟩ := List.cons.inj same
          exact absurd shown (put.detached rest)
  | @copied first rest plain _ =>
      rw [fill_cons plain] at same
      obtain ⟨rfl, rfl⟩ := List.cons.inj same
      exact ⟨rest, rfl, rfl⟩

/-- Where no placeholder starts in a text, none starts in the filled text either. -/
theorem not_startsPlaceholder_fill {first : Char} {rest : List Char}
    (plain : ¬ StartsPlaceholder (first :: rest)) :
    ¬ StartsPlaceholder (first :: fill value rest) := by
  rintro ⟨name, after, nonempty, unclosed, same⟩
  simp only [placeholder, List.cons_append, List.append_assoc, List.nil_append,
    List.cons.injEq] at same
  obtain ⟨rfl, same⟩ := same
  obtain ⟨behind, rfl, filled⟩ := eq_cons_of_fill_eq_cons whole same
  rw [startsPlaceholder_iff, Option.not_isSome_iff_eq_none] at plain
  rcases closing_of_capture?_eq_none plain with ⟨tail, rfl⟩ | absent
  · -- the name would have to start with the closing brace
    rw [fill_cons (by rintro ⟨_, _, _, _, other⟩; cases other)] at filled
    cases name with
    | nil => exact nonempty rfl
    | cons character name =>
        obtain ⟨rfl, -⟩ := List.cons.inj filled
        exact unclosed List.mem_cons_self
  · rw [fill_eq_self absent] at filled
    exact absent (by rw [← filled]; simp)

/-- **A filled text has the names that have no value, and those of the values put in.** -/
theorem mem_names_fill_iff {text captured : List Char} :
    captured ∈ names (fill value text) ↔ ∃ name ∈ names text,
      captured ∈ names ((value name).getD (placeholder name)) := by
  induction scan text with
  | done => rw [fill, names]; simp
  | @captured name after nonempty unclosed _ inductionHypothesis =>
      rw [fill_placeholder nonempty unclosed, names_placeholder nonempty unclosed,
        names_append_of_sealed (whole_getD whole name).toSealed, List.mem_append,
        inductionHypothesis]
      simp only [List.mem_cons, or_and_right, exists_or, exists_eq_left]
  | copied plain _ inductionHypothesis =>
      rw [fill_cons plain, names_cons plain,
        names_cons (not_startsPlaceholder_fill whole plain), inductionHypothesis]

/-- A filled text has no other names than the text and the values. -/
theorem names_fill_subset {text : List Char} {allowed : List (List Char)}
    (own : names text ⊆ allowed)
    (brought : ∀ name replacement, value name = some replacement → names replacement ⊆ allowed) :
    names (fill value text) ⊆ allowed := by
  intro captured listed
  obtain ⟨name, earlier, within⟩ := (mem_names_fill_iff whole).mp listed
  cases found : value name with
  | none =>
      obtain ⟨full, unclosed⟩ := captured_of_mem_names earlier
      rw [found, Option.getD_none, names_placeholder_self full unclosed, List.mem_singleton] at within
      exact within ▸ own earlier
  | some replacement =>
      rw [found, Option.getD_some] at within
      exact brought name replacement found within

/-- **Filling in a filled text is filling in the text with filled values.**  A name without a value
in the first filling gets the one that it has in the second. -/
theorem fill_fill (later : List Char → Option (List Char)) (text : List Char) :
    fill later (fill value text)
      = fill (fun name => ((value name).map (fill later)).or (later name)) text := by
  induction scan text with
  | done => rw [fill, fill, fill]
  | @captured name after nonempty unclosed _ inductionHypothesis =>
      rw [fill_placeholder nonempty unclosed, fill_placeholder nonempty unclosed]
      cases found : value name with
      | none =>
          rw [Option.getD_none, fill_placeholder nonempty unclosed, inductionHypothesis,
            Option.map_none, Option.none_or]
      | some replacement =>
          rw [Option.getD_some, fill_append (whole name replacement found).toSealed,
            inductionHypothesis, Option.map_some, Option.some_or, Option.getD_some]
  | copied plain _ inductionHypothesis =>
      rw [fill_cons plain, fill_cons (not_startsPlaceholder_fill whole plain), fill_cons plain,
        inductionHypothesis]

end Filled

/-- A text filled in with inert values has the names that have no value. -/
theorem mem_names_fill_iff_of_inert
    (inert : ∀ name replacement, value name = some replacement → Inert replacement)
    {text captured : List Char} :
    captured ∈ names (fill value text) ↔ captured ∈ names text ∧ value captured = none := by
  rw [mem_names_fill_iff fun name replacement found => (inert name replacement found).whole]
  constructor
  · rintro ⟨name, listed, within⟩
    cases found : value name with
    | none =>
        obtain ⟨full, unclosed⟩ := captured_of_mem_names listed
        rw [found, Option.getD_none, names_placeholder_self full unclosed,
          List.mem_singleton] at within
        subst within
        exact ⟨listed, found⟩
    | some replacement =>
        rw [found, Option.getD_some, (inert name replacement found).names_eq_nil] at within
        cases within
  · rintro ⟨listed, missing⟩
    obtain ⟨full, unclosed⟩ := captured_of_mem_names listed
    refine ⟨captured, listed, ?_⟩
    rw [missing, Option.getD_none, names_placeholder_self full unclosed]
    exact List.mem_singleton_self _

end Template

end Routebook

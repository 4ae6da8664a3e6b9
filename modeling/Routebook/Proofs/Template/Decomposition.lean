import Routebook.Proofs.Template.Scan

/-!
# What a pattern says about its template

A template can be written with placeholders in many ways, if only their names have to be legal: the
text between two of them may hold further openings.  It can be written in a single way such that
between the placeholders every opening is closed at once, and after the last of them an opening is
closed at once or never (`Template.Decomposition`).  The names in this writing are the captured ones
(`Template.decomposition_iff`): from left to right, the first opening that is neither closed at once
nor left open begins the first placeholder.

Together with the first question mark, and the bars after it, this fixes the parsed form of every
template (`Template.parse_describes`).
-/

namespace Routebook

set_option autoImplicit false

namespace Template

/-! ## Gaps -/

/-- Every opening in a text is closed at once. -/
def ClosedAtOnce (text : List Char) : Prop :=
  ∀ after, opening ++ after <:+ text → ['\x7d'] <+: after

/-- Every opening in a text is closed at once or never. -/
def ClosedAtOnceOrNever (text : List Char) : Prop :=
  ∀ after, opening ++ after <:+ text → ['\x7d'] <+: after ∨ '\x7d' ∉ after

theorem ClosedAtOnce.tail {first : Char} {rest : List Char}
    (closed : ClosedAtOnce (first :: rest)) : ClosedAtOnce rest :=
  fun after opens => closed after (opens.trans (List.suffix_cons _ _))

theorem ClosedAtOnceOrNever.tail {first : Char} {rest : List Char}
    (closed : ClosedAtOnceOrNever (first :: rest)) : ClosedAtOnceOrNever rest :=
  fun after opens => closed after (opens.trans (List.suffix_cons _ _))

/-- An opening stands at the start of a text or in the rest of it. -/
theorem opening_suffix_cons {first : Char} {rest after : List Char} :
    opening ++ after <:+ first :: rest
      ↔ first = '$' ∧ rest = '\x7b' :: after ∨ opening ++ after <:+ rest := by
  rw [List.suffix_cons_iff]
  refine or_congr_left ⟨?_, ?_⟩
  · intro same
    obtain ⟨rfl, rfl⟩ := List.cons.inj same
    exact ⟨rfl, rfl⟩
  · rintro ⟨rfl, rfl⟩
    rfl

/-- What starts a placeholder is an opening behind which a name is captured. -/
theorem exists_capture_of_startsPlaceholder {first : Char} {rest : List Char}
    (starts : StartsPlaceholder (first :: rest)) :
    first = '$' ∧ ∃ behind, rest = '\x7b' :: behind ∧ (capture? behind).isSome := by
  have opened := starts
  obtain ⟨name, after, -, -, same⟩ := starts
  obtain ⟨rfl, rfl⟩ := List.cons.inj same
  exact ⟨rfl, _, rfl, startsPlaceholder_iff.mp opened⟩

/-- No name is captured behind an opening that is closed at once. -/
theorem capture?_closing {text : List Char} (closing : ['\x7d'] <+: text) : capture? text = none := by
  obtain ⟨rest, rfl⟩ := closing
  rfl

/-- No name is captured behind an opening that is never closed. -/
theorem capture?_of_not_mem {text : List Char} (absent : '\x7d' ∉ text) : capture? text = none := by
  rw [capture?, Text.cut_of_not_mem absent]
  cases text <;> rfl

/-! ## Writing a text with placeholders -/

/-- A text is written with the placeholders of some names: between them every opening is closed at
once, and after the last of them every opening is closed at once or never. -/
inductive Decomposition : List Char → List (List Char) → Prop
  | last {text : List Char} (settled : ClosedAtOnceOrNever text) : Decomposition text []
  | placeholder {gap name after : List Char} {names : List (List Char)} (settled : ClosedAtOnce gap)
      (nonempty : name ≠ []) (unclosed : '\x7d' ∉ name) (next : Decomposition after names) :
      Decomposition (gap ++ (placeholder name ++ after)) (name :: names)

/-- Nothing is captured where openings are closed at once or never. -/
theorem names_of_closedAtOnceOrNever {text : List Char} (closed : ClosedAtOnceOrNever text) :
    names text = [] := by
  induction text with
  | nil => rw [names]
  | cons first rest inductionHypothesis =>
      rw [names_cons, inductionHypothesis closed.tail]
      intro starts
      obtain ⟨rfl, behind, rfl, captured⟩ := exists_capture_of_startsPlaceholder starts
      rcases closed behind (List.suffix_refl _) with closing | absent
      · rw [capture?_closing closing] at captured
        cases captured
      · rw [capture?_of_not_mem absent] at captured
        cases captured

/-- A gap contributes no names to what stands behind it. -/
theorem names_gap {gap name after : List Char} (closed : ClosedAtOnce gap) (nonempty : name ≠ [])
    (unclosed : '\x7d' ∉ name) :
    names (gap ++ (placeholder name ++ after)) = name :: names after := by
  induction gap with
  | nil => exact names_placeholder nonempty unclosed
  | cons first gap inductionHypothesis =>
      rw [List.cons_append, names_cons, inductionHypothesis closed.tail]
      intro starts
      obtain ⟨rfl, behind, same, captured⟩ := exists_capture_of_startsPlaceholder starts
      -- The opening lies in the gap, for the placeholder behind it begins with a dollar sign.
      cases gap with
      | nil => cases same
      | cons second gap =>
          obtain ⟨rfl, continued⟩ := List.cons.inj same
          have closing : ['\x7d'] <+: behind :=
            (closed gap (List.suffix_refl _)).trans ⟨placeholder name ++ after, continued⟩
          rw [capture?_closing closing] at captured
          cases captured

/-- A character at which no placeholder starts can be put before a writing. -/
theorem Decomposition.cons {first : Char} {rest : List Char} {names : List (List Char)}
    (plain : ¬ StartsPlaceholder (first :: rest)) (written : Decomposition rest names) :
    Decomposition (first :: rest) names := by
  cases written with
  | last settled =>
      refine .last fun after opens => ?_
      rcases opening_suffix_cons.mp opens with ⟨rfl, rfl⟩ | later
      · rw [startsPlaceholder_iff, Option.not_isSome_iff_eq_none] at plain
        rcases closing_of_capture?_eq_none plain with ⟨tail, rfl⟩ | absent
        · exact .inl ⟨tail, rfl⟩
        · exact .inr absent
      · exact settled after later
  | @placeholder gap name after names settled nonempty unclosed next =>
      rw [← List.cons_append]
      refine .placeholder (fun behind opens => ?_) nonempty unclosed next
      rcases opening_suffix_cons.mp opens with ⟨rfl, rfl⟩ | later
      · -- The placeholder behind the gap has a closing brace, so this opening is closed at once.
        rw [List.cons_append, startsPlaceholder_iff, Option.not_isSome_iff_eq_none] at plain
        rcases closing_of_capture?_eq_none plain with ⟨tail, same⟩ | absent
        · cases behind with
          | nil => cases same
          | cons second behind =>
              obtain ⟨rfl, -⟩ := List.cons.inj same
              exact ⟨behind, rfl⟩
        · exact absurd (by simp [Template.placeholder]) absent
      · exact settled behind later

/-- A text can be written with the names that are captured from it. -/
theorem decomposition_names (text : List Char) : Decomposition text (names text) := by
  induction scan text with
  | done =>
      rw [names]
      exact .last fun after opens => absurd (List.suffix_nil.mp opens) (List.cons_ne_nil _ _)
  | @captured name after nonempty unclosed _ inductionHypothesis =>
      rw [names_placeholder nonempty unclosed, ← List.nil_append (placeholder name ++ after)]
      refine .placeholder (fun behind opens => ?_) nonempty unclosed inductionHypothesis
      exact absurd (List.suffix_nil.mp opens) (List.cons_ne_nil _ _)
  | copied plain _ inductionHypothesis =>
      rw [names_cons plain]
      exact inductionHypothesis.cons plain

/-- **The captured names are the only ones that a text can be written with.** -/
theorem decomposition_iff {text : List Char} {list : List (List Char)} :
    Decomposition text list ↔ list = names text := by
  constructor
  · intro written
    induction written with
    | last settled => exact (names_of_closedAtOnceOrNever settled).symm
    | placeholder settled nonempty unclosed _ inductionHypothesis =>
        rw [names_gap settled nonempty unclosed, inductionHypothesis]
  · rintro rfl
    exact decomposition_names text

end Template

/-! ## Parsed forms -/

/-- What a pattern says about the template that it is the parsed form of. -/
structure Pattern.Describes (pattern : Pattern) (template : String) : Prop where
  /-- The path variables are the names that the template can be written with, and no others are. -/
  names : ∀ names : List String,
    Template.Decomposition template.toList (names.map String.toList) ↔ names = pattern.pathVariables
  /-- The path has no question mark. -/
  path : '?' ∉ pattern.literalPath.toList
  /-- A template without a question mark is all path, and names no query parameters. -/
  plain : '?' ∉ template.toList → pattern.literalPath = template ∧ pattern.queryNames = []
  /-- Of any other template the first question mark ends the path, and the query parameters are the
  pieces of the rest between its bars, of which there is at least one. -/
  query : '?' ∈ template.toList → ∃ rest,
    template.toList = pattern.literalPath.toList ++ '?' :: rest ∧ pattern.queryNames ≠ [] ∧
      ∀ name, name ∈ pattern.queryNames ↔ Text.IsPiece '|' rest name.toList
  /-- Every query parameter is named once. -/
  once : pattern.queryNames.Nodup

namespace Template

/-- The path variables of a template are its captured names. -/
theorem toList_pathVariables (template : String) :
    (parse template).pathVariables.map String.toList = names template.toList := by
  simp [parse, List.map_map, Function.comp_def]

/-- A template without a question mark has no query. -/
theorem parse_of_not_mem {template : String} (absent : '?' ∉ template.toList) :
    (parse template).literalPath = template ∧ (parse template).queryNames = [] := by
  simp [parse, Text.cut_of_not_mem absent]

/-- The first question mark of a template divides its path from its query names. -/
theorem parse_of_append {template : String} {path rest : List Char} (absent : '?' ∉ path)
    (whole : template.toList = path ++ '?' :: rest) :
    (parse template).literalPath.toList = path ∧
      (parse template).queryNames = ((Text.split '|' rest).map String.ofList).eraseDups := by
  simp [parse, whole, Text.cut_append absent]

/-- The query names of a template are the pieces of what stands behind its first question mark. -/
theorem mem_queryNames_iff {rest : List Char} {name : String} :
    name ∈ ((Text.split '|' rest).map String.ofList).eraseDups
      ↔ Text.IsPiece '|' rest name.toList := by
  rw [List.mem_eraseDups, List.mem_map, ← Text.mem_split_iff]
  constructor
  · rintro ⟨piece, found, rfl⟩
    rwa [String.toList_ofList]
  · intro found
    exact ⟨name.toList, found, String.ofList_toList⟩

/-- Behind a question mark there is at least one query name. -/
theorem queryNames_ne_nil (rest : List Char) :
    ((Text.split '|' rest).map String.ofList).eraseDups ≠ [] := by
  obtain ⟨piece, pieces, found⟩ := List.exists_cons_of_ne_nil (Text.split_ne_nil '|' rest)
  refine List.ne_nil_of_mem (a := String.ofList piece) ?_
  rw [List.mem_eraseDups, found]
  exact List.mem_cons_self

/-- A template names every query parameter once. -/
theorem nodup_queryNames (template : String) : (parse template).queryNames.Nodup := by
  by_cases present : '?' ∈ template.toList
  · obtain ⟨path, rest, whole, absent⟩ := List.eq_append_cons_of_mem present
    rw [(parse_of_append absent whole).2]
    exact nodup_eraseDups _
  · rw [(parse_of_not_mem present).2]
    exact List.nodup_nil

/-- **The parsed form of a text describes it, whatever the text.** -/
theorem parse_describes (template : String) : (parse template).Describes template := by
  refine
    { names := ?_
      path := ?_
      plain := fun absent => parse_of_not_mem absent
      query := ?_
      once := nodup_queryNames template }
  · intro names
    rw [decomposition_iff, ← toList_pathVariables]
    exact List.map_inj_right fun _ _ => String.toList_inj.mp
  · have path : (parse template).literalPath.toList = (Text.cut '?' template.toList).1 :=
      String.toList_ofList
    rw [path]
    exact Text.not_mem_cut_fst _ _
  · intro present
    obtain ⟨path, rest, whole, absent⟩ := List.eq_append_cons_of_mem present
    obtain ⟨literal, queryNames⟩ := parse_of_append absent whole
    rw [literal, queryNames]
    exact ⟨rest, whole, queryNames_ne_nil rest, fun name => mem_queryNames_iff⟩

/-- A dollar sign before a placeholder, an opening inside of one, openings that are closed at once
or never, and a name that the question mark is part of. -/
example : parse "$$\x7ba\x7d$\x7b\x7d$\x7bx$\x7ba\x7d$\x7bb?c\x7d|d||$\x7b"
    = ⟨"$$\x7ba\x7d$\x7b\x7d$\x7bx$\x7ba\x7d$\x7bb", ["a", "x$\x7ba", "b?c"],
        ["c\x7d", "d", "", "$\x7b"]⟩ := by
  decide +kernel

end Template

end Routebook

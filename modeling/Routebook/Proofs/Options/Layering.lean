import Routebook.Options
import Routebook.Proofs.Store.Entries
import Routebook.Proofs.Value.Overlay

/-!
# Layers of options

Merging two layers of options lays one over the other and combines their header fields
(`Options.merge_eq`).  Merging is associative, its failures and the order of the keys included
(`Options.merge_assoc`), and the options without entries are neutral.  So what a stack of layers
comes to can be read off the layers: every option is that of the uppermost layer with it, and the
header fields are those of all layers, laid over one another (`Options.Stacked`).
-/

namespace Routebook.Options

set_option autoImplicit false

open Value

/-! ## Header fields -/

/-- The header option of a layer. -/
def headers? (layer : Entries) : Option Value := lookupText "headers" layer

/-- The header option of two layers together. -/
def combine : Option Value → Option Value → Except Failure (Option Value)
  | some lower, some upper => do
      return some (.mapping (overlay (ofPairs (← requireMapping lower)) (← requireMapping upper)))
  | some lower, none => .ok (some lower)
  | none, upper => .ok upper

/-- Options with a header option, if there is one. -/
def withHeaders (headers : Option Value) (entries : Entries) : Entries :=
  match headers with
  | some value => insertText "headers" value entries
  | none => entries

/-- The header fields of a header option. -/
def fieldsOf : Option Value → Entries
  | some value => (requireMapping value).toOption.getD []
  | none => []

/-- The header fields of a layer. -/
def fields (layer : Entries) : Entries := fieldsOf (headers? layer)

theorem hashable_headers : (Value.text "headers").isHashable = true := rfl

theorem same_headers : same (.text "headers") (.text "headers") = true :=
  Store.same_text.mpr rfl

section Combining

variable {lower middle upper combined : Option Value}

/-- Whether a header option, if it is a mapping, is one with keys of its own. -/
def FieldsKeyed (headers : Option Value) : Prop :=
  ∀ value ∈ headers, ∀ entries, requireMapping value = .ok entries → Keyed entries

/-- Whether a header option is a mapping, if there is one. -/
def Mapped (headers : Option Value) : Prop :=
  ∀ value ∈ headers, ∃ entries, requireMapping value = .ok entries ∧ Keyed entries

instance (headers : Option Value) : Decidable (Mapped headers) :=
  match headers with
  | none => isTrue nofun
  | some value =>
      match required : requireMapping value with
      | .ok entries =>
          decidable_of_iff (Keyed entries) ⟨fun keyed _ same => by
            cases same
            exact ⟨entries, required, keyed⟩, fun mapped => by
            obtain ⟨others, same, keyed⟩ := mapped value rfl
            rw [required] at same
            cases same
            exact keyed⟩
      | .error failure => isFalse fun mapped => by
          obtain ⟨entries, same, -⟩ := mapped value rfl
          rw [required] at same
          cases same

theorem requireMapping_mapping (entries : Entries) :
    requireMapping (.mapping entries) = .ok entries := rfl

/-- A value that is required to be a mapping and is none. -/
theorem eq_wrongType_of_requireMapping {value : Value} {failure : Failure}
    (required : requireMapping value = .error failure) : failure = .wrongType := by
  unfold requireMapping at required
  split at required
  · cases required
  · cases required
    rfl

section Mappings

variable {bottom top : Value} {entries others : Entries}

theorem combine_of_ok (required : requireMapping bottom = .ok entries)
    (alsoRequired : requireMapping top = .ok others) :
    combine (some bottom) (some top)
      = .ok (some (.mapping (overlay (ofPairs entries) others))) := by
  unfold combine
  dsimp only
  rw [required, alsoRequired]
  rfl

theorem combine_of_error_left {failure : Failure}
    (required : requireMapping bottom = .error failure) :
    combine (some bottom) (some top) = .error .wrongType := by
  unfold combine
  dsimp only
  rw [required, eq_wrongType_of_requireMapping required]
  rfl

theorem combine_of_error_right {failure : Failure}
    (required : requireMapping top = .error failure) :
    combine (some bottom) (some top) = .error .wrongType := by
  cases given : requireMapping bottom with
  | error other => exact combine_of_error_left given
  | ok entries =>
      unfold combine
      dsimp only
      rw [given, required, eq_wrongType_of_requireMapping required]
      rfl

end Mappings

theorem isSome_of_combine_left {value : Value}
    (run : combine (some value) upper = .ok combined) : combined.isSome := by
  cases upper with
  | none =>
      cases run
      rfl
  | some other =>
      cases required : requireMapping value with
      | error failure =>
          rw [combine_of_error_left required] at run
          cases run
      | ok entries =>
          cases alsoRequired : requireMapping other with
          | error failure =>
              rw [combine_of_error_right alsoRequired] at run
              cases run
          | ok others =>
              rw [combine_of_ok required alsoRequired] at run
              cases run
              rfl

theorem isSome_of_combine_right {value : Value}
    (run : combine lower (some value) = .ok combined) : combined.isSome := by
  cases lower with
  | none =>
      cases run
      rfl
  | some other => exact isSome_of_combine_left run

theorem eq_wrongType_of_combine {failure : Failure}
    (run : combine lower upper = .error failure) : failure = .wrongType := by
  cases lower with
  | none => cases run
  | some bottom =>
      cases upper with
      | none => cases run
      | some top =>
          cases required : requireMapping bottom with
          | error other =>
              rw [combine_of_error_left required] at run
              exact (Except.error.inj run).symm
          | ok entries =>
              cases alsoRequired : requireMapping top with
              | error other =>
                  rw [combine_of_error_right alsoRequired] at run
                  exact (Except.error.inj run).symm
              | ok others =>
                  rw [combine_of_ok required alsoRequired] at run
                  cases run

/-- Two layers without a header option have none together. -/
theorem eq_none_of_combine (run : combine lower upper = .ok none) :
    lower = none ∧ upper = none := by
  cases lower with
  | none =>
      cases run
      exact ⟨rfl, rfl⟩
  | some value => cases isSome_of_combine_left run

/-- One of two layers with a header option together has one. -/
theorem isSome_or_of_combine {value : Value} (run : combine lower upper = .ok (some value)) :
    (upper.or lower).isSome := by
  cases lower with
  | none =>
      cases run
      rfl
  | some bottom => cases upper <;> rfl

/-- Header options that all layers have are combined in any order: the first one that is no mapping
is the failure, and three mappings are laid over one another. -/
theorem combine_assoc_some {bottom center top : Value} (first : FieldsKeyed (some bottom))
    (second : FieldsKeyed (some center)) (third : FieldsKeyed (some top)) :
    (combine (some bottom) (some center)).bind (combine · (some top))
      = (combine (some center) (some top)).bind (combine (some bottom) ·) := by
  cases required : requireMapping bottom with
  | error failure =>
      rw [combine_of_error_left required]
      cases run : combine (some center) (some top) with
      | error other => exact (eq_wrongType_of_combine run) ▸ rfl
      | ok combined =>
          obtain ⟨value, rfl⟩ := Option.isSome_iff_exists.mp (isSome_of_combine_left run)
          exact (combine_of_error_left required).symm
  | ok entries =>
      cases central : requireMapping center with
      | error failure =>
          rw [combine_of_error_right central, combine_of_error_left central]
          rfl
      | ok others =>
          rw [combine_of_ok required central]
          cases uppermost : requireMapping top with
          | error failure =>
              rw [combine_of_error_right uppermost]
              exact combine_of_error_right uppermost
          | ok finals =>
              have keyed := first bottom rfl entries required
              have alsoKeyed := second center rfl others central
              have last := third top rfl finals uppermost
              rw [combine_of_ok central uppermost]
              change combine (some (.mapping _)) (some top)
                = combine (some bottom) (some (.mapping _))
              rw [combine_of_ok (requireMapping_mapping _) uppermost,
                combine_of_ok required (requireMapping_mapping _), ofPairs_of_keyed keyed,
                ofPairs_of_keyed alsoKeyed,
                ofPairs_of_keyed (keyed.overlay alsoKeyed.hashable),
                overlay_assoc keyed.hashable alsoKeyed last.hashable]

/-- **Combining header options is associative, whether or not they are mappings.** -/
theorem combine_assoc (first : FieldsKeyed lower) (second : FieldsKeyed middle)
    (third : FieldsKeyed upper) :
    (combine lower middle).bind (combine · upper)
      = (combine middle upper).bind (combine lower ·) := by
  cases lower with
  | none =>
      cases run : combine middle upper with
      | error failure => exact run
      | ok combined => exact run
  | some bottom =>
      cases middle with
      | none => rfl
      | some center =>
          cases upper with
          | none =>
              cases run : combine (some bottom) (some center) with
              | error failure => exact run.symm
              | ok combined =>
                  obtain ⟨value, rfl⟩ := Option.isSome_iff_exists.mp (isSome_of_combine_left run)
                  exact run.symm
          | some top => exact combine_assoc_some first second third

/-- Header options that are mappings have the fields of both together. -/
theorem exists_combine (first : Mapped lower) (second : Mapped upper) :
    ∃ combined, combine lower upper = .ok combined ∧ Mapped combined ∧
      fieldsOf combined = overlay (fieldsOf lower) (fieldsOf upper) ∧
      combined.isSome = (lower.isSome || upper.isSome) := by
  cases lower with
  | none =>
      refine ⟨upper, rfl, second, ?_, (Bool.false_or _).symm⟩
      cases upper with
      | none => rfl
      | some value =>
          obtain ⟨entries, required, keyed⟩ := second value rfl
          simp only [fieldsOf, required]
          exact (ofPairs_of_keyed keyed).symm
  | some bottom =>
      obtain ⟨entries, required, keyed⟩ := first bottom rfl
      cases upper with
      | none => exact ⟨some bottom, rfl, first, rfl, rfl⟩
      | some top =>
          obtain ⟨others, alsoRequired, alsoKeyed⟩ := second top rfl
          refine ⟨some (.mapping (overlay entries others)), ?_, ?_, ?_, rfl⟩
          · rw [combine_of_ok required alsoRequired, ofPairs_of_keyed keyed]
          · rintro value ⟨⟩
            exact ⟨_, requireMapping_mapping _, keyed.overlay alsoKeyed.hashable⟩
          · simp only [fieldsOf, required, alsoRequired, requireMapping_mapping]
            rfl

end Combining

/-! ## Merging -/

/-- Options of a layer: a mapping, whose header fields, if they are one, are a mapping too. -/
structure WellFormed (layer : Entries) : Prop where
  keyed : Keyed layer
  fields : FieldsKeyed (headers? layer)

section Merging

variable {lower middle upper : Entries}

theorem headers?_overlay (hashable : ∀ entry ∈ lower, entry.1.isHashable = true)
    (keyed : Keyed upper) :
    headers? (overlay lower upper) = (headers? upper).or (headers? lower) :=
  lookup_overlay hashable keyed hashable_headers

theorem headers?_withHeaders {headers : Option Value} {entries : Entries}
    (hashable : ∀ entry ∈ entries, entry.1.isHashable = true) :
    headers? (withHeaders headers entries) = headers.or (headers? entries) := by
  cases headers with
  | none => rfl
  | some value =>
      have found := @lookup_insert _ _ value _ hashable hashable_headers hashable_headers
      exact found.trans (if_pos same_headers)

/-- **Merging lays one layer over the other and combines their header options.** -/
theorem merge_eq (hashable : ∀ entry ∈ lower, entry.1.isHashable = true) (keyed : Keyed upper) :
    merge lower upper = (combine (headers? lower) (headers? upper)).map
      fun headers => withHeaders headers (overlay lower upper) := by
  have found := headers?_overlay hashable keyed
  unfold merge mergeHeaders
  cases below : headers? lower with
  | none =>
      have absent : lookupText "headers" lower = none := below
      rw [absent]
      cases above : headers? upper with
      | none => rfl
      | some value =>
          rw [above] at found
          exact congrArg Except.ok (insert_of_lookup found).symm
  | some bottom =>
      have present : lookupText "headers" lower = some bottom := below
      rw [present]
      cases above : headers? upper with
      | none =>
          have absent : lookupText "headers" upper = none := above
          rw [above, below] at found
          rw [absent]
          exact congrArg Except.ok (insert_of_lookup found).symm
      | some top =>
          have alsoPresent : lookupText "headers" upper = some top := above
          rw [alsoPresent]
          unfold combine
          dsimp only
          cases requireMapping bottom with
          | error failure => rfl
          | ok entries =>
              cases requireMapping top with
              | error failure => rfl
              | ok others => rfl

/-- Options that come first are neutral if they have no entries. -/
theorem merge_nil_left (wellFormed : WellFormed upper) : merge [] upper = .ok upper := by
  have absent : headers? [] = none := rfl
  rw [merge_eq Keyed.nil.hashable wellFormed.keyed, absent]
  have laid : overlay [] upper = upper := ofPairs_of_keyed wellFormed.keyed
  rw [laid]
  cases found : headers? upper with
  | none => rfl
  | some value => exact congrArg Except.ok (insert_of_lookup found)

/-- Options that come last are neutral if they have no entries. -/
theorem merge_nil_right (wellFormed : WellFormed lower) : merge lower [] = .ok lower := by
  have absent : headers? [] = none := rfl
  rw [merge_eq wellFormed.keyed.hashable .nil, absent, overlay_nil]
  cases found : headers? lower with
  | none => rfl
  | some value => exact congrArg Except.ok (insert_of_lookup found)

/-- The header option of merged layers is that of both together. -/
theorem headers?_of_combine {combined : Option Value}
    (hashable : ∀ entry ∈ lower, entry.1.isHashable = true) (keyed : Keyed upper)
    (run : combine (headers? lower) (headers? upper) = .ok combined) :
    headers? (withHeaders combined (overlay lower upper)) = combined := by
  rw [headers?_withHeaders (hashable_overlay hashable keyed.hashable),
    headers?_overlay hashable keyed]
  cases combined with
  | some value => rfl
  | none =>
      obtain ⟨below, above⟩ := eq_none_of_combine run
      rw [below, above]
      rfl

theorem keyed_withHeaders {entries : Entries} (keyed : Keyed entries) (headers : Option Value) :
    Keyed (withHeaders headers entries) := by
  cases headers with
  | none => exact keyed
  | some value => exact keyed.insert hashable_headers

/-- A third layer over two merged ones. -/
theorem merge_bind_left (first : WellFormed lower) (second : WellFormed middle)
    (third : WellFormed upper) :
    (merge lower middle).bind (merge · upper)
      = ((combine (headers? lower) (headers? middle)).bind (combine · (headers? upper))).map
          fun headers => withHeaders headers (overlay (overlay lower middle) upper) := by
  have laid := Keyed.overlay first.keyed second.keyed.hashable
  rw [merge_eq first.keyed.hashable second.keyed]
  cases run : combine (headers? lower) (headers? middle) with
  | error failure => rfl
  | ok combined =>
      have own := headers?_of_combine first.keyed.hashable second.keyed run
      change merge (withHeaders combined (overlay lower middle)) upper
        = (combine combined (headers? upper)).map _
      rw [merge_eq (keyed_withHeaders laid combined).hashable third.keyed, own]
      cases next : combine combined (headers? upper) with
      | error failure => rfl
      | ok final =>
          refine congrArg Except.ok ?_
          cases combined with
          | none => rfl
          | some value =>
              obtain ⟨last, rfl⟩ := Option.isSome_iff_exists.mp (isSome_of_combine_left next)
              have there : (headers? (overlay lower middle)).isSome := by
                rw [headers?_overlay first.keyed.hashable second.keyed]
                exact isSome_or_of_combine run
              exact insert_overlay_insert laid.hashable third.keyed.hashable hashable_headers
                same_headers there

/-- Two merged layers over a third one. -/
theorem merge_bind_right (first : WellFormed lower) (second : WellFormed middle)
    (third : WellFormed upper) :
    (merge middle upper).bind (merge lower ·)
      = ((combine (headers? middle) (headers? upper)).bind (combine (headers? lower) ·)).map
          fun headers => withHeaders headers (overlay lower (overlay middle upper)) := by
  have laid := Keyed.overlay second.keyed third.keyed.hashable
  rw [merge_eq second.keyed.hashable third.keyed]
  cases run : combine (headers? middle) (headers? upper) with
  | error failure => rfl
  | ok combined =>
      have own := headers?_of_combine second.keyed.hashable third.keyed run
      change merge lower (withHeaders combined (overlay middle upper))
        = (combine (headers? lower) combined).map _
      rw [merge_eq first.keyed.hashable (keyed_withHeaders laid combined), own]
      cases next : combine (headers? lower) combined with
      | error failure => rfl
      | ok final =>
          refine congrArg Except.ok ?_
          cases combined with
          | none => rfl
          | some value =>
              obtain ⟨last, rfl⟩ := Option.isSome_iff_exists.mp (isSome_of_combine_right next)
              have written := @overlay_insert _ value _ _ first.keyed.hashable laid hashable_headers
              exact (congrArg (insert (.text "headers") last) written).trans
                (insert_insert (hashable_overlay first.keyed.hashable laid.hashable)
                  hashable_headers hashable_headers same_headers)

/-- **Merging is associative, its failures and the order of the keys included.** -/
theorem merge_assoc (first : WellFormed lower) (second : WellFormed middle)
    (third : WellFormed upper) :
    (merge lower middle).bind (merge · upper) = (merge middle upper).bind (merge lower ·) := by
  rw [merge_bind_left first second third, merge_bind_right first second third,
    combine_assoc first.fields second.fields third.fields,
    overlay_assoc first.keyed.hashable second.keyed third.keyed.hashable]

end Merging

/-! ## Stacks of layers -/

/-- A layer of options that can be merged with any other one: its header option is a mapping. -/
structure Layer (layer : Entries) : Prop where
  keyed : Keyed layer
  headers : Mapped (headers? layer)

instance (layer : Entries) : Decidable (Layer layer) :=
  decidable_of_iff (Keyed layer ∧ Mapped (headers? layer))
    ⟨fun both => ⟨both.1, both.2⟩, fun own => ⟨own.keyed, own.headers⟩⟩

theorem Layer.keyed_fields {layer : Entries} (own : Layer layer) : Keyed (fields layer) := by
  unfold fields
  cases given : headers? layer with
  | none => exact .nil
  | some value =>
      obtain ⟨entries, required, keyed⟩ := own.headers value given
      simp only [fieldsOf, required]
      exact keyed

/-- What a stack of layers comes to, the lowest layer first. -/
structure Stacked (layers : List Entries) (options : Entries) : Prop where
  layer : Layer options
  /-- Every other option is that of the uppermost layer with it. -/
  value : ∀ key, key.isHashable = true → key ≠ .text "headers" →
    lookup key options = layers.reverse.findSome? (lookup key)
  /-- The header fields are those of all layers laid over one another. -/
  fields : Options.fields options = (layers.map Options.fields).foldl overlay []
  /-- There is a header option if one of the layers has one. -/
  headers : (headers? options).isSome = layers.any fun layer => (headers? layer).isSome

/-- A layer alone. -/
theorem Stacked.single {base : Entries} (own : Layer base) : Stacked [base] base where
  layer := own
  value key _ _ := by
    rw [List.reverse_singleton, List.findSome?_singleton]
  fields := (ofPairs_of_keyed own.keyed_fields).symm
  headers := (Bool.or_false _).symm

/-- **One more layer can be merged on a stack of layers.** -/
theorem Stacked.exists_merge {layers : List Entries} {options upper : Entries}
    (stacked : Stacked layers options) (own : Layer upper) :
    ∃ merged, merge options upper = .ok merged ∧ Stacked (layers ++ [upper]) merged := by
  obtain ⟨combined, run, mapped, fields, given⟩ :=
    exists_combine stacked.layer.headers own.headers
  have laid := Keyed.overlay stacked.layer.keyed own.keyed.hashable
  have header := headers?_of_combine stacked.layer.keyed.hashable own.keyed run
  refine ⟨withHeaders combined (overlay options upper), ?_, ⟨?_, ?_⟩, fun key hashable other => ?_,
    ?_, ?_⟩
  · rw [merge_eq stacked.layer.keyed.hashable own.keyed, run]
    rfl
  · exact keyed_withHeaders laid combined
  · rwa [header]
  · have apart : lookup key (withHeaders combined (overlay options upper))
        = lookup key (overlay options upper) := by
      cases combined with
      | none => rfl
      | some value =>
          refine (lookup_insert laid.hashable hashable_headers hashable).trans (if_neg ?_)
          exact fun same => other (Store.same_text_right.mp same)
    rw [apart, lookup_overlay stacked.layer.keyed.hashable own.keyed hashable,
      List.reverse_append, List.reverse_singleton, List.singleton_append, List.findSome?_cons,
      stacked.value key hashable other]
    cases lookup key upper <;> rfl
  · rw [Options.fields, header, fields, List.map_append, List.map_singleton, List.foldl_append,
      ← stacked.fields]
    rfl
  · rw [header, given, stacked.headers, List.any_append, List.any_cons, List.any_nil,
      Bool.or_false]

/-- A header field of mappings laid over one another is that of the uppermost one with it. -/
theorem lookup_foldl_overlay {layers : List Entries} {base : Entries}
    (keyed : ∀ layer ∈ layers, Keyed layer)
    (hashable : ∀ entry ∈ base, entry.1.isHashable = true) {key : Value}
    (own : key.isHashable = true) :
    lookup key (layers.foldl overlay base)
      = (layers.reverse.findSome? (lookup key)).or (lookup key base) := by
  induction layers generalizing base with
  | nil => rfl
  | cons layer rest inductionHypothesis =>
      rw [List.forall_mem_cons] at keyed
      rw [List.foldl_cons, inductionHypothesis keyed.2 (hashable_overlay hashable keyed.1.hashable),
        lookup_overlay hashable keyed.1 own, List.reverse_cons, List.findSome?_append,
        List.findSome?_singleton, Option.or_assoc]

end Routebook.Options

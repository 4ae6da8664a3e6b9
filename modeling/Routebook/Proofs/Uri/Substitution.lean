import Routebook.Proofs.Uri.Path
import Routebook.Proofs.Uri.Rendering

/-!
# The path of an address

The address of a call is built by resolving the arguments one after another.  Arguments that leave
each other alone fill in their values as if at once (`Uri.substituteAll_eq_fill`): no value holds
the placeholder of a later key, and no key is nested in a name that still waits for its turn.  Hence
the path is the joined path of root and template with all placeholders filled in at once, for every
order of the arguments (`Uri.build_eq_fill`).  Values that are not encoded must not contain dollar
signs or braces there; encoded values never do (`Uri.mem_percentEncode`).
-/

namespace Routebook

set_option autoImplicit false

namespace Uri

/-! ## Encoded values -/

theorem isUnreserved_upperHexDigit {number : Nat} (small : number < 16) :
    isUnreserved (upperHexDigit number) = true := by
  have digits : ∀ digit : Fin 16, isUnreserved (upperHexDigit digit) = true := by decide
  exact digits ⟨number, small⟩

/-- An encoded text is made of unreserved characters and percent signs. -/
theorem mem_percentEncode {text : List Char} {character : Char}
    (present : character ∈ percentEncode text) :
    isUnreserved character = true ∨ character = '%' := by
  obtain ⟨original, -, within⟩ := List.mem_flatMap.mp present
  rw [percentCharacter] at within
  split at within
  · rename_i kept
    rw [List.mem_singleton] at within
    exact .inl (within ▸ kept)
  · obtain ⟨byte, -, written⟩ := List.mem_flatMap.mp within
    have bound : byte.toNat < 256 := byte.toNat_lt
    simp only [percentByte, List.mem_cons, List.not_mem_nil, or_false] at written
    rcases written with rfl | rfl | rfl
    · exact .inr rfl
    · exact .inl (isUnreserved_upperHexDigit (by omega))
    · exact .inl (isUnreserved_upperHexDigit (by omega))

/-! ## Reports -/

/-- Keys are reported when each of them is a text, or bytes that are text. -/
theorem keyTexts_eq_ok {keys : List Value} (texts : ∀ key ∈ keys, ∃ name, keyText key = .ok name) :
    keyTexts keys = .ok (keys.filterMap fun key => (keyText key).toOption) := by
  unfold keyTexts
  rw [if_pos]
  rw [List.isEmpty_iff, List.filterMap_eq_nil_iff]
  rintro ⟨key, index⟩ present
  obtain ⟨name, readable⟩ := texts key (List.fst_mem_of_mem_zipIdx present)
  simp only [readable]

/-- Keys that are texts can be reported. -/
theorem keyTexts_of_texts {keys : List Value} (texts : ∀ key ∈ keys, ∃ name, key = .text name) :
    ∃ names, keyTexts keys = .ok names := by
  refine ⟨_, keyTexts_eq_ok fun key present => ?_⟩
  obtain ⟨name, rfl⟩ := texts key present
  exact ⟨name, rfl⟩

/-- The query of a finished address as it stands in the address. -/
def Resolution.queryText (resolution : Resolution) : List Char :=
  queryCharacters (resolution.query.map fun entry => (entry.1, entry.2.toList))

/-- The address of a report starts with the address of the build. -/
theorem uri_of_finish {progress : Progress} {resolution : Resolution}
    (finished : progress.finish = .ok resolution) :
    resolution.uri = String.ofList (progress.address ++ queryCharacters progress.query) := by
  obtain ⟨names, -, rfl⟩ := Outcome.exists_of_map finished
  rfl

/-- The query of a report is that of the build. -/
theorem queryText_of_finish {progress : Progress} {resolution : Resolution}
    (finished : progress.finish = .ok resolution) :
    resolution.queryText = queryCharacters progress.query := by
  obtain ⟨names, -, rfl⟩ := Outcome.exists_of_map finished
  simp only [Resolution.queryText, List.map_map, Function.comp_def, String.toList_ofList,
    List.map_id']

/-! ## Names in turn -/

/-- A name keeps its placeholder until its own turn comes: no key before it is nested in it. -/
def Undisturbed : List (String × Value) → List Char → Prop
  | [], _ => True
  | argument :: rest, name =>
      name = argument.1.toList ∨ ¬ Template.Nested argument.1.toList name ∧ Undisturbed rest name

theorem undisturbed_of_not_nested {arguments : List (String × Value)} {name : List Char}
    (apart : ∀ argument ∈ arguments, ¬ Template.Nested argument.1.toList name) :
    Undisturbed arguments name := by
  induction arguments with
  | nil => trivial
  | cons argument arguments inductionHypothesis =>
      rw [List.forall_mem_cons] at apart
      exact .inr ⟨apart.1, inductionHypothesis apart.2⟩

/-- The value of a name does not depend on the order of arguments with distinct keys. -/
theorem lookup_perm {arguments reordered : List (String × Value)}
    (permuted : reordered.Perm arguments) (distinct : (reordered.map Prod.fst).Nodup)
    (name : String) : reordered.lookup name = arguments.lookup name := by
  induction permuted with
  | nil => rfl
  | cons argument _ inductionHypothesis =>
      rw [List.map_cons, List.nodup_cons] at distinct
      rw [List.lookup_cons, List.lookup_cons, inductionHypothesis distinct.2]
  | swap first second rest =>
      simp only [List.map_cons, List.nodup_cons, List.mem_cons, not_or] at distinct
      rw [List.lookup_cons, List.lookup_cons, List.lookup_cons, List.lookup_cons]
      by_cases isFirst : name = first.1
      · subst isFirst
        rw [beq_eq_false_iff_ne.mpr (Ne.symm distinct.1.1)]
      · rw [beq_eq_false_iff_ne.mpr isFirst]
  | trans earlier _ first second =>
      exact (first distinct).trans (second ((earlier.map _).nodup_iff.mp distinct))

section Runtimes

variable [Runtime]

/-- What stands for a value where values are encoded is made of the same characters. -/
theorem mem_rendered {value : Value} {character : Char} (present : character ∈ rendered true value) :
    isUnreserved character = true ∨ character = '%' := by
  have renderable := renderable_of_ne_nil (List.ne_nil_of_mem present)
  rw [renderable.rendered_eq, if_pos rfl] at present
  exact mem_percentEncode present

/-! ## Resolving arguments -/

/-- The entries of a mapping whose keys are texts. -/
def textEntries (arguments : List (String × Value)) : Entries :=
  arguments.map fun argument => (.text argument.1, argument.2)

/-- The text that stands for a name when the arguments are filled in. -/
def valueOf (encode : Bool) (arguments : List (String × Value)) (name : List Char) :
    Option (List Char) :=
  (arguments.lookup (String.ofList name)).map (rendered encode)

/-- A value that may stand in a path: it is not empty, and unless it is encoded it contains neither
dollar signs nor braces. -/
structure Insertable (encode : Bool) (value : Value) : Prop where
  nonempty : rendered encode value ≠ []
  plain : encode = false →
    ∀ character ∈ ['$', '\x7b', '\x7d'], character ∉ rendered encode value

instance (encode : Bool) (value : Value) : Decidable (Insertable encode value) :=
  have : Decidable (∀ character ∈ ['$', '\x7b', '\x7d'],
      character ∉ rendered encode value) := List.decidableBAll _ _
  decidable_of_iff (rendered encode value ≠ [] ∧ (encode = false →
      ∀ character ∈ ['$', '\x7b', '\x7d'], character ∉ rendered encode value))
    ⟨fun both => ⟨both.1, both.2⟩, fun insertable => ⟨insertable.nonempty, insertable.plain⟩⟩

/-- Such a value has none of the marks of a placeholder. -/
theorem Insertable.no_mark {encode : Bool} {value : Value} (insertable : Insertable encode value) :
    ∀ mark ∈ ['$', '\x7b', '\x7d'], mark ∉ rendered encode value := by
  cases encode with
  | false => exact insertable.plain rfl
  | true =>
      intro mark among present
      simp only [List.mem_cons, List.not_mem_nil, or_false] at among
      rcases among with rfl | rfl | rfl <;> exact absurd (mem_rendered present) (by decide)

theorem Insertable.inert {encode : Bool} {value : Value} (insertable : Insertable encode value) :
    Template.Inert (rendered encode value) :=
  ⟨insertable.nonempty, insertable.no_mark _ (by simp), insertable.no_mark _ (by simp)⟩

/-- The value of a name among several arguments is that of the first one with this key. -/
theorem valueOf_cons {encode : Bool} (key : String) (given : Value)
    (arguments : List (String × Value)) (name : List Char) :
    valueOf encode ((key, given) :: arguments) name
      = if name = key.toList then some (rendered encode given)
        else valueOf encode arguments name := by
  rw [valueOf, List.lookup_cons]
  by_cases same : name = key.toList
  · simp [same]
  · have different : (String.ofList name == key) = false := by
      rw [beq_eq_false_iff_ne]
      rintro rfl
      exact same (String.toList_ofList).symm
    rw [different, if_neg same]
    rfl

/-- Leaving out arguments with other keys does not change the value of a name. -/
theorem valueOf_filter {encode : Bool} {keep : String × Value → Bool} {name : List Char}
    {arguments : List (String × Value)}
    (kept : ∀ argument ∈ arguments, argument.1.toList = name → keep argument = true) :
    valueOf encode (arguments.filter keep) name = valueOf encode arguments name := by
  induction arguments with
  | nil => rfl
  | cons argument arguments inductionHypothesis =>
      obtain ⟨key, given⟩ := argument
      rw [List.forall_mem_cons] at kept
      rw [List.filter_cons, valueOf_cons]
      by_cases same : name = key.toList
      · rw [if_pos (kept.1 same.symm), valueOf_cons, if_pos same, if_pos same]
      · rw [if_neg same]
        split
        · rw [valueOf_cons, if_neg same, inductionHypothesis kept.2]
        · exact inductionHypothesis kept.2

/-- What stands for a name is the value of an argument. -/
theorem exists_of_valueOf {encode : Bool} {arguments : List (String × Value)}
    {name replacement : List Char}
    (found : valueOf encode arguments name = some replacement) :
    ∃ argument ∈ arguments, rendered encode argument.2 = replacement := by
  rw [valueOf, Option.map_eq_some_iff] at found
  obtain ⟨value, looked, rfl⟩ := found
  obtain ⟨before, after, rfl, -⟩ := List.lookup_eq_some_iff.mp looked
  exact ⟨(String.ofList name, value), by simp, rfl⟩

/-- Nothing stands for a name that is no key. -/
theorem valueOf_eq_none_iff {encode : Bool} {arguments : List (String × Value)} {name : List Char} :
    valueOf encode arguments name = none ↔ String.ofList name ∉ arguments.map Prod.fst := by
  rw [valueOf, Option.map_eq_none_iff, List.lookup_eq_none_iff]
  simp only [List.mem_map, bne_iff_ne, ne_eq, not_exists, not_and]
  exact forall₂_congr fun _ _ => not_congr eq_comm

/-! ## One name after another -/

/-- An address with the path variables of the arguments replaced, one after another. -/
def substituteAll (encode : Bool) (arguments : List (String × Value)) (address : List Char) :
    List Char :=
  arguments.foldl (fun address argument =>
    substitute argument.1 (rendered encode argument.2) address) address

theorem substituteAll_cons (encode : Bool) (argument : String × Value)
    (arguments : List (String × Value)) (address : List Char) :
    substituteAll encode (argument :: arguments) address
      = substituteAll encode arguments
        (substitute argument.1 (rendered encode argument.2) address) := rfl

/-- The last argument is used on what the others have made. -/
theorem substituteAll_concat (encode : Bool) (argument : String × Value)
    (arguments : List (String × Value)) (address : List Char) :
    substituteAll encode (arguments ++ [argument]) address
      = substitute argument.1 (rendered encode argument.2)
        (substituteAll encode arguments address) := by
  simp only [substituteAll, List.foldl_append, List.foldl_cons, List.foldl_nil]

/-- Arguments whose placeholders are not in a text leave it alone. -/
theorem substituteAll_eq_self {encode : Bool} {arguments : List (String × Value)} {text : List Char}
    (absent : ∀ argument ∈ arguments, ¬ Template.placeholder argument.1.toList <:+: text) :
    substituteAll encode arguments text = text := by
  induction arguments with
  | nil => rfl
  | cons argument arguments inductionHypothesis =>
      rw [List.forall_mem_cons] at absent
      have kept : substitute argument.1 (rendered encode argument.2) text = text :=
        Text.replaceAll_eq_self absent.1
      rw [substituteAll_cons, kept, inductionHypothesis absent.2]

/-- Arguments that can be used one after another: the keys are names, the values are whole, and no
value holds the placeholder of a later key. -/
structure Successive (encode : Bool) (arguments : List (String × Value)) : Prop where
  legal : ∀ argument ∈ arguments, argument.1.toList ≠ [] ∧ '\x7d' ∉ argument.1.toList
  whole : ∀ argument ∈ arguments, Template.Whole (rendered encode argument.2)
  inward : arguments.Pairwise fun earlier later =>
    ¬ Template.placeholder later.1.toList <:+: rendered encode earlier.2

section Successively

variable {encode : Bool} {arguments : List (String × Value)}

theorem Successive.tail {argument : String × Value}
    (successive : Successive encode (argument :: arguments)) : Successive encode arguments where
  legal := fun other present => successive.legal other (List.mem_cons_of_mem _ present)
  whole := fun other present => successive.whole other (List.mem_cons_of_mem _ present)
  inward := (List.pairwise_cons.mp successive.inward).2

/-- A name that the first value holds is none of the later keys, and none of them is nested in it.
-/
theorem Successive.apart {argument : String × Value}
    (successive : Successive encode (argument :: arguments)) {captured : List Char}
    (listed : captured ∈ Template.names (rendered encode argument.2)) :
    ∀ other ∈ arguments,
      other.1.toList ≠ captured ∧ ¬ Template.Nested other.1.toList captured := by
  intro other present
  have absent := (List.pairwise_cons.mp successive.inward).1 other present
  have stands := Template.infix_of_mem_names listed
  have outside : ¬ Template.placeholder other.1.toList <:+: Template.placeholder captured :=
    fun within => absent (within.trans stands)
  rwa [Template.placeholder_infix_iff (Template.captured_of_mem_names listed).2, not_or] at outside

/-- After an argument was used the names of its value have come in the place of its own. -/
theorem undisturbed_fill {key : String} {given : Value}
    (successive : Successive encode ((key, given) :: arguments)) {text : List Char}
    (undisturbed : ∀ captured ∈ Template.names text,
      Undisturbed ((key, given) :: arguments) captured) :
    ∀ captured ∈ Template.names
      (Template.fill (Template.single key.toList (rendered encode given)) text),
      Undisturbed arguments captured := by
  intro captured listed
  have whole := Template.whole_of_single key.toList (successive.whole _ List.mem_cons_self)
  rw [Template.mem_names_fill_iff whole] at listed
  obtain ⟨name, earlier, within⟩ := listed
  rw [Template.single] at within
  split at within
  · exact undisturbed_of_not_nested fun other present => (successive.apart within other present).2
  · rename_i different
    obtain ⟨full, open'⟩ := Template.captured_of_mem_names earlier
    rw [Option.getD_none, Template.names_placeholder_self full open', List.mem_singleton] at within
    subst within
    exact ((undisturbed captured earlier).resolve_left different).2

/-- A value that holds no later key is not changed by the later arguments. -/
theorem Successive.fill_value {key : String} {given : Value}
    (successive : Successive encode ((key, given) :: arguments)) :
    Template.fill (valueOf encode arguments) (rendered encode given)
      = rendered encode given := by
  refine Template.fill_eq_self_of_none fun captured listed => ?_
  rw [valueOf_eq_none_iff]
  intro present
  obtain ⟨other, given', same⟩ := List.mem_map.mp present
  refine (successive.apart listed other given').1 ?_
  rw [same, String.toList_ofList]

/-- **Using arguments one after another is filling in their values at once**, if they can be used
one after another and no name of the text is disturbed. -/
theorem substituteAll_eq_fill (successive : Successive encode arguments) {text : List Char}
    (undisturbed : ∀ captured ∈ Template.names text, Undisturbed arguments captured) :
    substituteAll encode arguments text = Template.fill (valueOf encode arguments) text := by
  induction arguments generalizing text with
  | nil => exact (Template.fill_none text).symm
  | cons argument arguments inductionHypothesis =>
      obtain ⟨key, given⟩ := argument
      obtain ⟨nonempty, unclosed⟩ := successive.legal _ List.mem_cons_self
      have whole := Template.whole_of_single key.toList (successive.whole _ List.mem_cons_self)
      have apart : ∀ captured ∈ Template.names text,
          ¬ Template.Nested key.toList captured := by
        intro captured listed
        rcases undisturbed captured listed with rfl | ⟨apart, -⟩
        · exact Template.not_nested_self _
        · exact apart
      have replaced : substitute key (rendered encode given) text
          = Template.fill (Template.single key.toList (rendered encode given)) text :=
        Template.replaceAll_eq_fill nonempty unclosed apart
      rw [substituteAll_cons, replaced,
        inductionHypothesis successive.tail (undisturbed_fill successive undisturbed),
        Template.fill_fill whole]
      refine Template.fill_congr fun name _ => ?_
      rw [valueOf_cons, Template.single]
      split
      · rw [Option.map_some, successive.fill_value, Option.some_or]
      · rfl

end Successively

section Resolving

variable {pattern : Pattern} {encode : Bool}

/-- Resolving an argument changes the address only where its key is a path variable. -/
theorem address_placed {name : String} {value : Value} (progress : Progress) :
    (progress.placed pattern encode (.text name, value)).address
      = if pattern.isPathVariable name then
          substitute name (rendered encode value) progress.address
        else progress.address := by
  simp only [Progress.placed]
  split
  · rfl
  · split <;> rfl

/-- A run uses the path arguments one after another. -/
theorem address_foldl_eq (arguments : List (String × Value)) (progress : Progress) :
    ((textEntries arguments).foldl (Progress.placed pattern encode) progress).address
      = substituteAll encode (arguments.filter fun argument => pattern.isPathVariable argument.1)
          progress.address := by
  induction arguments generalizing progress with
  | nil => rfl
  | cons argument arguments inductionHypothesis =>
      have step : (textEntries (argument :: arguments)).foldl (Progress.placed pattern encode)
            progress
          = (textEntries arguments).foldl (Progress.placed pattern encode)
              (progress.placed pattern encode (.text argument.1, argument.2)) := rfl
      rw [step, inductionHypothesis, address_placed, List.filter_cons]
      split <;> rfl

/-- Inert values are put in as they are, whatever the keys. -/
theorem substituteAll_eq_fill_of_inert {arguments : List (String × Value)}
    (legal : ∀ argument ∈ arguments, argument.1.toList ≠ [] ∧ '\x7d' ∉ argument.1.toList)
    (inert : ∀ argument ∈ arguments, Template.Inert (rendered encode argument.2))
    {text : List Char} (undisturbed : ∀ captured ∈ Template.names text,
      Undisturbed arguments captured) :
    substituteAll encode arguments text = Template.fill (valueOf encode arguments) text := by
  have inward : arguments.Pairwise fun earlier later =>
      ¬ Template.placeholder later.1.toList <:+: rendered encode earlier.2 :=
    List.pairwise_of_forall_mem_list fun argument given other _ within =>
      (inert argument given).noDollar (within.mem List.mem_cons_self)
  exact substituteAll_eq_fill
    ⟨legal, fun argument given => (inert argument given).whole, inward⟩ undisturbed

/-- **The address after a run is the path filled in with the values of the arguments.** -/
theorem address_foldl {text : List Char} {arguments : List (String × Value)}
    (clean : ∀ captured ∈ Template.names text, Text.occurs Template.opening captured = false)
    (legal : ∀ name, pattern.isPathVariable name = true →
      name.toList ≠ [] ∧ '\x7d' ∉ name.toList)
    (captures : ∀ captured ∈ Template.names text,
      pattern.isPathVariable (String.ofList captured) = true)
    (insertable : ∀ argument ∈ arguments, pattern.isPathVariable argument.1 = true →
      Insertable encode argument.2)
    {value : List Char → Option (List Char)}
    (inert : ∀ name replacement, value name = some replacement → Template.Inert replacement)
    {progress : Progress} (filled : progress.address = Template.fill value text) :
    ((textEntries arguments).foldl (Progress.placed pattern encode) progress).address
      = Template.fill (fun name => (value name).or (valueOf encode arguments name)) text := by
  have whole := fun name replacement found => (inert name replacement found).whole
  rw [address_foldl_eq, filled, substituteAll_eq_fill_of_inert, Template.fill_fill whole]
  · refine Template.fill_congr fun name listed => ?_
    cases found : value name with
    | none =>
        rw [Option.map_none, Option.none_or, Option.none_or]
        refine valueOf_filter fun argument _ same => ?_
        have declared := captures name listed
        rwa [← same, String.ofList_toList] at declared
    | some replacement =>
        rw [Option.map_some, Option.some_or, Option.some_or, Template.fill_eq_self_of_none]
        rw [(inert name replacement found).names_eq_nil]
        exact fun _ listed => absurd listed List.not_mem_nil
  · exact fun argument given => legal argument.1 (List.mem_filter.mp given).2
  · intro argument given
    obtain ⟨present, declared⟩ := List.mem_filter.mp given
    exact (insertable argument present declared).inert
  · intro captured listed
    have earlier := ((Template.mem_names_fill_iff_of_inert inert).mp listed).1
    exact undisturbed_of_not_nested fun _ _ => Template.not_nested_of_clean (clean _ earlier)

/-- A run leaves out text keys only, when all keys are texts. -/
theorem ignored_foldl {arguments : List (String × Value)} {progress : Progress}
    (texts : ∀ key ∈ progress.ignored, ∃ name, key = .text name) :
    ∀ key ∈ ((textEntries arguments).foldl (Progress.placed pattern encode) progress).ignored,
      ∃ name, key = .text name := by
  induction arguments generalizing progress with
  | nil => exact texts
  | cons argument arguments inductionHypothesis =>
      simp only [textEntries, List.map_cons, List.foldl_cons]
      refine inductionHypothesis ?_
      simp only [Progress.placed]
      split
      · exact texts
      · split
        · exact texts
        · intro key present
          change key ∈ progress.ignored ++ [.text argument.1] at present
          rw [List.mem_append, List.mem_singleton] at present
          rcases present with earlier | rfl
          · exact texts key earlier
          · exact ⟨argument.1, rfl⟩

theorem usable_textEntries_iff {arguments : List (String × Value)} :
    Usable pattern encode (textEntries arguments) ↔
      ∀ argument ∈ arguments, pattern.role argument.1 ≠ .unused → Renderable encode argument.2 :=
  List.forall_mem_map

/-- **With texts for keys an address is built exactly when the values that are used have a text.**
-/
theorem exists_build_textEntries_iff {root : String} {arguments : List (String × Value)} :
    (∃ resolution,
        build root pattern encode (.mapping (textEntries arguments)) = .ok resolution) ↔
      ∀ argument ∈ arguments, pattern.role argument.1 ≠ .unused → Renderable encode argument.2 := by
  rw [← usable_textEntries_iff]
  constructor
  · rintro ⟨resolution, built⟩
    exact (build_eq_ok_iff.mp built).1
  · intro usable
    obtain ⟨names, reported⟩ : ∃ names, keyTexts (Progress.final root pattern encode
        (textEntries arguments)).ignored = .ok names :=
      keyTexts_of_texts (ignored_foldl (by rintro _ ⟨⟩))
    exact ⟨_, build_eq_ok_iff.mpr ⟨usable, congrArg (Except.map _) reported⟩⟩

end Resolving

/-! ## The order of the arguments -/

/-- **Replacing one path variable after another is filling in all of them at once.**  For every
order of the arguments an address is built exactly when those that go to the query have a text, and
it is the joined path, with every placeholder that has an argument replaced in a single scan,
followed by the query. -/
theorem build_eq_fill {template root : String} {encode : Bool}
    {arguments reordered : List (String × Value)}
    (clean : ∀ name ∈ Template.names template.toList,
      Text.occurs Template.opening name = false)
    (plainRoot : '$' ∉ root.toList)
    (insertable : ∀ argument ∈ arguments,
      (Template.parse template).isPathVariable argument.1 = true → Insertable encode argument.2)
    (distinct : (arguments.map Prod.fst).Nodup) (permuted : reordered.Perm arguments) :
    ((∃ resolution,
        build root (Template.parse template) encode (.mapping (textEntries reordered))
          = .ok resolution) ↔
      ∀ argument ∈ arguments,
        (Template.parse template).role argument.1 = .query → Renderable encode argument.2) ∧
    ∀ resolution,
      build root (Template.parse template) encode (.mapping (textEntries reordered))
        = .ok resolution →
      resolution.uri = String.ofList (Template.fill (valueOf encode arguments)
        (joinCharacters root.toList (Template.parse template).literalPath.toList)
          ++ resolution.queryText) := by
  constructor
  · rw [exists_build_textEntries_iff]
    constructor
    · intro renderable argument given asks
      exact renderable argument (permuted.mem_iff.mpr given) (by simp [asks])
    · intro renderable argument given used
      have present := permuted.mem_iff.mp given
      cases role : (Template.parse template).role argument.1 with
      | path =>
          have declared := (Pattern.role_eq_path _).mp role
          exact renderable_of_ne_nil (insertable argument present declared).nonempty
      | query => exact renderable argument present role
      | unused => exact absurd role used
  · intro resolution built
    have named : ∀ name, (Template.parse template).isPathVariable name = true →
        name.toList ≠ [] ∧ '\x7d' ∉ name.toList := fun _ => legal_of_isPathVariable
    have within : Template.names
        (joinCharacters root.toList (Template.parse template).literalPath.toList)
        ⊆ Template.names template.toList := names_joined plainRoot
    have address : (Progress.final root (Template.parse template) encode
        (textEntries reordered)).address
        = Template.fill (fun name => Option.or none (valueOf encode reordered name))
          (joinCharacters root.toList (Template.parse template).literalPath.toList) :=
      address_foldl (fun name captured => clean name (within captured)) named
        (fun name captured => isPathVariable_parse.mpr (within captured))
        (fun argument present => insertable argument (permuted.mem_iff.mp present))
        (fun _ _ missing => by cases missing) (Template.fill_none _).symm
    have values : valueOf encode reordered = valueOf encode arguments := by
      funext name
      rw [valueOf, valueOf, lookup_perm permuted ((permuted.map _).nodup_iff.mpr distinct)]
    simp only [Option.none_or, values] at address
    have finished := (build_eq_ok_iff.mp built).2
    rw [uri_of_finish finished, queryText_of_finish finished, address]

end Runtimes

section Usual

attribute [local instance] Runtime.usual

/-- The seams of a template: a dollar sign before a placeholder, placeholders side by side, an empty
opening, a repeated name, and a placeholder that the question mark cuts. -/
theorem build_eq_fill_seams :
    ∃ resolution,
      build "https://h/api"
        (Template.parse "/$$\x7ba\x7d$\x7bb\x7d/$\x7b\x7d$\x7ba\x7d/$\x7bc?d\x7d") false
        (.mapping (textEntries [("b", .int 7), ("a", .text "u/v"), ("c?d", .null)]))
        = .ok resolution ∧
      resolution.uri = String.ofList (Template.fill
        (valueOf false [("a", .text "u/v"), ("c?d", .null), ("b", .int 7)])
        (joinCharacters "https://h/api".toList (Template.parse
          "/$$\x7ba\x7d$\x7bb\x7d/$\x7b\x7d$\x7ba\x7d/$\x7bc?d\x7d").literalPath.toList)
            ++ resolution.queryText) := by
  obtain ⟨builds, address⟩ := @build_eq_fill _
    "/$$\x7ba\x7d$\x7bb\x7d/$\x7b\x7d$\x7ba\x7d/$\x7bc?d\x7d" "https://h/api" false
    [("a", .text "u/v"), ("c?d", .null), ("b", .int 7)]
    [("b", .int 7), ("a", .text "u/v"), ("c?d", .null)] (by decide +kernel) (by decide +kernel)
    (by decide +kernel) (by decide) (List.perm_append_comm : ([("b", Value.int 7)] ++ _).Perm _)
  obtain ⟨resolution, built⟩ := builds.mpr (by decide +kernel)
  exact ⟨resolution, built, address resolution built⟩

example : Template.fill (valueOf false [("a", .text "u/v"), ("c?d", .null), ("b", .int 7)])
    "/$$\x7ba\x7d$\x7bb\x7d/$\x7b\x7d$\x7ba\x7d/$\x7bc".toList
      = "/$u/v7/$\x7b\x7du/v/$\x7bc".toList := by
  decide +kernel

end Usual

end Uri

end Routebook

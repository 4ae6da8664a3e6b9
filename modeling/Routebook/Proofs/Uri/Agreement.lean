import Routebook.Proofs.Uri.Resolution

/-!
# Reports that agree with the address

The outcomes of the path variables are settled by the keys of the arguments alone, while the address
is made of the path before the question mark.  A report agrees with its address when a variable that
is left stands in the address, and one that is substituted is gone from it and was in the path
(`Uri.Resolution.Agrees`).  Whether it does can be told from the path, the query and the keys
(`Uri.agrees_iff`): every variable without an argument has to occur in a placeholder that stays, or
in the query, or across the question mark, and no variable with an argument may do so.  Where no
name contains an opening this comes down to the variables being those of the path.  That is so for
the orders in which no argument is used before one whose name ends in its placeholder; in all others
a value that is supplied is lost (`Uri.exists_lost_of_not_ordered`).
-/

namespace Routebook

set_option autoImplicit false

namespace Uri

/-! ## Agreement -/

/-- What the report of an address says about the path variables can be seen in the address. -/
structure Resolution.Agrees (root : String) (pattern : Pattern) (resolution : Resolution) : Prop where
  /-- The placeholder of a variable that is left stands in the address. -/
  left : ∀ name, (name, Outcome.leftAsLiteral) ∈ resolution.placeholders →
    Template.placeholder name.toList <:+: resolution.uri.toList
  /-- The placeholder of a variable that is substituted is gone. -/
  gone : ∀ name, (name, Outcome.substituted) ∈ resolution.placeholders →
    ¬ Template.placeholder name.toList <:+: resolution.uri.toList
  /-- It was in the path. -/
  found : ∀ name, (name, Outcome.substituted) ∈ resolution.placeholders →
    Template.placeholder name.toList <:+: (join root pattern.literalPath).toList

section Places

variable (root : String) (pattern : Pattern) (arguments : List (String × Value))

/-- The path variables whose placeholders are shown are those without an argument, and the
placeholders of the others are from the joined path. -/
def Placed (shown : String → Prop) : Prop :=
  ∀ name ∈ pattern.pathVariables,
    (name ∉ arguments.map Prod.fst → shown name) ∧
    (name ∈ arguments.map Prod.fst → ¬ shown name ∧
      Template.placeholder name.toList <:+: joinedPath root pattern)

variable {root pattern arguments}

theorem placed_congr {shown visible : String → Prop}
    (same : ∀ name ∈ pattern.pathVariables, shown name ↔ visible name) :
    Placed root pattern arguments shown ↔ Placed root pattern arguments visible := by
  refine forall₂_congr fun name declared => ?_
  rw [same name declared]

end Places

/-! ## Keys nested in names -/

section Arguments

variable {template root : String} {arguments : List (String × Value)} {name : List Char}

/-- When no key is nested in a later one, a name that is disturbed is itself no key. -/
theorem undisturbed_or_nested
    (ordered : arguments.Pairwise fun earlier later =>
      ¬ Template.Nested earlier.1.toList later.1.toList) :
    Undisturbed arguments name ∨ (String.ofList name ∉ arguments.map Prod.fst ∧
      ∃ argument ∈ arguments, Template.Nested argument.1.toList name) := by
  induction arguments with
  | nil => exact .inl trivial
  | cons argument arguments inductionHypothesis =>
      obtain ⟨apart, ordered⟩ := List.pairwise_cons.mp ordered
      rw [List.map_cons, List.mem_cons, not_or]
      by_cases same : name = argument.1.toList
      · exact .inl (.inl same)
      · have other : String.ofList name ≠ argument.1 := fun equal =>
          same (by rw [← equal, String.toList_ofList])
        by_cases nested : Template.Nested argument.1.toList name
        · refine .inr ⟨⟨other, fun given => ?_⟩, argument, List.mem_cons_self, nested⟩
          obtain ⟨later, present, equal⟩ := List.mem_map.mp given
          refine apart later present ?_
          rwa [equal, String.toList_ofList]
        · rcases inductionHypothesis ordered with undisturbed | ⟨missing, key, present, within⟩
          · exact .inl (.inr ⟨nested, undisturbed⟩)
          · exact .inr ⟨⟨other, missing⟩, key, List.mem_cons_of_mem _ present, within⟩

/-- When no key is nested in a later one, and a name of the path is disturbed nevertheless, then the
name has no argument, and the placeholder within its own has one. -/
theorem exists_of_disturbed (plainRoot : '$' ∉ root.toList)
    (ordered : ((Template.parse template).playing .path arguments).Pairwise fun earlier later =>
      ¬ Template.Nested earlier.1.toList later.1.toList) {captured : List Char}
    (listed : captured ∈ Template.names (joinedPath root (Template.parse template)))
    (disturbed : ¬ Undisturbed ((Template.parse template).playing .path arguments) captured) :
    String.ofList captured ∈ (Template.parse template).pathVariables ∧
      String.ofList captured ∉ arguments.map Prod.fst ∧
      ∃ name ∈ (Template.parse template).pathVariables, name ∈ arguments.map Prod.fst ∧
        Template.placeholder name.toList <:+: Template.placeholder captured := by
  have isName := names_joined plainRoot listed
  have declared : String.ofList captured ∈ (Template.parse template).pathVariables :=
    List.contains_iff_mem.mp (isPathVariable_parse.mpr isName)
  obtain ⟨missing, argument, plays, nested⟩ := (undisturbed_or_nested ordered).resolve_left disturbed
  obtain ⟨given, role⟩ := (Pattern.mem_playing _).mp plays
  rw [Pattern.mem_keys_playing_path _ declared] at missing
  refine ⟨declared, missing, argument.1,
    List.contains_iff_mem.mp ((Pattern.role_eq_path _).mp role), List.mem_map_of_mem given, ?_⟩
  exact (Template.placeholder_infix_iff (Template.captured_of_mem_names isName).2).mpr (.inr nested)

/-- When a name of the path is disturbed, neither what the address shows nor what stays in it is
what the keys say. -/
theorem not_placed_of_disturbed (plainRoot : '$' ∉ root.toList)
    (ordered : ((Template.parse template).playing .path arguments).Pairwise fun earlier later =>
      ¬ Template.Nested earlier.1.toList later.1.toList) {captured : List Char}
    (listed : captured ∈ Template.names (joinedPath root (Template.parse template)))
    (disturbed : ¬ Undisturbed ((Template.parse template).playing .path arguments) captured)
    {shown : String → Prop}
    (within : ∀ name ∈ (Template.parse template).pathVariables,
      ∀ other ∈ (Template.parse template).pathVariables,
      Template.placeholder name.toList <:+: Template.placeholder other.toList →
        shown other → shown name) :
    ¬ Placed root (Template.parse template) arguments shown := by
  intro placed
  obtain ⟨declared, missing, name, alsoDeclared, given, inside⟩ :=
    exists_of_disturbed plainRoot ordered listed disturbed
  rw [← String.toList_ofList (l := captured)] at inside
  exact ((placed name alsoDeclared).2 given).1
    (within name alsoDeclared _ declared inside ((placed _ declared).1 missing))

end Arguments

section Runtimes

variable [Runtime]

section Reports

variable (root : String) (pattern : Pattern) (encode : Bool) (arguments : List (String × Value))

/-- The placeholder of a name stays somewhere in the address: in the path with the arguments filled
in, in the query, or across the question mark between them. -/
def Stays (name : String) : Prop :=
  Template.LeftIn (valueOf encode arguments) (joinedPath root pattern)
    (queryPart (queryEntries encode (pattern.playing .query arguments))) name.toList

/-- A report agrees when the address shows the path variables without an argument. -/
theorem agrees_reportOf_iff :
    (reportOf root pattern encode arguments).Agrees root pattern ↔
      Placed root pattern arguments fun name => Template.placeholder name.toList
        <:+: (reportOf root pattern encode arguments).uri.toList := by
  have listed : ∀ name outcome,
      (name, outcome) ∈ (reportOf root pattern encode arguments).placeholders
        ↔ name ∈ pattern.pathVariables ∧ outcomeOf arguments name = outcome := by
    intro name outcome
    rw [placeholders_reportOf, List.mem_map]
    constructor
    · rintro ⟨other, declared, same⟩
      obtain ⟨rfl, rfl⟩ := Prod.mk.inj same
      exact ⟨List.mem_eraseDups.mp declared, rfl⟩
    · rintro ⟨declared, rfl⟩
      exact ⟨name, List.mem_eraseDups.mpr declared, rfl⟩
  have joined : (join root pattern.literalPath).toList = joinedPath root pattern :=
    String.toList_ofList
  constructor
  · intro agrees name declared
    refine ⟨fun missing => ?_, fun given => ?_⟩
    · exact agrees.left name
        ((listed name _).mpr ⟨declared, outcomeOf_eq_leftAsLiteral.mpr missing⟩)
    · have substituted := (listed name _).mpr ⟨declared, outcomeOf_eq_substituted.mpr given⟩
      exact ⟨agrees.gone name substituted, joined ▸ agrees.found name substituted⟩
  · intro placed
    refine ⟨fun name left => ?_, fun name substituted => ?_, fun name substituted => ?_⟩
    · obtain ⟨declared, outcome⟩ := (listed name _).mp left
      exact (placed name declared).1 (outcomeOf_eq_leftAsLiteral.mp outcome)
    · obtain ⟨declared, outcome⟩ := (listed name _).mp substituted
      exact ((placed name declared).2 (outcomeOf_eq_substituted.mp outcome)).1
    · obtain ⟨declared, outcome⟩ := (listed name _).mp substituted
      rw [joined]
      exact ((placed name declared).2 (outcomeOf_eq_substituted.mp outcome)).2

end Reports

/-! ## The parts of an address -/

section Addresses

variable {template root : String} {encode : Bool} {arguments : List (String × Value)}

/-- The path of an address is the joined path, filled in with the values of the arguments, unless a
name that stays is disturbed. -/
theorem pathPart_eq_fill (plainRoot : '$' ∉ root.toList)
    (insertable : ∀ argument ∈ arguments, Insertable encode argument.2)
    (undisturbed : ∀ captured ∈ Template.names (joinedPath root (Template.parse template)),
      Undisturbed ((Template.parse template).playing .path arguments) captured) :
    pathPart root (Template.parse template) encode
        ((Template.parse template).playing .path arguments)
      = Template.fill (valueOf encode arguments) (joinedPath root (Template.parse template)) := by
  have inert : ∀ argument ∈ (Template.parse template).playing .path arguments,
      Template.Inert (rendered encode argument.2) := fun argument plays =>
    (insertable argument ((Pattern.mem_playing _).mp plays).1).inert
  rw [pathPart_eq, substituteAll_eq_fill_of_inert (fun _ => legal_of_mem_playing) inert undisturbed,
    fill_playing plainRoot]

/-- A query has no closing brace when its keys have none and nothing in its values is one. -/
theorem not_mem_queryPart
    (insertable : ∀ argument ∈ arguments, Insertable encode argument.2)
    (plainKeys : ∀ argument ∈ arguments, '\x7d' ∉ argument.1.toList) :
    '\x7d' ∉ queryPart (queryEntries encode arguments) := by
  have values : ∀ argument ∈ arguments, '\x7d' ∉ rendered encode argument.2 :=
    fun argument given => (insertable argument given).no_mark _ (by simp)
  unfold queryPart
  split
  · exact List.not_mem_nil
  · rw [List.mem_cons, not_or]
    refine ⟨by decide, Text.not_mem_intercalate (by decide) fun piece present => ?_⟩
    simp only [queryEntries, List.map_map] at present
    obtain ⟨argument, given, rfl⟩ := List.mem_map.mp present
    simp [plainKeys argument given, values argument given]

/-- Where nothing opens in the names and no brace closes in the query, the variables that stay are
those of the path that are no keys. -/
theorem stays_iff_of_clean
    (clean : ∀ name ∈ Template.names template.toList, Text.occurs Template.opening name = false)
    (plainRoot : '$' ∉ root.toList)
    (insertable : ∀ argument ∈ arguments, Insertable encode argument.2)
    (plainKeys : ∀ argument ∈ (Template.parse template).playing .query arguments,
      '\x7d' ∉ argument.1.toList)
    {name : String} (declared : (Template.parse template).isPathVariable name = true) :
    Stays root (Template.parse template) encode arguments name ↔
      name.toList ∈ Template.names (Template.parse template).literalPath.toList ∧
        name ∉ arguments.map Prod.fst := by
  obtain ⟨nonempty, unclosed⟩ := legal_of_isPathVariable declared
  have noBrace : '\x7d' ∉ queryPart (queryEntries encode
      ((Template.parse template).playing .query arguments)) :=
    not_mem_queryPart (fun argument present =>
      insertable argument ((Pattern.mem_playing _).mp present).1) plainKeys
  have brace : '\x7d' ∈ Template.placeholder name.toList := by simp [Template.placeholder]
  have key : name ∉ arguments.map Prod.fst ↔ valueOf encode arguments name.toList = none := by
    rw [valueOf_eq_none_iff, String.ofList_toList]
  rw [← names_joinedPath plainRoot, key]
  constructor
  · rintro (⟨listed, within⟩ | within | ⟨split, started, unfinished, ends, goesOn⟩)
    · rename_i captured
      cases found : valueOf encode arguments captured with
      | some replacement =>
          obtain ⟨argument, given, rfl⟩ := exists_of_valueOf found
          rw [found] at within
          exact absurd (within.mem List.mem_cons_self) (insertable argument given).inert.noDollar
      | none =>
          have declared := names_joined plainRoot listed
          rw [found, Option.getD_none,
            Template.placeholder_infix_iff (Template.captured_of_mem_names declared).2] at within
          obtain rfl := within.resolve_right (Template.not_nested_of_clean (clean _ declared))
          exact ⟨listed, found⟩
    · exact absurd (within.mem brace) noBrace
    · exact absurd (goesOn.mem (Template.mem_of_placeholder_eq unclosed started unfinished split))
        noBrace
  · rintro ⟨listed, missing⟩
    refine .text listed ?_
    rw [missing]
    exact List.infix_refl _

/-- The placeholder of a path variable stays where it occurs in the joined path filled in, with the
query behind it. -/
theorem stays_iff (insertable : ∀ argument ∈ arguments, Insertable encode argument.2) {name : String}
    (declared : name ∈ (Template.parse template).pathVariables) :
    Stays root (Template.parse template) encode arguments name ↔
      Template.placeholder name.toList <:+: Template.fill (valueOf encode arguments)
          (joinedPath root (Template.parse template))
        ++ queryPart (queryEntries encode
          ((Template.parse template).playing .query arguments)) := by
  obtain ⟨nonempty, unclosed⟩ := legal_of_isPathVariable (List.contains_iff_mem.mpr declared)
  refine (Template.placeholder_infix_fill_append_iff unclosed ?_ nonempty).symm
  intro other replacement found
  obtain ⟨argument, given, rfl⟩ := exists_of_valueOf found
  exact (insertable argument given).inert.whole

/-- **A report agrees exactly when the variables that stay are those without an argument.** -/
theorem agrees_reportOf_iff_placed (plainRoot : '$' ∉ root.toList)
    (insertable : ∀ argument ∈ arguments, Insertable encode argument.2)
    (ordered : ((Template.parse template).playing .path arguments).Pairwise fun earlier later =>
      ¬ Template.Nested earlier.1.toList later.1.toList) :
    ((reportOf root (Template.parse template) encode arguments).Agrees root
        (Template.parse template) ↔
      Placed root (Template.parse template) arguments
        (Stays root (Template.parse template) encode arguments)) ∧
    ((reportOf root (Template.parse template) encode arguments).Agrees root
        (Template.parse template) →
      ∀ captured ∈ Template.names (joinedPath root (Template.parse template)),
      Undisturbed ((Template.parse template).playing .path arguments) captured) := by
  rw [agrees_reportOf_iff]
  by_cases undisturbed : ∀ captured ∈ Template.names (joinedPath root (Template.parse template)),
    Undisturbed ((Template.parse template).playing .path arguments) captured
  · have path := pathPart_eq_fill plainRoot insertable undisturbed
    refine ⟨placed_congr fun name declared => ?_, fun _ => undisturbed⟩
    rw [stays_iff insertable declared, reportOf, assemble, String.toList_ofList, path]
  · -- Neither side holds: a key is nested in a name without an argument.
    simp only [Classical.not_forall] at undisturbed
    obtain ⟨captured, listed, disturbed⟩ := undisturbed
    have visible : ¬ Placed root (Template.parse template) arguments fun name =>
        Template.placeholder name.toList
          <:+: (reportOf root (Template.parse template) encode arguments).uri.toList :=
      not_placed_of_disturbed plainRoot ordered listed disturbed
        fun _ _ _ _ within shown => List.IsInfix.trans within shown
    have stays : ¬ Placed root (Template.parse template) arguments
        (Stays root (Template.parse template) encode arguments) := by
      refine not_placed_of_disturbed plainRoot ordered listed disturbed ?_
      intro name declared other alsoDeclared within shown
      rw [stays_iff insertable alsoDeclared] at shown
      rw [stays_iff insertable declared]
      exact within.trans shown
    exact ⟨iff_of_false visible stays, fun agrees => absurd agrees visible⟩

/-- Without openings in the names and closing braces in the query the variables that stay are those
without an argument exactly when all of them are captured in the path. -/
theorem placed_iff_of_clean
    (clean : ∀ name ∈ Template.names template.toList, Text.occurs Template.opening name = false)
    (plainRoot : '$' ∉ root.toList)
    (insertable : ∀ argument ∈ arguments, Insertable encode argument.2)
    (plainKeys : ∀ argument ∈ (Template.parse template).playing .query arguments,
      '\x7d' ∉ argument.1.toList) :
    Placed root (Template.parse template) arguments
        (Stays root (Template.parse template) encode arguments) ↔
      Template.names template.toList
        ⊆ Template.names (Template.parse template).literalPath.toList := by
  have stays : ∀ name, (Template.parse template).isPathVariable name = true →
      (Stays root (Template.parse template) encode arguments name ↔
        name.toList ∈ Template.names (Template.parse template).literalPath.toList ∧
          name ∉ arguments.map Prod.fst) :=
    fun _ declared => stays_iff_of_clean clean plainRoot insertable plainKeys declared
  constructor
  · intro placed name listed
    have declared : String.ofList name ∈ (Template.parse template).pathVariables :=
      List.contains_iff_mem.mp (isPathVariable_parse.mpr listed)
    obtain ⟨left, found⟩ := placed _ declared
    by_cases given : String.ofList name ∈ arguments.map Prod.fst
    · have inPath := (found given).2
      rwa [String.toList_ofList, infix_joinedPath_iff plainRoot clean listed] at inPath
    · have inPath := ((stays _ (isPathVariable_parse.mpr listed)).mp (left given)).1
      rwa [String.toList_ofList] at inPath
  · intro within name declared
    have listed := isPathVariable_iff.mp (List.contains_iff_mem.mpr declared)
    rw [stays name (List.contains_iff_mem.mpr declared),
      infix_joinedPath_iff plainRoot clean listed]
    exact ⟨fun missing => ⟨within listed, missing⟩,
      fun given => ⟨fun both => both.2 given, within listed⟩⟩

end Addresses

/-! ## Values that are lost -/

section Losing

variable {root : String} {pattern : Pattern} {encode : Bool} {supplied : List (String × Value)}
  {name : List Char} {text : List Char}

/-- A placeholder that does not occur does not come up, unless a value is part of its name. -/
theorem not_infix_substituteAll
    (insertable : ∀ argument ∈ supplied, Insertable encode argument.2)
    (foreign : ∀ argument ∈ supplied, ¬ rendered encode argument.2 <:+: name)
    (absent : ¬ Template.placeholder name <:+: text) :
    ¬ Template.placeholder name <:+: substituteAll encode supplied text := by
  induction supplied generalizing text with
  | nil => exact absent
  | cons argument supplied inductionHypothesis =>
      rw [List.forall_mem_cons] at insertable foreign
      rw [substituteAll_cons]
      refine inductionHypothesis insertable.2 foreign.2 fun within => absent ?_
      exact Text.infix_of_infix_replaceAll insertable.1.inert.noDollar
        (Template.apart_placeholder insertable.1.no_mark foreign.1) within

/-- The placeholder of an argument is gone when it has been used. -/
theorem not_infix_substitute {argument : String × Value}
    (insertable : Insertable encode argument.2)
    (foreign : ¬ rendered encode argument.2 <:+: argument.1.toList) (text : List Char) :
    ¬ Template.placeholder argument.1.toList
      <:+: substitute argument.1 (rendered encode argument.2) text :=
  Text.not_infix_replaceAll insertable.inert.noDollar
    (Template.apart_placeholder insertable.no_mark foreign) text

/-- **In every other order a value is lost.**  If a name ends in the placeholder of an argument that
is used before its own, then that placeholder is replaced within its own, which is found no more
when its turn comes; so the address does not depend on the value, although the name is reported as
substituted. Only a value that is part of a name can put the placeholder together again. -/
theorem exists_lost_of_not_ordered
    (insertable : ∀ argument ∈ supplied, Insertable encode argument.2)
    (foreign : ∀ argument ∈ supplied, ∀ other ∈ supplied,
      ¬ rendered encode argument.2 <:+: other.1.toList)
    (unordered : ¬ supplied.Pairwise fun earlier later =>
      ¬ Template.Nested earlier.1.toList later.1.toList) :
    ∃ earlier lost later, supplied = earlier ++ lost :: later ∧
      (∃ argument ∈ earlier, Template.Nested argument.1.toList lost.1.toList) ∧
      pathPart root pattern encode (earlier ++ lost :: later)
        = pathPart root pattern encode (earlier ++ later) := by
  simp only [List.pairwise_iff_forall_sublist, Classical.not_forall, Classical.not_not] at unordered
  obtain ⟨argument, lost, inOrder, nested⟩ := unordered
  obtain ⟨front, back, rfl, first, second⟩ := List.cons_sublist_iff.mp inOrder
  obtain ⟨middle, later, rfl⟩ := List.append_of_mem (List.singleton_sublist.mp second)
  obtain ⟨start, rest, rfl⟩ := List.append_of_mem first
  refine ⟨start ++ argument :: rest ++ middle, lost, later, by simp, ⟨argument, by simp, nested⟩, ?_⟩
  have between : ∀ other ∈ rest ++ middle,
      other ∈ start ++ argument :: rest ++ (middle ++ lost :: later) := by
    intro other present
    rcases List.mem_append.mp present with early | late
    · simp [early]
    · simp [late]
  -- From its turn on the first placeholder does not occur, and so the other one does not either.
  have gone := not_infix_substituteAll
    (fun other present => insertable other (between other present))
    (fun other present => foreign other (between other present) argument (by simp))
    (not_infix_substitute (insertable argument (by simp))
      (foreign argument (by simp) argument (by simp))
      (substituteAll encode start (joinedPath root pattern)))
  have unfound : ¬ Template.placeholder lost.1.toList <:+: substituteAll encode (rest ++ middle)
      (substitute argument.1 (rendered encode argument.2)
        (substituteAll encode start (joinedPath root pattern))) :=
    fun within => gone (nested.infix_placeholder.trans within)
  have kept : substitute lost.1 (rendered encode lost.2) _ = _ := Text.replaceAll_eq_self unfound
  rw [pathPart_eq, pathPart_eq]
  simp only [substituteAll, List.foldl_append, List.foldl_cons] at kept ⊢
  rw [kept]

end Losing

/-! ## When a report agrees -/

/-- **When a report agrees with its address.**  Suppose that no argument is used before one whose
name ends in its placeholder.  Then the report agrees exactly when every path variable without an
argument stays in the address, and every one with an argument does not and occurs in the joined
path; and then the path of the address is the joined path with all values put in as they are.  Where
no name contains an opening and no query argument a closing brace, it agrees exactly when all path
variables of the template are captured in its path, and then every value that is supplied for one is
a part of the address. -/
theorem agrees_iff {template root : String} {encode : Bool} {arguments : List (String × Value)}
    (plainRoot : '$' ∉ root.toList)
    (insertable : ∀ argument ∈ arguments, Insertable encode argument.2)
    (ordered : ((Template.parse template).playing .path arguments).Pairwise fun earlier later =>
      ¬ Template.Nested earlier.1.toList later.1.toList) :
    ∃ resolution,
      build root (Template.parse template) encode (.mapping (textEntries arguments))
        = .ok resolution ∧
      (resolution.Agrees root (Template.parse template) ↔
        Placed root (Template.parse template) arguments
          (Stays root (Template.parse template) encode arguments)) ∧
      (resolution.Agrees root (Template.parse template) →
        resolution.uri = String.ofList (Template.fill (valueOf encode arguments)
          (joinedPath root (Template.parse template)) ++ resolution.queryText)) ∧
      ((∀ name ∈ Template.names template.toList, Text.occurs Template.opening name = false) →
        (∀ argument ∈ (Template.parse template).playing .query arguments,
          '\x7d' ∉ argument.1.toList) →
        (resolution.Agrees root (Template.parse template) ↔
          Template.names template.toList
            ⊆ Template.names (Template.parse template).literalPath.toList) ∧
        (resolution.Agrees root (Template.parse template) →
          ∀ name ∈ Template.names template.toList, ∀ value,
            valueOf encode arguments name = some value → value <:+: resolution.uri.toList)) := by
  obtain ⟨agrees, settled⟩ := agrees_reportOf_iff_placed plainRoot insertable ordered
  have address : (reportOf root (Template.parse template) encode arguments).Agrees root
      (Template.parse template) →
      (reportOf root (Template.parse template) encode arguments).uri
        = String.ofList (Template.fill (valueOf encode arguments)
          (joinedPath root (Template.parse template))
            ++ (reportOf root (Template.parse template) encode arguments).queryText) := by
    intro agreement
    rw [queryText_reportOf, ← pathPart_eq_fill plainRoot insertable (settled agreement)]
    rfl
  refine ⟨_, build_eq_reportOf root (Template.parse template) encode fun argument given _ =>
    renderable_of_ne_nil (insertable argument given).nonempty, agrees, address, ?_⟩
  intro clean plainKeys
  have captured := placed_iff_of_clean clean plainRoot insertable plainKeys
  refine ⟨agrees.trans captured, fun agreement name listed value found => ?_⟩
  have inPath := captured.mp (agrees.mp agreement) listed
  rw [← names_joinedPath plainRoot] at inPath
  have put : (valueOf encode arguments name).getD (Template.placeholder name)
      <:+: Template.fill (valueOf encode arguments) (joinedPath root (Template.parse template)) :=
    Template.infix_fill_of_mem_names inPath
  rw [found, Option.getD_some] at put
  rw [address agreement, String.toList_ofList]
  exact put.trans (List.prefix_append _ _).isInfix

end Runtimes

section Usual

attribute [local instance] Runtime.usual

/-- A variable with an argument, one without, and an argument for the query. -/
theorem agrees_iff_partly :
    ∃ resolution,
      build "http://h" (Template.parse "/$\x7ba\x7d/$\x7bb\x7d?q") false
        (.mapping (textEntries [("q", .text "x"), ("a", .int 7)])) = .ok resolution ∧
      resolution.Agrees "http://h" (Template.parse "/$\x7ba\x7d/$\x7bb\x7d?q") ∧
      "7".toList <:+: resolution.uri.toList := by
  have plainRoot : '$' ∉ "http://h".toList := by decide
  have insertable : ∀ argument ∈ [("q", Value.text "x"), ("a", .int 7)],
      Insertable false argument.2 := by decide +kernel
  have ordered : ((Template.parse "/$\x7ba\x7d/$\x7bb\x7d?q").playing .path
      [("q", Value.text "x"), ("a", .int 7)]).Pairwise fun earlier later =>
        ¬ Template.Nested earlier.1.toList later.1.toList := by decide +kernel
  obtain ⟨resolution, built, -, -, simple⟩ := agrees_iff plainRoot insertable ordered
  obtain ⟨agrees, shows⟩ := simple (by decide +kernel) (by decide +kernel)
  have agreement := agrees.mpr (by decide +kernel)
  exact ⟨resolution, built, agreement, shows agreement ['a'] (by decide +kernel) _ (by decide +kernel)⟩

/-- A variable behind the question mark is reported as left but is not in the address, and reported
as substituted but was not in the path. -/
theorem not_agrees_query :
    (∃ resolution, build "http://h" (Template.parse "/a?$\x7bid\x7d") false (.mapping [])
        = .ok resolution ∧
      resolution.uri = "http://h/a" ∧ resolution.unresolved = ["id"] ∧
      ¬ resolution.Agrees "http://h" (Template.parse "/a?$\x7bid\x7d")) ∧
    ∃ resolution, build "http://h" (Template.parse "/a?$\x7bid\x7d") false
        (.mapping (textEntries [("id", .int 7)])) = .ok resolution ∧
      resolution.uri = "http://h/a" ∧ resolution.placeholders = [("id", .substituted)] ∧
      ¬ resolution.Agrees "http://h" (Template.parse "/a?$\x7bid\x7d") := by
  constructor
  · refine ⟨_, @build_eq_reportOf _ _ _ _ [] nofun, by decide +kernel, by decide +kernel,
      fun agrees => ?_⟩
    have shown := agrees.left "id" (by decide +kernel)
    revert shown
    decide +kernel
  · refine ⟨_, build_eq_reportOf _ _ _ (by decide +kernel), by decide +kernel, by decide +kernel,
      fun agrees => ?_⟩
    have found := agrees.found "id" (by decide +kernel)
    revert found
    decide +kernel

end Usual

end Uri

end Routebook

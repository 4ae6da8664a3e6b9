import Routebook.Proofs.Uri.Resolution

/-!
# The order of the arguments

The path of an address is made by using the path arguments one after another, so a later one also
replaces its placeholder in the text that an earlier one has put in.  Values that are whole, and
hold the placeholder of no other argument, are put in as they are in every order
(`Uri.uri_of_perm`).  For a given template and given keys the order does not matter for any texts at
all only where there is nothing to choose: at most one of the keys is a path variable, or none of
them is captured in the path (`Uri.order_free_iff`).
-/

namespace Routebook

set_option autoImplicit false

namespace Uri

/-! ## Keys and texts -/

/-- Arguments with given keys, all of whose values are texts. -/
def textArguments (keys : List String) (texts : String → String) : List (String × Value) :=
  keys.map fun key => (key, .text (texts key))

section Keys

variable {keys : List String} {texts : String → String}

theorem keys_textArguments : (textArguments keys texts).map Prod.fst = keys := by
  rw [textArguments, List.map_map]
  exact List.map_id _

theorem playing_textArguments (pattern : Pattern) :
    pattern.playing .path (textArguments keys texts)
      = textArguments (keys.filter pattern.isPathVariable) texts := by
  rw [Pattern.playing, textArguments, List.filter_map, textArguments]
  refine congrArg (List.map _) (List.filter_congr fun key _ => ?_)
  rw [Bool.eq_iff_iff, Function.comp_apply, beq_iff_eq, Pattern.role_eq_path]

end Keys

section Runtimes

variable [Runtime]

/-! ## Every order -/

/-- The arguments make the same path in every order. -/
def OrderFree (root : String) (pattern : Pattern) (encode : Bool)
    (arguments : List (String × Value)) : Prop :=
  ∃ path : List Char, ∀ reordered : List (String × Value), reordered.Perm arguments →
    ∃ resolution,
      build root pattern encode (.mapping (textEntries reordered)) = .ok resolution ∧
      resolution.uri = String.ofList (path ++ resolution.queryText)

section Orders

variable {root : String} {pattern : Pattern} {encode : Bool} {arguments : List (String × Value)}

/-- The path of a report is what its path arguments make of the joined path. -/
theorem uri_reportOf (root : String) (pattern : Pattern) (encode : Bool)
    (arguments : List (String × Value)) :
    (reportOf root pattern encode arguments).uri
      = String.ofList (pathPart root pattern encode (pattern.playing .path arguments)
        ++ (reportOf root pattern encode arguments).queryText) := by
  rw [queryText_reportOf]
  rfl

theorem build_of_perm {reordered : List (String × Value)} (permuted : reordered.Perm arguments)
    (renderable : ∀ argument ∈ arguments,
      pattern.role argument.1 ≠ .unused → Renderable encode argument.2) :
    build root pattern encode (.mapping (textEntries reordered))
      = .ok (reportOf root pattern encode reordered) :=
  build_eq_reportOf root pattern encode fun argument given =>
    renderable argument (permuted.mem_iff.mp given)

/-- Where all that is used has a text, the order does not matter when the path arguments make the
same path in every order. -/
theorem orderFree_iff_pathPart
    (renderable : ∀ argument ∈ arguments,
      pattern.role argument.1 ≠ .unused → Renderable encode argument.2) :
    OrderFree root pattern encode arguments ↔
      ∃ path, ∀ reordered : List (String × Value), reordered.Perm arguments →
        pathPart root pattern encode (pattern.playing .path reordered) = path := by
  refine exists_congr fun path => forall₂_congr fun reordered permuted => ?_
  constructor
  · rintro ⟨resolution, built, address⟩
    rw [build_of_perm permuted renderable] at built
    cases built
    rw [uri_reportOf, String.ofList_inj] at address
    exact List.append_cancel_right address
  · rintro rfl
    exact ⟨_, build_of_perm permuted renderable, uri_reportOf _ _ _ _⟩

/-- Whether the order matters does not depend on the order. -/
theorem OrderFree.of_perm {reordered : List (String × Value)}
    (free : OrderFree root pattern encode arguments) (permuted : arguments.Perm reordered) :
    OrderFree root pattern encode reordered := by
  obtain ⟨path, same⟩ := free
  exact ⟨path, fun other again => same other (again.trans permuted.symm)⟩

/-- At most one path argument is the same in every order. -/
theorem orderFree_of_length_le_one
    (renderable : ∀ argument ∈ arguments,
      pattern.role argument.1 ≠ .unused → Renderable encode argument.2)
    (few : (pattern.playing .path arguments).length ≤ 1) :
    OrderFree root pattern encode arguments := by
  refine (orderFree_iff_pathPart renderable).mpr
    ⟨pathPart root pattern encode (pattern.playing .path arguments), fun reordered permuted => ?_⟩
  have same := pattern.playing_of_perm permuted .path
  rcases shape : pattern.playing .path arguments with _ | ⟨argument, _ | ⟨second, rest⟩⟩
  · rw [shape, List.perm_nil] at same
    rw [same]
  · rw [shape, List.perm_singleton] at same
    rw [same]
  · rw [shape] at few
    simp at few

/-- Arguments whose placeholders are not in the joined path leave it alone in every order. -/
theorem orderFree_of_absent
    (renderable : ∀ argument ∈ arguments,
      pattern.role argument.1 ≠ .unused → Renderable encode argument.2)
    (absent : ∀ argument ∈ pattern.playing .path arguments,
      ¬ Template.placeholder argument.1.toList <:+: joinedPath root pattern) :
    OrderFree root pattern encode arguments := by
  refine (orderFree_iff_pathPart renderable).mpr
    ⟨joinedPath root pattern, fun reordered permuted => ?_⟩
  rw [pathPart_eq]
  refine substituteAll_eq_self fun argument plays => absent argument ?_
  exact (pattern.playing_of_perm permuted .path).mem_iff.mp plays

end Orders

/-! ## Values that are put in as they are -/

section Values

variable {template root : String} {encode : Bool} {arguments : List (String × Value)}

/-- **Whole values that hold no placeholder of another argument are put in as they are in every
order.** -/
theorem uri_of_perm
    (clean : ∀ name ∈ Template.names template.toList, Text.occurs Template.opening name = false)
    (plainRoot : '$' ∉ root.toList) (distinct : (arguments.map Prod.fst).Nodup)
    (renderable : ∀ argument ∈ arguments,
      (Template.parse template).role argument.1 ≠ .unused → Renderable encode argument.2)
    (whole : ∀ argument ∈ (Template.parse template).playing .path arguments,
      Template.Whole (rendered encode argument.2))
    (inward : ∀ argument ∈ (Template.parse template).playing .path arguments,
      ∀ other ∈ (Template.parse template).playing .path arguments, other.1 ≠ argument.1 →
        ¬ Template.placeholder other.1.toList <:+: rendered encode argument.2)
    {reordered : List (String × Value)} (permuted : reordered.Perm arguments) :
    ∃ resolution,
      build root (Template.parse template) encode (.mapping (textEntries reordered))
        = .ok resolution ∧
      resolution.uri = String.ofList (Template.fill (valueOf encode arguments)
        (joinedPath root (Template.parse template)) ++ resolution.queryText) := by
  have plays : ∀ argument, argument ∈ (Template.parse template).playing .path reordered
      ↔ argument ∈ (Template.parse template).playing .path arguments :=
    fun _ => (Pattern.playing_of_perm _ permuted .path).mem_iff
  have apart : ((Template.parse template).playing .path reordered).Pairwise fun earlier later =>
      earlier.1 ≠ later.1 :=
    (List.pairwise_map.mp ((permuted.map Prod.fst).nodup_iff.mpr distinct)).filter _
  have successive : Successive encode ((Template.parse template).playing .path reordered) :=
    { legal := fun _ => legal_of_mem_playing
      whole := fun argument given => whole argument ((plays argument).mp given)
      inward := apart.imp_of_mem fun {earlier later} first second different =>
        inward earlier ((plays earlier).mp first) later ((plays later).mp second) different.symm }
  have undisturbed : ∀ captured ∈ Template.names (joinedPath root (Template.parse template)),
      Undisturbed ((Template.parse template).playing .path reordered) captured :=
    fun captured listed => undisturbed_of_not_nested fun _ _ =>
      Template.not_nested_of_clean (clean captured (names_joined plainRoot listed))
  have values : valueOf encode reordered = valueOf encode arguments := by
    funext name
    rw [valueOf, valueOf, lookup_perm permuted ((permuted.map _).nodup_iff.mpr distinct)]
  refine ⟨_, build_of_perm permuted renderable, ?_⟩
  rw [uri_reportOf, pathPart_eq, substituteAll_eq_fill successive undisturbed,
    fill_playing plainRoot, values]

end Values

/-! ## Two orders -/

/-- What stands for a name is inert when all values are. -/
theorem inert_valueOf {encode : Bool} {arguments : List (String × Value)}
    (inert : ∀ argument ∈ arguments, Template.Inert (rendered encode argument.2)) :
    ∀ name value, valueOf encode arguments name = some value → Template.Inert value := by
  intro name value found
  obtain ⟨argument, given, rfl⟩ := exists_of_valueOf found
  exact inert argument given

/-- The placeholder of a name as a value. -/
def reference (name : String) : Value := .text (String.ofList (Template.placeholder name.toList))

theorem rendered_reference (name : String) :
    rendered false (reference name) = Template.placeholder name.toList := String.toList_ofList

/-- In a text with names of the template, substituting a reference for a name fills in that name. -/
theorem substitute_reference {template first : String} (second : String)
    (clean : ∀ name ∈ Template.names template.toList, Text.occurs Template.opening name = false)
    (declared : first.toList ∈ Template.names template.toList) {text : List Char}
    (within : Template.names text ⊆ Template.names template.toList) :
    substitute first (rendered false (reference second)) text
      = Template.fill (Template.single first.toList (Template.placeholder second.toList)) text := by
  obtain ⟨nonempty, unclosed⟩ := Template.captured_of_mem_names declared
  rw [rendered_reference]
  exact Template.replaceAll_eq_fill nonempty unclosed fun captured listed =>
    Template.not_nested_of_clean (clean captured (within listed))

/-- Inert values are put in at once, in a text with names of the template. -/
theorem substituteAll_of_inert {template : String} {supplied : List (String × Value)}
    (clean : ∀ name ∈ Template.names template.toList, Text.occurs Template.opening name = false)
    (legal : ∀ argument ∈ supplied, argument.1.toList ≠ [] ∧ '\x7d' ∉ argument.1.toList)
    (inert : ∀ argument ∈ supplied, Template.Inert (rendered false argument.2)) {text : List Char}
    (within : Template.names text ⊆ Template.names template.toList) :
    substituteAll false supplied text = Template.fill (valueOf false supplied) text :=
  substituteAll_eq_fill_of_inert legal inert fun captured listed =>
    undisturbed_of_not_nested fun _ _ =>
      Template.not_nested_of_clean (clean captured (within listed))

section TwoOrders

variable {template root : String} {first second : String} {supplied : List (String × Value)}
  (clean : ∀ name ∈ Template.names template.toList, Text.occurs Template.opening name = false)
  (plainRoot : '$' ∉ root.toList)
  (declared : first.toList ∈ Template.names template.toList)
  (alsoDeclared : second.toList ∈ Template.names template.toList)
  (legal : ∀ argument ∈ supplied, argument.1.toList ≠ [] ∧ '\x7d' ∉ argument.1.toList)
  (inert : ∀ argument ∈ supplied, Template.Inert (rendered false argument.2))
include clean plainRoot declared alsoDeclared legal inert

/-- The value of a first argument that is the placeholder of a later one is replaced. -/
theorem not_mem_names_of_first (given : second ∈ supplied.map Prod.fst) :
    second.toList ∉ Template.names (substituteAll false ((first, reference second) :: supplied)
      (joinedPath root (Template.parse template))) := by
  obtain ⟨full, unclosed⟩ := Template.captured_of_mem_names alsoDeclared
  have whole := Template.whole_of_single first.toList (Template.whole_placeholder second.toList)
  -- The reference brings a name that the template has as well.
  have within : Template.names (Template.fill
      (Template.single first.toList (Template.placeholder second.toList))
      (joinedPath root (Template.parse template))) ⊆ Template.names template.toList := by
    refine Template.names_fill_subset whole (names_joined plainRoot) fun name value found => ?_
    rw [Template.single] at found
    split at found
    · cases found
      rw [Template.names_placeholder_self full unclosed]
      exact List.cons_subset.mpr ⟨alsoDeclared, List.nil_subset _⟩
    · cases found
  rw [substituteAll_cons, substitute_reference second clean declared (names_joined plainRoot),
    substituteAll_of_inert clean legal inert within,
    Template.mem_names_fill_iff_of_inert (inert_valueOf inert), valueOf_eq_none_iff,
    String.ofList_toList]
  exact fun both => both.2 given

/-- The value of a last argument stays. -/
theorem mem_names_of_last (missing : first ∉ supplied.map Prod.fst)
    (captured : first.toList ∈ Template.names (joinedPath root (Template.parse template))) :
    second.toList ∈ Template.names (substituteAll false (supplied ++ [(first, reference second)])
      (joinedPath root (Template.parse template))) := by
  obtain ⟨full, unclosed⟩ := Template.captured_of_mem_names alsoDeclared
  have whole := Template.whole_of_single first.toList (Template.whole_placeholder second.toList)
  have names : ∀ name, name ∈ Template.names (Template.fill (valueOf false supplied)
        (joinedPath root (Template.parse template)))
      ↔ name ∈ Template.names (joinedPath root (Template.parse template)) ∧
        valueOf false supplied name = none :=
    fun name => Template.mem_names_fill_iff_of_inert (inert_valueOf inert)
  rw [substituteAll_concat, substituteAll_of_inert clean legal inert (names_joined plainRoot),
    substitute_reference second clean declared fun name listed =>
      names_joined plainRoot ((names name).mp listed).1, Template.mem_names_fill_iff whole]
  refine ⟨first.toList, (names _).mpr ⟨captured, ?_⟩, ?_⟩
  · rwa [valueOf_eq_none_iff, String.ofList_toList]
  · rw [Template.single, if_pos rfl, Option.getD_some, Template.names_placeholder_self full unclosed]
    exact List.mem_singleton_self _

end TwoOrders

/-- **A reference to another path argument is replaced in one order and stays in the other.** -/
theorem not_orderFree_reference {template root first second : String}
    {others : List (String × Value)}
    (clean : ∀ name ∈ Template.names template.toList, Text.occurs Template.opening name = false)
    (plainRoot : '$' ∉ root.toList)
    (captured : first.toList ∈ Template.names (Template.parse template).literalPath.toList)
    (declared : second.toList ∈ Template.names template.toList)
    (missing : first ∉ others.map Prod.fst) (given : second ∈ others.map Prod.fst)
    (inert : ∀ argument ∈ others, Template.Inert (rendered false argument.2)) :
    ¬ OrderFree root (Template.parse template) false ((first, reference second) :: others) := by
  have alsoDeclared := names_literalPath template captured
  have inPath : first.toList ∈ Template.names (joinedPath root (Template.parse template)) := by
    rw [names_joinedPath plainRoot]
    exact captured
  have role := (Pattern.role_eq_path _).mpr (isPathVariable_iff.mpr alsoDeclared)
  let supplied := (Template.parse template).playing .path others
  have keys : ∀ {name : String}, name.toList ∈ Template.names template.toList →
      (name ∈ supplied.map Prod.fst ↔ name ∈ others.map Prod.fst) := fun listed =>
    Pattern.mem_keys_playing_path _ (List.contains_iff_mem.mp (isPathVariable_iff.mpr listed)) others
  have still : ∀ argument ∈ supplied, Template.Inert (rendered false argument.2) :=
    fun argument plays => inert argument ((Pattern.mem_playing _).mp plays).1
  have front : (Template.parse template).playing .path ((first, reference second) :: others)
      = (first, reference second) :: supplied := by
    rw [Pattern.playing_cons, if_pos role]
  have back : (Template.parse template).playing .path (others ++ [(first, reference second)])
      = supplied ++ [(first, reference second)] := by
    rw [Pattern.playing_append, Pattern.playing_cons, if_pos role, Pattern.playing_nil]
  have renderable : ∀ argument ∈ (first, reference second) :: others,
      (Template.parse template).role argument.1 ≠ .unused → Renderable false argument.2 := by
    intro argument given _
    rcases List.mem_cons.mp given with rfl | given
    · exact renderable_text _
    · exact renderable_of_ne_nil (inert argument given).nonempty
  rw [orderFree_iff_pathPart renderable]
  rintro ⟨path, same⟩
  have one := same _ (List.Perm.refl _)
  have two := same _ (List.perm_append_singleton (first, reference second) others)
  rw [front, pathPart_eq] at one
  rw [back, pathPart_eq, ← one] at two
  have replaced := not_mem_names_of_first clean plainRoot alsoDeclared declared
    (fun _ => legal_of_mem_playing) still ((keys declared).mpr given)
  have stays := mem_names_of_last clean plainRoot alsoDeclared declared
    (fun _ => legal_of_mem_playing) still (fun present => missing ((keys alsoDeclared).mp present))
    inPath
  rw [two] at stays
  exact replaced stays

/-! ## Texts -/

section Texts

variable {keys : List String} {texts : String → String}

theorem renderable_textArguments (pattern : Pattern) :
    ∀ argument ∈ textArguments keys texts,
      pattern.role argument.1 ≠ .unused → Renderable false argument.2 := by
  intro argument given _
  obtain ⟨key, -, rfl⟩ := List.mem_map.mp given
  exact renderable_text _

/-- Whole texts that hold no placeholder of another path argument are put in as they are in every
order. -/
theorem uri_textArguments {template root : String}
    (clean : ∀ name ∈ Template.names template.toList, Text.occurs Template.opening name = false)
    (plainRoot : '$' ∉ root.toList) (distinct : keys.Nodup)
    (free : ∀ key ∈ keys.filter (Template.parse template).isPathVariable,
      Template.Whole (texts key).toList ∧
      ∀ other ∈ keys.filter (Template.parse template).isPathVariable, other ≠ key →
        ¬ Template.placeholder other.toList <:+: (texts key).toList)
    {reordered : List (String × Value)} (permuted : reordered.Perm (textArguments keys texts)) :
    ∃ resolution,
      build root (Template.parse template) false (.mapping (textEntries reordered))
        = .ok resolution ∧
      resolution.uri = String.ofList
        (Template.fill (valueOf false (textArguments keys texts))
          (joinedPath root (Template.parse template)) ++ resolution.queryText) := by
  have keysNodup : ((textArguments keys texts).map Prod.fst).Nodup := by
    rwa [keys_textArguments]
  refine uri_of_perm clean plainRoot keysNodup (renderable_textArguments _) ?_ ?_ permuted
  · rw [playing_textArguments]
    intro argument plays
    obtain ⟨key, listed, rfl⟩ := List.mem_map.mp plays
    exact (free key listed).1
  · rw [playing_textArguments]
    intro argument plays other alsoPlays different
    obtain ⟨key, listed, rfl⟩ := List.mem_map.mp plays
    obtain ⟨second, alsoListed, rfl⟩ := List.mem_map.mp alsoPlays
    exact (free key listed).2 second alsoListed different

/-- The texts with the placeholder of a name for one key, and a letter for all others. -/
def referring (first second : String) (key : String) : String :=
  if key = first then String.ofList (Template.placeholder second.toList) else "x"

/-- Two path arguments, of which one is captured in the path, can be given texts for which the order
matters. -/
theorem not_orderFree_referring {template root : String}
    (clean : ∀ name ∈ Template.names template.toList, Text.occurs Template.opening name = false)
    (plainRoot : '$' ∉ root.toList) (distinct : keys.Nodup) {first second : String}
    (given : first ∈ keys) (alsoGiven : second ∈ keys) (different : second ≠ first)
    (captured : first.toList ∈ Template.names (Template.parse template).literalPath.toList)
    (declared : second.toList ∈ Template.names template.toList) :
    ¬ OrderFree root (Template.parse template) false
      (textArguments keys (referring first second)) := by
  have letter : Template.Inert (rendered false (.text "x")) := by
    rw [rendered_text]
    exact ⟨by decide, by decide, by decide⟩
  have inert : ∀ argument ∈ textArguments (keys.erase first) (referring first second),
      Template.Inert (rendered false argument.2) := by
    intro argument present
    obtain ⟨key, other, rfl⟩ := List.mem_map.mp present
    rw [referring, if_neg (distinct.mem_erase_iff.mp other).1]
    exact letter
  have ordered : (textArguments keys (referring first second)).Perm
      ((first, reference second) :: textArguments (keys.erase first) (referring first second)) := by
    have value : (first, Value.text (referring first second first)) = (first, reference second) := by
      rw [referring, if_pos rfl, reference]
    rw [← value]
    exact (List.perm_cons_erase given).map _
  refine fun free => not_orderFree_reference clean plainRoot captured declared ?_ ?_ inert
    (free.of_perm ordered)
  · rw [keys_textArguments]
    exact distinct.not_mem_erase
  · rw [keys_textArguments]
    exact (distinct.mem_erase_iff).mpr ⟨different, alsoGiven⟩

end Texts

/-! ## When the order does not matter -/

/-- **The order of the arguments matters for some texts as soon as there is something to choose.**
For a template without openings in its names, a root without dollar signs and distinct keys, all
texts make the same path in every order exactly when at most one key is a path variable, or no key
is captured in the path.  Otherwise the path is that of the texts put in as they are, in every
order, as long as each text for the path is whole and holds no placeholder of another path argument.
-/
theorem order_free_iff {template root : String} {keys : List String}
    (clean : ∀ name ∈ Template.names template.toList, Text.occurs Template.opening name = false)
    (plainRoot : '$' ∉ root.toList) (distinct : keys.Nodup) :
    ((∀ texts : String → String,
        OrderFree root (Template.parse template) false (textArguments keys texts)) ↔
      (keys.filter (Template.parse template).isPathVariable).length ≤ 1 ∨
        ∀ key ∈ keys, key.toList ∉ Template.names (Template.parse template).literalPath.toList) ∧
    ∀ texts : String → String,
      (∀ key ∈ keys.filter (Template.parse template).isPathVariable,
        Template.Whole (texts key).toList ∧
        ∀ other ∈ keys.filter (Template.parse template).isPathVariable, other ≠ key →
          ¬ Template.placeholder other.toList <:+: (texts key).toList) →
      ∀ reordered : List (String × Value), reordered.Perm (textArguments keys texts) →
        ∃ resolution,
          build root (Template.parse template) false (.mapping (textEntries reordered))
            = .ok resolution ∧
          resolution.uri = String.ofList
            (Template.fill (valueOf false (textArguments keys texts))
              (joinedPath root (Template.parse template)) ++ resolution.queryText) := by
  refine ⟨⟨fun free => ?_, ?_⟩, fun texts free reordered permuted =>
    uri_textArguments clean plainRoot distinct free permuted⟩
  · by_cases few : (keys.filter (Template.parse template).isPathVariable).length ≤ 1
    · exact .inl few
    · refine .inr fun first given captured => ?_
      have declared := names_literalPath template captured
      -- Another path variable is among the keys.
      have present : first ∈ keys.filter (Template.parse template).isPathVariable :=
        List.mem_filter.mpr ⟨given, isPathVariable_iff.mpr declared⟩
      have more :
          ((keys.filter (Template.parse template).isPathVariable).erase first).length ≠ 0 := by
        rw [List.length_erase_of_mem present]
        omega
      obtain ⟨second, other⟩ := List.exists_mem_of_length_pos (Nat.pos_of_ne_zero more)
      have apart : (keys.filter (Template.parse template).isPathVariable).Nodup := distinct.filter _
      obtain ⟨different, listed⟩ := apart.mem_erase_iff.mp other
      obtain ⟨alsoGiven, alsoDeclared⟩ := List.mem_filter.mp listed
      exact not_orderFree_referring clean plainRoot distinct given alsoGiven different captured
        (isPathVariable_iff.mp alsoDeclared) (free _)
  · rintro (few | absent) texts
    · refine orderFree_of_length_le_one (renderable_textArguments _) ?_
      rwa [playing_textArguments, textArguments, List.length_map]
    · refine orderFree_of_absent (renderable_textArguments _) fun argument plays within => ?_
      obtain ⟨present, role⟩ := (Pattern.mem_playing _).mp plays
      have key : argument.1 ∈ keys := by
        rw [← @keys_textArguments keys texts]
        exact List.mem_map_of_mem present
      have declared := isPathVariable_iff.mp ((Pattern.role_eq_path _).mp role)
      rw [infix_joinedPath_iff plainRoot clean declared] at within
      exact absent argument.1 key within

end Runtimes

/-- The placeholder of its own key as a text, and a dollar sign with a character behind it. -/
def quotedTexts (key : String) : String :=
  if key = "a" then "$\x7ba\x7d" else "$-"

section Usual

attribute [local instance] Runtime.usual

/-- Texts with dollar signs and with the placeholder of their own key are put in as they are. -/
theorem order_free_iff_quoted :
    ∃ resolution,
      build "http://h" (Template.parse "/$\x7ba\x7d/$\x7bb\x7d") false (.mapping (textEntries
        [("b", .text "$-"), ("a", .text "$\x7ba\x7d")])) = .ok resolution ∧
      resolution.uri = String.ofList
        (Template.fill (valueOf false (textArguments ["a", "b"] quotedTexts))
          (joinedPath "http://h" (Template.parse "/$\x7ba\x7d/$\x7bb\x7d"))
            ++ resolution.queryText) := by
  have clean : ∀ name ∈ Template.names "/$\x7ba\x7d/$\x7bb\x7d".toList,
      Text.occurs Template.opening name = false := by decide +kernel
  have plainRoot : '$' ∉ "http://h".toList := by decide
  have distinct : ["a", "b"].Nodup := by decide
  have used : ["a", "b"].filter
      (Template.parse "/$\x7ba\x7d/$\x7bb\x7d").isPathVariable = ["a", "b"] := by
    decide +kernel
  have dollar : Template.Whole "$-".toList :=
    { closed := fun after opens =>
        absurd (opens.mem (List.mem_cons_of_mem _ List.mem_cons_self))
          (by decide : '\x7b' ∉ ['$', '-'])
      noDollar := by decide
      nonempty := by decide
      detached := fun _ same => by cases same }
  refine (order_free_iff clean plainRoot distinct).2 quotedTexts ?_ _ (List.Perm.swap _ _ _)
  rw [used]
  simp only [List.forall_mem_cons, List.not_mem_nil, false_implies, implies_true, and_true]
  exact ⟨⟨Template.whole_placeholder ['a'], by decide, by decide⟩, dollar, by decide, by decide⟩

/-- The placeholder of one argument as the text of another: it is replaced when it is put in first,
and stays when it is put in last. -/
theorem not_order_free_referring :
    ¬ OrderFree "http://h" (Template.parse "/$\x7ba\x7d/$\x7bb\x7d") false
        [("a", .text "$\x7bb\x7d"), ("b", .text "x")] ∧
      (build "http://h" (Template.parse "/$\x7ba\x7d/$\x7bb\x7d") false (.mapping (textEntries
        [("a", .text "$\x7bb\x7d"), ("b", .text "x")]))).toOption.map Resolution.uri
          = some "http://h/x/x" ∧
      (build "http://h" (Template.parse "/$\x7ba\x7d/$\x7bb\x7d") false (.mapping (textEntries
        [("b", .text "x"), ("a", .text "$\x7bb\x7d")]))).toOption.map Resolution.uri
          = some "http://h/$\x7bb\x7d/x" := by
  refine ⟨?_, by decide +kernel, by decide +kernel⟩
  have clean : ∀ name ∈ Template.names "/$\x7ba\x7d/$\x7bb\x7d".toList,
      Text.occurs Template.opening name = false := by decide +kernel
  have plainRoot : '$' ∉ "http://h".toList := by decide
  have distinct : ["a", "b"].Nodup := by decide
  have given : "a" ∈ ["a", "b"] := by decide
  have alsoGiven : "b" ∈ ["a", "b"] := by decide
  have shown : textArguments ["a", "b"] (referring "a" "b")
      = [("a", .text "$\x7bb\x7d"), ("b", .text "x")] := rfl
  rw [← shown]
  exact not_orderFree_referring clean plainRoot distinct given alsoGiven (by decide)
    (by decide +kernel) (by decide +kernel)

end Usual

end Uri

end Routebook

import Routebook.Proofs.Uri.Substitution

/-!
# What becomes of the arguments

Resolving the arguments one after another sorts them by their roles (`Uri.foldl_placed`): each of
the address, the outcomes, the query and the keys left out depends on the arguments of one role, in
their order.  The report of a build is therefore put together from three lists (`Uri.assemble`), and
it does not matter how these were interleaved (`Uri.build_accounts`).
-/

namespace Routebook

set_option autoImplicit false

namespace Uri

/-! ## Outcomes -/

/-- The outcomes with several names marked as substituted. -/
def markAll (names : List String) (outcomes : List (String × Outcome)) :
    List (String × Outcome) :=
  names.foldl (fun outcomes name => markSubstituted name outcomes) outcomes

/-- Marking names changes the outcomes of these names and nothing else. -/
theorem markAll_eq (names : List String) (outcomes : List (String × Outcome)) :
    markAll names outcomes
      = outcomes.map fun entry => (entry.1, if entry.1 ∈ names then .substituted else entry.2) := by
  induction names generalizing outcomes with
  | nil => simp [markAll]
  | cons name names inductionHypothesis =>
      have step : markAll (name :: names) outcomes
          = markAll names (markSubstituted name outcomes) := rfl
      rw [step, inductionHypothesis, markSubstituted, List.map_map]
      refine List.map_congr_left fun entry _ => ?_
      by_cases same : entry.1 = name
      · simp [same]
      · simp [same]

/-- The outcome of a path variable: it is substituted when its name is a key. -/
def outcomeOf (arguments : List (String × Value)) (name : String) : Outcome :=
  if name ∈ arguments.map Prod.fst then .substituted else .leftAsLiteral

theorem outcomeOf_eq_substituted {arguments : List (String × Value)} {name : String} :
    outcomeOf arguments name = .substituted ↔ name ∈ arguments.map Prod.fst := by
  unfold outcomeOf
  split <;> simp [*]

theorem outcomeOf_eq_leftAsLiteral {arguments : List (String × Value)} {name : String} :
    outcomeOf arguments name = .leftAsLiteral ↔ name ∉ arguments.map Prod.fst := by
  unfold outcomeOf
  split <;> simp [*]

/-- The names among several that have an outcome. -/
theorem names_with_outcome (arguments : List (String × Value)) (names : List String)
    (outcome : Outcome) :
    ((names.map fun name => (name, outcomeOf arguments name)).filter fun entry =>
        entry.2 == outcome).map Prod.fst
      = names.filter fun name => outcomeOf arguments name == outcome := by
  rw [List.filter_map, List.map_map]
  exact List.map_id _

/-! ## Queries and keys -/

/-- The text of a query in an address: a question mark and the entries joined by ampersands, or
nothing when there are no entries. -/
def queryPart (entries : List (String × List Char)) : List Char :=
  if entries = [] then []
  else '?' :: ['&'].intercalate (entries.map fun entry => entry.1.toList ++ '=' :: entry.2)

theorem queryCharacters_eq (entries : List (String × List Char)) :
    queryCharacters entries = queryPart entries := by
  cases entries with
  | nil => rfl
  | cons entry entries =>
      rw [queryPart, if_neg (List.cons_ne_nil _ _)]
      rfl

/-- The key of a path argument is a legal name. -/
theorem legal_of_mem_playing {template : String} {arguments : List (String × Value)}
    {argument : String × Value}
    (plays : argument ∈ (Template.parse template).playing .path arguments) :
    argument.1.toList ≠ [] ∧ '\x7d' ∉ argument.1.toList :=
  legal_of_isPathVariable ((Pattern.role_eq_path _).mp ((Pattern.mem_playing _).mp plays).2)

/-- Keys that are texts are reported as they are. -/
theorem keyTexts_texts (names : List String) : keyTexts (names.map .text) = .ok names := by
  rw [keyTexts_eq_ok, List.filterMap_map]
  · exact congrArg Except.ok List.filterMap_some
  · intro key present
    obtain ⟨name, -, rfl⟩ := List.mem_map.mp present
    exact ⟨name, rfl⟩

section Runtimes

variable [Runtime]

/-! ## Resolving in one go -/

/-- The entries of the query that arguments make. -/
def queryEntries (encode : Bool) (arguments : List (String × Value)) :
    List (String × List Char) :=
  arguments.map fun argument => (argument.1, rendered encode argument.2)

section Running

variable {pattern : Pattern} {encode : Bool}

/-- One argument changes what belongs to its role. -/
theorem placed_text (progress : Progress) (name : String) (value : Value) :
    progress.placed pattern encode (.text name, value) =
      match pattern.role name with
      | .path =>
          { progress with
            address := substitute name (rendered encode value) progress.address
            placeholders := markSubstituted name progress.placeholders }
      | .query =>
          { progress with query := progress.query ++ [(name, rendered encode value)] }
      | .unused => { progress with ignored := progress.ignored ++ [.text name] } := by
  simp only [Progress.placed, Pattern.role]
  cases pattern.isPathVariable name with
  | true => rfl
  | false => cases pattern.isQueryParameter name <;> rfl

/-- **Resolving arguments sorts them by their roles.** -/
theorem foldl_placed (arguments : List (String × Value)) (progress : Progress) :
    (textEntries arguments).foldl (Progress.placed pattern encode) progress =
      { address := substituteAll encode (pattern.playing .path arguments) progress.address
        placeholders :=
          markAll ((pattern.playing .path arguments).map Prod.fst) progress.placeholders
        query := progress.query ++ queryEntries encode (pattern.playing .query arguments)
        ignored := progress.ignored
          ++ (pattern.playing .unused arguments).map fun argument => .text argument.1 } := by
  induction arguments generalizing progress with
  | nil => simp [textEntries, Pattern.playing_nil, substituteAll, markAll, queryEntries]
  | cons argument arguments inductionHypothesis =>
      obtain ⟨name, value⟩ := argument
      have step : (textEntries ((name, value) :: arguments)).foldl
          (Progress.placed pattern encode) progress
          = (textEntries arguments).foldl (Progress.placed pattern encode)
              (progress.placed pattern encode (.text name, value)) := rfl
      rw [step, inductionHypothesis, placed_text]
      simp only [Pattern.playing_cons]
      cases pattern.role name <;>
        simp [substituteAll, markAll, queryEntries]

end Running

/-! ## The report -/

/-- The path of an address: the joined path with the supplied path variables replaced. -/
def pathPart (root : String) (pattern : Pattern) (encode : Bool)
    (supplied : List (String × Value)) : List Char :=
  substituteAll encode supplied (joinCharacters root.toList pattern.literalPath.toList)

theorem pathPart_eq (root : String) (pattern : Pattern) (encode : Bool)
    (supplied : List (String × Value)) :
    pathPart root pattern encode supplied
      = substituteAll encode supplied (joinedPath root pattern) := rfl

/-- The joined path is filled in with the path arguments alone. -/
theorem fill_playing {template root : String} (plainRoot : '$' ∉ root.toList) (encode : Bool)
    (arguments : List (String × Value)) :
    Template.fill (valueOf encode ((Template.parse template).playing .path arguments))
        (joinedPath root (Template.parse template))
      = Template.fill (valueOf encode arguments) (joinedPath root (Template.parse template)) := by
  refine Template.fill_congr fun name listed => valueOf_filter fun argument _ same => ?_
  have declared := isPathVariable_parse.mpr (names_joined plainRoot listed)
  rw [← same, String.ofList_toList] at declared
  rw [beq_iff_eq, Pattern.role_eq_path]
  exact declared

/-- The report that is put together from the arguments of each role. -/
def assemble (root : String) (pattern : Pattern) (encode : Bool)
    (supplied asked unused : List (String × Value)) : Resolution where
  uri := String.ofList
    (pathPart root pattern encode supplied ++ queryPart (queryEntries encode asked))
  placeholders := pattern.distinctPathVariables.map fun name =>
    (name, if name ∈ supplied.map Prod.fst then .substituted else .leftAsLiteral)
  query := asked.map fun argument => (argument.1, String.ofList (rendered encode argument.2))
  ignored := unused.map Prod.fst

/-! ## The law of resolution -/

/-- What a resolution says about the arguments of a build. -/
structure Resolution.Accounts (root : String) (pattern : Pattern) (encode : Bool)
    (arguments : List (String × Value)) (resolution : Resolution) : Prop where
  /-- The query holds the arguments that go there, with their rendered values. -/
  query : resolution.query = (pattern.playing .query arguments).map fun argument =>
    (argument.1, String.ofList (rendered encode argument.2))
  /-- The keys that are left out are those of all other arguments. -/
  ignored : resolution.ignored = (pattern.playing .unused arguments).map Prod.fst
  /-- The path variables stand in the order of their first appearance. -/
  names : resolution.placeholders.map Prod.fst = pattern.pathVariables.eraseDups
  /-- Each of them stands there once. -/
  once : (resolution.placeholders.map Prod.fst).Nodup
  /-- A path variable is substituted exactly when its name is a key. -/
  substituted : ∀ entry ∈ resolution.placeholders,
    entry.2 = .substituted ↔ entry.1 ∈ arguments.map Prod.fst
  /-- The other path variables are unresolved, in the same order. -/
  unresolved : resolution.unresolved
    = pattern.pathVariables.eraseDups.filter fun name => name ∉ arguments.map Prod.fst
  /-- The address is a path made with the path arguments alone, and the query after it. -/
  uri : resolution.uri = String.ofList
    (pathPart root pattern encode (pattern.playing .path arguments)
      ++ queryPart (queryEntries encode (pattern.playing .query arguments)))

section Assembled

variable (root : String) (pattern : Pattern) (encode : Bool) (arguments : List (String × Value))

/-- The report of the arguments of a build. -/
def reportOf : Resolution :=
  assemble root pattern encode (pattern.playing .path arguments)
    (pattern.playing .query arguments) (pattern.playing .unused arguments)

theorem placeholders_reportOf :
    (reportOf root pattern encode arguments).placeholders
      = pattern.pathVariables.eraseDups.map fun name => (name, outcomeOf arguments name) := by
  refine List.map_congr_left fun name listed => ?_
  have declared : name ∈ pattern.pathVariables := List.mem_eraseDups.mp listed
  simp only [outcomeOf, pattern.mem_keys_playing_path declared arguments]

theorem accounts_reportOf :
    (reportOf root pattern encode arguments).Accounts root pattern encode arguments := by
  have placeholders := placeholders_reportOf root pattern encode arguments
  have names : (reportOf root pattern encode arguments).placeholders.map Prod.fst
      = pattern.pathVariables.eraseDups := by
    rw [placeholders, List.map_map]
    exact List.map_id _
  refine
    { query := rfl
      ignored := rfl
      names := names
      once := ?_
      substituted := ?_
      unresolved := ?_
      uri := rfl }
  · rw [names]
    exact Template.nodup_eraseDups _
  · intro entry present
    rw [placeholders] at present
    obtain ⟨name, -, rfl⟩ := List.mem_map.mp present
    exact outcomeOf_eq_substituted
  · rw [Resolution.unresolved, placeholders, names_with_outcome]
    refine List.filter_congr fun name _ => ?_
    rw [Bool.eq_iff_iff, beq_iff_eq, decide_eq_true_eq]
    exact outcomeOf_eq_leftAsLiteral

/-- With distinct keys the substituted names are the keys of the path arguments. -/
theorem substituted_perm (distinct : (arguments.map Prod.fst).Nodup) :
    (((reportOf root pattern encode arguments).placeholders.filter fun entry =>
        entry.2 == .substituted).map Prod.fst).Perm
      ((pattern.playing .path arguments).map Prod.fst) := by
  rw [placeholders_reportOf, names_with_outcome]
  have kept : ((pattern.playing .path arguments).map Prod.fst).Sublist (arguments.map Prod.fst) :=
    List.filter_sublist.map _
  -- Neither list has repetitions, so it is enough that they have the same members.
  refine (List.perm_ext_iff_of_nodup ((Template.nodup_eraseDups _).filter _)
    (distinct.sublist kept)).mpr ?_
  intro name
  rw [List.mem_filter, List.mem_eraseDups, beq_iff_eq, outcomeOf_eq_substituted]
  constructor
  · rintro ⟨declared, given⟩
    exact (pattern.mem_keys_playing_path declared arguments).mpr given
  · intro supplied
    obtain ⟨argument, plays, rfl⟩ := List.mem_map.mp supplied
    have declared : argument.1 ∈ pattern.pathVariables :=
      List.contains_iff_mem.mp (pattern.role_eq_path.mp (pattern.mem_playing.mp plays).2)
    exact ⟨declared, (pattern.mem_keys_playing_path declared arguments).mp supplied⟩

/-- With distinct keys every key is reported once. -/
theorem keys_reportOf (distinct : (arguments.map Prod.fst).Nodup) :
    (((reportOf root pattern encode arguments).placeholders.filter fun entry =>
        entry.2 == .substituted).map Prod.fst
      ++ (reportOf root pattern encode arguments).query.map Prod.fst
      ++ (reportOf root pattern encode arguments).ignored).Perm (arguments.map Prod.fst) := by
  have queried : (reportOf root pattern encode arguments).query.map Prod.fst
      = (pattern.playing .query arguments).map Prod.fst := List.map_map
  have unused : (reportOf root pattern encode arguments).ignored
      = (pattern.playing .unused arguments).map Prod.fst := rfl
  have reported := substituted_perm root pattern encode arguments distinct
  rw [queried, unused]
  refine ((reported.append_right _).append_right _).trans ?_
  rw [← List.map_append, ← List.map_append]
  exact (pattern.playing_perm arguments).map Prod.fst

theorem finish_final :
    (Progress.final root pattern encode (textEntries arguments)).finish
      = .ok (reportOf root pattern encode arguments) := by
  have ignored : (pattern.playing .unused arguments).map (fun argument => Value.text argument.1)
      = ((pattern.playing .unused arguments).map Prod.fst).map .text := by
    rw [List.map_map]
    rfl
  rw [Progress.final, foldl_placed, Progress.finish]
  simp only [Progress.start, List.nil_append, queryCharacters_eq, markAll_eq]
  rw [ignored, keyTexts_texts]
  simp only [Except.map, reportOf, assemble, pathPart, queryEntries, List.map_map,
    Function.comp_def]

/-- **A build reports what its arguments of each role make, if those that are used have a text.** -/
theorem build_eq_ok_iff_reportOf {resolution : Resolution} :
    build root pattern encode (.mapping (textEntries arguments)) = .ok resolution ↔
      (∀ argument ∈ arguments,
        pattern.role argument.1 ≠ .unused → Renderable encode argument.2) ∧
      reportOf root pattern encode arguments = resolution := by
  rw [build_eq_ok_iff, usable_textEntries_iff, finish_final, Except.ok.injEq]

theorem build_eq_reportOf {arguments : List (String × Value)}
    (renderable : ∀ argument ∈ arguments,
      pattern.role argument.1 ≠ .unused → Renderable encode argument.2) :
    build root pattern encode (.mapping (textEntries arguments))
      = .ok (reportOf root pattern encode arguments) :=
  (build_eq_ok_iff_reportOf root pattern encode arguments).mpr ⟨renderable, rfl⟩

/-- The query of a report as it stands in the address. -/
theorem queryText_reportOf :
    (reportOf root pattern encode arguments).queryText
      = queryPart (queryEntries encode (pattern.playing .query arguments)) := by
  rw [Resolution.queryText, queryCharacters_eq]
  simp only [reportOf, assemble, queryEntries, List.map_map, Function.comp_def, String.toList_ofList]

end Assembled

/-- **A build accounts for all its arguments, however those of different roles are interleaved.**
An address is built exactly when the arguments that are used have a text.  With distinct keys every
key is reported once: as a substituted path variable, in the query, or among the keys left out. -/
theorem build_accounts (root : String) (pattern : Pattern) (encode : Bool)
    (arguments : List (String × Value)) :
    ((∃ resolution,
        build root pattern encode (.mapping (textEntries arguments)) = .ok resolution) ↔
      ∀ argument ∈ arguments,
        pattern.role argument.1 ≠ .unused → Renderable encode argument.2) ∧
    ∀ resolution,
      build root pattern encode (.mapping (textEntries arguments)) = .ok resolution →
      resolution.Accounts root pattern encode arguments ∧
      (∀ interleaved : List (String × Value),
        (∀ role, pattern.playing role interleaved = pattern.playing role arguments) →
          build root pattern encode (.mapping (textEntries interleaved)) = .ok resolution) ∧
      ((arguments.map Prod.fst).Nodup →
        ((resolution.placeholders.filter fun entry => entry.2 == .substituted).map Prod.fst
          ++ resolution.query.map Prod.fst ++ resolution.ignored).Perm
            (arguments.map Prod.fst)) := by
  refine ⟨exists_build_textEntries_iff, fun resolution built => ?_⟩
  obtain ⟨renderable, rfl⟩ := (build_eq_ok_iff_reportOf root pattern encode arguments).mp built
  refine ⟨accounts_reportOf root pattern encode arguments, ?_, ?_⟩
  · intro interleaved same
    rw [build_eq_ok_iff_reportOf, reportOf, reportOf, same, same, same]
    refine ⟨fun argument given used => ?_, rfl⟩
    -- Both lists have the same arguments, for each of them plays its role in both.
    have plays := (Pattern.mem_playing pattern).mpr ⟨given, rfl⟩
    rw [same] at plays
    exact renderable argument ((Pattern.mem_playing pattern).mp plays).1 used
  · intro distinct
    exact keys_reportOf root pattern encode arguments distinct

end Runtimes

/-- A pattern with a path variable that is also a query parameter, one that is declared twice, and a
query parameter without a name. -/
def overlapping : Pattern :=
  ⟨"/$\x7bid\x7d/$\x7bpage\x7d/$\x7bid\x7d", ["id", "page", "id"], ["id", "q", ""]⟩

section Usual

attribute [local instance] Runtime.usual

/-- A name that is declared twice goes to the path, and the text of a placeholder stays in the
query.
-/
theorem build_accounts_overlapping :
    ∃ resolution,
      build "http://h" overlapping false (.mapping (textEntries
        [("q", .text "$\x7bpage\x7d"), ("size", .int 9), ("id", .int 7), ("", .truth true)]))
          = .ok resolution ∧
      resolution.Accounts "http://h" overlapping false
        [("q", .text "$\x7bpage\x7d"), ("size", .int 9), ("id", .int 7), ("", .truth true)] ∧
      build "http://h" overlapping false (.mapping (textEntries
        [("id", .int 7), ("q", .text "$\x7bpage\x7d"), ("", .truth true), ("size", .int 9)]))
          = .ok resolution ∧
      ((resolution.placeholders.filter fun entry => entry.2 == .substituted).map Prod.fst
        ++ resolution.query.map Prod.fst ++ resolution.ignored).Perm ["q", "size", "id", ""] := by
  obtain ⟨builds, accounting⟩ := build_accounts "http://h" overlapping false
    [("q", .text "$\x7bpage\x7d"), ("size", .int 9), ("id", .int 7), ("", .truth true)]
  obtain ⟨resolution, built⟩ := builds.mpr (by decide +kernel)
  obtain ⟨accounts, interleaving, complete⟩ := accounting resolution built
  refine ⟨resolution, built, accounts, interleaving _ ?_, complete (by decide)⟩
  intro role
  cases role <;> rfl

example : (build "http://h" overlapping false (.mapping (textEntries
    [("q", .text "$\x7bpage\x7d"), ("size", .int 9), ("id", .int 7), ("", .truth true)]))).toOption
      = some ⟨"http://h/7/$\x7bpage\x7d/7?q=$\x7bpage\x7d&=true",
          [("id", .substituted), ("page", .leftAsLiteral)],
          [("q", "$\x7bpage\x7d"), ("", "true")], ["size"]⟩ := by
  decide +kernel

end Usual

end Uri

end Routebook

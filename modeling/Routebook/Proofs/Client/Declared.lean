import Routebook.Client.Member
import Routebook.Proofs.Client.Sequence
import Routebook.Proofs.Text.Search

/-!
# Declarations and routes

The declared routes are compiled one after another.  The routes compiled so far keep the names in
the order in which they were declared first, and the route of a name does what its last declaration
says (`Client.Compiles`).  Every declaration beyond the first of its name is noted as a replacement,
so the lines about replacements make up the difference between the declarations and the routes
(`Client.run_foldlM_compileRoute`).  For a transport that takes the default options of the
configuration a client is made exactly when the options of all declarations can be copied
(`Client.exists_run_create`, `Client.exists_run_create_eq_error`).
-/

namespace Routebook

set_option autoImplicit false

open Routebook.Action

/-! ## The last declaration of a name -/

namespace RouteDefinition

/-- The last of the declarations of a name. -/
def last? (name : String) (definitions : List RouteDefinition) : Option RouteDefinition :=
  (definitions.filter fun definition => definition.name == name).getLast?

theorem last?_append_singleton (name : String) (definitions : List RouteDefinition)
    (definition : RouteDefinition) :
    last? name (definitions ++ [definition])
      = if definition.name = name then some definition else last? name definitions := by
  unfold last?
  rw [List.filter_append]
  by_cases named : definition.name = name
  · have kept : [definition].filter (·.name == name) = [definition] :=
      List.filter_cons_of_pos (beq_iff_eq.mpr named)
    rw [if_pos named, kept]
    exact List.getLast?_concat
  · have dropped : [definition].filter (·.name == name) = [] :=
      List.filter_cons_of_neg (by simpa using named)
    rw [if_neg named, dropped, List.append_nil]

/-- The last declaration of a name is one of its declarations. -/
theorem mem_of_last? {name : String} {definitions : List RouteDefinition}
    {definition : RouteDefinition} (last : last? name definitions = some definition) :
    definition ∈ definitions ∧ definition.name = name := by
  obtain ⟨present, named⟩ := List.mem_filter.mp (List.mem_of_getLast? last)
  exact ⟨present, beq_iff_eq.mp named⟩

/-- A name that is declared has a last declaration. -/
theorem exists_last? {name : String} {definitions : List RouteDefinition}
    (declared : name ∈ definitions.map RouteDefinition.name) :
    ∃ definition, last? name definitions = some definition := by
  obtain ⟨definition, present, rfl⟩ := List.mem_map.mp declared
  refine Option.ne_none_iff_exists'.mp fun absent => ?_
  have empty := List.getLast?_eq_none_iff.mp absent
  exact absurd (List.filter_eq_nil_iff.mp empty definition present) (by simp)

end RouteDefinition

/-- A name that is declared again keeps its place, and a new one goes to the end. -/
theorem eraseDups_append_singleton (names : List String) (name : String) :
    (names ++ [name]).eraseDups
      = if name ∈ names.eraseDups then names.eraseDups else names.eraseDups ++ [name] := by
  rw [List.eraseDups_append]
  by_cases present : name ∈ names
  · rw [if_pos (List.mem_eraseDups.mpr present)]
    simp [List.removeAll, present]
  · rw [if_neg fun among => present (List.mem_eraseDups.mp among)]
    simp [List.removeAll, present, List.eraseDups_cons]

/-- Whether a transport takes default options. -/
def Transport.Takes : Transport → Entries → Prop
  | .web sender, options => ∃ merged, Options.merge sender.defaults options = .ok merged
  | .recording recorder, _ => recorder.takesDefaults = true

namespace Client

/-! ## Binding a name -/

theorem find?_nil (name : String) : find? name [] = none := rfl

theorem find?_cons (name : String) (entry : String × Route) (rest : List (String × Route)) :
    find? name (entry :: rest) = if entry.1 = name then some entry.2 else find? name rest := by
  unfold find?
  rw [List.find?_cons]
  by_cases named : entry.1 = name
  · rw [if_pos named, beq_iff_eq.mpr named]
    rfl
  · rw [if_neg named, beq_eq_false_iff_ne.mpr named]

/-- The route of a name is the one that was bound to it last. -/
theorem find?_bind (name other : String) (route : Route) (routes : List (String × Route)) :
    find? other (bind name route routes)
      = if name = other then some route else find? other routes := by
  induction routes with
  | nil => exact find?_cons other (name, route) []
  | cons entry rest inductionHypothesis =>
      rw [bind]
      split
      · rename_i same
        rw [find?_cons, find?_cons, beq_iff_eq.mp same]
        split <;> rfl
      · rename_i different
        rw [find?_cons, find?_cons, inductionHypothesis]
        split
        · rename_i named
          rw [if_neg]
          rintro rfl
          exact different (beq_iff_eq.mpr named)
        · rfl

/-- A name that is bound again keeps its place, and a new one goes to the end. -/
theorem names_bind (name : String) (route : Route) (routes : List (String × Route)) :
    (bind name route routes).map Prod.fst
      = if name ∈ routes.map Prod.fst then routes.map Prod.fst
        else routes.map Prod.fst ++ [name] := by
  induction routes with
  | nil => rfl
  | cons entry rest inductionHypothesis =>
      rw [bind]
      by_cases same : entry.1 = name
      · rw [if_pos (beq_iff_eq.mpr same), List.map_cons, List.map_cons, same,
          if_pos List.mem_cons_self]
      · rw [if_neg (by simpa using same), List.map_cons, List.map_cons, inductionHypothesis]
        simp only [List.mem_cons, Ne.symm same, false_or]
        split <;> rfl

theorem isSome_find?_iff {name : String} {routes : List (String × Route)} :
    (find? name routes).isSome ↔ name ∈ routes.map Prod.fst := by
  induction routes with
  | nil => simp [find?_nil]
  | cons entry rest inductionHypothesis =>
      rw [find?_cons, List.map_cons, List.mem_cons]
      split
      · rename_i named
        simp [named]
      · rename_i different
        rw [inductionHypothesis]
        simp [Ne.symm different]

/-! ## One declaration after another -/

/-- A line that reports that a declaration replaces the route of an earlier one. -/
def reportsReplacement : Notice → Bool
  | .debug text => Text.startsWith "Route '".toList text.toList
  | _ => false

/-- The lines about a declaration, given the routes compiled before. -/
def compilationLines (routes : List (String × Route)) (definition : RouteDefinition) :
    List Notice :=
  replacementLines routes definition ++ [compilationLine definition]

theorem reportsReplacement_replacementLine (definition : RouteDefinition) (previous : Route) :
    reportsReplacement (replacementLine definition previous) = true := by
  rw [replacementLine, reportsReplacement, Text.startsWith_iff]
  simp only [String.toList_append, List.append_assoc]
  exact ⟨_, rfl⟩

theorem reportsReplacement_compilationLine (definition : RouteDefinition) :
    reportsReplacement (compilationLine definition) = false := by
  rw [compilationLine, reportsReplacement]
  simp only [String.toList_append, List.append_assoc]
  rfl

/-- A declaration is reported as a replacement when its name is bound already. -/
theorem countP_compilationLines (routes : List (String × Route)) (definition : RouteDefinition) :
    (compilationLines routes definition).countP reportsReplacement
      = if definition.name ∈ routes.map Prod.fst then 1 else 0 := by
  have compiled : [compilationLine definition].countP reportsReplacement = 0 := by
    rw [List.countP_singleton, reportsReplacement_compilationLine]
    rfl
  unfold compilationLines replacementLines
  rw [List.countP_append, compiled, Nat.add_zero]
  cases found : find? definition.name routes with
  | none =>
      have unbound : definition.name ∉ routes.map Prod.fst := by
        rw [← isSome_find?_iff, found]
        nofun
      rw [if_neg unbound]
      rfl
  | some previous =>
      have bound : definition.name ∈ routes.map Prod.fst := by
        rw [← isSome_find?_iff, found]
        rfl
      rw [if_pos bound, Option.map_some, Option.toList_some, List.countP_singleton,
        reportsReplacement_replacementLine]
      rfl

variable [Runtime]

/-- Compiling a declaration whose options can be copied loads them, binds its route and notes its
lines. -/
theorem run_compileRoute_of_copyable {definition : RouteDefinition}
    (copyable : definition.Copyable) (config : ClientConfig) (active : Transport)
    (routes : List (String × Route)) (session : Session) :
    let loaded := session.store.load (.mapping definition.requestOptions)
    (compileRoute config active routes definition).run session
      = (.ok (bind definition.name (definition.route config active loaded.1) routes),
        Session.noting { session with store := loaded.2 } (compilationLines routes definition)) := by
  intro loaded
  rw [run_compileRoute, compilationLines, ← Session.noting_noting, run_bind,
    RouteDefinition.run_make, if_pos copyable]
  rfl

/-- Compiling a declaration whose options cannot be copied fails. -/
theorem run_compileRoute_of_not_copyable {definition : RouteDefinition}
    (deep : ¬definition.Copyable) (config : ClientConfig) (active : Transport)
    (routes : List (String × Route)) (session : Session) :
    (compileRoute config active routes definition).run session
      = (.error .tooDeep, session.noting (replacementLines routes definition)) := by
  rw [run_compileRoute, run_bind, RouteDefinition.run_make, if_neg deep]

/-- A route that does what a declaration says. -/
structure Implements (config : ClientConfig) (active : Transport) (store : Store)
    (definition : RouteDefinition) (route : Route) : Prop where
  method : route.method = definition.method
  pattern : route.pattern = Template.parse definition.template
  compiled : route.CompiledFrom config active
  reads : store.read route.options = .mapping definition.requestOptions
  within : route.options.Within 0 store.size

/-- Routes that were compiled from declarations: a name has the place of its first declaration, and
its route does what the last one says. -/
structure Compiles (config : ClientConfig) (active : Transport) (store : Store)
    (definitions : List RouteDefinition) (routes : List (String × Route)) : Prop where
  sound : store.Sound
  names : routes.map Prod.fst = (definitions.map RouteDefinition.name).eraseDups
  last : ∀ name definition, RouteDefinition.last? name definitions = some definition →
    ∃ route, find? name routes = some route ∧ Implements config active store definition route

section Compiling

variable {config : ClientConfig} {active : Transport}

omit [Runtime] in
/-- The options of a route are those of its declaration. -/
theorem Implements.options {store : Store} {definition : RouteDefinition} {route : Route}
    (implements : Implements config active store definition route) :
    route.currentOptions store = definition.requestOptions := by
  rw [Route.currentOptions_eq, implements.reads]

omit [Runtime] in
/-- A route does what its declaration says as objects are added. -/
theorem Implements.of_agree {store larger : Store} {definition : RouteDefinition} {route : Route}
    (implements : Implements config active store definition route) (sound : store.Sound)
    (agree : Store.AgreeBelow store.size store larger) :
    Implements config active larger definition route := by
  refine ⟨implements.method, implements.pattern, implements.compiled, ?_,
    implements.within.mono (Nat.le_refl _) agree.size_le⟩
  exact (Store.read_of_agree sound agree implements.within).trans implements.reads

omit [Runtime] in
/-- A compiled route does what its declaration says. -/
theorem implements_route {store : Store} (sound : store.Sound)
    (definition : RouteDefinition) :
    let loaded := store.load (.mapping definition.requestOptions)
    Implements config active loaded.2 definition
      (definition.route config active loaded.1) := by
  intro loaded
  have parts := Store.load_loaded.1 store (.mapping definition.requestOptions) sound
  have reads : loaded.2.read loaded.1 = .mapping definition.requestOptions :=
    (List.cons.inj parts.read).1
  refine ⟨rfl, rfl, ⟨rfl, rfl, rfl, rfl⟩, reads, ?_⟩
  exact (parts.within loaded.1 (List.mem_singleton_self _)).mono (Nat.zero_le _) (Nat.le_refl _)

omit [Runtime] in
/-- Compiling one more declaration binds its route to its name. -/
theorem Compiles.compileRoute {store : Store} {definitions : List RouteDefinition}
    {routes : List (String × Route)} (compiles : Compiles config active store definitions routes)
    (definition : RouteDefinition) :
    let loaded := store.load (.mapping definition.requestOptions)
    Compiles config active loaded.2 (definitions ++ [definition])
      (bind definition.name (definition.route config active loaded.1) routes) := by
  intro loaded
  have parts := Store.load_loaded.1 store (.mapping definition.requestOptions) compiles.sound
  refine ⟨parts.sound, ?_, fun name other last => ?_⟩
  · rw [names_bind, compiles.names, List.map_append, List.map_singleton,
      eraseDups_append_singleton]
  · rw [RouteDefinition.last?_append_singleton] at last
    rw [find?_bind]
    split at last
    · rename_i named
      cases last
      exact ⟨_, if_pos named, implements_route compiles.sound definition⟩
    · rename_i different
      obtain ⟨route, found, implements⟩ := compiles.last name other last
      exact ⟨route, (if_neg different).trans found,
        implements.of_agree compiles.sound parts.agree⟩

omit [Runtime] in
theorem Compiles.nil {store : Store} (sound : store.Sound) : Compiles config active store [] [] :=
  ⟨sound, rfl, nofun⟩

/-- **Compiling declarations one after another binds every name to its last declaration, and the
lines about replacements make up for the declarations that got no route of their own.** -/
theorem run_foldlM_compileRoute {definitions : List RouteDefinition}
    (copyable : ∀ definition ∈ definitions, definition.Copyable)
    {earlier : List RouteDefinition} {routes : List (String × Route)} {session : Session}
    (compiles : Compiles config active session.store earlier routes) :
    ∃ compiled store lines,
      (definitions.foldlM (Client.compileRoute config active) routes).run session
        = (.ok compiled, Session.noting { session with store := store } lines) ∧
      Compiles config active store (earlier ++ definitions) compiled ∧
      lines.countP reportsReplacement + compiled.length = routes.length + definitions.length := by
  induction definitions generalizing earlier routes session with
  | nil =>
      refine ⟨routes, session.store, [], ?_, ?_, Nat.zero_add _⟩
      · rw [Session.noting_nil]
        rfl
      · rwa [List.append_nil]
  | cons definition rest inductionHypothesis =>
      rw [List.forall_mem_cons] at copyable
      have step := run_compileRoute_of_copyable copyable.1 config active routes session
      obtain ⟨compiled, store, lines, run, final, count⟩ :=
        @inductionHypothesis copyable.2 _ _
          (Session.noting
            { session with store := (session.store.load (.mapping definition.requestOptions)).2 }
            (compilationLines routes definition))
          (compiles.compileRoute definition)
      refine ⟨compiled, store, compilationLines routes definition ++ lines, ?_, ?_, ?_⟩
      · rw [List.foldlM_cons, run_bind_ok step, run, ← Session.noting_noting]
        rfl
      · rwa [List.append_assoc] at final
      · have size := congrArg List.length (names_bind definition.name (definition.route config
          active (session.store.load (.mapping definition.requestOptions)).1) routes)
        rw [List.length_map] at size
        rw [size] at count
        rw [List.countP_append, countP_compilationLines, List.length_cons]
        split at count
        · rename_i bound
          rw [if_pos bound, List.length_map] at *
          omega
        · rename_i fresh
          rw [if_neg fresh, List.length_append, List.length_map, List.length_singleton] at *
          omega

/-- Compiling declarations fails at the first one whose options cannot be copied. -/
theorem run_foldlM_compileRoute_eq_error {definitions : List RouteDefinition}
    (deep : ∃ definition ∈ definitions, ¬definition.Copyable) (active : Transport)
    (routes : List (String × Route)) (session : Session) :
    ∃ after, (definitions.foldlM (Client.compileRoute config active) routes).run session
      = (.error .tooDeep, after) := by
  induction definitions generalizing routes session with
  | nil => simp at deep
  | cons definition rest inductionHypothesis =>
      rw [List.foldlM_cons]
      by_cases copyable : definition.Copyable
      · rw [run_bind_ok (run_compileRoute_of_copyable copyable config active routes session)]
        refine inductionHypothesis ?_ _ _
        obtain ⟨later, present, uncopied⟩ := deep
        rcases List.mem_cons.mp present with rfl | present
        · exact absurd copyable uncopied
        · exact ⟨later, present, uncopied⟩
      · exact ⟨_, run_bind_error
          (run_compileRoute_of_not_copyable copyable config active routes session)⟩

end Compiling

/-! ## Making a client -/

variable {config : ClientConfig} {transport : Transport} {session : Session}

/-- A transport can be used with a configuration that sets no default options, or if it takes those
that the configuration sets. -/
def Usable (config : ClientConfig) (transport : Transport) : Prop :=
  ∀ options ∈ config.requestDefaults, transport.Takes options

omit [Runtime] in
/-- A usable transport takes the default options, and neither objects nor lines come of it. -/
theorem exists_run_resolveTransport (usable : Usable config transport) (session : Session) :
    ∃ active after, (resolveTransport config transport).run session = (.ok active, after) ∧
      after.store = session.store ∧ after.notices = session.notices := by
  unfold resolveTransport
  cases given : config.requestDefaults with
  | none => exact ⟨transport, session, rfl, rfl, rfl⟩
  | some options =>
      have takes := usable options given
      cases transport with
      | web sender =>
          obtain ⟨merged, merging⟩ := takes
          refine ⟨.web { sender with defaults := merged }, session, ?_, rfl, rfl⟩
          simp only [Transport.withDefaults, WebTransport.withDefaults, merging]
          rfl
      | recording recorder =>
          have accepts : recorder.takesDefaults = true := takes
          simp only [Transport.withDefaults, accepts, if_true]
          exact ⟨_, _, rfl, rfl, rfl⟩

/-- **A client is made for every usable transport if the options of all declarations can be copied:
of several declarations of a name it keeps the last at the place of the first.** -/
theorem exists_run_create (usable : Usable config transport) (sound : session.store.Sound)
    (copyable : ∀ definition ∈ config.routes, definition.Copyable) :
    ∃ client active created lines,
      (create config transport).run session = (.ok client, created) ∧
      Compiles config active created.store config.routes client.routes ∧
      created.notices = session.notices ++ lines ∧
      lines.countP reportsReplacement + client.routes.length = config.routes.length := by
  obtain ⟨active, after, resolving, store, notices⟩ := exists_run_resolveTransport usable session
  have empty : Compiles config active after.store [] [] := .nil (store ▸ sound)
  obtain ⟨routes, final, lines, compiling, compiles, count⟩ :=
    run_foldlM_compileRoute copyable empty
  refine ⟨⟨routes⟩, active, Session.noting { after with store := final } lines, lines, ?_, compiles,
    congrArg (· ++ lines) notices, count.trans (Nat.zero_add _)⟩
  unfold create
  rw [run_bind_ok resolving, run_bind_ok compiling]
  rfl

/-- With options that cannot be copied no client is made. -/
theorem exists_run_create_eq_error (usable : Usable config transport)
    (deep : ∃ definition ∈ config.routes, ¬definition.Copyable) :
    ∃ after, (create config transport).run session = (.error .tooDeep, after) := by
  obtain ⟨active, resolved, resolving, -, -⟩ := exists_run_resolveTransport usable session
  obtain ⟨after, compiling⟩ := run_foldlM_compileRoute_eq_error deep active [] resolved
  refine ⟨after, ?_⟩
  unfold create
  rw [run_bind_ok resolving, run_bind_error compiling]

end Client

end Routebook

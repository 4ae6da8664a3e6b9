import Routebook.Client
import Routebook.Proofs.Session.Action
import Routebook.Proofs.Value.Copy

/-!
# Compiled routes

All routes of a client carry the root and the switches of the configuration they were compiled from,
and share one transport (`Client.yields_create`).  Over the web that transport is a web transport as
well, with the default options of the configuration laid over its own (`Client.web_of_create`).
-/

namespace Routebook

set_option autoImplicit false

open Routebook.Action

/-- A route that was compiled from a configuration for a transport. -/
structure Route.CompiledFrom (config : ClientConfig) (active : Transport) (route : Route) : Prop where
  root : route.root = config.root
  transport : route.transport = active
  parseJson : route.parseJson = config.parseJson
  encodeValues : route.encodeValues = config.encodeValues

namespace Client

/-! ## Routes by their names -/

/-- Binding a name adds no route but the new one. -/
theorem mem_bind {name : String} {route : Route} {routes : List (String × Route)}
    {entry : String × Route} (present : entry ∈ bind name route routes) :
    entry = (name, route) ∨ entry ∈ routes := by
  induction routes with
  | nil => exact .inl (List.mem_singleton.mp present)
  | cons first rest inductionHypothesis =>
      rw [bind] at present
      split at present
      · rcases List.mem_cons.mp present with new | old
        · exact .inl new
        · exact .inr (List.mem_cons_of_mem _ old)
      · rcases List.mem_cons.mp present with same | later
        · exact .inr (same ▸ List.mem_cons_self)
        · rcases inductionHypothesis later with new | old
          · exact .inl new
          · exact .inr (List.mem_cons_of_mem _ old)

/-- A route that is found by its name is one of the routes. -/
theorem exists_mem_of_find? {name : String} {routes : List (String × Route)} {route : Route}
    (found : find? name routes = some route) : ∃ entry ∈ routes, entry.2 = route := by
  obtain ⟨entry, hit, same⟩ := Option.map_eq_some_iff.mp found
  exact ⟨entry, List.mem_of_find?_eq_some hit, same⟩

/-! ## Transports -/

/-- Over the web, default options leave a web transport that is run dry as before. -/
theorem yields_resolveTransport_web (config : ClientConfig) (sender : WebTransport) :
    Yields (fun active => ∃ other, active = .web other ∧ other.dryRun = sender.dryRun)
      (resolveTransport config (.web sender)) := by
  unfold resolveTransport
  cases config.requestDefaults with
  | none => exact Yields.pure ⟨sender, rfl, rfl⟩
  | some options =>
      intro session active after run
      simp only [Transport.withDefaults, WebTransport.withDefaults] at run
      cases merged : Options.merge sender.defaults options with
      | error failure => rw [merged] at run; cases run
      | ok entries =>
          rw [merged] at run
          cases run
          exact ⟨_, rfl, rfl⟩

/-- With default options an editing transport still edits. -/
theorem yields_resolveTransport_recording (config : ClientConfig) (recorder : Recorder) :
    Yields (fun active => ∃ other, active = .recording other ∧ other.edits = recorder.edits)
      (resolveTransport config (.recording recorder)) := by
  unfold resolveTransport
  cases config.requestDefaults with
  | none => exact Yields.pure ⟨recorder, rfl, rfl⟩
  | some options =>
      simp only [Transport.withDefaults]
      split
      · intro session active after run
        cases run
        exact ⟨_, rfl, rfl⟩
      · intro session active after run
        cases run

/-- Default options are noted by recording transports, and nothing else happens. -/
theorem keeps_resolveTransport {γ : Type} {view : Session → γ}
    (same : ∀ (session : Session) (records : List Record) (transports : Nat),
      view { session with records := records, transports := transports } = view session)
    (config : ClientConfig) (transport : Transport) :
    Keeps view (resolveTransport config transport) := by
  unfold resolveTransport
  cases config.requestDefaults with
  | none => exact Keeps.pure _
  | some options =>
      cases transport with
      | web sender => exact Keeps.bind (Keeps.ofExcept _) fun _ => Keeps.pure _
      | recording recorder =>
          simp only [Transport.withDefaults]
          split
          · refine Keeps.bind (Keeps.bind (Keeps.modify fun _ => same _ _ _) fun _ => ?_) fun _ =>
              Keeps.pure _
            exact Keeps.bind_get fun session => same _ _ _
          · exact Keeps.throw _

end Client

variable [Runtime]

/-! ## Making routes -/

/-- Whether the options of a declaration can be copied. -/
def RouteDefinition.Copyable (definition : RouteDefinition) : Prop :=
  (Value.mapping definition.requestOptions).Copyable

instance (definition : RouteDefinition) : Decidable definition.Copyable :=
  inferInstanceAs (Decidable (Value.Copyable _))

/-- The route that is made for a declaration, with options in an object of its own. -/
def RouteDefinition.route (definition : RouteDefinition) (config : ClientConfig) (active : Transport)
    (options : Handle) : Route where
  root := config.root
  pattern := definition.pattern
  method := definition.method
  transport := active
  options := options
  parseJson := config.parseJson
  encodeValues := config.encodeValues
  name := if definition.name.isEmpty then definition.pattern.literalPath else definition.name

/-- Makes the route of a declaration. -/
def RouteDefinition.make (definition : RouteDefinition) (config : ClientConfig) (active : Transport) :
    Action Route :=
  Route.make config.root definition.pattern definition.method active definition.requestOptions
    config.parseJson config.encodeValues definition.name

/-- The session after an object was made of a value. -/
def Session.loading (session : Session) (value : Value) : Session :=
  { session with store := (session.store.load value).2 }

/-- **A route is made exactly when its options can be copied**, and then these are new objects. -/
theorem RouteDefinition.run_make (definition : RouteDefinition) (config : ClientConfig)
    (active : Transport) (session : Session) :
    (definition.make config active).run session
      = if definition.Copyable then
          (.ok (definition.route config active
            (session.store.load (.mapping definition.requestOptions)).1),
            session.loading (.mapping definition.requestOptions))
        else (.error .tooDeep, session) := by
  unfold RouteDefinition.make Route.make
  rw [run_bind, run_ofExcept]
  by_cases copyable : definition.Copyable
  · rw [Value.requireCopyable_of_copyable copyable, if_pos copyable]
    rfl
  · rw [Value.requireCopyable_of_not_copyable copyable, if_neg copyable]

namespace Client

/-- The line about a route that a declaration replaces. -/
def replacementLine (definition : RouteDefinition) (previous : Route) : Notice :=
  .debug ("Route '" ++ definition.name ++ "' (" ++ definition.method.name
    ++ ") replaces " ++ previous.method.name ++ " route of the same name")

/-- The lines that are noted before a route is made: one if it replaces another. -/
def replacementLines (routes : List (String × Route)) (definition : RouteDefinition) :
    List Notice :=
  ((find? definition.name routes).map (replacementLine definition)).toList

/-- The line that is noted when a route was made. -/
def compilationLine (definition : RouteDefinition) : Notice :=
  .debug ("Compiled " ++ definition.method.name ++ " " ++ definition.name ++ " -> "
    ++ definition.template)

/-- Compiling a declaration tells of a route that is replaced and makes the route. -/
theorem run_compileRoute (config : ClientConfig) (active : Transport)
    (routes : List (String × Route)) (definition : RouteDefinition) (session : Session) :
    (compileRoute config active routes definition).run session
      = ((do
          let route ← definition.make config active
          Action.note (compilationLine definition)
          return bind definition.name route routes) : Action _).run
            (session.noting (replacementLines routes definition)) := by
  unfold compileRoute replacementLines
  cases find? definition.name routes with
  | none =>
      rw [Option.map_none, Option.toList_none, session.noting_nil]
      rfl
  | some previous => rfl

/-- Compiling one more declaration binds a new route, whose options are new objects. -/
theorem exists_of_run_compileRoute {config : ClientConfig} {active : Transport}
    {routes compiled : List (String × Route)} {definition : RouteDefinition}
    {session after : Session}
    (run : (compileRoute config active routes definition).run session = (.ok compiled, after)) :
    ∃ route, compiled = bind definition.name route routes ∧ route.CompiledFrom config active ∧
      (route.options, after.store) = session.store.load (.mapping definition.requestOptions) := by
  rw [run_compileRoute] at run
  obtain ⟨route, made, making, rest⟩ := exists_of_run_bind run
  rw [RouteDefinition.run_make] at making
  split at making
  · cases making
    cases rest
    exact ⟨_, rfl, ⟨rfl, rfl, rfl, rfl⟩, rfl⟩
  · cases making

theorem yields_compileRoute {config : ClientConfig} {active : Transport}
    {routes : List (String × Route)} (definition : RouteDefinition)
    (compiled : ∀ entry ∈ routes, entry.2.CompiledFrom config active) :
    Yields (fun routes => ∀ entry ∈ routes, entry.2.CompiledFrom config active)
      (compileRoute config active routes definition) := by
  intro session result after run
  obtain ⟨route, rfl, holds, -⟩ := exists_of_run_compileRoute run
  intro entry present
  rcases mem_bind present with rfl | old
  · exact holds
  · exact compiled entry old

/-- **All routes of a client are compiled from its configuration for one transport.** -/
theorem yields_create {config : ClientConfig} {transport : Transport} {property : Transport → Prop}
    (resolved : Yields property (resolveTransport config transport)) :
    Yields (fun client => ∃ active, property active ∧
      ∀ entry ∈ client.routes, entry.2.CompiledFrom config active) (create config transport) := by
  refine Yields.bind resolved fun active holds => ?_
  refine Yields.bind (Yields.foldlM (by simp) fun routes definition compiled =>
    yields_compileRoute definition compiled) fun routes compiled => ?_
  exact Yields.pure ⟨active, holds, compiled⟩

/-- **Every route of a client over the web calls over the web.** -/
theorem web_of_create {config : ClientConfig} {sender : WebTransport} {client : Client}
    {session created : Session} {name : String} {route : Route}
    (creation : (create config (.web sender)).run session = (.ok client, created))
    (found : client.route? name = some route) :
    route.parseJson = config.parseJson ∧
      ∃ other, route.transport = .web other ∧ other.dryRun = sender.dryRun := by
  obtain ⟨active, ⟨other, rfl, dry⟩, compiled⟩ :=
    yields_create (yields_resolveTransport_web config sender) session client created creation
  obtain ⟨entry, present, rfl⟩ := exists_mem_of_find? found
  exact ⟨(compiled entry present).parseJson, other, (compiled entry present).transport, dry⟩

/-! ## What making a client leaves alone -/

theorem keeps_compileRoute (config : ClientConfig) (active : Transport)
    (routes : List (String × Route)) (definition : RouteDefinition) :
    Keeps visible (compileRoute config active routes definition) := by
  intro session
  rw [run_compileRoute]
  refine Eq.trans (Keeps.bind ?_ (fun route => Keeps.bind (keeps_note _) fun _ => Keeps.pure _) _) rfl
  intro session
  rw [RouteDefinition.run_make]
  split <;> rfl

/-- **Making a client makes no callbacks and prints no data.** -/
theorem keeps_create (config : ClientConfig) (transport : Transport) :
    Keeps visible (create config transport) := by
  refine Keeps.bind (keeps_resolveTransport (fun _ _ _ => rfl) config transport) fun active => ?_
  refine Keeps.bind (Keeps.foldlM fun routes definition => ?_) fun _ => Keeps.pure _
  exact keeps_compileRoute config active routes definition

end Client

end Routebook

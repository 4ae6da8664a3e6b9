import Routebook.Proofs.Command.Assignment
import Routebook.Proofs.Command.Refusal
import Routebook.Proofs.Value.Overlay

/-!
# Addresses shown and addresses called

One command shows the address of a route and another calls the route.  Up to its transport a call is
`Program.approach`, followed by what happens with the answer (`Program.callRoute_eq`).  Both
commands find the route in the same way (`Program.run_findIn`) and build the address from the same
arguments, so the address that is shown is the one that is handed to the transport, with the method
of the route, whatever the further options say.  There are two exceptions.  Further options that the
reader of JSON refuses at one of its limits stop the call and not the command that shows the
address; and an address with a lone half is handed to the transport, but cannot be shown
(`Program.shown_as_handed_iff`).
-/

namespace Routebook

set_option autoImplicit false

open Routebook.Action

section Runtimes

variable [Runtime]

/-! ## Assignments that are refused -/

namespace Assignment

variable {flag : String}

/-- Assignments to keys fail only where the reader refuses one of their texts. -/
theorem exists_refusal_of_parse {pairs : List (String × String)} {failure : Failure}
    (keys : ∀ pair ∈ pairs, IsKey pair.1) (failed : parse flag (pairs.map word) = .error failure) :
    ∃ pair ∈ pairs, refusal? pair.2 = some failure := by
  rcases Outcome.error_of_bind failed with run | ⟨entries, -, made⟩
  · rw [List.mapM_map] at run
    obtain ⟨pair, present, one⟩ := Outcome.exists_of_mapM_eq_error run
    exact ⟨pair, present, (parseOne_word_eq_error_iff flag (keys pair present)).mp one⟩
  · cases made

end Assignment

/-! ## Clients that stop a call -/

namespace Client

omit [Runtime] in
/-- A name that is not declared has no route. -/
theorem Compiles.find?_eq_none {config : ClientConfig} {active : Transport} {store : Store}
    {definitions : List RouteDefinition} {routes : List (String × Route)}
    (compiles : Compiles config active store definitions routes) {name : String}
    (undeclared : RouteDefinition.last? name definitions = none) : find? name routes = none := by
  rw [← Option.not_isSome_iff_eq_none, isSome_find?_iff, compiles.names, List.mem_eraseDups]
  intro declared
  obtain ⟨definition, last⟩ := RouteDefinition.exists_last? declared
  rw [undeclared] at last
  cases last

/-- Default options that cannot be laid over anything stop every client over the web. -/
theorem run_create_of_refused {config : ClientConfig} {options : Entries} {failure : Failure}
    (given : config.requestDefaults = some options)
    (refused : Options.merge [] options = .error failure) (dryRun : Bool) (session : Session) :
    (create config (.web ⟨[], dryRun⟩)).run session = (.error failure, session) := by
  have stops : (resolveTransport config (.web ⟨[], dryRun⟩)).run session
      = (.error failure, session) := by
    simp only [resolveTransport, given, Transport.withDefaults, WebTransport.withDefaults, refused]
    rfl
  rw [create, run_bind_error stops]

/-- A configuration whose default options no client over the web takes stops all of them alike. -/
theorem exists_failure_of_not_usable {config : ClientConfig}
    (unusable : ¬∀ options ∈ config.requestDefaults, ∃ merged, Options.merge [] options = .ok merged) :
    ∃ failure, ∀ (dryRun : Bool) (session : Session),
      (create config (.web ⟨[], dryRun⟩)).run session = (.error failure, session) := by
  obtain ⟨options, refused⟩ := Classical.not_forall.mp unusable
  obtain ⟨given, unmerged⟩ := Classical.not_imp.mp refused
  cases merging : Options.merge [] options with
  | ok merged => exact absurd ⟨merged, merging⟩ unmerged
  | error failure => exact ⟨failure, run_create_of_refused given merging⟩

end Client

namespace Program

/-! ## Finding the route -/

section Finding

variable (surroundings : Surroundings) (name : String) (config : Option String)

/-- The route of a name in a client for the configuration. -/
def findIn (dryRun : Bool) : Action Route := do
  let configuration ← loadConfig surroundings config
  let client ← Client.create configuration (.web ⟨[], dryRun⟩)
  Action.ofExcept (findRoute client name)

/-- A route that was found for the last declaration of its name. -/
structure Found (session : Session) (configuration : ClientConfig) (definition : RouteDefinition)
    (route : Route) (created : Session) : Prop where
  printed : created.printed = session.printed
  sound : created.store.Sound
  within : route.options.Within 0 created.store.size
  copyable : (created.store.read route.options).Copyable
  method : route.method = definition.method
  pattern : route.pattern = Template.parse definition.template
  root : route.root = configuration.root
  encodeValues : route.encodeValues = configuration.encodeValues

/-- A configuration in force, with the last declaration of a name in it. -/
structure Declares (session : Session) (configuration : ClientConfig)
    (definition : RouteDefinition) : Prop where
  loaded : ((loadConfig surroundings config).run session).1 = .ok configuration
  last : RouteDefinition.last? name configuration.routes = some definition

omit [Runtime] in
/-- A client finds no route for a name that is not declared, and tells which ones it has. -/
theorem findRoute_of_undeclared {name : String} {configuration : ClientConfig} {client : Client}
    {active : Transport} {store : Store}
    (compiles : Client.Compiles configuration active store configuration.routes client.routes)
    (undeclared : RouteDefinition.last? name configuration.routes = none) :
    findRoute client name = .error (.problem (.routeUnknown name
      (configuration.routes.map RouteDefinition.name).eraseDups)) := by
  rw [findRoute, Client.route?, compiles.find?_eq_none undeclared, Client.names, compiles.names]

/-- **Dry or not, a route is found for the last declaration of its name, or the same failure is
met.**
-/
theorem run_findIn {session : Session} (sound : session.store.Sound) :
    (∃ failure, ∀ dryRun, ∃ after,
      (findIn surroundings name config dryRun).run session = (.error failure, after) ∧
        after.printed = session.printed) ∨
    ∃ configuration definition, Declares surroundings name config session configuration definition ∧
      ∀ dryRun, ∃ route created,
        (findIn surroundings name config dryRun).run session = (.ok route, created) ∧
          Found session configuration definition route created := by
  have visibly : visible _ = _ := keeps_loadConfig surroundings config session
  have stored : Session.store _ = _ := keeps_loadConfig surroundings config session
  rcases loading : (loadConfig surroundings config).run session with ⟨failure | configuration, loaded⟩
  · rw [loading] at visibly
    exact .inl ⟨failure, fun dryRun => ⟨loaded, run_bind_error loading,
      congrArg (fun seen => seen.2.2) visibly⟩⟩
  rw [loading] at visibly stored
  have printed : loaded.printed = session.printed := congrArg (fun seen => seen.2.2) visibly
  have intact : loaded.store.Sound := stored ▸ sound
  by_cases usable : ∀ options ∈ configuration.requestDefaults,
      ∃ merged, Options.merge [] options = .ok merged
  case neg =>
    obtain ⟨failure, stops⟩ := Client.exists_failure_of_not_usable usable
    refine .inl ⟨failure, fun dryRun => ⟨loaded, ?_, printed⟩⟩
    rw [findIn, run_bind_ok loading, run_bind_error (stops dryRun loaded)]
  by_cases copyable : ∀ definition ∈ configuration.routes, definition.Copyable
  case neg =>
    refine .inl ⟨.tooDeep, fun dryRun => ?_⟩
    have takes : Client.Usable configuration (.web ⟨[], dryRun⟩) := usable
    obtain ⟨after, stops⟩ := Client.exists_run_create_eq_error takes (by simpa using copyable)
    have kept := Client.keeps_create configuration (.web ⟨[], dryRun⟩) loaded
    rw [stops] at kept
    refine ⟨after, ?_, (congrArg (fun seen => seen.2.2) kept).trans printed⟩
    rw [findIn, run_bind_ok loading, run_bind_error stops]
  -- The clients differ in their transports, but not in what they were compiled from.
  have made : ∀ dryRun, ∃ client active created,
      (Client.create configuration (.web ⟨[], dryRun⟩)).run loaded = (.ok client, created) ∧
        created.printed = session.printed ∧
        Client.Compiles configuration active created.store configuration.routes client.routes := by
    intro dryRun
    have takes : Client.Usable configuration (.web ⟨[], dryRun⟩) := usable
    obtain ⟨client, active, created, lines, creation, compiles, -, -⟩ :=
      Client.exists_run_create takes intact copyable
    have kept := Client.keeps_create configuration (.web ⟨[], dryRun⟩) loaded
    rw [creation] at kept
    exact ⟨client, active, created, creation,
      (congrArg (fun seen => seen.2.2) kept).trans printed, compiles⟩
  cases last : RouteDefinition.last? name configuration.routes with
  | none =>
      refine .inl ⟨.problem (.routeUnknown name
        (configuration.routes.map RouteDefinition.name).eraseDups), fun dryRun => ?_⟩
      obtain ⟨client, active, created, creation, still, compiles⟩ := made dryRun
      refine ⟨created, ?_, still⟩
      rw [findIn, run_bind_ok loading, run_bind_ok creation, findRoute_of_undeclared compiles last,
        run_ofExcept]
  | some definition =>
      refine .inr ⟨configuration, definition, ⟨congrArg Prod.fst loading, last⟩, fun dryRun => ?_⟩
      obtain ⟨client, active, created, creation, still, compiles⟩ := made dryRun
      obtain ⟨route, found, implements⟩ := compiles.last name definition last
      have copies : (created.store.read route.options).Copyable := by
        rw [implements.reads]
        exact copyable definition (RouteDefinition.mem_of_last? last).1
      refine ⟨route, created, ?_, still, compiles.sound, implements.within, copies,
        implements.method, implements.pattern, implements.compiled.root,
        implements.compiled.encodeValues⟩
      have named : findRoute client name = .ok route := by
        rw [findRoute, Client.route?, found]
      rw [findIn, run_bind_ok loading, run_bind_ok creation, named, run_ofExcept]

end Finding

/-! ## Showing the address -/

/-- The warning about a path variable without an argument. -/
def unresolvedWarning (placeholder : String) : Notice :=
  .warning ("Path variable '" ++ placeholder ++ "' was not supplied")

/-- The warning about an argument without a place. -/
def ignoredWarning (key : String) : Notice :=
  .warning ("Argument '" ++ key ++ "' is neither a path variable nor a query parameter")

/-- Shows an address. -/
def showResolution (resolution : Uri.Resolution) : Action Unit := do
  for placeholder in resolution.unresolved do
    Action.note (unresolvedWarning placeholder)
  for key in resolution.ignored do
    Action.note (ignoredWarning key)
  Action.print resolution.uri

/-- The warnings about an address. -/
def warnings (resolution : Uri.Resolution) : List Notice :=
  resolution.unresolved.map unresolvedWarning ++ resolution.ignored.map ignoredWarning

/-- The warnings come first, and then the address is printed. -/
theorem run_showResolution (resolution : Uri.Resolution) (session : Session) :
    (showResolution resolution).run session
      = (Action.print resolution.uri).run (session.noting (warnings resolution)) := by
  unfold showResolution
  rw [run_bind_ok (run_forIn_note unresolvedWarning _ _),
    run_bind_ok (run_forIn_note ignoredWarning _ _), Session.noting_noting]
  rfl

/-- The address of a route for the arguments of a command line. -/
def resolveFor (arguments : List String) (route : Route) : Action Uri.Resolution := do
  let entries ← Action.ofExcept (Assignment.parse "--arg" arguments)
  route.buildUri (some (← loadEntries entries))

/-- The address of the route of a name for the arguments of a command line. -/
def resolveIn (surroundings : Surroundings) (name : String) (config : Option String)
    (arguments : List String) : Action Uri.Resolution :=
  findIn surroundings name config false >>= resolveFor arguments

/-- The address is built first, and then it is shown. -/
theorem showUri_eq (surroundings : Surroundings) (name : String) (config : Option String)
    (arguments : List String) :
    showUri surroundings name config arguments
      = resolveIn surroundings name config arguments >>= showResolution := by
  simp only [showUri, resolveIn, findIn, resolveFor, bind_assoc]
  rfl

omit [Runtime] in
/-- A store with a value more reads it as it was given. -/
theorem readArgument_load {store : Store} (sound : store.Sound) (value : Value) :
    (store.load value).2.readArgument (some (store.load value).1) = value :=
  (List.cons.inj (Store.load_loaded.1 store value sound).read).1

/-- The arguments that are read make the address. -/
theorem exists_run_resolveFor {arguments : List String} {entries : Entries}
    (read : Assignment.parse "--arg" arguments = .ok entries) (route : Route) {session : Session}
    (sound : session.store.Sound) :
    ∃ store, (resolveFor arguments route).run session
      = (Uri.build route.root route.pattern route.encodeValues (.mapping entries),
        { session with store := store }) := by
  let loaded := session.store.load (.mapping entries)
  have loading : (loadEntries entries).run session
      = (.ok loaded.1, { session with store := loaded.2 }) := rfl
  refine ⟨loaded.2, ?_⟩
  rw [resolveFor, read, run_bind_ok (run_ofExcept _ _), run_bind_ok loading, Route.run_buildUri]
  dsimp only
  rw [readArgument_load sound]

/-- Arguments that are refused make no address. -/
theorem run_resolveFor_of_error {arguments : List String} {failure : Failure}
    (refused : Assignment.parse "--arg" arguments = .error failure) (route : Route)
    (session : Session) : (resolveFor arguments route).run session = (.error failure, session) := by
  unfold resolveFor
  rw [refused, run_bind_error (run_ofExcept _ _)]

/-- The arguments of a command line, once the route is found. -/
def readArguments (surroundings : Surroundings) (name : String) (config : Option String)
    (arguments : List String) : Action Entries := do
  let _ ← findIn surroundings name config false
  Action.ofExcept (Assignment.parse "--arg" arguments)

/-! ## Handing options to the transport -/

/-- What a call hands to the transport of its route. -/
structure Handing where
  route : Route
  options : Handle
  callback : Option Callback

/-- Whether options with a given address and the method of the route are handed over. -/
def Handing.Carries (handing : Handing) (store : Store) (address : String) : Prop :=
  ∃ options, store.read handing.options = .mapping options ∧
    Options.get options "uri" = .text address ∧
    Options.get options "method" = .text (Text.upper handing.route.method.key)

/-- Hands over the options of a call of a route from a command line. -/
def handOver (name : String) (arguments : List String) (body : Option String)
    (options : List String) (route : Route) : Action Handing := do
  if body.isSome && !route.method.hasBody then
    throw (.problem (.bodyFlagRefused route.method.name name))
  let given ← callArguments route arguments body options
  let (options, address) ← route.buildRequest given
  Action.debug (route.method.name ++ " " ++ address)
  return ⟨route, options, route.callbackFor (given.callback.bind Callback.ofHandle)⟩

/-- A call up to its transport. -/
def approach (surroundings : Surroundings) (dryRun : Bool) (name : String) (config : Option String)
    (arguments : List String) (body : Option String) (options : List String) : Action Handing :=
  findIn surroundings name config dryRun >>= handOver name arguments body options

/-- What a call does once its options are handed over. -/
def dispatch (handing : Handing) : Action Unit := do
  let _ ← handing.route.transport.call handing.options handing.callback
  reportOutcome ((← get).delivered.getLast?.getD [])

/-- **A call hands over its options, and then the transport is called.** -/
theorem callRoute_eq (surroundings : Surroundings) (dryRun : Bool) (name : String)
    (config : Option String) (arguments : List String) (body : Option String)
    (options : List String) :
    callRoute surroundings dryRun name config arguments body options
      = approach surroundings dryRun name config arguments body options >>= dispatch := by
  simp only [callRoute, approach, findIn, handOver, Route.call, bind_assoc]
  refine bind_congr fun configuration => bind_congr fun client => bind_congr fun route => ?_
  split
  · rfl
  · simp only [dispatch, bind_assoc, pure_bind]

section Handing

variable {route : Route} {name : String} {arguments : List String} {body : Option String}
  {options : List String} {session : Session}

/-- The arguments of a call, given the handles of its entries. -/
def commandArguments (route : Route) (body : Option String) (path extra : Handle) :
    CallArguments where
  pathArguments := some path
  body := if route.method.hasBody then some (.atom (body.elim .null .text)) else none
  options := some extra
  callback := some (.atom (.foreign "function"))

/-- Arguments that are refused stop the call. -/
theorem run_handOver_of_error {failure : Failure}
    (taken : (body.isSome && !route.method.hasBody) = false)
    (refused : Assignment.parse "--arg" arguments = .error failure) :
    (handOver name arguments body options route).run session = (.error failure, session) := by
  simp only [handOver, taken, Bool.false_eq_true, if_false, callArguments, refused]
  rfl

/-- Further options that are refused stop the call. -/
theorem run_handOver_of_refused {entries : Entries} {failure : Failure}
    (taken : (body.isSome && !route.method.hasBody) = false)
    (read : Assignment.parse "--arg" arguments = .ok entries)
    (refused : Assignment.parse "--option" options = .error failure) :
    (handOver name arguments body options route).run session = (.error failure, session) := by
  simp only [handOver, taken, Bool.false_eq_true, if_false, callArguments, read, refused]
  rfl

omit [Runtime] in
/-- The objects that the arguments of a call lead to are there. -/
theorem within_commandArguments {bound : Nat} {path extra : Handle} (first : path.Within 0 bound)
    (second : extra.Within 0 bound) : (commandArguments route body path extra).Within bound where
  pathArguments handle given := by
    cases given
    exact first
  body handle given := by
    rw [commandArguments] at given
    split at given
    · cases given
      exact trivial
    · cases given
  options handle given := by
    cases given
    exact second

omit [Runtime] in
/-- An object made of entries has entries to lay over others. -/
theorem exists_optionalEntriesOf_load {store : Store} (sound : store.Sound) (entries : Entries) :
    ∃ handles, (store.load (.mapping entries)).2.optionalEntriesOf (store.load (.mapping entries)).1
      = .ok handles := by
  obtain ⟨handles, held, -, -⟩ := Route.content?_load_mapping sound entries
  rw [Store.optionalEntriesOf, Store.entriesOf, held]
  split
  · exact ⟨handles, rfl⟩
  · exact ⟨[], rfl⟩

/-- Arguments and further options that are read become objects. -/
theorem exists_run_callArguments {entries extra : Entries}
    (read : Assignment.parse "--arg" arguments = .ok entries)
    (given : Assignment.parse "--option" options = .ok extra) (sound : session.store.Sound) :
    ∃ path further store, (callArguments route arguments body options).run session
        = (.ok (commandArguments route body path further), { session with store := store }) ∧
      store.Sound ∧ Store.AgreeBelow session.store.size session.store store ∧
      (commandArguments route body path further).Within store.size ∧
      store.read path = .mapping entries ∧
      ∃ handles, store.optionalEntriesOf further = .ok handles := by
  have first := Store.load_loaded.1 session.store (.mapping entries) sound
  have second := Store.load_loaded.1 (session.store.load (.mapping entries)).2 (.mapping extra)
    first.sound
  have pathWithin := (first.within _ (List.mem_singleton_self _)).mono (Nat.zero_le _)
    (Nat.le_refl _)
  have furtherWithin := (second.within _ (List.mem_singleton_self _)).mono (Nat.zero_le _)
    (Nat.le_refl _)
  refine ⟨_, _, _, ?_, second.sound,
    first.agree.trans (second.agree.mono first.agree.size_le), within_commandArguments
    (pathWithin.mono (Nat.le_refl _) second.agree.size_le) furtherWithin, ?_,
    exists_optionalEntriesOf_load first.sound extra⟩
  · simp only [callArguments, read, given]
    cases body <;> rfl
  · exact (Store.read_of_agree first.sound second.agree pathWithin).trans
      (readArgument_load sound _)

omit [Runtime] in
theorem upper_key (method : Method) : Text.upper method.key = method.name := by
  cases method <;> decide

/-- **Arguments and further options that are read are handed over with the address that the
arguments give and the method of the route**; without an address nothing is handed over. -/
theorem run_handOver {entries extra : Entries}
    (taken : (body.isSome && !route.method.hasBody) = false)
    (read : Assignment.parse "--arg" arguments = .ok entries)
    (given : Assignment.parse "--option" options = .ok extra) (sound : session.store.Sound)
    (own : route.options.Within 0 session.store.size)
    (copyable : (session.store.read route.options).Copyable) :
    let run := (handOver name arguments body options route).run session
    match Uri.build route.root route.pattern route.encodeValues (.mapping entries) with
    | .error failure => run.1 = .error failure
    | .ok resolution => ∃ handing after, run = (.ok handing, after) ∧ handing.route = route ∧
        handing.Carries after.store resolution.uri := by
  intro run
  obtain ⟨path, further, store, giving, intact, agree, within, reads, handles, added⟩ :=
    @exists_run_callArguments _ route arguments body options session _ _ read given sound
  have accepted : ((commandArguments route body path further).body.isSome
      && !route.method.hasBody) = false := by
    rw [commandArguments]
    cases route.method.hasBody <;> rfl
  have copies : (store.read route.options).Copyable := by
    rwa [Store.read_of_agree sound agree own]
  have addressed : route.addressOf (commandArguments route body path further) store
      = (Uri.build route.root route.pattern route.encodeValues (.mapping entries)).map
        Uri.Resolution.uri := by
    have argument : store.readArgument (commandArguments route body path further).pathArguments
        = .mapping entries := reads
    rw [Route.addressOf, argument]
  have gives : run = (do
      let (options, address) ← route.buildRequest (commandArguments route body path further)
      Action.debug (route.method.name ++ " " ++ address)
      return ⟨route, options, route.callbackFor (some (.caller true))⟩ : Action Handing).run
        { session with store := store } := by
    simp only [run, handOver, taken, Bool.false_eq_true, if_false]
    rw [run_bind_ok giving]
    rfl
  rw [gives]
  cases built : Uri.build route.root route.pattern route.encodeValues (.mapping entries) with
  | error failure =>
      rw [built] at addressed
      have handed : route.handedOver (commandArguments route body path further) store
          = .error failure := by
        have extra : Route.extraOptions (commandArguments route body path further) store
            = .ok handles := added
        rw [Route.handedOver, accepted, Value.requireCopyable_of_copyable copies, extra, addressed]
        rfl
      have building := @Route.run_buildRequest (commandArguments route body path further)
        { session with store := store } _ route intact within
      dsimp only at building
      rw [handed] at building
      obtain ⟨final, building, -, -⟩ := building
      rw [run_bind_error building]
  | ok resolution =>
      rw [built] at addressed
      have handed := Route.handedOver_of_ok accepted copies added addressed
      obtain ⟨uri, method⟩ := route.get_completed resolution.uri
        (store.readArgument (commandArguments route body path further).body)
        (Value.overlay (route.currentOptions store) (store.readEntries handles))
      generalize route.completed resolution.uri _ _ = requested at handed uri method
      obtain ⟨handle, address, final, building, holds⟩ := @Route.exists_run_buildRequest route
        (commandArguments route body path further) { session with store := store } _ _ intact within
        handed
      rw [run_bind_ok building]
      exact ⟨_, _, rfl, rfl, _, holds, uri, method.trans (by rw [upper_key])⟩

end Handing

/-! ## Both commands -/

section Agreement

variable {surroundings : Surroundings} {name : String} {config : Option String}
  {arguments : List String} {body : Option String} {session : Session}

/-- Whether a body is given only where the last declaration of the name takes one. -/
def BodyTaken (surroundings : Surroundings) (name : String) (config body : Option String)
    (session : Session) : Prop :=
  body.isSome = true → ∀ configuration definition,
    Declares surroundings name config session configuration definition →
      definition.method.hasBody = true

omit [Runtime] in
/-- What is handed over has one address. -/
theorem Handing.Carries.address_eq {handing : Handing} {store : Store} {first second : String}
    (carries : handing.Carries store first) (others : handing.Carries store second) :
    first = second := by
  obtain ⟨options, reads, uri, -⟩ := carries
  obtain ⟨same, alike, address, -⟩ := others
  cases (reads.symm.trans alike)
  exact Value.text.inj (uri.symm.trans address)

/-- How a call goes on when its route is found and its arguments are read: it depends on the further
options, and then on what comes of the address, whether it reaches the transport. -/
structure GoesOn (options : List String) (definition : RouteDefinition)
    (resolving : Except Failure Uri.Resolution) (approaching : Except Failure Handing × Session) :
    Prop where
  refused : ∀ failure, Assignment.parse "--option" options = .error failure →
    approaching.1 = .error failure
  stopped : ∀ extra, Assignment.parse "--option" options = .ok extra →
    ∀ failure, resolving = .error failure → approaching.1 = .error failure
  handed : ∀ extra, Assignment.parse "--option" options = .ok extra →
    ∀ resolution, resolving = .ok resolution → ∃ handing after, approaching = (.ok handing, after) ∧
      handing.route.method = definition.method ∧ handing.Carries after.store resolution.uri

namespace GoesOn

variable {options : List String} {definition : RouteDefinition}
  {resolving : Except Failure Uri.Resolution} {approaching : Except Failure Handing × Session}

/-- A call that reaches its transport has read its further options and built the address. -/
theorem of_handing (goesOn : GoesOn options definition resolving approaching) {handing : Handing}
    {after : Session} (reached : approaching = (.ok handing, after)) :
    (∃ extra, Assignment.parse "--option" options = .ok extra) ∧
      ∃ resolution, resolving = .ok resolution ∧ handing.Carries after.store resolution.uri ∧
        handing.route.method = definition.method := by
  have succeeds : ∀ failure, approaching.1 ≠ .error failure := by
    rintro failure stops
    rw [reached] at stops
    cases stops
  cases read : Assignment.parse "--option" options with
  | error failure => exact absurd (goesOn.refused failure read) (succeeds failure)
  | ok extra =>
      cases outcome : resolving with
      | error failure => exact absurd (goesOn.stopped extra read failure outcome) (succeeds failure)
      | ok resolution =>
          obtain ⟨other, final, reaching, method, carries⟩ :=
            goesOn.handed extra read resolution outcome
          cases reached.symm.trans reaching
          exact ⟨⟨extra, rfl⟩, resolution, rfl, carries, method⟩

/-- A call that stops has no address or cannot read its further options. -/
theorem of_error (goesOn : GoesOn options definition resolving approaching) {failure : Failure}
    (stops : approaching.1 = .error failure) :
    resolving = .error failure ∨ Assignment.parse "--option" options = .error failure := by
  cases read : Assignment.parse "--option" options with
  | error other =>
      cases (goesOn.refused other read).symm.trans stops
      exact .inr rfl
  | ok extra =>
      cases outcome : resolving with
      | error other =>
          cases (goesOn.stopped extra read other outcome).symm.trans stops
          exact .inl rfl
      | ok resolution =>
          obtain ⟨handing, after, reached, -⟩ := goesOn.handed extra read resolution outcome
          cases (congrArg Prod.fst reached).symm.trans stops

end GoesOn

/-- **Both commands stop alike before the arguments are read, or else it depends on the address and
on the further options alone what is handed over.** -/
theorem run_resolveIn_and_approach (options : List String) (dryRun : Bool)
    (sound : session.store.Sound) (taken : BodyTaken surroundings name config body session) :
    let reading := (readArguments surroundings name config arguments).run session
    let resolving := (resolveIn surroundings name config arguments).run session
    let approaching :=
      (approach surroundings dryRun name config arguments body options).run session
    resolving.2.printed = session.printed ∧
    ((∃ failure, reading.1 = .error failure ∧ resolving.1 = .error failure ∧
        approaching.1 = .error failure) ∨
      ∃ entries configuration definition, reading.1 = .ok entries ∧
        Declares surroundings name config session configuration definition ∧
        GoesOn options definition resolving.1 approaching) := by
  intro reading resolving approaching
  rcases run_findIn surroundings name config sound with
    ⟨failure, stops⟩ | ⟨configuration, definition, declares, finds⟩
  · obtain ⟨after, stopped, printed⟩ := stops false
    obtain ⟨final, failed, -⟩ := stops dryRun
    have read : reading = (.error failure, after) := run_bind_error stopped
    have resolved : resolving = (.error failure, after) := run_bind_error stopped
    have called : approaching = (.error failure, final) := run_bind_error failed
    rw [read, resolved, called]
    exact ⟨printed, .inl ⟨failure, rfl, rfl, rfl⟩⟩
  · obtain ⟨route, created, finding, found⟩ := finds false
    obtain ⟨callee, prepared, searching, sought⟩ := finds dryRun
    have accepted : (body.isSome && !callee.method.hasBody) = false := by
      cases given : body.isSome with
      | false => rfl
      | true =>
          rw [sought.method, taken given configuration definition declares]
          rfl
    have reads : reading = (Assignment.parse "--arg" arguments, created) :=
      (run_bind_ok finding).trans (run_ofExcept _ _)
    have resolves : resolving = (resolveFor arguments route).run created := run_bind_ok finding
    have calls : approaching = (handOver name arguments body options callee).run prepared :=
      run_bind_ok searching
    rw [reads, resolves, calls]
    cases read : Assignment.parse "--arg" arguments with
    | error failure =>
        rw [run_resolveFor_of_error read, run_handOver_of_error accepted read]
        exact ⟨found.printed, .inl ⟨failure, rfl, rfl, rfl⟩⟩
    | ok entries =>
        obtain ⟨store, resolved⟩ := exists_run_resolveFor read route found.sound
        rw [resolved]
        have handing : ∀ extra, Assignment.parse "--option" options = .ok extra → _ :=
          fun extra given => @run_handOver _ callee name arguments body options prepared entries
            extra accepted read given sought.sound sought.within sought.copyable
        -- Both routes have the root and the pattern of the declaration.
        rw [sought.root, sought.pattern, sought.encodeValues, ← found.root, ← found.pattern,
          ← found.encodeValues] at handing
        refine ⟨found.printed, .inr ⟨entries, configuration, definition, rfl, declares,
          fun failure refused => ?_, fun extra given failure failed => ?_,
          fun extra given resolution built => ?_⟩⟩
        · rw [run_handOver_of_refused accepted read refused]
        · have stops := handing extra given
          dsimp only at failed
          rw [failed] at stops
          exact stops
        · have goes := handing extra given
          dsimp only at built
          rw [built] at goes
          obtain ⟨handing, after, run, same, carries⟩ := goes
          exact ⟨handing, after, run, same ▸ sought.method, carries⟩

section Ending

variable {switches : CommandLine.Switches} {after : Session}

/-- A command that finds no address prints nothing. -/
theorem runCommand_uri_of_error {failure : Failure}
    (failed : (resolveIn surroundings name config arguments).run
      (session.opened surroundings switches) = (.error failure, after)) (nothing : after.printed = []) :
    ((showUri surroundings name config arguments).run (session.opened surroundings switches)).1
        = .error failure ∧
      (runCommand surroundings switches (.uri name config arguments) session).1.stdout = "" := by
  have run : (showUri surroundings name config arguments).run (session.opened surroundings switches)
      = (.error failure, after) := by
    rw [showUri_eq, run_bind_error failed]
  have shows : (perform surroundings switches.dryRun (.uri name config arguments)).run
      (session.opened surroundings switches) = (.error failure, after) := run
  exact ⟨congrArg Prod.fst run, (runCommand_of_error shows nothing).2⟩

variable {resolution : Uri.Resolution}

/-- A command that shows an address ends well with the address on a line of its own. -/
theorem runCommand_uri_of_whole
    (resolved : (resolveIn surroundings name config arguments).run
      (session.opened surroundings switches) = (.ok resolution, after)) (nothing : after.printed = [])
    (whole : Text.isWhole resolution.uri.toList = true) :
    ((showUri surroundings name config arguments).run (session.opened surroundings switches)).1
        = .ok () ∧
      (runCommand surroundings switches (.uri name config arguments) session).1.exitCode = 0 ∧
      (runCommand surroundings switches (.uri name config arguments) session).1.stdout
        = resolution.uri ++ "\n" := by
  have run : (showUri surroundings name config arguments).run (session.opened surroundings switches)
      = (.ok (), { after.noting (warnings resolution) with
          printed := after.printed ++ [resolution.uri ++ "\n"] }) := by
    rw [showUri_eq, run_bind_ok resolved, run_showResolution, run_print whole]
    rfl
  refine ⟨congrArg Prod.fst run, ?_⟩
  unfold Session.opened at run
  simp only [runCommand, perform]
  rw [run, nothing]
  refine ⟨rfl, ?_⟩
  change String.join [resolution.uri ++ "\n"] = _
  rw [String.join_cons, String.join_nil, String.append_empty]

/-- An address with a lone half cannot be printed. -/
theorem runCommand_uri_of_not_whole
    (resolved : (resolveIn surroundings name config arguments).run
      (session.opened surroundings switches) = (.ok resolution, after)) (nothing : after.printed = [])
    (halved : ¬Text.isWhole resolution.uri.toList = true) :
    ((showUri surroundings name config arguments).run (session.opened surroundings switches)).1
        = .error .unencodable ∧
      (runCommand surroundings switches (.uri name config arguments) session).1.exitCode = 1 ∧
      (runCommand surroundings switches (.uri name config arguments) session).1.stdout = "" := by
  have run : (showUri surroundings name config arguments).run (session.opened surroundings switches)
      = (.error .unencodable, after.noting (warnings resolution)) := by
    rw [showUri_eq, run_bind_ok resolved, run_showResolution, run_print_of_not_whole halved]
  have shows : (perform surroundings switches.dryRun (.uri name config arguments)).run
      (session.opened surroundings switches) = (.error .unencodable, _) := run
  exact ⟨congrArg Prod.fst run, runCommand_of_error shows nothing⟩

end Ending

/-- Whether an address is the one of the route of a name for the arguments of a command line. -/
def Resolves (surroundings : Surroundings) (name : String) (config : Option String)
    (arguments : List String) (session : Session) (address : String) : Prop :=
  ∃ resolution, ((resolveIn surroundings name config arguments).run session).1 = .ok resolution ∧
    resolution.uri = address

/-- Whether a command ends well with an address on a line of its own. -/
def Ending.Shows (ending : Ending) (address : String) : Prop :=
  ending.exitCode = 0 ∧ ending.stdout = address ++ "\n"

omit [Runtime] in
theorem Ending.not_shows {ending : Ending} (nothing : ending.stdout = "") (address : String) :
    ¬ending.Shows address := by
  rintro ⟨-, stdout⟩
  rw [nothing] at stdout
  exact absurd (congrArg String.toList stdout) (by simp)

/-- **An address is shown if there is one and it holds no lone half**, and what stops the command
that shows it is what keeps it from being built, or such a half. -/
theorem shows_iff (switches : CommandLine.Switches) (fresh : session.printed = [])
    (printed : ((resolveIn surroundings name config arguments).run
      (session.opened surroundings switches)).2.printed = session.printed) :
    let opened := session.opened surroundings switches
    (∀ address, (runCommand surroundings switches (.uri name config arguments) session).1.Shows address
      ↔ Resolves surroundings name config arguments opened address ∧
        Text.isWhole address.toList = true) ∧
    ∀ failure, ((showUri surroundings name config arguments).run opened).1 = .error failure
      ↔ ((resolveIn surroundings name config arguments).run opened).1 = .error failure ∨
        failure = .unencodable ∧ ∃ address,
          Resolves surroundings name config arguments opened address ∧
            ¬Text.isWhole address.toList = true := by
  intro opened
  have nothing := printed.trans fresh
  unfold Resolves
  rcases resolving : (resolveIn surroundings name config arguments).run opened with
    ⟨failure | resolution, after⟩
  · rw [resolving] at nothing
    obtain ⟨stops, stdout⟩ := runCommand_uri_of_error resolving nothing
    refine ⟨fun address => iff_of_false (Ending.not_shows stdout address) ?_, fun other => ?_⟩
    · rintro ⟨⟨_, absent, -⟩, -⟩
      cases absent
    · rw [stops]
      constructor
      · intro same
        cases same
        exact .inl rfl
      · rintro (same | ⟨-, -, ⟨_, absent, -⟩, -⟩)
        · cases same
          rfl
        · cases absent
  · rw [resolving] at nothing
    have only : ∀ address, (∃ other, (Except.ok resolution : Except Failure _) = .ok other ∧
        other.uri = address) ↔ resolution.uri = address := by
      intro address
      constructor
      · rintro ⟨other, same, uri⟩
        cases same
        exact uri
      · exact fun uri => ⟨resolution, rfl, uri⟩
    simp only [only]
    by_cases whole : Text.isWhole resolution.uri.toList = true
    · obtain ⟨succeeds, exitCode, stdout⟩ := runCommand_uri_of_whole resolving nothing whole
      refine ⟨fun address => ⟨fun shows => ?_, ?_⟩, fun failure => iff_of_false ?_ ?_⟩
      · have lines : resolution.uri ++ "\n" = address ++ "\n" := stdout.symm.trans shows.2
        have same := (String.append_left_inj "\n").mp lines
        exact ⟨same, same ▸ whole⟩
      · rintro ⟨rfl, -⟩
        exact ⟨exitCode, stdout⟩
      · rw [succeeds]
        exact nofun
      · rintro (absent | ⟨-, address, rfl, halved⟩)
        · cases absent
        · exact halved whole
    · obtain ⟨stops, -, stdout⟩ := runCommand_uri_of_not_whole resolving nothing whole
      refine ⟨fun address => iff_of_false (Ending.not_shows stdout address) ?_, fun failure => ?_⟩
      · rintro ⟨rfl, holds⟩
        exact whole holds
      · rw [stops]
        constructor
        · intro same
          cases same
          exact .inr ⟨rfl, _, rfl, whole⟩
        · rintro (absent | ⟨rfl, -⟩)
          · cases absent
          · rfl

/-- Whether a call hands over an address together with the method that is declared for its route. -/
def Hands (surroundings : Surroundings) (name : String) (config : Option String) (session : Session)
    (reached : Except Failure Handing × Session) (address : String) : Prop :=
  ∃ handing after configuration definition, reached = (.ok handing, after) ∧
    handing.Carries after.store address ∧
    Declares surroundings name config session configuration definition ∧
    handing.route.method = definition.method

/-- **An address is handed over if there is one and the reader refuses none of the further
options.** What stops the call is what keeps the address from being built, or such an option. -/
theorem hands_iff (dryRun : Bool) {pairs : List (String × String)} (sound : session.store.Sound)
    (keys : ∀ pair ∈ pairs, Assignment.IsKey pair.1)
    (taken : BodyTaken surroundings name config body session) :
    let resolving := (resolveIn surroundings name config arguments).run session
    let reached := (approach surroundings dryRun name config arguments body
      (pairs.map Assignment.word)).run session
    (∀ address, Hands surroundings name config session reached address
      ↔ Resolves surroundings name config arguments session address ∧
        ∀ pair ∈ pairs, Assignment.refusal? pair.2 = none) ∧
    (∀ handing after, reached = (.ok handing, after) →
      ∃ address, Hands surroundings name config session reached address) ∧
    (∀ failure, ((readArguments surroundings name config arguments).run session).1
      = .error failure → resolving.1 = .error failure ∧ reached.1 = .error failure) ∧
    (∀ failure, resolving.1 = .error failure →
      (∀ pair ∈ pairs, Assignment.refusal? pair.2 = none) → reached.1 = .error failure) ∧
    ∀ failure, reached.1 = .error failure → resolving.1 = .error failure ∨
      ∃ pair ∈ pairs, Assignment.refusal? pair.2 = some failure := by
  intro resolving reached
  have accepted := @Assignment.parse_words_iff _ "--option" pairs keys
  unfold Resolves
  rcases (@run_resolveIn_and_approach _ surroundings name config arguments body session
      (pairs.map Assignment.word) dryRun sound taken).2 with
    ⟨failure, reads, resolves, reaches⟩
      | ⟨entries, configuration, definition, reads, declares, goesOn⟩
  · have unreached : ∀ handing after, reached ≠ (.ok handing, after) := by
      intro handing after same
      have succeeds : reached.1 = .ok handing := congrArg Prod.fst same
      rw [show reached.1 = .error failure from reaches] at succeeds
      cases succeeds
    have resolved : resolving.1 = .error failure := resolves
    refine ⟨fun address => iff_of_false ?_ ?_, fun handing after same => absurd same (unreached _ _),
      fun other refused => ?_, fun other stops _ => ?_, fun other stops => .inl ?_⟩
    · rintro ⟨handing, after, -, -, same, -⟩
      exact unreached handing after same
    · rintro ⟨⟨_, built, -⟩, -⟩
      rw [resolves] at built
      cases built
    · cases (reads.symm.trans refused)
      exact ⟨resolves, reaches⟩
    · cases (resolved.symm.trans stops)
      exact reaches
    · have called : reached.1 = .error failure := reaches
      cases (called.symm.trans stops)
      exact resolves
  · refine ⟨fun address => ⟨?_, ?_⟩, fun handing after same => ?_, fun failure refused => ?_,
      fun failure stops all => ?_, fun failure stops => ?_⟩
    · rintro ⟨handing, after, -, -, same, carries, -⟩
      obtain ⟨read, resolution, built, others, -⟩ := goesOn.of_handing same
      exact ⟨⟨resolution, built, others.address_eq carries⟩, accepted.mp read⟩
    · rintro ⟨⟨resolution, built, rfl⟩, all⟩
      obtain ⟨extra, read⟩ := accepted.mpr all
      obtain ⟨handing, after, same, method, carries⟩ := goesOn.handed extra read resolution built
      exact ⟨handing, after, configuration, definition, same, carries, declares, method⟩
    · obtain ⟨-, resolution, -, carries, method⟩ := goesOn.of_handing same
      exact ⟨_, handing, after, configuration, definition, same, carries, declares, method⟩
    · rw [reads] at refused
      cases refused
    · obtain ⟨extra, read⟩ := accepted.mpr all
      exact goesOn.stopped extra read failure stops
    · rcases goesOn.of_error stops with unresolved | refused
      · exact .inl unresolved
      · exact .inr (Assignment.exists_refusal_of_parse keys refused)

/-- **The address that one command shows is the one that the other hands to its transport, together
with the method of the route.**  Where there is an address, it is shown exactly if it holds no lone
half, and it is handed over exactly if the reader refuses none of the further options; no other
address is shown or handed over.  What stops one command before the arguments are read stops the
other alike, and so does what keeps an address from being built.  A further option that is refused
has too many digits in a row or is nested too deeply. -/
theorem shown_as_handed_iff (switches : CommandLine.Switches) (dryRun : Bool)
    {pairs : List (String × String)} (sound : session.store.Sound) (fresh : session.printed = [])
    (keys : ∀ pair ∈ pairs, Assignment.IsKey pair.1)
    (taken : BodyTaken surroundings name config body (session.opened surroundings switches)) :
    let opened := session.opened surroundings switches
    let shown := (runCommand surroundings switches (.uri name config arguments) session).1
    let stopped := fun failure =>
      ((showUri surroundings name config arguments).run opened).1 = .error failure
    let reached := (approach surroundings dryRun name config arguments body
      (pairs.map Assignment.word)).run opened
    callRoute surroundings dryRun name config arguments body (pairs.map Assignment.word)
      = approach surroundings dryRun name config arguments body (pairs.map Assignment.word)
        >>= dispatch ∧
    (∀ address, Resolves surroundings name config arguments opened address →
      (shown.Shows address ↔ Text.isWhole address.toList = true) ∧
      (Hands surroundings name config opened reached address
        ↔ ∀ pair ∈ pairs, Assignment.refusal? pair.2 = none)) ∧
    (∀ address, shown.Shows address ∨ Hands surroundings name config opened reached address →
      Resolves surroundings name config arguments opened address) ∧
    (∀ handing after, reached = (.ok handing, after) →
      ∃ address, Hands surroundings name config opened reached address) ∧
    (∀ failure, ((readArguments surroundings name config arguments).run opened).1 = .error failure →
      stopped failure ∧ reached.1 = .error failure) ∧
    (∀ failure, stopped failure → (∀ pair ∈ pairs, Assignment.refusal? pair.2 = none) →
      reached.1 = .error failure ∨ failure = .unencodable ∧ ∃ address,
        Hands surroundings name config opened reached address ∧
          ¬Text.isWhole address.toList = true) ∧
    ∀ failure, reached.1 = .error failure →
      stopped failure ∨ ∃ pair ∈ pairs, Assignment.refusal? pair.2 = some failure ∧
        Body.PassesLimit pair.2.toList failure := by
  intro opened shown stopped reached
  have printed := (@run_resolveIn_and_approach _ surroundings name config arguments body opened []
    dryRun sound taken).1
  obtain ⟨shows, stops⟩ := shows_iff switches fresh printed
  obtain ⟨hands, reaches, refuses, fails, refused⟩ :=
    @hands_iff _ surroundings name config arguments body opened dryRun pairs sound keys taken
  refine ⟨callRoute_eq _ _ _ _ _ _ _, fun address resolves => ⟨?_, ?_⟩, ?_, reaches,
    fun failure reading => ?_, fun failure stopping accepted => ?_, fun failure failing => ?_⟩
  · exact (shows address).trans (and_iff_right resolves)
  · exact (hands address).trans (and_iff_right resolves)
  · rintro address (showing | handing)
    · exact ((shows address).mp showing).1
    · exact ((hands address).mp handing).1
  · obtain ⟨unresolved, unreached⟩ := refuses failure reading
    exact ⟨(stops failure).mpr (.inl unresolved), unreached⟩
  · rcases (stops failure).mp stopping with unresolved | ⟨rfl, address, resolves, halved⟩
    · exact .inl (fails failure unresolved accepted)
    · exact .inr ⟨rfl, address, (hands address).mpr ⟨resolves, accepted⟩, halved⟩
  · rcases refused failure failing with unresolved | ⟨pair, present, refusal⟩
    · exact .inl ((stops failure).mpr (.inl unresolved))
    · exact .inr ⟨pair, present, refusal, Assignment.passesLimit_of_refusal? refusal⟩

end Agreement

end Program

end Runtimes

/-! ## A route that is called with options for its address -/

namespace Program

attribute [local instance] Runtime.usual

/-- Surroundings with a configuration on standard input whose one route carries a body. -/
def sendSurroundings : Surroundings :=
  { pageSurroundings with
    input := "\x7b\"root\":\"http://h\",\"post\":\x7b\"send\":\"/$\x7bid\x7d\"\x7d\x7d" }

/-- Further options for the address and the method. -/
def divertingOptions : List (String × String) :=
  [("uri", "http://other"), ("method", "\"GET\""), ("url", "http://third")]

/-- The switches of a command line without any. -/
def noSwitches : CommandLine.Switches := ⟨false, false, false, false, false, false⟩

theorem bodyTaken_send (body : Option String) :
    BodyTaken sendSurroundings "send" (some "-") body
      (Session.empty.opened sendSurroundings noSwitches) := by
  intro _ configuration definition declares
  have carries : (((loadConfig sendSurroundings (some "-")).run
      (Session.empty.opened sendSurroundings noSwitches)).1.toOption.bind
      fun configuration => RouteDefinition.last? "send" configuration.routes).all
        (fun definition => definition.method.hasBody) = true := by
    decide +kernel
  rw [declares.loaded] at carries
  exact (Option.all_eq_true _ _).mp carries definition declares.last

/-- The command that shows the address of the route. -/
def sendShown : Ending :=
  (runCommand sendSurroundings noSwitches (.uri "send" (some "-") ["id=7"]) Session.empty).1

theorem shows_sendShown : sendShown.Shows "http://h/7" := by
  have ending : sendShown.exitCode = 0 ∧ sendShown.stdout = "http://h/7\n" := by
    decide +kernel
  exact ending

/-- Options for the address and the method do not divert a call. -/
theorem shown_as_handed_iff_diverting :
    sendShown.Shows "http://h/7" ∧
      Hands sendSurroundings "send" (some "-") (Session.empty.opened sendSurroundings noSwitches)
        ((approach sendSurroundings false "send" (some "-") ["id=7"] (some "text")
          (divertingOptions.map Assignment.word)).run
            (Session.empty.opened sendSurroundings noSwitches)) "http://h/7" := by
  have keys : ∀ pair ∈ divertingOptions, Assignment.IsKey pair.1 := by
    simp only [divertingOptions, List.forall_mem_cons]
    exact ⟨⟨by decide, by decide⟩, ⟨by decide, by decide⟩, ⟨by decide, by decide⟩, nofun⟩
  obtain ⟨-, agree, resolves, -⟩ := @shown_as_handed_iff _ sendSurroundings "send" (some "-")
    ["id=7"] (some "text") Session.empty noSwitches false divertingOptions Store.sound_empty rfl keys
    (bodyTaken_send _)
  refine ⟨shows_sendShown, (agree _ (resolves _ (.inl shows_sendShown))).2.mpr ?_⟩
  decide

/-- A further option whose text is brackets that only open stops the call, though the address is
shown. -/
theorem not_shown_as_handed_brackets :
    sendShown.Shows "http://h/7" ∧ Assignment.IsKey "x" ∧
      ((approach sendSurroundings false "send" (some "-") ["id=7"] none
        [Assignment.word ("x", String.ofList (List.replicate 1000 '['))]).run
          (Session.empty.opened sendSurroundings noSwitches)).1 = .error .tooDeep := by
  have key : Assignment.IsKey "x" := ⟨by decide, by decide⟩
  refine ⟨shows_sendShown, key, ?_⟩
  have refused : Assignment.parse "--option"
      [Assignment.word ("x", String.ofList (List.replicate 1000 '['))] = .error .tooDeep :=
    Assignment.parse_word_of_refused "--option" key (Assignment.refusal?_brackets (by decide))
  rcases (@run_resolveIn_and_approach _ sendSurroundings "send" (some "-") ["id=7"] none
      (Session.empty.opened sendSurroundings noSwitches) [Assignment.word _] false
      Store.sound_empty (bodyTaken_send none)).2 with
    ⟨failure, reading, -⟩ | ⟨entries, configuration, definition, -, -, refuses, -⟩
  · have reads : (readArguments sendSurroundings "send" (some "-") ["id=7"]).run
        (Session.empty.opened sendSurroundings noSwitches) |>.1.isOk = true := by
      decide +kernel
    rw [reading] at reads
    cases reads
  · exact refuses .tooDeep refused

end Program

end Routebook

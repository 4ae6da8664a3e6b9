import Routebook.Command.Program
import Routebook.Proofs.Output.Streams
import Routebook.Proofs.Transport.Telling

/-!
# Commands tell lines

Loading a configuration, making a client, and printing data tell lines, and so do the commands that
are put together from them (`Program.tells_perform`).  What a command does, prints and comes to
depends neither on the lines noted before it nor on which of its own lines show.
-/

namespace Routebook

set_option autoImplicit false

variable [Runtime]

open Routebook.Action

/-! ## Configurations -/

namespace Source

theorem tells_fetch (address : String) : Tells (fetch address) := by
  refine Tells.bind (Tells.ofExcept _) fun url => ?_
  refine Tells.bind (Tells.ofExcept _) fun resolved => ?_
  refine Tells.bind (Tells.ofExcept _) fun request => ?_
  refine Tells.bind (Http.tells_follow _ _ _ _ _) fun outcome => ?_
  cases outcome with
  | error reason => exact Tells.throw _
  | ok response =>
      dsimp only
      split
      · exact Tells.throw_bind _ _
      · exact Tells.bind (Tells.ofExcept _) fun text => Tells.ofExcept _

theorem tells_readDocument (surroundings : Surroundings) (source : String) :
    Tells (readDocument surroundings source) := by
  unfold readDocument
  split
  · exact Tells.ofExcept _
  · split
    · exact tells_fetch source
    · exact Tells.ofExcept _

/-- Loading a configuration tells lines, wherever it is read from. -/
theorem tells_load (surroundings : Surroundings) (source : String) :
    Tells (load surroundings source) := by
  refine Tells.bind (tells_readDocument surroundings source) fun entries => ?_
  split
  · exact Tells.pure _
  · exact Tells.throw _

end Source

/-! ## Clients -/

theorem Recorder.tells_withDefaults (recorder : Recorder) (options : Value) :
    Tells (recorder.withDefaults options) :=
  Tells.of_run fun session =>
    ⟨.ok { recorder with number := session.transports + 1 },
      { session with
        records := session.records ++ [.defaults options]
        transports := session.transports + 1 }, rfl, fun _ => rfl⟩

theorem Transport.tells_withDefaults (transport : Transport) (options : Entries) :
    Tells (transport.withDefaults options) := by
  cases transport with
  | web sender => exact Tells.bind (Tells.ofExcept _) fun _ => Tells.pure _
  | recording recorder =>
      unfold withDefaults
      dsimp only
      split
      · exact Tells.bind (recorder.tells_withDefaults _) fun _ => Tells.pure _
      · exact Tells.throw _

theorem Route.tells_make (root : String) (pattern : Pattern) (method : Method)
    (transport : Transport) (options : Entries) (parseJson encodeValues : Bool) (name : String) :
    Tells (Route.make root pattern method transport options parseJson encodeValues name) := by
  refine Tells.bind (Tells.ofExcept _) fun _ => ?_
  exact Tells.of_store (fun store =>
    (.ok ⟨root, pattern, method, transport, (store.load (.mapping options)).1, parseJson, encodeValues,
      _⟩, (store.load (.mapping options)).2)) fun _ => rfl

namespace Client

theorem tells_compileRoute (config : ClientConfig) (transport : Transport)
    (routes : List (String × Route)) (definition : RouteDefinition) :
    Tells (compileRoute config transport routes definition) := by
  have making := Tells.bind (Route.tells_make config.root definition.pattern definition.method
    transport definition.requestOptions config.parseJson config.encodeValues definition.name)
    fun route => Tells.bind (Tells.debug ("Compiled " ++ definition.method.name ++ " "
      ++ definition.name ++ " -> " ++ definition.template)) fun _ =>
        Tells.pure (bind definition.name route routes)
  unfold compileRoute
  split
  · exact making
  · exact Tells.bind (Tells.debug _) fun _ => making

/-- Making a client tells lines. -/
theorem tells_create (config : ClientConfig) (transport : Transport) :
    Tells (create config transport) := by
  refine Tells.bind ?_ fun active => Tells.bind (Tells.foldlM fun routes definition =>
    tells_compileRoute config active routes definition) fun routes => Tells.pure _
  unfold resolveTransport
  split
  · exact Tells.pure _
  · exact transport.tells_withDefaults _

end Client

/-! ## Data -/

/-- **What prints the same data for every output with a format and a width tells lines**, for
neither of these is part of a voice. -/
theorem Action.Tells.of_prints {α : Type} {action : Action α}
    (prints : ∀ format width, Prints format width action) : Tells action := by
  intro session
  obtain ⟨result, printed, writes⟩ := prints session.output.format session.output.width
  refine ⟨result, { session with printed := session.printed ++ printed }, [], rfl, fun voice => ?_⟩
  exact writes (session.withVoice voice).output rfl rfl _ rfl

namespace Output

theorem tells_printResponse (data : Value) : Tells (printResponse data) :=
  Tells.of_prints fun format width => prints_printResponse format width data

theorem tells_printTable (data : TableData) : Tells (printTable data) :=
  Tells.of_prints fun format width => prints_printTable format width data

end Output

/-! ## Commands -/

namespace Program

theorem tells_loadConfig (surroundings : Surroundings) (named : Option String) :
    Tells (loadConfig surroundings named) := by
  refine Tells.bind (Tells.ofExcept _) fun source => ?_
  exact Tells.bind (Tells.debug _) fun _ => Source.tells_load surroundings source

theorem tells_loadEntries (entries : Entries) : Tells (loadEntries entries) :=
  Tells.of_store (fun store => (.ok (store.load (.mapping entries)).1,
    (store.load (.mapping entries)).2)) fun _ => rfl

theorem tells_listRoutes (surroundings : Surroundings) (config : Option String) :
    Tells (listRoutes surroundings config) :=
  Tells.bind (tells_loadConfig surroundings config) fun _ => Output.tells_printTable _

theorem tells_showUri (surroundings : Surroundings) (name : String) (config : Option String)
    (arguments : List String) : Tells (showUri surroundings name config arguments) := by
  refine Tells.bind (tells_loadConfig surroundings config) fun configuration => ?_
  refine Tells.bind (Client.tells_create configuration _) fun client => ?_
  refine Tells.bind (Tells.ofExcept _) fun route => ?_
  refine Tells.bind (Tells.ofExcept _) fun entries => ?_
  refine Tells.bind (tells_loadEntries entries) fun handle => ?_
  refine Tells.bind (route.tells_buildUri _) fun resolution => ?_
  refine Tells.bind (Tells.forIn fun placeholder _ => Tells.bind (Tells.note _) fun _ => Tells.pure _)
    fun _ => ?_
  refine Tells.bind (Tells.forIn fun key _ => Tells.bind (Tells.note _) fun _ => Tells.pure _)
    fun _ => ?_
  exact Tells.print _

theorem tells_reportStatus (status : Nat) (body : Value) : Tells (reportStatus status body) := by
  unfold reportStatus
  dsimp only
  split
  · refine Tells.bind (Tells.note _) fun _ => ?_
    split
    · exact Tells.throw _
    · exact Tells.pure _
  · refine Tells.bind (Tells.note _) fun _ => ?_
    split
    · exact Tells.throw _
    · exact Tells.pure _

theorem tells_reportOutcome (arguments : List Value) : Tells (reportOutcome arguments) := by
  unfold reportOutcome
  split
  · exact Tells.throw _
  · exact Tells.bind (tells_reportStatus _ _) fun _ => Output.tells_printResponse _
  · exact Output.tells_printResponse _

theorem tells_callArguments (route : Route) (arguments : List String) (body : Option String)
    (options : List String) : Tells (callArguments route arguments body options) := by
  refine Tells.bind (Tells.ofExcept _) fun pathEntries => ?_
  refine Tells.bind (Tells.ofExcept _) fun optionEntries => ?_
  refine Tells.bind (tells_loadEntries pathEntries) fun _ => ?_
  exact Tells.bind (tells_loadEntries optionEntries) fun _ => Tells.pure _

theorem tells_callRoute (surroundings : Surroundings) (dryRun : Bool) (name : String)
    (config : Option String) (arguments : List String) (body : Option String)
    (options : List String) :
    Tells (callRoute surroundings dryRun name config arguments body options) := by
  refine Tells.bind (tells_loadConfig surroundings config) fun configuration => ?_
  refine Tells.bind (Client.tells_create configuration _) fun client => ?_
  refine Tells.bind (Tells.ofExcept _) fun route => ?_
  dsimp only
  split
  · exact Tells.throw_bind _ _
  · refine Tells.bind (tells_callArguments route arguments body options) fun given => ?_
    refine Tells.bind (route.tells_call given) fun _ => ?_
    exact Tells.bind_get (fun _ _ => rfl) fun session => tells_reportOutcome _

/-- **Every command tells lines.** -/
theorem tells_perform (surroundings : Surroundings) (dryRun : Bool)
    (command : CommandLine.Command) : Tells (perform surroundings dryRun command) := by
  cases command with
  | routes config => exact tells_listRoutes surroundings config
  | uri name config arguments => exact tells_showUri surroundings name config arguments
  | call name config arguments body options =>
      exact tells_callRoute surroundings dryRun name config arguments body options

end Program

end Routebook

import Routebook.Command.Program
import Routebook.Proofs.Client.Declared
import Routebook.Proofs.Output.Table
import Routebook.Proofs.Terminal.Drawing
import Routebook.Proofs.Terminal.Whole

/-!
# The list of routes and the client

The list of routes has one row for each declaration, in the order of compilation.  A client of the
same configuration, which is made if the options of all declarations can be copied, keeps the last
declaration of each name, so the last row with a name describes the route of that name
(`Program.compiled_and_listed`).

As JSON and as plain lines the list shows its rows as they are.  On a terminal the texts of a row
are read as marked texts, so the rows show as they are exactly when no text in them is changed by
that (`Terminal.mapM_shownTexts_eq_iff`).
-/

namespace Routebook

set_option autoImplicit false

open Routebook.Action

namespace Program

section Runtimes

variable [Runtime]

/-! ## The list of routes -/

/-- The rows of the list of routes. -/
def routeRows (config : ClientConfig) : List (List String) := config.routes.map routeRow

/-- The title of the list of routes. -/
def routeTitle (config : ClientConfig) : String :=
  config.root ++ " -- Routes (" ++ toString config.routes.length ++ ")"

theorem routeTable_eq (config : ClientConfig) :
    routeTable config = Output.textTable (routeTitle config) routeHeadings (routeRows config) := by
  unfold routeTable Output.textTable routeRows
  rw [List.map_map]
  rfl

/-- The rows of the list of routes as they are written. -/
def writtenRows (config : ClientConfig) : List (List (List Char)) :=
  (routeRows config).map (List.map String.toList)

/-- The rows of the list of routes as a format shows them. -/
def shownRows (config : ClientConfig) : Format → Except Failure (List (List (List Char)))
  | .rich => (routeRows config).mapM Terminal.shownTexts
  | .json | .plain => .ok (writtenRows config)

/-- The list of routes shows its rows as they are written exactly when, on a terminal, all its texts
do. -/
theorem shownRows_eq_iff (config : ClientConfig) (format : Format) :
    shownRows config format = .ok (writtenRows config)
      ↔ (format = .rich → ∀ row ∈ routeRows config, ∀ text ∈ row, Terminal.ShowsAsWritten text) := by
  cases format with
  | rich =>
      exact (Terminal.mapM_shownTexts_eq_iff _).trans ⟨fun shows _ => shows, fun shows => shows rfl⟩
  | json | plain => exact ⟨fun _ => nofun, fun _ => rfl⟩

/-- The texts that rows are printed as, given what they show. -/
def layOut (config : ClientConfig) (width : Nat) (rows : List (List (List Char))) :
    Format → Except Failure (List String)
  | .plain => .ok ((routeHeadings :: rows.map (List.map String.ofList)).map Output.textLine)
  | .json =>
      (Json.render .records (.list ((rows.map (List.map String.ofList)).map
        (Output.textRecord routeHeadings)))).map fun text => [text]
  | .rich =>
      (Terminal.Table.layOut (routeTitle config) (routeHeadings.map String.toList) rows width).map
        fun lines => [String.ofList (['\n'].intercalate lines)]

/-- Rows can be laid out unless, on a terminal, the title is not legible. -/
theorem exists_layOut {config : ClientConfig} {format : Format}
    (legible : format = .rich → Terminal.Legible (routeTitle config)) (width : Nat)
    (rows : List (List (List Char))) : ∃ texts, layOut config width rows format = .ok texts := by
  cases format with
  | plain => exact ⟨_, rfl⟩
  | json =>
      obtain ⟨text, rendered⟩ :=
        Output.exists_render_textRecords routeHeadings (rows.map (List.map String.ofList))
      exact ⟨[text], by rw [layOut, rendered]; rfl⟩
  | rich =>
      obtain ⟨lines, laidOut⟩ := Terminal.Table.exists_layOut (legible rfl)
        (routeHeadings.map String.toList) rows width
      exact ⟨[String.ofList (['\n'].intercalate lines)], by rw [layOut, laidOut]; rfl⟩

/-- The texts that the list of routes is printed as. -/
def listing (config : ClientConfig) (width : Nat) (format : Format) :
    Except Failure (List String) :=
  (shownRows config format).bind fun rows => layOut config width rows format

/-- Rows as they are written are made of the texts in them. -/
theorem map_ofList_writtenRows (config : ClientConfig) :
    (writtenRows config).map (List.map String.ofList) = routeRows config := by
  unfold writtenRows
  rw [List.map_map]
  refine (List.map_congr_left fun row _ => ?_).trans (List.map_id _)
  change (row.map String.toList).map String.ofList = row
  rw [List.map_map]
  exact (List.map_congr_left fun text _ => String.ofList_toList).trans (List.map_id _)

/-- The headings show as they are written. -/
theorem shownTexts_routeHeadings :
    Terminal.shownTexts routeHeadings = .ok (routeHeadings.map String.toList) := by
  refine Outcome.mapM_eq_ok fun heading present => ?_
  have plain : ∀ text ∈ routeHeadings,
      Terminal.Printable text.toList ∧ Terminal.Unmarked text.toList := by
    decide +kernel
  obtain ⟨printable, unmarked⟩ := plain heading present
  exact (Terminal.Table.showsAsWritten_iff printable).mpr unmarked

/-- The list of routes is printed as the table of its rows. -/
theorem listing_eq (config : ClientConfig) (width : Nat) (format : Format) :
    listing config width format
      = Output.tableTexts format width (routeTitle config) routeHeadings (routeRows config) := by
  cases format with
  | plain | json => simp only [listing, shownRows, Except.bind, layOut, map_ofList_writtenRows,
      Output.tableTexts, List.map_cons]
  | rich =>
      rw [Output.tableTexts, Terminal.Table.lines_eq, shownTexts_routeHeadings]
      unfold listing shownRows
      cases (routeRows config).mapM Terminal.shownTexts with
      | error failure => rfl
      | ok rows => rfl

/-- The command prints the list of routes of the configuration that it loads. -/
theorem run_listRoutes {surroundings : Surroundings} {source : Option String}
    {config : ClientConfig} {session loaded : Session}
    (loading : (loadConfig surroundings source).run session = (.ok config, loaded)) :
    (listRoutes surroundings source).run session
      = match listing config loaded.output.width loaded.output.format with
        | .ok texts => loaded.printing texts
        | .error failure => (.error failure, loaded) := by
  unfold listRoutes
  rw [run_bind_ok loading, routeTable_eq, listing_eq]
  exact Output.run_printTable _ _ _ loaded

/-- On a terminal a list that is laid out is printed if its texts hold no lone halves. -/
theorem fst_printing_listing {config : ClientConfig} {width : Nat} {texts : List String}
    (laidOut : listing config width .rich = .ok texts)
    (titled : Text.isWhole (routeTitle config).toList = true)
    (whole : ∀ row ∈ routeRows config, ∀ text ∈ row, Text.isWhole text.toList = true)
    (session : Session) : (session.printing texts).1 = .ok () := by
  rw [listing_eq, Output.tableTexts] at laidOut
  obtain ⟨lines, drawn, rfl⟩ := Outcome.exists_of_map laidOut
  have plain : ∀ heading ∈ routeHeadings,
      (heading.toList.all fun character => !Text.isUnassigned character) = true := by
    decide +kernel
  have wholeLines := Terminal.Table.isWhole_of_lines drawn titled
    (List.forall_mem_cons.mpr
      ⟨fun heading present => Text.isWhole_of_assigned (plain heading present), whole⟩)
  refine if_pos (List.all_eq_true.mpr fun text present => ?_)
  rw [List.mem_singleton.mp present, String.toList_ofList]
  exact Terminal.isWhole_intercalate (by decide) wholeLines

/-! ## How a command ends -/

/-- A command line that asks for a command runs it. -/
theorem run_of_parse {words : List String} {switches : CommandLine.Switches}
    {command : CommandLine.Command} (parsed : CommandLine.parse words = .run switches command)
    (surroundings : Surroundings) (session : Session) :
    run surroundings words session = runCommand surroundings switches command session := by
  rw [run, parsed]

/-- A command that ends well has the exit status for that. -/
theorem exitCode_runCommand {surroundings : Surroundings} {switches : CommandLine.Switches}
    {command : CommandLine.Command} {session : Session}
    (ends : ((perform surroundings switches.dryRun command).run
      { session with output := outputFor surroundings switches }).1 = .ok ()) :
    (runCommand surroundings switches command session).1.exitCode = 0 := by
  unfold runCommand
  rcases result : (perform surroundings switches.dryRun command).run
      { session with output := outputFor surroundings switches } with ⟨_ | _, final⟩
  · rw [result] at ends
    cases ends
  · rfl

/-! ## Rows and routes -/

/-- The row of a route of a client, given its name and its template. -/
def clientRow (store : Store) (name template : String) (route : Route) : List String :=
  [route.method.name, name, template, listed route.pattern.distinctPathVariables,
    listed route.pattern.sortedQueryNames, listed (optionNames (route.currentOptions store))]

/-- The last row with a name. -/
def lastRow? (name : String) (rows : List (List String)) : Option (List String) :=
  (rows.filter fun row => row[1]? == some name).getLast?

theorem lastRow?_routeRows (name : String) (config : ClientConfig) :
    lastRow? name (routeRows config)
      = (RouteDefinition.last? name config.routes).map routeRow := by
  unfold lastRow? routeRows RouteDefinition.last?
  rw [List.filter_map, List.getLast?_map]
  rfl

/-! ## The client -/

/-- What a client has under a name: a route that does what the last declaration of the name says,
and that the last row with the name describes. -/
structure Kept (config : ClientConfig) (active : Transport) (store : Store) (client : Client)
    (name : String) (definition : RouteDefinition) (route : Route) : Prop where
  declared : RouteDefinition.last? name config.routes = some definition
  item : (Table.compiled client).item (.text name) = .ok (.compiled route)
  member : (Table.compiled client).member store name = .ok route.value
  callable : ∀ arguments, (Table.compiled client).callMember name arguments
    = do return (← route.callPositions arguments, .compiled client)
  implements : Client.Implements config active store definition route
  listed : lastRow? name (routeRows config)
    = some (clientRow store name definition.template route)

variable {config : ClientConfig} {transport : Transport} {session : Session}

/-- The row of a declaration describes a route that does what it says. -/
theorem routeRow_eq_clientRow {active : Transport} {store : Store} {definition : RouteDefinition}
    {route : Route} (implements : Client.Implements config active store definition route) :
    routeRow definition = clientRow store definition.name definition.template route := by
  unfold routeRow clientRow RouteDefinition.pattern
  rw [implements.method, implements.pattern, implements.options]

/-- A client of compiled routes has a route for every name that is declared. -/
theorem exists_kept {active : Transport} {store : Store} {client : Client}
    (compiles : Client.Compiles config active store config.routes client.routes) {name : String}
    (present : name ∈ client.names) :
    ∃ definition route, Kept config active store client name definition route := by
  rw [Client.names, compiles.names, List.mem_eraseDups] at present
  obtain ⟨definition, last⟩ := RouteDefinition.exists_last? present
  obtain ⟨route, found, implements⟩ := compiles.last name definition last
  have named : definition.name = name :=
    beq_iff_eq.mp (List.mem_filter.mp (List.mem_of_getLast? last)).2
  have reached : (Table.compiled client).at? (.text name) = some (.compiled route) := by
    rw [Table.at?, Client.route?, found]
    rfl
  refine ⟨definition, route, last, ?_, ?_, fun arguments => ?_, implements, ?_⟩
  · rw [Table.item, reached]
  · rw [Table.member, reached]
    rfl
  · rw [Table.callMember, reached]
    rfl
  · rw [lastRow?_routeRows, last, Option.map_some, routeRow_eq_clientRow implements, named]

/-- **Compiling a configuration keeps the last declaration of each name at the place of the first,
and the list of routes has a row for each declaration.** A client is made exactly when the options
of all declarations can be copied.  The list shows its rows as they are written exactly when, on a
terminal, all texts in them show as they are written. -/
theorem compiled_and_listed (usable : Client.Usable config transport)
    (sound : session.store.Sound) :
    ((∃ client created, (Client.create config transport).run session = (.ok client, created))
      ↔ ∀ definition ∈ config.routes, definition.Copyable) ∧
    (∀ client created, (Client.create config transport).run session = (.ok client, created) →
      ∃ active lines,
        client.names = (config.routes.map RouteDefinition.name).eraseDups ∧
        (∀ name ∈ client.names, ∃ definition route,
          Kept config active created.store client name definition route) ∧
        created.notices = session.notices ++ lines ∧
        lines.countP Client.reportsReplacement = config.routes.length - client.names.length) ∧
    ∀ surroundings source start loaded,
      (loadConfig surroundings source).run start = (.ok config, loaded) →
      let format := loaded.output.format
      let texts := listing config loaded.output.width format
      (listRoutes surroundings source).run start = (match texts with
          | .ok texts => loaded.printing texts
          | .error failure => (.error failure, loaded)) ∧
        (shownRows config format = .ok (writtenRows config) ↔
          (format = .rich →
            ∀ row ∈ routeRows config, ∀ text ∈ row, Terminal.ShowsAsWritten text)) ∧
        ((format = .rich → Terminal.Legible (routeTitle config)) →
          shownRows config format = .ok (writtenRows config) → ∃ printed, texts = .ok printed) := by
  have copyable_of_created : ∀ client created,
      (Client.create config transport).run session = (.ok client, created) →
      ∀ definition ∈ config.routes, definition.Copyable := by
    intro client created run
    by_contra deep
    push Not at deep
    obtain ⟨after, fails⟩ := Client.exists_run_create_eq_error usable deep
    cases run.symm.trans fails
  refine ⟨⟨fun ⟨client, created, run⟩ => copyable_of_created client created run, fun copyable => ?_⟩,
    fun client created run => ?_, ?_⟩
  · obtain ⟨client, active, created, lines, run, -⟩ :=
      Client.exists_run_create usable sound copyable
    exact ⟨client, created, run⟩
  · obtain ⟨made, active, after, lines, creation, compiles, notices, count⟩ :=
      Client.exists_run_create usable sound (copyable_of_created client created run)
    cases run.symm.trans creation
    have size : client.names.length = client.routes.length := List.length_map _
    exact ⟨active, lines, compiles.names, fun name present => exists_kept compiles present, notices,
      by omega⟩
  · intro surroundings source start loaded loading format texts
    refine ⟨run_listRoutes loading, shownRows_eq_iff config format, fun legible shown => ?_⟩
    obtain ⟨printed, laidOut⟩ := exists_layOut legible loaded.output.width (writtenRows config)
    refine ⟨printed, ?_⟩
    simp only [texts, listing, shown]
    exact laidOut

end Runtimes

/-! ## Names that are used again, and names in brackets -/

attribute [local instance] Runtime.usual

/-- Surroundings with a configuration on standard input, and data going to a terminal or not. -/
def inputSurroundings (terminal : Bool) (input : String) : Surroundings where
  files := ⟨"/work", "/work", [], []⟩
  environment := []
  input := input
  terminal := terminal
  width := 80

/-- Surroundings whose configuration declares a name under two methods. -/
def reusingSurroundings : Surroundings :=
  inputSurroundings false
    ("\x7b\"root\":\"http://h\",\"requestDefaults\":\x7b\"timeout\":3\x7d,"
      ++ "\"post\":\x7b\"items\":\"/new\"\x7d,"
      ++ "\"get\":\x7b\"items\":\"/old\",\"keys\":\"/keys\"\x7d\x7d")

/-- Of a name declared under two methods the client keeps the last declaration at the first place.
-/
theorem compiled_and_listed_reused :
    ∃ config loaded client active created lines,
      (loadConfig reusingSurroundings (some "-")).run Session.empty = (.ok config, loaded) ∧
      config.routes.map (fun definition => (definition.name, definition.template))
        = [("items", "/old"), ("keys", "/keys"), ("items", "/new")] ∧
      (Client.create config (.web ⟨[], false⟩)).run Session.empty = (.ok client, created) ∧
      client.names = ["items", "keys"] ∧
      (∀ name ∈ client.names, ∃ definition route,
        Kept config active created.store client name definition route) ∧
      created.notices = lines ∧ lines.countP Client.reportsReplacement = 1 ∧
      ∃ printed, listing config loaded.output.width loaded.output.format = .ok printed ∧
        (listRoutes reusingSurroundings (some "-")).run Session.empty = loaded.printing printed := by
  have loads : ((loadConfig reusingSurroundings (some "-")).run
      Session.empty).1.toOption.any (fun config =>
        config.routes.map (fun definition => (definition.name, definition.template))
          == [("items", "/old"), ("keys", "/keys"), ("items", "/new")] &&
        config.routes.all fun definition => decide definition.Copyable) = true := by
    decide +kernel
  have plain : ((loadConfig reusingSurroundings (some "-")).run Session.empty).2.output.format
      = .plain := by
    decide +kernel
  obtain ⟨config, loaded, loading, same⟩ := exists_of_any loads
  rw [loading] at plain
  rw [Bool.and_eq_true, List.all_eq_true] at same
  obtain ⟨compared, copyable⟩ := same
  have declared := eq_of_beq compared
  have names : config.routes.map RouteDefinition.name = ["items", "keys", "items"] := by
    have firsts := congrArg (List.map Prod.fst) declared
    rwa [List.map_map] at firsts
  have number : config.routes.length = 3 := by
    rw [← List.length_map RouteDefinition.name, names]
    rfl
  have usable : Client.Usable config (.web ⟨[], false⟩) := fun options _ => ⟨_, rfl⟩
  obtain ⟨creates, compiled, lists⟩ :=
    compiled_and_listed usable (show Session.empty.store.Sound from Store.sound_empty)
  obtain ⟨client, created, run⟩ :=
    creates.mpr fun definition present => of_decide_eq_true (copyable definition present)
  obtain ⟨active, lines, order, kept, notices, count⟩ := compiled client created run
  have distinct : client.names = ["items", "keys"] := by
    rw [order, names]
    decide
  obtain ⟨listed, shows, prints⟩ := lists reusingSurroundings (some "-") Session.empty loaded loading
  have rich : loaded.output.format ≠ .rich := fun rich => nomatch plain.symm.trans rich
  obtain ⟨printed, texts⟩ := prints (fun same => absurd same rich)
    (shows.mpr fun same => absurd same rich)
  rw [texts] at listed
  refine ⟨config, loaded, client, active, created, lines, loading, declared, run, distinct, kept,
    notices, ?_, printed, texts, listed⟩
  rw [count, number, distinct]
  rfl

/-- Surroundings with a terminal, whose configuration declares a template with brackets. -/
def bracketedSurroundings : Surroundings :=
  inputSurroundings true "\x7b\"root\":\"http://h\",\"get\":\x7b\"x\":\"/a[b]\"\x7d\x7d"

/-- No switches. -/
def bareSwitches : CommandLine.Switches := ⟨false, false, false, false, false, false⟩

/-- The session in which the list is printed. -/
def bracketedSession : Session :=
  { Session.empty with output := outputFor bracketedSurroundings bareSwitches }

/-- The list of routes on a terminal leaves out what stands in brackets in a template. -/
theorem not_listed_brackets :
    ∃ config loaded, (loadConfig bracketedSurroundings (some "-")).run bracketedSession
        = (.ok config, loaded) ∧
      routeRows config = [["GET", "x", "/a[b]", "-", "-", "-"]] ∧
      shownRows config loaded.output.format
        = .ok [["GET", "x", "/a", "-", "-", "-"].map String.toList] ∧
      (run bracketedSurroundings ["routes", "-c", "-"] Session.empty).1.exitCode = 0 := by
  have loads : ((loadConfig bracketedSurroundings (some "-")).run bracketedSession).1.toOption.any
      (fun config => routeRows config == [["GET", "x", "/a[b]", "-", "-", "-"]] &&
        ((shownRows config .rich).toOption
            == some [["GET", "x", "/a", "-", "-", "-"].map String.toList] &&
          ((Terminal.markedText (routeTitle config).toList).isOk &&
            Text.isWhole (routeTitle config).toList))) = true := by
    decide +kernel
  have rich : ((loadConfig bracketedSurroundings (some "-")).run bracketedSession).2.output.format
      = .rich := by
    decide +kernel
  obtain ⟨config, loaded, loading, tests⟩ := exists_of_any loads
  simp only [Bool.and_eq_true, beq_iff_eq] at tests
  obtain ⟨rows, shown, legible, titled⟩ := tests
  rw [loading] at rich
  have shows : shownRows config .rich = .ok [["GET", "x", "/a", "-", "-", "-"].map String.toList] :=
    eq_ok_of_toOption shown
  obtain ⟨texts, drawn⟩ := @exists_layOut _ config .rich
    (fun _ => Outcome.exists_of_isOk legible) loaded.output.width
    [["GET", "x", "/a", "-", "-", "-"].map String.toList]
  have laidOut : listing config loaded.output.width .rich = .ok texts := by
    rw [listing, shows, Except.bind, drawn]
  have whole : ∀ row ∈ routeRows config, ∀ text ∈ row, Text.isWhole text.toList = true := by
    rw [rows]
    decide +kernel
  have lists := run_listRoutes loading
  rw [show loaded.output.format = .rich from rich, laidOut] at lists
  refine ⟨config, loaded, loading, rows, (congrArg _ rich).trans shows, ?_⟩
  have printed : ((listRoutes bracketedSurroundings (some "-")).run bracketedSession).1 = .ok () :=
    (congrArg Prod.fst lists).trans (fst_printing_listing laidOut titled whole loaded)
  have parsed : CommandLine.parse ["routes", "-c", "-"]
      = .run bareSwitches (.routes (some "-")) := by
    decide +kernel
  rw [run_of_parse parsed]
  exact exitCode_runCommand printed

end Program

end Routebook

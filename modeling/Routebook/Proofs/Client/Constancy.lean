import Routebook.Client.Member
import Routebook.Proofs.Client.Sequence
import Routebook.Proofs.Transport.Carrier

/-!
# When a client stays as it is

Making a client copies the options of its routes into objects of their own, which refer to one
another only (`Client.loading_of_create`).  What callers do with the client afterwards, and whatever
carries their calls, leaves these objects intact as long as the callers use other objects: one step
does (`Table.spares_perform`), and so does every run (`Table.intact_performAll`).  So the names, the
routes and the options of the routes stay as they were when the client was made (`Client.constant`),
also if its configuration was read from objects that the callers pass to calls and change.

There are three ways around that.  A client can be made anew, the mapping that it keeps its routes
in can be written, and reading the options of a route gives the client's own objects away
(`Client.not_constant_given_away`).
-/

namespace Routebook

set_option autoImplicit false

open Routebook.Action

section Runtimes

variable [Runtime]

/-! ## Steps of callers -/

/-- What a caller does with a client, and between that with objects of its own. -/
inductive Step
  /-- Calls a route. -/
  | call (invocation : Invocation)
  /-- Builds the options that a call by name hands over. -/
  | buildRequest (name : String) (fields : List (String × Handle))
  /-- Builds the address of a call. -/
  | buildUri (name : String) (pathArguments : Option Handle)
  /-- Reads a member. -/
  | readMember (name : String)
  /-- Reads what is held at a key. -/
  | readItem (name : String)
  /-- Reads the options of a route. -/
  | readOptions (name : String)
  /-- Calls a member. -/
  | callMember (name : String) (arguments : List Handle)
  /-- Writes the mapping that a client keeps its routes in, which is a member of it. -/
  | rewrite (held : Table)
  /-- Attempts to write or remove a member. -/
  | changeMember
  /-- Attempts to write or remove a route by its key. -/
  | changeItem
  /-- Attempts to write or remove an option of a route. -/
  | changeOption (name : String)
  /-- Makes an object. -/
  | make (content : Content)
  /-- Gives an object another content. -/
  | replace (target : Handle) (content : Content)

namespace Step

/-- The handles that the caller uses. -/
def handles : Step → List Handle
  | .call invocation => invocation.handles
  | .buildRequest _ fields => fields.map Prod.snd
  | .buildUri _ pathArguments => pathArguments.toList
  | .callMember _ arguments => arguments
  | .make content => content.handles
  | .replace target content => target :: content.handles
  | .readMember _ | .readItem _ | .readOptions _ | .rewrite _ | .changeMember | .changeItem
  | .changeOption _ => []

/-- Whether a step attempts to change the client. -/
def isAttempt : Step → Bool
  | .changeMember | .changeItem | .changeOption _ => true
  | _ => false

/-- Whether a step makes a client anew, or writes the mapping that it keeps its routes in. -/
def Remakes (client : Client) : Step → Prop
  | .callMember name _ => name = Table.makingName ∧ client.route? name = none
  | .rewrite _ => True
  | _ => False

end Step

variable {holding : Holding}

/-- Calls what is held, a route over a carrier in place of its transport. -/
def Held.callOver (carriers : Route → Carrier holding) (held : Held) (arguments : List Handle) :
    Action Value := do
  match held with
  | .compiled route =>
      route.callOver (carriers route) (← Action.ofExcept
        (CallArguments.ofPositions route.name route.method.hasBody arguments))
  | .other _ => held.call arguments

namespace Table

/-- The route at a name. -/
def routeAt (table : Table) (name : String) : Except Failure Route :=
  (table.item (.text name)).bind Held.asRoute

/-- Makes a call over carriers in place of the transports of the routes. -/
def invokeOver (table : Table) (carriers : Route → Carrier holding) : Invocation → Action Value
  | .positional name arguments => do
      let held ← Action.ofExcept (table.item (.text name))
      held.callOver carriers arguments
  | .named name fields => do
      let route ← Action.ofExcept (table.routeAt name)
      let arguments ← Action.ofExcept (CallArguments.ofFields fields)
      route.callOver (carriers route) arguments

/-- Calls a member over carriers in place of the transports of the routes. -/
def callMemberOver (table : Table) (carriers : Route → Carrier holding) (name : String)
    (arguments : List Handle) : Action (Value × Table) := do
  match table.at? (.text name) with
  | some held => return (← held.callOver carriers arguments, table)
  | none => Action.ofExcept (table.callCommon (← get).store name arguments)

/-- Performs a step.  Its result is the object that the caller gets hold of, if any, and what the
client holds afterwards. -/
def perform (table : Table) (carriers : Route → Carrier holding) :
    Step → Action (Option Handle × Table)
  | .call invocation => do
      let _ ← table.invokeOver carriers invocation
      return (none, table)
  | .buildRequest name fields => do
      let route ← Action.ofExcept (table.routeAt name)
      let arguments ← Action.ofExcept (CallArguments.ofFields fields)
      if arguments.callback.isSome then throw .wrongType
      let (options, _) ← route.buildRequest arguments
      return (some options, table)
  | .buildUri name pathArguments => do
      let route ← Action.ofExcept (table.routeAt name)
      let _ ← route.buildUri pathArguments
      return (none, table)
  | .readMember name => do
      let _ ← Action.ofExcept (table.member (← get).store name)
      return (none, table)
  | .readItem name => do
      match ← Action.ofExcept (table.item (.text name)) with
      | .compiled _ => return (none, table)
      | .other handle => return (some handle, table)
  | .readOptions name => do
      let route ← Action.ofExcept (table.routeAt name)
      return (some route.options, table)
  | .callMember name arguments => do
      let (_, held) ← table.callMemberOver carriers name arguments
      return (none, held)
  | .rewrite held => return (none, held)
  | .changeMember => throw Client.changeMember
  | .changeItem => throw Client.changeItem
  | .changeOption name => throw (table.changeOption name)
  | .make content => do
      let session ← get
      let (handle, store) := session.store.make content
      set { session with store := store }
      return (some handle, table)
  | .replace target content => do
      modify fun session => { session with store := session.store.replace target content }
      return (none, table)

/-- What a client holds after a step, which may fail, and the session then. -/
def after (table : Table) (carriers : Route → Carrier holding) (step : Step) (session : Session) :
    Table × Session :=
  match (table.perform carriers step).run session with
  | (.ok (_, held), later) => (held, later)
  | (.error _, later) => (table, later)

/-- Performs steps one after another, whether or not they fail. -/
def performAll (table : Table) (carriers : Route → Carrier holding) (steps : List Step)
    (session : Session) : Table × Session :=
  steps.foldl (fun current step => current.1.after carriers step current.2) (table, session)

end Table

namespace Client

/-- What callers see of a client: the names in order, each with its route and the options of the
route. -/
def view (client : Client) (store : Store) : List (String × Route × Value) :=
  client.routes.map fun entry => (entry.1, entry.2, store.read entry.2.options)

end Client

namespace Table

/-! ## Compiled clients -/

section Compiled

variable (client : Client) (carriers : Route → Carrier holding)

omit [Runtime] in
theorem item_compiled (name : String) :
    (compiled client).item (.text name) = (client.route name).map .compiled := by
  rw [item, at?, Client.route]
  cases client.route? name <;> rfl

omit [Runtime] in
theorem routeAt_compiled (name : String) : (compiled client).routeAt name = client.route name := by
  rw [routeAt, item_compiled]
  cases client.route name <;> rfl

/-- A call of a compiled client resolves its arguments and goes over the carrier of the route. -/
theorem invokeOver_compiled (invocation : Invocation) :
    (compiled client).invokeOver carriers invocation = (do
      let route ← Action.ofExcept (client.route invocation.name)
      let arguments ← Action.ofExcept (invocation.arguments route)
      route.callOver (carriers route) arguments) := by
  cases invocation with
  | named name fields => rw [invokeOver, routeAt_compiled]; rfl
  | positional name arguments =>
      rw [invokeOver, item_compiled, Invocation.name]
      cases client.route name <;> rfl

/-- A route is a member that is called like the route. -/
theorem callMemberOver_of_route {name : String} {route : Route}
    (found : client.route? name = some route) (arguments : List Handle) :
    (compiled client).callMemberOver carriers name arguments = (do
      return (← (compiled client).invokeOver carriers (.positional name arguments),
        compiled client)) := by
  rw [invokeOver_compiled, Invocation.name, Client.route, callMemberOver, at?, found]
  rfl

/-- A member of no route that does not make the client anew leaves it as it is. -/
theorem callMemberOver_of_common {name : String} (absent : client.route? name = none)
    (other : name ≠ makingName) (arguments : List Handle) :
    (compiled client).callMemberOver carriers name arguments = (do
      let session ← get
      return (← Action.ofExcept ((compiled client).callMethod session.store name
        (arguments.map session.store.read)), compiled client)) := by
  rw [callMemberOver, at?, absent]
  refine congrArg (MonadState.get >>= ·) (funext fun session => ?_)
  unfold callCommon
  rw [if_neg (by simpa using other)]
  cases (compiled client).callMethod session.store name (arguments.map session.store.read) <;> rfl

/-- A call goes over the transport of its route. -/
theorem invokeOver_carrier (invocation : Invocation) :
    (compiled client).invokeOver (fun route => route.transport.carrier holding) invocation
      = client.invoke invocation := by
  rw [invokeOver_compiled]
  simp only [Route.callOver_carrier]
  cases invocation <;> rfl

theorem callMemberOver_carrier (name : String) (arguments : List Handle) :
    (compiled client).callMemberOver (fun route => route.transport.carrier holding) name arguments
      = (compiled client).callMember name arguments := by
  cases found : client.route? name with
  | some route =>
      rw [callMemberOver_of_route client _ found, invokeOver_carrier, callMember, at?, found,
        Client.invoke, Client.route, found]
      rfl
  | none =>
      rw [callMemberOver, callMember, at?, found]
      rfl

end Compiled

/-! ## One step and a run -/

section Steps

variable {client : Client} {carriers : Route → Carrier holding}

theorem spares_invokeOver {invocation : Invocation}
    (outside : ∀ handle ∈ invocation.handles, holding.Excludes handle) :
    holding.Spares (fun _ => True) ((compiled client).invokeOver carriers invocation) := by
  rw [invokeOver_compiled]
  refine Maintains.bind (Holding.spares_of_keeps (Keeps.ofExcept _)) fun route _ => ?_
  have passed : holding.Spares (fun arguments => ∀ handle ∈ arguments.handles, holding.Excludes handle)
      (Action.ofExcept (invocation.arguments route)) :=
    Maintains.ofExcept (.of_cases (fun arguments given handle present =>
      outside handle (Invocation.mem_handles given present)) fun _ _ => trivial)
  refine Maintains.bind passed fun arguments free => ?_
  exact route.spares_callOver _ free

theorem spares_callMemberOver {name : String} {arguments : List Handle}
    (outside : ∀ handle ∈ arguments, holding.Excludes handle) :
    holding.Spares (fun _ => True)
      ((compiled client).callMemberOver carriers name arguments) := by
  cases found : client.route? name with
  | some route =>
      rw [callMemberOver_of_route client carriers found]
      exact Maintains.bind (spares_invokeOver outside) fun _ _ => Maintains.pure trivial
  | none =>
      rw [callMemberOver, at?, found]
      exact Holding.spares_of_keeps (Keeps.bind Keeps.get fun session => Keeps.ofExcept _)

/-- **A step of a compiled client leaves a holding intact, and the caller gets hold of none of its
objects unless it reads options.** -/
theorem spares_perform {step : Step}
    (outside : ∀ handle ∈ step.handles, holding.Excludes handle) :
    holding.Spares (fun result => (∀ name, step ≠ .readOptions name) →
        ∀ handle ∈ result.1, holding.Excludes handle)
      ((compiled client).perform carriers step) := by
  have nothing : ∀ {α : Type} {action : Action α} {held : α → Table},
      holding.Spares (fun _ => True) action →
      holding.Spares (fun result => (∀ name, step ≠ .readOptions name) →
          ∀ handle ∈ result.1, holding.Excludes handle)
        (action >>= fun value => pure (none, held value)) :=
    fun spares => Maintains.bind spares fun _ _ => Maintains.pure fun _ => nofun
  cases step with
  | call invocation => exact nothing (spares_invokeOver outside)
  | buildRequest name fields =>
      refine Maintains.bind (Holding.spares_of_keeps (Keeps.ofExcept _)) fun route _ => ?_
      have passed : holding.Spares
          (fun arguments => ∀ handle ∈ arguments.handles, holding.Excludes handle)
          (Action.ofExcept (CallArguments.ofFields fields)) :=
        Maintains.ofExcept (.of_cases (fun arguments given handle present =>
          outside handle (CallArguments.mem_of_ofFields given present)) fun _ _ => trivial)
      refine Maintains.bind passed fun arguments free => ?_
      dsimp only
      split
      · exact Maintains.throw_bind trivial _
      · refine Maintains.bind (route.spares_buildRequest free) fun built apart => ?_
        refine Maintains.pure fun _ handle got => ?_
        cases got
        exact apart
  | buildUri name pathArguments =>
      refine Maintains.bind (Holding.spares_of_keeps (Keeps.ofExcept _)) fun route _ => ?_
      exact nothing (Holding.spares_of_keeps (Route.keeps_buildUri route _))
  | readMember name =>
      refine Maintains.bind (Holding.spares_of_keeps Keeps.get) fun session _ => ?_
      exact nothing (Holding.spares_of_keeps (Keeps.ofExcept _))
  | readItem name =>
      have held : holding.Spares (fun held => ∃ route, held = .compiled route)
          (Action.ofExcept ((compiled client).item (.text name))) := by
        rw [item_compiled]
        refine Maintains.ofExcept (.of_cases (fun held given => ?_) fun _ _ => trivial)
        obtain ⟨route, -, rfl⟩ := Outcome.exists_of_map given
        exact ⟨route, rfl⟩
      refine Maintains.bind held fun _ found => ?_
      obtain ⟨route, rfl⟩ := found
      exact Maintains.pure fun _ => nofun
  | readOptions name =>
      refine Maintains.bind (Holding.spares_of_keeps (Keeps.ofExcept _)) fun route _ => ?_
      exact Maintains.pure fun other => absurd rfl (other name)
  | callMember name arguments => exact nothing (spares_callMemberOver outside)
  | rewrite held => exact Maintains.pure fun _ => nofun
  | changeMember => exact Maintains.throw trivial
  | changeItem => exact Maintains.throw trivial
  | changeOption name => exact Maintains.throw trivial
  | make content =>
      refine Maintains.bind_get fun session intact => ?_
      obtain ⟨made, free⟩ := intact.make outside
      refine ⟨made, fun _ handle present => ?_⟩
      cases present
      exact free
  | replace target content =>
      have replaced : holding.Spares (fun _ => True) (modify fun session : Session =>
          { session with store := session.store.replace target content } : Action PUnit) :=
        fun session intact =>
          ⟨intact.replace (outside target List.mem_cons_self) fun handle present =>
            outside handle (List.mem_cons_of_mem _ present), trivial⟩
      exact nothing replaced

theorem yields_callMemberOver {name : String} {arguments : List Handle}
    (kept : ¬(Step.callMember name arguments).Remakes client) :
    Yields (fun result => result.2 = compiled client)
      ((compiled client).callMemberOver carriers name arguments) := by
  cases found : client.route? name with
  | some route =>
      rw [callMemberOver_of_route client carriers found]
      exact Yields.bind (Yields.trivial _) fun _ _ => Yields.pure rfl
  | none =>
      rw [callMemberOver_of_common client carriers found fun making => kept ⟨making, found⟩]
      refine Yields.bind (Yields.trivial _) fun session _ => ?_
      exact Yields.bind (Yields.trivial _) fun _ _ => Yields.pure rfl

/-- **A step leaves a compiled client as it is, unless it makes the client anew or writes the
mapping of its routes**, whatever objects it uses. -/
theorem yields_perform {step : Step} (kept : ¬step.Remakes client) :
    Yields (fun result => result.2 = compiled client)
      ((compiled client).perform carriers step) := by
  have same : ∀ {α : Type} {action : Action α} {got : α → Option Handle},
      Yields (fun result => result.2 = compiled client)
        (action >>= fun value => pure (got value, compiled client)) :=
    Yields.bind (Yields.trivial _) fun _ _ => Yields.pure rfl
  cases step with
  | call invocation => exact same
  | buildRequest name fields =>
      refine Yields.bind (Yields.trivial _) fun route _ => ?_
      refine Yields.bind (Yields.trivial _) fun arguments _ => ?_
      dsimp only
      split
      · intro session result after run
        cases run
      · exact same
  | buildUri name pathArguments => exact Yields.bind (Yields.trivial _) fun route _ => same
  | readMember name => exact Yields.bind (Yields.trivial _) fun session _ => same
  | readItem name =>
      refine Yields.bind (Yields.trivial _) fun held _ => ?_
      cases held with
      | compiled route => exact Yields.pure rfl
      | other handle => exact Yields.pure rfl
  | readOptions name => exact same
  | callMember name arguments =>
      exact Yields.bind (yields_callMemberOver kept) fun result found => Yields.pure found
  | rewrite held => exact absurd trivial kept
  | changeMember | changeItem | changeOption => exact Yields.throw _
  | make content =>
      refine Yields.bind (Yields.trivial _) fun session _ => ?_
      exact Yields.bind (Yields.trivial _) fun _ _ => Yields.pure rfl
  | replace target content => exact same

theorem after_fst {step : Step} (kept : ¬step.Remakes client) (session : Session) :
    ((compiled client).after carriers step session).1 = compiled client := by
  rw [after]
  rcases run : ((compiled client).perform carriers step).run session with ⟨failure | result, later⟩
  · rfl
  · exact yields_perform kept session result later run

theorem intact_after {step : Step} (outside : ∀ handle ∈ step.handles, holding.Excludes handle)
    {session : Session} (intact : holding.Intact session.store) :
    holding.Intact ((compiled client).after carriers step session).2.store := by
  have spared := (@spares_perform _ _ client carriers _ outside session intact).1
  rw [after]
  rcases run : ((compiled client).perform carriers step).run session with ⟨failure | result, later⟩
  · rwa [run] at spared
  · rwa [run] at spared

theorem performAll_cons {step : Step} (kept : ¬step.Remakes client) (rest : List Step)
    (session : Session) :
    (compiled client).performAll carriers (step :: rest) session
      = (compiled client).performAll carriers rest
          ((compiled client).after carriers step session).2 := by
  have split : (compiled client).after carriers step session
      = (compiled client, ((compiled client).after carriers step session).2) :=
    Prod.ext (after_fst kept session) rfl
  rw [performAll, List.foldl_cons, split]
  rfl

/-- **A run of such steps leaves a compiled client as it is, however long it is.** -/
theorem performAll_fst {steps : List Step} (kept : ∀ step ∈ steps, ¬step.Remakes client)
    (session : Session) :
    ((compiled client).performAll carriers steps session).1 = compiled client := by
  induction steps generalizing session with
  | nil => rfl
  | cons step rest inductionHypothesis =>
      obtain ⟨here, later⟩ := List.forall_mem_cons.mp kept
      rw [performAll_cons here]
      exact inductionHypothesis later _

/-- **It leaves a holding intact if it uses other objects.** -/
theorem intact_performAll {steps : List Step} (kept : ∀ step ∈ steps, ¬step.Remakes client)
    (outside : ∀ step ∈ steps, ∀ handle ∈ step.handles, holding.Excludes handle)
    {session : Session} (intact : holding.Intact session.store) :
    holding.Intact ((compiled client).performAll carriers steps session).2.store := by
  induction steps generalizing session with
  | nil => exact intact
  | cons step rest inductionHypothesis =>
      obtain ⟨here, later⟩ := List.forall_mem_cons.mp kept
      obtain ⟨free, freeLater⟩ := List.forall_mem_cons.mp outside
      rw [performAll_cons here]
      exact inductionHypothesis later freeLater (intact_after free intact)

/-- An attempt to change what a client holds fails and changes nothing. -/
theorem run_perform_attempt {table : Table} {step : Step} (attempt : step.isAttempt = true)
    (session : Session) :
    ∃ failure, (table.perform carriers step).run session = (.error failure, session) := by
  cases step with
  | changeMember | changeItem | changeOption => exact ⟨_, rfl⟩
  | _ => cases attempt

/-- A client that is made anew holds what it is given, if that can be read as a mapping. -/
theorem after_making (absent : client.route? makingName = none) (handle : Handle) (session : Session) :
    (compiled client).after carriers (.callMember makingName [handle]) session
      = (match session.store.entriesOf handle with
        | .ok entries => given (Route.overlayHandles [] entries)
        | .error _ => compiled client, session) := by
  have making : ((compiled client).callMemberOver carriers makingName [handle]).run session
      = ((ofHandle session.store handle).map fun table => (Value.null, table), session) := by
    rw [callMemberOver, at?, absent]
    rw [Option.map_none, run_bind_ok (run_get _), run_ofExcept, callCommon, if_pos (by rfl)]
    cases ofHandle session.store handle <;> rfl
  rw [after, perform, run_bind, making, ofHandle]
  cases session.store.entriesOf handle <;> rfl

end Steps

end Table

namespace Client

/-! ## The options of a client -/

theorem loading_foldlM_compileRoute {config : ClientConfig} {active : Transport}
    {definitions : List RouteDefinition} {routes compiled : List (String × Route)} {start : Store}
    {session after : Session}
    (loading : start.Loading (routes.map fun entry => entry.2.options) session.store)
    (run : (definitions.foldlM (compileRoute config active) routes).run session
      = (.ok compiled, after)) :
    start.Loading (compiled.map fun entry => entry.2.options) after.store := by
  induction definitions generalizing routes session with
  | nil =>
      cases run
      exact loading
  | cons definition rest inductionHypothesis =>
      rw [List.foldlM_cons] at run
      obtain ⟨next, between, first, later⟩ := exists_of_run_bind run
      obtain ⟨route, rfl, -, made⟩ := exists_of_run_compileRoute first
      have copied := Store.loading_load session.store (.mapping definition.requestOptions)
      rw [← made] at copied
      refine inductionHypothesis ((loading.append copied).subset fun handle present => ?_) later
      obtain ⟨entry, among, rfl⟩ := List.mem_map.mp present
      rcases mem_bind among with rfl | old
      · exact List.mem_append_right _ (List.mem_singleton_self _)
      · exact List.mem_append_left _ (List.mem_map_of_mem old)

/-- **The options of a client's routes are new objects that refer to one another only.** -/
theorem loading_of_create {config : ClientConfig} {transport : Transport} {client : Client}
    {session created : Session}
    (creation : (create config transport).run session = (.ok client, created)) :
    session.store.Loading (client.routes.map fun entry => entry.2.options) created.store := by
  unfold create at creation
  obtain ⟨active, resolved, resolving, rest⟩ := exists_of_run_bind creation
  obtain ⟨routes, final, compiling, finishing⟩ := exists_of_run_bind rest
  cases finishing
  have keeps : Keeps Session.store (resolveTransport config transport) :=
    keeps_resolveTransport (fun _ _ _ => rfl) config transport
  have kept := keeps session
  rw [resolving] at kept
  change resolved.store = session.store at kept
  have start : resolved.store.Loading (([] : List (String × Route)).map fun entry => entry.2.options)
      resolved.store := Store.Loading.nil resolved.store
  rw [← kept]
  exact loading_foldlM_compileRoute start compiling

/-- The options of every route are an object. -/
theorem exists_object_of_create {config : ClientConfig} {transport : Transport} {client : Client}
    {session created : Session}
    (creation : (create config transport).run session = (.ok client, created)) :
    ∀ entry ∈ client.routes, ∃ index, entry.2.options = .object index := by
  have yields : Yields (fun client : Client => ∀ entry ∈ client.routes, ∃ index,
      entry.2.options = .object index) (create config transport) := by
    refine Yields.bind (Yields.trivial _) fun active _ => ?_
    refine Yields.bind (Yields.foldlM (by simp) fun routes definition objects => ?_)
      fun routes objects => Yields.pure objects
    intro start compiled after run
    obtain ⟨route, rfl, -, made⟩ := exists_of_run_compileRoute run
    intro entry present
    rcases mem_bind present with rfl | old
    · exact ⟨_, congrArg Prod.fst made⟩
    · exact objects entry old
  exact yields session client created creation

/-- Reading the options of a route gives an object of the client away. -/
theorem not_excludes_options {config : ClientConfig} {transport : Transport} {client : Client}
    {session created : Session}
    (creation : (create config transport).run session = (.ok client, created)) {name : String}
    {route : Route} (found : client.route name = .ok route) :
    ¬(Holding.added session.store created.store).Excludes route.options := by
  have reached : client.route? name = some route := by
    rw [Client.route] at found
    split at found
    · cases found
      assumption
    · cases found
  obtain ⟨entry, present, rfl⟩ := exists_mem_of_find? reached
  obtain ⟨index, object⟩ := exists_object_of_create creation entry present
  have within := (loading_of_create creation).within entry.2.options
    (List.mem_map_of_mem (f := fun entry => entry.2.options) present)
  rw [object] at within ⊢
  rintro (below | beyond)
  · exact absurd within.1 (Nat.not_le.mpr below)
  · exact absurd within.2 (Nat.not_lt.mpr beyond)

/-! ## Constancy -/

/-- **A client stays as it is unless it is made anew, the mapping of its routes is written, or its
own objects are used.**  Every run of steps that do neither of the first two leaves the names in
order and their routes as they were right after the client was made, over the transports of its
routes or over anything else that cannot reach the objects of the client by itself.  If callers use
other objects than those of the client, the options of the routes stay as well.  Of the steps only
those that read options give callers an object of the client; without them callers go on using other
objects: those that were there before, the ones that the configuration was read from included, and
those made since.  Every attempt to change a client fails and changes nothing.  A client that is
made anew from what can be read as a mapping holds its entries in place of the routes. -/
theorem constant {config : ClientConfig} {transport : Transport} {client : Client}
    {session created : Session}
    (creation : (create config transport).run session = (.ok client, created))
    (whole : session.store.Whole) :
    let own := Holding.added session.store created.store
    (∀ (carriers : Route → Carrier own) (steps : List Step),
      (∀ step ∈ steps, ¬step.Remakes client) →
      let after := (Table.compiled client).performAll carriers steps created
      after.1 = .compiled client ∧
        ((∀ step ∈ steps, ∀ handle ∈ step.handles, own.Excludes handle) →
          client.view after.2.store = client.view created.store ∧
          ∀ step : Step, (∀ handle ∈ step.handles, own.Excludes handle) → ∀ handle held,
            ((after.1.perform carriers step).run after.2).1 = .ok (some handle, held) →
              (own.Excludes handle ↔ ∀ name, step ≠ .readOptions name))) ∧
    (∀ (carriers : Route → Carrier own) (table : Table) (step : Step), step.isAttempt = true →
      ∀ later, ∃ failure, (table.perform carriers step).run later = (.error failure, later)) ∧
    (∀ (carriers : Route → Carrier own) (handle : Handle) (later : Session),
      client.route? Table.makingName = none →
      (Table.compiled client).after carriers (.callMember Table.makingName [handle]) later
        = (match later.store.entriesOf handle with
          | .ok entries => .given (Route.overlayHandles [] entries)
          | .error _ => .compiled client, later)) ∧
    let carriers : Route → Carrier own := fun route => route.transport.carrier own
    (∀ invocation,
      (Table.compiled client).invokeOver carriers invocation = client.invoke invocation) ∧
      ∀ name arguments, (Table.compiled client).callMemberOver carriers name arguments
        = (Table.compiled client).callMember name arguments := by
  intro own
  have loading := loading_of_create creation
  refine ⟨fun carriers steps kept => ?_,
    fun carriers table step attempt later => Table.run_perform_attempt attempt later,
    fun carriers handle later absent => Table.after_making absent handle later,
    Table.invokeOver_carrier client,
    Table.callMemberOver_carrier client⟩
  · intro after
    have same : after.1 = .compiled client := Table.performAll_fst kept created
    refine ⟨same, fun outside => ?_⟩
    have intact : own.Intact after.2.store :=
      Table.intact_performAll kept outside (Holding.intact_added whole loading)
    refine ⟨List.map_congr_left fun entry present => ?_, fun step free handle held got => ?_⟩
    · have within := loading.within entry.2.options (List.mem_map_of_mem present)
      rw [intact.read (Nat.le_refl _) loading.enclosed within]
      rfl
    · rw [same] at got
      refine ⟨?_, fun other =>
        (Table.spares_perform free after.2 intact).2.ok got other handle rfl⟩
      rintro excluded name rfl
      rw [Table.perform, Table.routeAt_compiled, run_bind, run_ofExcept] at got
      cases found : client.route name with
      | error failure =>
          rw [found] at got
          cases got
      | ok route =>
          rw [found] at got
          cases got
          exact not_excludes_options creation found excluded

end Client

end Runtimes

namespace Client

/-! ## Shared objects -/

attribute [local instance] Runtime.usual

/-- Header fields, route options that hold them, and a configuration of one route with these
options. -/
def sharedStore : Store :=
  ⟨#[.mapping [(.text "a", .atom (.text "1"))],
    .mapping [(.text "headers", .object 0)],
    .mapping [(.text "pathPattern", .atom (.text "/items")), (.text "requestOptions", .object 1)],
    .mapping [(.text "items", .object 2)],
    .mapping [(.text "root", .atom (.text "http://h")), (.text "get", .object 3)]]⟩

/-- The configuration as it is read. -/
def sharedConfig : ClientConfig where
  root := "http://h"
  parseJson := false
  encodeValues := false
  requestDefaults := none
  declarations :=
    ⟨[], [("items", .detailed "/items" [(.text "headers", .mapping [(.text "a", .text "1")])])],
      [], [], [], []⟩

/-- The session before the client is made. -/
def sharedSession : Session := { Session.empty with store := sharedStore, transports := 1 }

/-- The run that makes the client over a transport that edits its options. -/
def sharedCreation : Except Failure Client × Session :=
  (create sharedConfig (.recording ⟨1, true, true, .null⟩)).run sharedSession

/-- The client of that run. -/
def sharedClient : Client where
  routes := [("items",
    { root := "http://h"
      pattern := Template.parse "/items"
      method := .get
      transport := .recording ⟨1, true, true, .null⟩
      options := .object 6
      parseJson := false
      encodeValues := false
      name := "items" })]

/-- A change of the header fields by the caller, a call with the options of the configuration
itself, and attempts to change the client. -/
def sharingSteps : List Step :=
  [.replace (.object 0) (.mapping [(.text "b", .atom (.text "2"))]),
    .call (.positional "items" [.atom .null, .object 1, .atom .null]), .changeOption "items",
    .buildRequest "items" [("request_options", .object 1)], .changeMember]

theorem sound_sharedStore : sharedStore.Sound := by
  intro index content held
  match index with
  | 0 | 1 | 2 | 3 | 4 =>
      cases held
      decide +kernel
  | _ + 5 => cases held

theorem ofValue_sharedSession :
    ClientConfig.ofValue (sharedSession.store.read (.object 4)) = .ok sharedConfig := by
  with_unfolding_all rfl

theorem fst_sharedCreation : sharedCreation.1 = .ok sharedClient := rfl

/-- The header fields that the configuration was read with are changed by the caller and by the
transport, and the client stays as it was. -/
theorem constant_shared :
    let own := Holding.added sharedSession.store sharedCreation.2.store
    let after := (Table.compiled sharedClient).performAll
      (fun route => route.transport.carrier own) sharingSteps sharedCreation.2
    ClientConfig.ofValue (sharedSession.store.read (.object 4)) = .ok sharedConfig ∧
      sharedCreation.1 = .ok sharedClient ∧ sharedSession.store.Whole ∧
      after.1 = .compiled sharedClient ∧
      sharedClient.view after.2.store = sharedClient.view sharedCreation.2.store ∧
      (after.2.store.read (.object 0)).display = "\x7b'b': '2', 'X-Call': '1'\x7d" := by
  dsimp only
  have creation : sharedCreation = (.ok sharedClient, sharedCreation.2) :=
    Prod.ext fst_sharedCreation rfl
  have outside : ∀ step ∈ sharingSteps, ∀ handle ∈ step.handles,
      (Holding.added sharedSession.store sharedCreation.2.store).Excludes handle := by
    decide +kernel
  have kept : ∀ step ∈ sharingSteps, ¬step.Remakes sharedClient := by
    simp [sharingSteps, Step.Remakes]
  obtain ⟨same, others⟩ := (constant creation sound_sharedStore.whole).1
    (fun route => route.transport.carrier _) sharingSteps kept
  exact ⟨ofValue_sharedSession, congrArg Prod.fst creation, sound_sharedStore.whole, same,
    (others outside).1, by decide +kernel⟩

/-- Making the client anew from an empty mapping. -/
def makingAnew : List Step := [.make (.mapping []), .callMember Table.makingName [.object 7]]

/-- Handing the options of a route, as they are read, over to a transport that edits them. -/
def givingAway : List Step :=
  [.readOptions "items", .call (.positional "items" [.atom .null, .object 6, .atom .null])]

/-- A client that is made anew from an empty mapping has no routes any more; and the options of a
route are changed by a transport that edits them when they are read and passed to a call. -/
theorem not_constant_given_away :
    let own := Holding.added sharedSession.store sharedCreation.2.store
    let carriers : Route → Carrier own := fun route => route.transport.carrier own
    let held := Table.compiled sharedClient
    sharedCreation.1 = .ok sharedClient ∧
      (held.performAll carriers makingAnew sharedCreation.2).1.names = .ok [] ∧
      ((held.perform carriers (.readOptions "items")).run sharedCreation.2).1
        = .ok (some (.object 6), held) ∧
      (held.performAll carriers givingAway sharedCreation.2).1 = held ∧
      sharedClient.view (held.performAll carriers givingAway sharedCreation.2).2.store
        ≠ sharedClient.view sharedCreation.2.store := by
  intro own carriers held
  have kept : ∀ step ∈ givingAway, ¬step.Remakes sharedClient := by
    simp [givingAway, Step.Remakes]
  refine ⟨fst_sharedCreation, eq_ok_of_toOption (by decide +kernel), ?_,
    Table.performAll_fst kept _, fun same => ?_⟩
  · rw [Table.perform, Table.routeAt_compiled]
    rfl
  have options := congrArg (List.map fun entry => entry.2.2.display) same
  revert options
  decide +kernel

example : sharedClient.view sharedCreation.2.store = sharedClient.routes.map fun entry =>
    (entry.1, entry.2, .mapping [(.text "headers", .mapping [(.text "a", .text "1")])]) := rfl

end Client

end Routebook

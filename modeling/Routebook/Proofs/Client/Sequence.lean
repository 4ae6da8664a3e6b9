import Routebook.Proofs.Client.Compiled
import Routebook.Proofs.Transport.Recording

/-!
# Calls one after another

Callers call the routes of a client one after another, and they may pass the same objects again.
Over a transport that edits its options, what a call hands over is determined by the objects of the
callers, and so is what it leaves of them (`Client.run_invoke_edited`).  A client has the options of
its routes in objects of its own (`Client.edited_of_create`).
-/

namespace Routebook

set_option autoImplicit false

variable [Runtime]

open Routebook.Action

/-! ## Invocations -/

/-- A call by a caller: of a route with arguments by position or by name. -/
inductive Invocation
  | positional (name : String) (arguments : List Handle)
  | named (name : String) (fields : List (String × Handle))

namespace Invocation

/-- What the caller passes. -/
def handles : Invocation → List Handle
  | .positional _ arguments => arguments
  | .named _ fields => fields.map Prod.snd

/-- The name of the route that is called. -/
def name : Invocation → String
  | .positional name _ | .named name _ => name

/-- The arguments by their names. -/
def arguments (route : Route) : Invocation → Except Failure CallArguments
  | .positional _ arguments => CallArguments.ofPositions route.name route.method.hasBody arguments
  | .named _ fields => CallArguments.ofFields fields

/-- The route that is called, with the arguments by their names. -/
def resolve (client : Client) (invocation : Invocation) : Except Failure (Route × CallArguments) :=
  (client.route invocation.name).bind fun route =>
    (invocation.arguments route).map fun arguments => (route, arguments)

omit [Runtime] in
/-- The arguments are among what the caller passes. -/
theorem mem_handles {invocation : Invocation} {route : Route} {arguments : CallArguments}
    (given : invocation.arguments route = .ok arguments) {handle : Handle}
    (present : handle ∈ arguments.handles) : handle ∈ invocation.handles := by
  cases invocation with
  | positional name passed => exact CallArguments.mem_of_ofPositions given present
  | named name fields => exact CallArguments.mem_of_ofFields given present

omit [Runtime] in
/-- The arguments lead no further than what the caller passes. -/
theorem within_arguments {bound : Nat} {invocation : Invocation} {route : Route}
    {arguments : CallArguments} (within : ∀ handle ∈ invocation.handles, handle.Within 0 bound)
    (given : invocation.arguments route = .ok arguments) : arguments.Within bound :=
  .of_handles fun handle present => within handle (mem_handles given present)

omit [Runtime] in
/-- A call that is resolved is one of a route of the client. -/
theorem of_resolve {client : Client} {invocation : Invocation} {route : Route}
    {arguments : CallArguments} (resolved : invocation.resolve client = .ok (route, arguments)) :
    (∃ entry ∈ client.routes, entry.2 = route) ∧ invocation.arguments route = .ok arguments := by
  unfold resolve Client.route at resolved
  cases found : client.route? invocation.name with
  | none =>
      rw [found] at resolved
      cases resolved
  | some other =>
      rw [found] at resolved
      obtain ⟨passed, given, made⟩ := Outcome.exists_of_map resolved
      cases made
      exact ⟨Client.exists_mem_of_find? found, given⟩

end Invocation

namespace Client

/-- Makes a call. -/
def invoke (client : Client) : Invocation → Action Value
  | .positional name arguments => do
      let route ← Action.ofExcept (client.route name)
      route.callPositions arguments
  | .named name fields => do
      let route ← Action.ofExcept (client.route name)
      let arguments ← Action.ofExcept (CallArguments.ofFields fields)
      route.call arguments

/-- Makes calls one after another, whether or not they fail. -/
def invokeAll (client : Client) (invocations : List Invocation) (session : Session) : Session :=
  invocations.foldl (fun current invocation => ((client.invoke invocation).run current).2) session

/-- What recording transports write down during a call. -/
def handsOver (client : Client) (invocation : Invocation) (session : Session) : List Record :=
  ((client.invoke invocation).run session).2.records.drop session.records.length

theorem run_invoke (client : Client) (invocation : Invocation) (session : Session) :
    (client.invoke invocation).run session =
      match invocation.resolve client with
      | .ok (route, arguments) => (route.call arguments).run session
      | .error failure => (.error failure, session) := by
  have same : client.invoke invocation = (do
      let route ← Action.ofExcept (client.route invocation.name)
      let arguments ← Action.ofExcept (invocation.arguments route)
      route.call arguments) := by
    cases invocation <;> rfl
  rw [same, Invocation.resolve]
  cases client.route invocation.name with
  | error failure => rfl
  | ok route =>
      rw [run_bind_ok (run_ofExcept _ _), Except.bind]
      cases invocation.arguments route <;> rfl

/-! ## One call after another -/

/-- The objects of the callers after a call over an editing transport. -/
def stain (client : Client) (store : Store) (invocation : Invocation) : Store :=
  match invocation.resolve client with
  | .ok (route, arguments) => route.storeAfter arguments store
  | .error _ => store

/-- What a recording transport writes down for a call, given the objects of the callers. -/
def recordsOf (client : Client) (recorder : Recorder) (store : Store) (invocation : Invocation) :
    List Record :=
  match invocation.resolve client with
  | .ok (route, arguments) => route.recordsOf recorder arguments store
  | .error _ => []

/-- A client whose routes call over one editing transport, with their options in a store. -/
structure Edited (client : Client) (recorder : Recorder) (store : Store) : Prop where
  carried : ∀ entry ∈ client.routes, entry.2.transport = .recording recorder
  edits : recorder.edits = true
  own : ∀ entry ∈ client.routes, entry.2.options.Within 0 store.size
  sound : store.Sound

/-- A store that has all objects of another one, and only sound ones. -/
structure Continues (store larger : Store) : Prop where
  agree : Store.AgreeBelow store.size store larger
  sound : larger.Sound

section Calls

variable {client : Client} {recorder : Recorder} {store : Store}

theorem size_stain (client : Client) (store : Store) (invocation : Invocation) :
    (client.stain store invocation).size = store.size := by
  unfold stain
  split
  · exact Route.size_storeAfter _ _ _
  · rfl

theorem size_foldl_stain (client : Client) (store : Store) (invocations : List Invocation) :
    (invocations.foldl client.stain store).size = store.size := by
  induction invocations generalizing store with
  | nil => rfl
  | cons invocation rest inductionHypothesis =>
      exact (inductionHypothesis (client.stain store invocation)).trans
        (size_stain client store invocation)

theorem Edited.stain (edited : Edited client recorder store) (invocation : Invocation) :
    Edited client recorder (client.stain store invocation) := by
  refine ⟨edited.carried, edited.edits, ?_, ?_⟩
  · rw [size_stain]
    exact edited.own
  · unfold Client.stain
    split
    · exact Route.sound_storeAfter edited.sound _ _
    · exact edited.sound

theorem Edited.foldl_stain (edited : Edited client recorder store) (invocations : List Invocation) :
    Edited client recorder (invocations.foldl client.stain store) := by
  induction invocations generalizing store with
  | nil => exact edited
  | cons invocation rest inductionHypothesis => exact inductionHypothesis (edited.stain invocation)

/-- A call hands over what the objects of the callers determine, and it leaves them as they
determine as well. -/
theorem run_invoke_edited (edited : Edited client recorder store) {session : Session}
    (continues : Continues store session.store) {invocation : Invocation}
    (within : ∀ handle ∈ invocation.handles, handle.Within 0 store.size) :
    let after := ((client.invoke invocation).run session).2
    after.records = session.records ++ client.recordsOf recorder store invocation ∧
      Continues (client.stain store invocation) after.store := by
  unfold recordsOf stain
  rw [run_invoke]
  cases resolved : invocation.resolve client with
  | error failure => exact ⟨(List.append_nil _).symm, continues⟩
  | ok called =>
      obtain ⟨route, arguments⟩ := called
      obtain ⟨⟨entry, present, rfl⟩, given⟩ := Invocation.of_resolve resolved
      have fits : arguments.Within store.size := Invocation.within_arguments within given
      have own := edited.own entry present
      have shared := Store.Shared.of_agree edited.sound continues.agree
      have grown := continues.agree.size_le
      have called := Route.run_call_edited (edited.carried entry present) edited.edits
        continues.sound (fits.mono grown)
      dsimp only at called ⊢
      obtain ⟨records, agree, sound⟩ := called
      refine ⟨?_, ?_, sound⟩
      · rw [records, Route.recordsOf, Route.recordsOf, Route.handedOver_congr shared own fits]
      · rw [Route.size_storeAfter]
        exact (Route.agree_storeAfter shared own fits).trans (agree.mono grown).symm

/-- **Calls one after another leave the objects of the callers as these determine.** -/
theorem continues_invokeAll (edited : Edited client recorder store) {session : Session}
    (continues : Continues store session.store) {invocations : List Invocation}
    (within : ∀ invocation ∈ invocations, ∀ handle ∈ invocation.handles,
      handle.Within 0 store.size) :
    Continues (invocations.foldl client.stain store)
      (client.invokeAll invocations session).store := by
  induction invocations generalizing store session with
  | nil => exact continues
  | cons invocation rest inductionHypothesis =>
      have first := run_invoke_edited edited continues (within invocation List.mem_cons_self)
      refine inductionHypothesis (edited.stain invocation) first.2 fun later present => ?_
      rw [size_stain]
      exact within later (List.mem_cons_of_mem _ present)

/-- What a call hands over is determined by the objects of the callers. -/
theorem handsOver_eq (edited : Edited client recorder store) {session : Session}
    (continues : Continues store session.store) {invocation : Invocation}
    (within : ∀ handle ∈ invocation.handles, handle.Within 0 store.size) :
    client.handsOver invocation session = client.recordsOf recorder store invocation := by
  rw [handsOver, (run_invoke_edited edited continues within).1, List.drop_left]

end Calls

/-! ## The options of the routes -/

/-- A sound store with the options of all routes. -/
structure Owned (routes : List (String × Route)) (store : Store) : Prop where
  sound : store.Sound
  own : ∀ entry ∈ routes, entry.2.options.Within 0 store.size

omit [Runtime] in
theorem Owned.bind {routes : List (String × Route)} {session after : Session}
    (owned : Owned routes session.store) {name : String} {route : Route} {options : Entries}
    (made : (route.options, after.store) = session.store.load (.mapping options)) :
    Owned (Client.bind name route routes) after.store := by
  have loaded := Store.load_loaded.1 session.store (.mapping options) owned.sound
  rw [← made] at loaded
  refine ⟨loaded.sound, fun entry present => ?_⟩
  rcases mem_bind present with rfl | old
  · exact (loaded.within _ (List.mem_singleton_self _)).mono (Nat.zero_le _) (Nat.le_refl _)
  · exact (owned.own entry old).mono (Nat.le_refl _) loaded.agree.size_le

/-- Compiling declarations one after another keeps the options of all routes in the store. -/
theorem owned_foldlM_compileRoute {config : ClientConfig} {active : Transport}
    {definitions : List RouteDefinition} {routes compiled : List (String × Route)}
    {session after : Session} (owned : Owned routes session.store)
    (run : (definitions.foldlM (compileRoute config active) routes).run session
      = (.ok compiled, after)) : Owned compiled after.store := by
  induction definitions generalizing routes session with
  | nil =>
      cases run
      exact owned
  | cons definition rest inductionHypothesis =>
      rw [List.foldlM_cons] at run
      obtain ⟨next, between, first, later⟩ := exists_of_run_bind run
      obtain ⟨route, rfl, -, made⟩ := exists_of_run_compileRoute first
      exact inductionHypothesis (owned.bind made) later

/-- **A client over an editing transport has its options in the store that it leaves.** -/
theorem edited_of_create {config : ClientConfig} {recorder : Recorder} {client : Client}
    {session created : Session}
    (creation : (create config (.recording recorder)).run session = (.ok client, created))
    (edits : recorder.edits = true) (sound : session.store.Sound) :
    ∃ active, Edited client active created.store := by
  obtain ⟨transport, ⟨active, rfl, editing⟩, compiled⟩ :=
    yields_create (yields_resolveTransport_recording config recorder) session client created creation
  unfold create at creation
  obtain ⟨transport, resolved, resolving, rest⟩ := exists_of_run_bind creation
  obtain ⟨routes, final, compiling, finishing⟩ := exists_of_run_bind rest
  cases finishing
  have keeps : Keeps Session.store (resolveTransport config (.recording recorder)) :=
    keeps_resolveTransport (fun _ _ _ => rfl) config _
  have kept := keeps session
  rw [resolving] at kept
  have empty : Owned [] resolved.store :=
    ⟨kept.symm ▸ sound, fun _ present => absurd present List.not_mem_nil⟩
  have owned := owned_foldlM_compileRoute empty compiling
  exact ⟨active, fun entry present => (compiled entry present).transport, editing.trans edits,
    owned.own, owned.sound⟩

end Client

end Routebook

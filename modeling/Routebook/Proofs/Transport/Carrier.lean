import Routebook.Proofs.Store.Ownership
import Routebook.Proofs.Transport.Recording
import Routebook.Proofs.Transport.Answer

/-!
# What a transport can reach

A carrier is anything that stands in place of a transport and cannot reach the objects of a holding,
unless it is handed one of them: it may send, record and call back, make objects, and edit what it
is given with everything in it.  All transports of this library are carriers (`Transport.carrier`).
A route hands over options that lead to no object of a holding if its arguments lead to none
(`Route.spares_buildRequest`), so a call leaves the holding intact, whatever carries it
(`Route.spares_callOver`).
-/

namespace Routebook

set_option autoImplicit false

variable [Runtime]

open Routebook.Action

/-- A computation leaves a holding intact, and its result has a property. -/
def Holding.Spares {α : Type} (holding : Holding) (property : α → Prop) (action : Action α) : Prop :=
  Maintains (fun session => holding.Intact session.store) (fun _ => True) property action

omit [Runtime] in
/-- A computation that keeps all objects leaves every holding intact. -/
theorem Holding.spares_of_keeps {α : Type} {holding : Holding} {action : Action α}
    (kept : Keeps Session.store action) : holding.Spares (fun _ => True) action :=
  Maintains.of_keeps holding.Intact kept

/-- Something that carries calls and cannot reach the objects of a holding by itself. -/
structure Carrier (holding : Holding) where
  carry : Handle → Option Callback → Action Value
  spares : ∀ {options : Handle}, holding.Excludes options → ∀ callback,
    holding.Spares (fun _ => True) (carry options callback)

/-! ## The transports -/

namespace WebTransport

/-- Reporting an answer makes no objects, writes nothing down and sends nothing. -/
theorem keeps_reportAnswer {γ : Type} {view : Session → γ} [IgnoresCallbacks view]
    (callback : Option Callback) (answer : Answer) : Keeps view (reportAnswer callback answer) := by
  have noting : ∀ text, Keeps view (Action.debug text) := fun text =>
    Keeps.note fun session => IgnoresCallbacks.same session session.delivered
  unfold reportAnswer
  cases answer.outcome with
  | ok response =>
      refine Keeps.bind (noting _) fun _ => ?_
      cases callback with
      | none => exact Keeps.pure _
      | some callback =>
          refine Keeps.bind (Keeps.ofExcept _) fun body => ?_
          exact Keeps.bind (callback.keeps_call _) fun _ => Keeps.pure _
  | error reason =>
      refine Keeps.bind (noting _) fun _ => ?_
      cases callback with
      | none => exact Keeps.pure _
      | some callback => exact Keeps.bind (callback.keeps_call _) fun _ => Keeps.pure _

/-- The web transport leaves all objects as they are. -/
theorem keeps_store_call (transport : WebTransport) (options : Entries)
    (callback : Option Callback) : Keeps Session.store (transport.call options callback) := by
  rw [call_eq]
  exact Keeps.bind (keeps_answer transport options) fun answer =>
    keeps_reportAnswer callback answer

end WebTransport

section Holding

variable {holding : Holding}

namespace Recorder

omit [Runtime] in
/-- An editing transport reaches what it is given alone. -/
theorem spares_edit {options : Handle} (outside : holding.Excludes options) :
    holding.Spares (fun _ => True) (edit options) := by
  refine Maintains.bind_get fun session intact => ⟨?_, trivial⟩
  have edited := intact.assign outside (.text "injected") (.truth true)
  rw [run_modify]
  dsimp only
  split
  · rename_i entries held
    split
    · rename_i headers found
      exact edited.assign (intact.closed.content? outside held (Store.mem_of_lookupEntry found)) _ _
    · exact edited
  · exact edited

theorem spares_call (recorder : Recorder) {options : Handle} (outside : holding.Excludes options)
    (callback : Option Callback) :
    holding.Spares (fun _ => True) (recorder.call options callback) := by
  have prepares : Keeps Session.store nextPrepared := keeps_nextPrepared.part Prod.fst
  have responding : holding.Spares (fun _ => True) (recorder.respond callback) :=
    Holding.spares_of_keeps (keeps_respond prepares recorder callback)
  refine Maintains.bind (Holding.spares_of_keeps Keeps.get) fun session _ => ?_
  refine Maintains.bind (Holding.spares_of_keeps (Keeps.modify fun _ => rfl)) fun _ _ => ?_
  dsimp only
  split
  · exact Maintains.bind (spares_edit outside) fun _ _ => responding
  · exact responding

end Recorder

/-- **No transport reaches more than what it is given.** -/
theorem Transport.spares_call (transport : Transport) {options : Handle}
    (outside : holding.Excludes options) (callback : Option Callback) :
    holding.Spares (fun _ => True) (transport.call options callback) := by
  cases transport with
  | recording recorder => exact recorder.spares_call outside callback
  | web sender =>
      refine Holding.spares_of_keeps (Keeps.bind Keeps.get fun session => ?_)
      refine Keeps.bind (Keeps.ofExcept _) fun entries => ?_
      exact sender.keeps_store_call entries callback

/-- A transport as a carrier. -/
def Transport.carrier (holding : Holding) (transport : Transport) : Carrier holding :=
  ⟨transport.call, fun outside callback => transport.spares_call outside callback⟩

/-! ## Calls -/

namespace Route

variable {route : Route}

theorem spares_copyOptions (route : Route) :
    holding.Spares (fun own => ∀ handle ∈ own.map Prod.snd, holding.Excludes handle)
      route.copyOptions := by
  refine Maintains.bind_get fun session intact => ?_
  obtain ⟨loaded, outside⟩ := intact.load (session.store.read route.options)
  dsimp only
  rw [run_bind, run_ofExcept]
  cases (session.store.read route.options).requireCopyable with
  | error failure => exact ⟨intact, trivial⟩
  | ok done =>
  dsimp only
  rw [run_bind_ok (run_set _ _)]
  unfold Store.copy
  split
  · rename_i entries held
    exact ⟨loaded, fun handle present => loaded.closed.content? outside held present⟩
  · exact ⟨loaded, nofun⟩

omit [Runtime] in
theorem spares_callEntries {options : Option Handle}
    (outside : ∀ handle ∈ options, holding.Excludes handle) :
    holding.Spares (fun added => ∀ handle ∈ added.map Prod.snd, holding.Excludes handle)
      (callEntries options) := by
  cases options with
  | none => exact Maintains.pure nofun
  | some given =>
      refine Maintains.bind_get fun session intact => ?_
      rw [run_ofExcept]
      refine ⟨intact, .of_cases (fun added found handle present => ?_) fun _ _ => trivial⟩
      exact intact.closed.optionalEntriesOf (outside given rfl) found present

/-- **The options that a route hands over lead to no object of a holding, unless its arguments do.**
-/
theorem spares_buildRequest (route : Route) {arguments : CallArguments}
    (outside : ∀ handle ∈ arguments.handles, holding.Excludes handle) :
    holding.Spares (fun built => holding.Excludes built.1) (route.buildRequest arguments) := by
  unfold buildRequest
  dsimp only
  split
  · exact Maintains.throw_bind trivial _
  · refine Maintains.bind (spares_copyOptions route) fun own ownOutside => ?_
    refine Maintains.bind (spares_callEntries fun handle given =>
      outside handle (CallArguments.mem_handles.mpr (.inr (.inr given)))) fun added addedOutside => ?_
    refine Maintains.bind (Holding.spares_of_keeps (keeps_buildUri route _)) fun resolution _ => ?_
    refine Maintains.bind_get fun session intact => ?_
    have finished : ∀ handle ∈ (Content.mapping (route.finishedHandles resolution.uri arguments.body
        (overlayHandles own added))).handles, holding.Excludes handle := by
      intro handle present
      rcases mem_finishedHandles present with ⟨value, rfl⟩ | body | layered
      · trivial
      · exact outside handle (CallArguments.mem_handles.mpr (.inr (.inl body)))
      · rcases Store.mem_overlayHandles layered with old | new
        · exact ownOutside handle old
        · exact addedOutside handle new
    exact intact.make finished

/-- Calls a route over a carrier in place of its transport. -/
def callOver (route : Route) (carrier : Carrier holding) (arguments : CallArguments) :
    Action Value := do
  let (options, address) ← route.buildRequest arguments
  let callback := arguments.callback.bind Callback.ofHandle
  Action.debug (route.method.name ++ " " ++ address)
  carrier.carry options (route.callbackFor callback)

/-- A call goes over the transport of the route. -/
theorem callOver_carrier (route : Route) (arguments : CallArguments) :
    route.callOver (route.transport.carrier holding) arguments = route.call arguments := rfl

/-- **A call leaves a holding intact, whatever carries it.** -/
theorem spares_callOver (route : Route) (carrier : Carrier holding) {arguments : CallArguments}
    (outside : ∀ handle ∈ arguments.handles, holding.Excludes handle) :
    holding.Spares (fun _ => True) (route.callOver carrier arguments) := by
  refine Maintains.bind (route.spares_buildRequest outside) fun built free => ?_
  refine Maintains.bind (Holding.spares_of_keeps (keeps_note _)) fun _ _ => ?_
  exact carrier.spares free _

end Route

end Holding

end Routebook

import Routebook.Proofs.Session.Lines
import Routebook.Proofs.Transport.Answer

/-!
# Calls tell lines

Everything that a call does tells lines: exchanges with the network, callbacks, the web transport,
the recording transports, and routes over either of them (`Route.tells_call`).  So what a call
sends, what it calls back with and what it comes to depend neither on the lines noted before it nor
on which of its own lines show.
-/

namespace Routebook

set_option autoImplicit false

variable [Runtime]

open Routebook.Action

/-! ## The network -/

namespace Http

theorem tells_sendOnce (timeout : Value) (request : Request) : Tells (sendOnce timeout request) := by
  unfold sendOnce
  split
  · exact Tells.pure _
  · split
    · exact Tells.throw _
    · refine Tells.bind (Tells.recordSent _) fun _ => ?_
      refine Tells.bind Tells.nextReply fun reply => ?_
      cases reply with
      | response content => exact Tells.pure _
      | failure reason => exact Tells.pure _
      | unmade cause => exact Tells.throw _

theorem tells_hop (timeout : Value) (jar : CookieJar) (request : Request) :
    Tells (hop timeout jar request) := by
  refine Tells.bind (tells_sendOnce timeout request) fun outcome => ?_
  cases outcome with
  | error reason => exact Tells.pure _
  | ok response =>
      -- Of the session only the clock is read.
      refine Tells.bind_get (fun _ _ => rfl) fun session => ?_
      dsimp only
      split
      · split
        · exact Tells.pure _
        · exact Tells.bind (Tells.ofExcept _) fun _ => Tells.pure _
      · exact Tells.pure _

/-- An exchange tells lines, however many redirects it follows. -/
theorem tells_follow (timeout : Value) (followRedirects : Bool) (left : Nat) (jar : CookieJar)
    (request : Request) : Tells (follow timeout followRedirects left jar request) := by
  induction left generalizing jar request with
  | zero =>
      rw [follow]
      refine Tells.bind (tells_hop timeout jar request) fun led => ?_
      cases led with
      | final outcome => exact Tells.pure _
      | onward response cookies next =>
          dsimp only
          split <;> exact Tells.pure _
  | succ fewer inductionHypothesis =>
      rw [follow]
      refine Tells.bind (tells_hop timeout jar request) fun led => ?_
      cases led with
      | final outcome => exact Tells.pure _
      | onward response cookies next =>
          dsimp only
          split
          · exact Tells.pure _
          · exact inductionHypothesis cookies next

end Http

/-! ## Callbacks -/

theorem Callback.tells_call (callback : Callback) (arguments : List Value) :
    Tells (callback.call arguments) := by
  induction callback generalizing arguments with
  | caller callable =>
      rw [Callback.call]
      split
      · exact Tells.deliver _
      · exact Tells.throw _
  | decoding inner inductionHypothesis =>
      cases arguments with
      | nil => exact Tells.throw _
      | cons error rest =>
          simp only [Callback.call]
          split
          · exact Tells.throw_bind _ _
          · split
            · exact inductionHypothesis _
            · split
              · exact inductionHypothesis _
              · exact Tells.bind (Tells.debug _) fun _ => inductionHypothesis _
              · exact Tells.throw _
              · exact Tells.throw _

/-! ## Transports -/

namespace WebTransport

theorem tells_send (order : Order) (options : Entries) : Tells (send order options) := by
  refine Tells.bind (Tells.ofExcept _) fun timeout => ?_
  refine Tells.bind (Tells.ofExcept _) fun request => ?_
  exact Http.tells_follow _ _ _ _ _

theorem tells_rehearse (order : Order) : Tells (rehearse order) := by
  refine Tells.bind (Tells.ofExcept _) fun request => ?_
  refine Tells.bind (Tells.note _) fun _ => ?_
  refine Tells.bind (Tells.forIn fun field _ => ?_) fun _ => ?_
  · exact Tells.bind (Tells.note _) fun _ => Tells.pure _
  · dsimp only
    split
    · exact Tells.throw_bind _ _
    · split
      · exact Tells.bind (Tells.note _) fun _ => Tells.pure _
      · exact Tells.pure _

/-- Carrying an order out tells lines, whether it is rehearsed or sent. -/
theorem tells_order (transport : WebTransport) (options : Entries) (order : Order) :
    Tells (if transport.dryRun then do return ⟨options, order, .ok (← rehearse order)⟩
      else do return ⟨options, order, ← send order options⟩ : Action Answer) := by
  split
  · exact Tells.bind (tells_rehearse order) fun _ => Tells.pure _
  · exact Tells.bind (tells_send order options) fun _ => Tells.pure _

theorem tells_answer (transport : WebTransport) (requested : Entries) :
    Tells (transport.answer requested) := by
  refine Tells.bind (Tells.ofExcept _) fun options => ?_
  refine Tells.bind (Tells.ofExcept _) fun lines => ?_
  refine Tells.bind (Tells.forIn fun line _ => ?_) fun _ => ?_
  · exact Tells.bind (Tells.debug _) fun _ => Tells.pure _
  · exact Tells.bind (Tells.ofExcept _) fun order => tells_order transport options order

theorem tells_reportAnswer (callback : Option Callback) (answer : Answer) :
    Tells (reportAnswer callback answer) := by
  unfold reportAnswer
  split
  · refine Tells.bind (Tells.debug _) fun _ => ?_
    cases callback with
    | none => exact Tells.pure _
    | some callback =>
        refine Tells.bind (Tells.ofExcept _) fun body => ?_
        exact Tells.bind (callback.tells_call _) fun _ => Tells.pure _
  · refine Tells.bind (Tells.debug _) fun _ => ?_
    cases callback with
    | none => exact Tells.pure _
    | some callback => exact Tells.bind (callback.tells_call _) fun _ => Tells.pure _

theorem tells_call (transport : WebTransport) (requested : Entries) (callback : Option Callback) :
    Tells (transport.call requested callback) := by
  rw [call_eq]
  exact Tells.bind (tells_answer transport requested) fun answer =>
    tells_reportAnswer callback answer

end WebTransport

namespace Recorder

theorem tells_nextPrepared : Tells nextPrepared := by
  refine Tells.of_run fun session => ?_
  cases prepared : session.prepared with
  | nil =>
      refine ⟨.ok none, session, rfl, fun voice => ?_⟩
      rw [nextPrepared, run_bind_ok (run_get _)]
      dsimp only [Session.withVoice]
      rw [prepared]
      rfl
  | cons arguments rest =>
      refine ⟨.ok (some arguments), { session with prepared := rest }, rfl, fun voice => ?_⟩
      rw [nextPrepared, run_bind_ok (run_get _)]
      dsimp only [Session.withVoice]
      rw [prepared]
      rfl

theorem tells_edit (options : Handle) : Tells (edit options) := by
  refine Tells.bind_get (fun _ _ => rfl) fun session => ?_
  exact Tells.modify (fun _ => rfl) fun _ _ => rfl

theorem tells_call (recorder : Recorder) (options : Handle) (callback : Option Callback) :
    Tells (recorder.call options callback) := by
  refine Tells.bind_get (fun _ _ => rfl) fun session => ?_
  refine Tells.bind (Tells.modify (fun _ => rfl) fun _ _ => rfl) fun _ => ?_
  cases callback with
  | none =>
      dsimp only
      split
      · exact Tells.bind (tells_edit options) fun _ => Tells.pure _
      · exact Tells.pure _
  | some callback =>
      have responding : ∀ {next : Option (List Value) → Action Value}, Tells (next none) →
          (∀ arguments, Tells (next (some arguments))) → Tells (nextPrepared >>= next) :=
        fun without further => Tells.bind tells_nextPrepared fun prepared => by
          cases prepared with
          | none => exact without
          | some arguments => exact further arguments
      have answering : ∀ arguments,
          Tells (callback.call arguments >>= fun _ => pure recorder.result) :=
        fun arguments => Tells.bind (callback.tells_call arguments) fun _ => Tells.pure _
      dsimp only
      split
      · exact Tells.bind (tells_edit options) fun _ => responding (Tells.pure _) answering
      · exact responding (Tells.pure _) answering

end Recorder

theorem Transport.tells_call (transport : Transport) (options : Handle)
    (callback : Option Callback) : Tells (transport.call options callback) := by
  cases transport with
  | recording recorder => exact recorder.tells_call options callback
  | web sender =>
      refine Tells.bind_get (fun _ _ => rfl) fun session => ?_
      exact Tells.bind (Tells.ofExcept _) fun entries => sender.tells_call entries callback

/-! ## Routes -/

namespace Route

theorem tells_argumentValue (argument : Option Handle) : Tells (argumentValue argument) := by
  cases argument with
  | none => exact Tells.pure _
  | some handle => exact Tells.bind_get (fun _ _ => rfl) fun session => Tells.pure _

theorem tells_buildUri (route : Route) (argument : Option Handle) :
    Tells (route.buildUri argument) :=
  Tells.bind (tells_argumentValue argument) fun _ => Tells.ofExcept _

theorem tells_callEntries (options : Option Handle) : Tells (callEntries options) := by
  cases options with
  | none => exact Tells.pure _
  | some handle => exact Tells.bind_get (fun _ _ => rfl) fun session => Tells.ofExcept _

theorem tells_copyOptions (route : Route) : Tells route.copyOptions := by
  -- What comes of it is what comes of it in a session that has nothing but the objects.
  refine Tells.of_store (fun store =>
    ((route.copyOptions.run { Session.empty with store := store }).1,
      (route.copyOptions.run { Session.empty with store := store }).2.store)) fun session => ?_
  unfold copyOptions
  rw [run_bind_ok (run_get _), run_bind_ok (run_get _), run_bind, run_bind, run_ofExcept,
    run_ofExcept]
  cases (session.store.read route.options).requireCopyable with
  | error failure => rfl
  | ok done =>
      dsimp only
      rw [run_bind_ok (run_set _ _), run_bind_ok (run_set _ _)]
      generalize (session.store.copy route.options).2.content?
        (session.store.copy route.options).1 = held
      cases held with
      | none => rfl
      | some content => cases content <;> rfl

theorem tells_buildRequest (route : Route) (arguments : CallArguments) :
    Tells (route.buildRequest arguments) := by
  unfold buildRequest
  dsimp only
  split
  · exact Tells.throw_bind _ _
  · refine Tells.bind (tells_copyOptions route) fun own => ?_
    refine Tells.bind (tells_callEntries arguments.options) fun added => ?_
    refine Tells.bind (tells_buildUri route arguments.pathArguments) fun resolution => ?_
    exact Tells.of_store (fun store => (.ok ((store.make _).1, _), (store.make _).2)) fun _ => rfl

/-- **A call of a route tells lines**, whatever its transport. -/
theorem tells_call (route : Route) (arguments : CallArguments) : Tells (route.call arguments) := by
  refine Tells.bind (tells_buildRequest route arguments) fun built => ?_
  exact Tells.bind (Tells.debug _) fun _ => route.transport.tells_call _ _

end Route

end Routebook

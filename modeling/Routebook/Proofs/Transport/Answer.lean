import Routebook.Proofs.Session.Action
import Routebook.Route

/-!
# Answers

A call over the web falls into two parts: getting an answer for the options (`WebTransport.answer`,
`Route.answer`), and reporting it to the callback (`WebTransport.reportAnswer`).  The first part
sends requests and notes lines, but makes no callbacks and prints no data (`Route.keeps_answer`), so
what a callback is given is decided by the second part alone.
-/

namespace Routebook

set_option autoImplicit false

open Routebook.Action

namespace Route

variable {γ : Type} {view : Session → γ}

theorem keeps_argumentValue (argument : Option Handle) :
    Keeps view (argumentValue argument) := by
  cases argument with
  | none => exact Keeps.pure _
  | some handle => exact Keeps.bind Keeps.get fun _ => Keeps.pure _

theorem keeps_callEntries (options : Option Handle) :
    Keeps view (callEntries options) := by
  cases options with
  | none => exact Keeps.pure _
  | some handle => exact Keeps.bind Keeps.get fun _ => Keeps.ofExcept _

end Route

variable [Runtime]

/-- What comes back for the options of a request: the options in force, the order made of them, and
the response or the report of what went wrong on the way. -/
structure Answer where
  options : Entries
  order : WebTransport.Order
  outcome : Except String Http.Response

namespace WebTransport

/-- Gets the answer for the options of a request. -/
def answer (transport : WebTransport) (requestOptions : Entries) : Action Answer := do
  let options ← Action.ofExcept (Options.merge transport.defaults requestOptions)
  for line in ← Action.ofExcept (Options.ignoredLines options) do
    Action.debug line
  let order ← Action.ofExcept (orderOf options)
  if transport.dryRun then return ⟨options, order, .ok (← rehearse order)⟩
  else return ⟨options, order, ← send order options⟩

/-- Reports an answer to a callback. -/
def reportAnswer (callback : Option Callback) (answer : Answer) : Action Value :=
  match answer.outcome with
  | .ok response => report answer.order answer.options callback response
  | .error reason => reportFailure answer.order callback reason

/-- **A call gets its answer and then reports it.** -/
theorem call_eq (transport : WebTransport) (requestOptions : Entries)
    (callback : Option Callback) :
    transport.call requestOptions callback
      = transport.answer requestOptions >>= reportAnswer callback := by
  simp only [call, answer, bind_assoc]
  refine congrArg _ (funext fun options => congrArg _ (funext fun _ =>
    congrArg _ (funext fun _ => congrArg _ (funext fun order => ?_))))
  split
  · simp only [bind_assoc, pure_bind, reportAnswer]
  · simp only [bind_assoc, pure_bind]
    refine congrArg _ (funext fun outcome => ?_)
    cases outcome <;> rfl

end WebTransport

namespace Route

/-- Gets the answer for a call of a route over the web. -/
def answer (route : Route) (sender : WebTransport) (arguments : CallArguments) : Action Answer := do
  let (options, address) ← route.buildRequest arguments
  Action.debug (route.method.name ++ " " ++ address)
  let entries ← Action.ofExcept (Options.requireMapping ((← get).store.read options))
  sender.answer entries

/-- **A call of a route over the web gets its answer and then reports it.** -/
theorem call_eq {route : Route} {sender : WebTransport} (carried : route.transport = .web sender)
    (arguments : CallArguments) :
    route.call arguments = route.answer sender arguments >>= WebTransport.reportAnswer
      (route.callbackFor (arguments.callback.bind Callback.ofHandle)) := by
  simp only [call, answer, carried, Transport.call, WebTransport.call_eq, bind_assoc]

end Route

/-! ## What getting an answer leaves alone -/

section Traffic

variable {γ : Type} {view : Session → γ} [IgnoresTraffic view]

namespace Http

theorem keeps_sendOnce (timeout : Value) (request : Request) :
    Keeps view (sendOnce timeout request) := by
  unfold sendOnce
  split
  · exact Keeps.pure _
  · split
    · exact Keeps.throw _
    · refine Keeps.bind (keeps_recordSent _) fun _ => ?_
      refine Keeps.bind keeps_nextReply fun reply => ?_
      cases reply with
      | response content => exact Keeps.pure _
      | failure reason => exact Keeps.pure _
      | unmade cause => exact Keeps.throw _

theorem keeps_hop (timeout : Value) (jar : CookieJar) (request : Request) :
    Keeps view (hop timeout jar request) := by
  refine Keeps.bind (keeps_sendOnce timeout request) fun outcome => ?_
  cases outcome with
  | error reason => exact Keeps.pure _
  | ok response =>
      dsimp only
      split
      · split
        · exact Keeps.pure _
        · refine Keeps.bind Keeps.get fun session => ?_
          exact Keeps.bind (Keeps.ofExcept _) fun _ => Keeps.pure _
      · exact Keeps.pure _

/-- An exchange keeps such a view, however many redirects it follows. -/
theorem keeps_follow (timeout : Value) (followRedirects : Bool) (left : Nat) (jar : CookieJar)
    (request : Request) :
    Keeps view (follow timeout followRedirects left jar request) := by
  induction left generalizing jar request with
  | zero =>
      rw [follow]
      refine Keeps.bind (keeps_hop timeout jar request) fun led => ?_
      cases led with
      | final outcome => exact Keeps.pure _
      | onward response cookies next =>
          dsimp only
          split <;> exact Keeps.pure _
  | succ fewer inductionHypothesis =>
      rw [follow]
      refine Keeps.bind (keeps_hop timeout jar request) fun led => ?_
      cases led with
      | final outcome => exact Keeps.pure _
      | onward response cookies next =>
          dsimp only
          split
          · exact Keeps.pure _
          · exact inductionHypothesis cookies next

end Http

namespace WebTransport

theorem keeps_send (order : Order) (options : Entries) :
    Keeps view (send order options) := by
  refine Keeps.bind (Keeps.ofExcept _) fun timeout => ?_
  refine Keeps.bind (Keeps.ofExcept _) fun request => ?_
  exact Http.keeps_follow _ _ _ _ _

theorem keeps_rehearse (order : Order) : Keeps view (rehearse order) := by
  refine Keeps.bind (Keeps.ofExcept _) fun request => ?_
  refine Keeps.bind (keeps_note _) fun _ => ?_
  refine Keeps.bind (Keeps.forIn fun field _ => ?_) fun _ => ?_
  · exact Keeps.bind (keeps_note _) fun _ => Keeps.pure _
  · dsimp only
    split
    · exact Keeps.throw_bind _ _
    · split
      · exact Keeps.bind (keeps_note _) fun _ => Keeps.pure _
      · exact Keeps.pure _

theorem keeps_answer (transport : WebTransport) (requestOptions : Entries) :
    Keeps view (transport.answer requestOptions) := by
  refine Keeps.bind (Keeps.ofExcept _) fun options => ?_
  refine Keeps.bind (Keeps.ofExcept _) fun lines => ?_
  refine Keeps.bind (Keeps.forIn fun line _ => ?_) fun _ => ?_
  · exact Keeps.bind (keeps_note _) fun _ => Keeps.pure _
  · refine Keeps.bind (Keeps.ofExcept _) fun order => ?_
    split
    · exact Keeps.bind (keeps_rehearse order) fun _ => Keeps.pure _
    · exact Keeps.bind (keeps_send order options) fun _ => Keeps.pure _

end WebTransport

end Traffic

namespace Route

theorem keeps_buildUri {γ : Type} {view : Session → γ} (route : Route)
    (pathArguments : Option Handle) : Keeps view (route.buildUri pathArguments) :=
  Keeps.bind (keeps_argumentValue pathArguments) fun _ => Keeps.ofExcept _

theorem keeps_copyOptions (route : Route) : Keeps visible route.copyOptions :=
  Keeps.bind_get fun session => by
    rw [run_bind, run_ofExcept]
    cases (session.store.read route.options).requireCopyable with
    | error failure => rfl
    | ok done =>
        dsimp only
        rw [run_bind_ok (run_set _ _)]
        split <;> rfl

theorem keeps_buildRequest (route : Route) (arguments : CallArguments) :
    Keeps visible (route.buildRequest arguments) := by
  unfold buildRequest
  dsimp only
  split
  · exact Keeps.throw_bind _ _
  · refine Keeps.bind (keeps_copyOptions route) fun own => ?_
    refine Keeps.bind (keeps_callEntries arguments.options) fun added => ?_
    refine Keeps.bind (keeps_buildUri route arguments.pathArguments) fun resolution => ?_
    exact Keeps.bind_get fun session => rfl

/-- **Getting the answer for a call makes no callbacks and prints no data.** -/
theorem keeps_answer (route : Route) (sender : WebTransport) (arguments : CallArguments) :
    Keeps visible (route.answer sender arguments) := by
  refine Keeps.bind (keeps_buildRequest route arguments) fun built => ?_
  refine Keeps.bind (keeps_note _) fun _ => ?_
  refine Keeps.bind Keeps.get fun session => ?_
  refine Keeps.bind (Keeps.ofExcept _) fun entries => ?_
  exact WebTransport.keeps_answer sender entries

end Route

end Routebook

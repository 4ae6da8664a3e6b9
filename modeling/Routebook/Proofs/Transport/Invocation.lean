import Routebook.Proofs.Transport.Delivery

/-!
# How often a callback is invoked

Everything that a call over the web does before it turns to its callback comes down to a
notification: the arguments for the callback, and what the call returns once the callback is done
(`WebTransport.notify`).  Whether the callback decodes bodies is all that the notification depends
on, so a call can be given anything in place of a callback, also something that fails or that makes
calls of its own (`WebTransport.callWith`, `Route.callWith`).  A run of it fails before it turns to
the callback, whatever that is, or it ends with a single invocation (`InvokesOnce`).
-/

namespace Routebook

set_option autoImplicit false

open Routebook.Action

section Runtimes

variable [Runtime]

/-! ## Notifications -/

/-- Something that can be called back. -/
structure Listener where
  /-- Whether it decodes bodies itself. -/
  decodes : Bool
  /-- What it does with its arguments. -/
  invoke : List Value → Action Value

/-- A callback as something that can be called back. -/
def Callback.listener (callback : Callback) : Listener := ⟨callback.decodes, callback.call⟩

/-- The arguments for a callback, with what the call returns after it. -/
structure Notification where
  arguments : List Value
  result : Value

/-- Invokes a callback with the arguments of a notification. -/
def Notification.deliverTo (notification : Notification) (invoke : List Value → Action Value) :
    Action Value := do
  let _ ← invoke notification.arguments
  return notification.result

/-- A notification of the web transport: of a failure on the way, with nothing to return, or of the
response that is returned. -/
inductive Notification.Reports : Notification → Prop
  | failure (method url reason : String) :
      Reports ⟨[.problem (.requestFailed method url reason), .null, .null], .null⟩
  | response (response : Http.Response) (body : Value) :
      Reports ⟨[.null, .response response, body], .response response⟩

/-- A notification that reaches the callback of a route: one of the web transport, or, behind a
callback that decodes bodies, that the body of the response is no JSON. -/
inductive Notification.Reaches (parseJson : Bool) : Notification → Prop
  | reported {notification : Notification} (reports : notification.Reports) :
      Reaches parseJson notification
  | unreadable (parses : parseJson = true) (response : Http.Response) :
      Reaches parseJson ⟨[.problem .bodyNotJson, .null, .null], .response response⟩

/-- A program invokes its callback once when every run is of one of two kinds.  It fails before it
turns to the callback, in the same way for every callback; or it ends with one invocation, whose
failure is its own, and after which it returns what the notification says.  No callback was made
before in either case. -/
def InvokesOnce (admissible : Notification → Prop)
    (program : (List Value → Action Value) → Action Value) : Prop :=
  ∀ start,
    (∃ failure after, visible after = visible start ∧
      ∀ invoke, (program invoke).run start = (.error failure, after)) ∨
    ∃ notification before, admissible notification ∧ visible before = visible start ∧
      ∀ invoke, (program invoke).run start = (notification.deliverTo invoke).run before

omit [Runtime] in
/-- A program that gets a notification without making callbacks and then delivers it invokes its
callback once. -/
theorem invokesOnce_bind {admissible : Notification → Prop} {first : Action Notification}
    (keeps : Keeps visible first) (yields : Yields admissible first) :
    InvokesOnce admissible fun invoke =>
      first >>= fun notification => notification.deliverTo invoke := by
  intro start
  have kept := keeps start
  rcases ran : first.run start with ⟨failure | notification, after⟩
  · rw [ran] at kept
    refine .inl ⟨failure, after, kept, fun invoke => ?_⟩
    exact run_bind_error ran
  · rw [ran] at kept
    refine .inr ⟨notification, after, yields start notification after ran, kept, fun invoke => ?_⟩
    exact run_bind_ok ran

omit [Runtime] in
/-- The callback that writes its invocations down is invoked once when the program returns, with a
notification that is in order, and not at all when the program fails. -/
theorem InvokesOnce.recorded {admissible : Notification → Prop}
    {program : (List Value → Action Value) → Action Value} (once : InvokesOnce admissible program)
    (start : Session) :
    (∃ failure, ((program Action.deliver).run start).1 = .error failure ∧
      ((program Action.deliver).run start).2.delivered = start.delivered) ∨
    ∃ notification, admissible notification ∧
      ((program Action.deliver).run start).1 = .ok notification.result ∧
      ((program Action.deliver).run start).2.delivered
        = start.delivered ++ [notification.arguments] := by
  rcases once start with ⟨failure, after, kept, runs⟩ | ⟨notification, before, fits, kept, runs⟩
  · refine .inl ⟨failure, ?_⟩
    rw [runs]
    exact ⟨rfl, congrArg Prod.fst kept⟩
  · refine .inr ⟨notification, fits, ?_⟩
    rw [runs, ← show before.delivered = start.delivered from congrArg Prod.fst kept]
    exact ⟨rfl, rfl⟩

/-! ## The web transport -/

namespace WebTransport

/-- The body for a callback depends on the callback only by whether it decodes bodies. -/
theorem responseBody_congr {first second : Callback} (same : first.decodes = second.decodes)
    (response : Http.Response) (options : Entries) :
    responseBody response options first = responseBody response options second := by
  unfold responseBody
  rw [same]

omit [Runtime] in
theorem decodes_callbackOf (decodes : Bool) : (callbackOf decodes).decodes = decodes := by
  cases decodes <;> rfl

/-- What a callback is told about an answer. -/
def notification (decodes : Bool) (answer : Answer) : Action Notification :=
  match answer.outcome with
  | .ok response => do
      Action.debug ("HTTP " ++ toString response.status ++ " from " ++ answer.order.method ++ " "
        ++ answer.order.url.display)
      let body ← Action.ofExcept (responseBody response answer.options (callbackOf decodes))
      return ⟨[.null, .response response, body], .response response⟩
  | .error reason => do
      let problem :=
        Problem.requestFailed answer.order.method answer.order.url.display reason
      Action.debug problem.message
      return ⟨[.problem problem, .null, .null], .null⟩

/-- Reporting an answer to a callback is invoking it with what it is told. -/
theorem reportAnswer_eq (callback : Callback) (answer : Answer) :
    reportAnswer (some callback) answer
      = notification callback.decodes answer >>= fun told => told.deliverTo callback.call := by
  obtain ⟨options, order, outcome⟩ := answer
  cases outcome with
  | ok response =>
      have body : responseBody response options callback
          = responseBody response options (callbackOf callback.decodes) :=
        responseBody_congr (decodes_callbackOf _).symm response options
      simp only [reportAnswer, report, notification, Notification.deliverTo, body, bind_assoc,
        pure_bind]
  | error reason =>
      simp only [reportAnswer, reportFailure, notification, Notification.deliverTo, bind_assoc,
        pure_bind]

theorem keeps_notification (decodes : Bool) (answer : Answer) :
    Keeps visible (notification decodes answer) := by
  unfold notification
  split
  · refine Keeps.bind (keeps_note _) fun _ => ?_
    exact Keeps.bind (Keeps.ofExcept _) fun _ => Keeps.pure _
  · exact Keeps.bind (keeps_note _) fun _ => Keeps.pure _

theorem reports_notification (decodes : Bool) (answer : Answer) :
    Yields Notification.Reports (notification decodes answer) := by
  unfold notification
  split
  · refine Yields.bind (Yields.trivial _) fun _ _ => ?_
    exact Yields.bind (Yields.trivial _) fun body _ => Yields.pure (.response _ body)
  · exact Yields.bind (Yields.trivial _) fun _ _ => Yields.pure (.failure _ _ _)

/-- Gets the notification for the options of a request. -/
def notify (transport : WebTransport) (options : Entries) (decodes : Bool) : Action Notification :=
  transport.answer options >>= notification decodes

/-- Makes a request with something in place of a callback. -/
def callWith (transport : WebTransport) (options : Entries) (listener : Listener) : Action Value := do
  let told ← transport.notify options listener.decodes
  told.deliverTo listener.invoke

theorem call_eq_callWith (transport : WebTransport) (options : Entries) (callback : Callback) :
    transport.call options (some callback) = transport.callWith options callback.listener := by
  rw [call_eq, callWith, notify, bind_assoc]
  exact congrArg _ (funext fun answer => reportAnswer_eq callback answer)

theorem invokesOnce_callWith (transport : WebTransport) (options : Entries) (decodes : Bool) :
    InvokesOnce Notification.Reports fun invoke =>
      transport.callWith options ⟨decodes, invoke⟩ := by
  have keeps : Keeps visible (transport.notify options decodes) :=
    Keeps.bind (keeps_answer transport options) fun answer => keeps_notification decodes answer
  have yields : Yields Notification.Reports (transport.notify options decodes) :=
    Yields.bind (Yields.trivial _) fun answer _ => reports_notification decodes answer
  exact invokesOnce_bind keeps yields

end WebTransport

/-! ## Callbacks that decode bodies -/

namespace Callback

/-- The arguments that a decoding callback hands on. -/
def handOn (arguments : List Value) : Action (List Value) :=
  match arguments with
  | [] => throw .wrongType
  | error :: rest => do
      if 2 < rest.length then throw .wrongType
      if error.isTruthy then return [error, .null, .null]
      else
        match decodeBody (rest[1]?.getD .null) with
        | .ok decoded => return [.null, rest[0]?.getD .null, decoded]
        | .error (.unreadable reason) =>
            Action.debug ("Response body is not JSON: " ++ reason)
            return [.problem .bodyNotJson, .null, .null]
        | .error .tooManyDigits => throw .badValue
        | .error .tooDeep => throw .tooDeep

/-- A decoding callback calls the other one once, with what it hands on. -/
theorem call_decoding (inner : Callback) (arguments : List Value) :
    (Callback.decoding inner).call arguments = handOn arguments >>= inner.call := by
  cases arguments with
  | nil => rfl
  | cons error rest =>
      simp only [call, handOn]
      split
      · rfl
      · split
        · rfl
        · cases decodeBody (rest[1]?.getD .null) with
          | ok decoded => rfl
          | error fault => cases fault <;> rfl

theorem keeps_handOn (arguments : List Value) : Keeps visible (handOn arguments) := by
  cases arguments with
  | nil => exact Keeps.throw _
  | cons error rest =>
      simp only [handOn]
      split
      · exact Keeps.throw_bind _ _
      · split
        · exact Keeps.pure _
        · split
          · exact Keeps.pure _
          · exact Keeps.bind (keeps_note _) fun _ => Keeps.pure _
          · exact Keeps.throw _
          · exact Keeps.throw _

end Callback

/-! ## Routes -/

namespace Route

/-- Gets the notification for a call of a route over the web, as it reaches the callback of the
caller. -/
def notify (route : Route) (sender : WebTransport) (arguments : CallArguments) (decodes : Bool) :
    Action Notification := do
  let answer ← route.answer sender arguments
  let told ← WebTransport.notification (route.parseJson || decodes) answer
  if route.parseJson then
    let handed ← Callback.handOn told.arguments
    return { told with arguments := handed }
  else return told

/-- Calls a route over the web with something in place of the callback of the caller. -/
def callWith (route : Route) (sender : WebTransport) (arguments : CallArguments)
    (listener : Listener) : Action Value := do
  let told ← route.notify sender arguments listener.decodes
  told.deliverTo listener.invoke

theorem call_eq_callWith {route : Route} {sender : WebTransport}
    (carried : route.transport = .web sender) {arguments : CallArguments} {callback : Callback}
    (given : arguments.callback.bind Callback.ofHandle = some callback) :
    route.call arguments = route.callWith sender arguments callback.listener := by
  rw [call_eq carried, given, callbackFor, callWith, notify]
  -- With decoded bodies the transport calls the decoding callback, and that one calls the caller's.
  cases route.parseJson with
  | false =>
      simp only [Bool.false_eq_true, if_false, Bool.false_or, bind_assoc, bind_pure]
      exact congrArg _ (funext fun answer => WebTransport.reportAnswer_eq callback answer)
  | true =>
      simp only [if_true, Option.map_some, Bool.true_or, bind_assoc, pure_bind]
      refine congrArg _ (funext fun answer => ?_)
      rw [WebTransport.reportAnswer_eq]
      refine congrArg _ (funext fun told => ?_)
      rw [Notification.deliverTo, Callback.call_decoding, bind_assoc]
      rfl

theorem keeps_notify (route : Route) (sender : WebTransport) (arguments : CallArguments)
    (decodes : Bool) : Keeps visible (route.notify sender arguments decodes) := by
  refine Keeps.bind (keeps_answer route sender arguments) fun answer => ?_
  refine Keeps.bind (WebTransport.keeps_notification _ answer) fun told => ?_
  split
  · exact Keeps.bind (Callback.keeps_handOn told.arguments) fun _ => Keeps.pure _
  · exact Keeps.pure _

/-- What a decoding callback hands on of a notification is one that reaches a callback. -/
theorem reaches_handOn {told : Notification} (reports : told.Reports) :
    Yields (fun handed => Notification.Reaches true { told with arguments := handed })
      (Callback.handOn told.arguments) := by
  cases reports with
  | failure method url reason => exact Yields.pure (.reported (.failure method url reason))
  | response response body =>
      have same : Callback.handOn [.null, .response response, body] =
          match decodeBody body with
          | .ok decoded => pure [.null, .response response, decoded]
          | .error (.unreadable reason) => do
              Action.debug ("Response body is not JSON: " ++ reason)
              return [.problem .bodyNotJson, .null, .null]
          | .error .tooManyDigits => throw .badValue
          | .error .tooDeep => throw .tooDeep := rfl
      rw [same]
      split
      · exact Yields.pure (.reported (.response response _))
      · exact Yields.bind (Yields.trivial _) fun _ _ => Yields.pure (.unreadable rfl response)
      · exact Yields.throw _
      · exact Yields.throw _

theorem reaches_notify (route : Route) (sender : WebTransport) (arguments : CallArguments)
    (decodes : Bool) :
    Yields (Notification.Reaches route.parseJson) (route.notify sender arguments decodes) := by
  refine Yields.bind (Yields.trivial _) fun answer _ => ?_
  refine Yields.bind (WebTransport.reports_notification _ answer) fun told reports => ?_
  cases route.parseJson with
  | false => exact Yields.pure (.reported reports)
  | true => exact Yields.bind (reaches_handOn reports) fun handed reaches => Yields.pure reaches

theorem invokesOnce_callWith (route : Route) (sender : WebTransport) (arguments : CallArguments)
    (decodes : Bool) :
    InvokesOnce (Notification.Reaches route.parseJson) fun invoke =>
      route.callWith sender arguments ⟨decodes, invoke⟩ :=
  invokesOnce_bind (keeps_notify route sender arguments decodes)
    (reaches_notify route sender arguments decodes)

end Route

/-- **A call over the web invokes its callback once or fails without it.**  This holds of the web
transport for every options and of every route that it carries, whether or not bodies are decoded on
the way, and for everything that can stand in place of a callback; the callbacks of this library are
cases of it. -/
theorem WebTransport.invokes_once (transport : WebTransport) :
    (∀ options,
      (∀ decodes, InvokesOnce Notification.Reports fun invoke =>
        transport.callWith options ⟨decodes, invoke⟩) ∧
      ∀ callback, transport.call options (some callback)
        = transport.callWith options callback.listener) ∧
    ∀ route : Route, route.transport = .web transport → ∀ arguments,
      (∀ decodes, InvokesOnce (Notification.Reaches route.parseJson) fun invoke =>
        route.callWith transport arguments ⟨decodes, invoke⟩) ∧
      ∀ callback, arguments.callback.bind Callback.ofHandle = some callback →
        route.call arguments = route.callWith transport arguments callback.listener := by
  constructor
  · intro options
    exact ⟨fun decodes => invokesOnce_callWith transport options decodes,
      fun callback => call_eq_callWith transport options callback⟩
  · intro route carried arguments
    exact ⟨fun decodes => Route.invokesOnce_callWith route transport arguments decodes,
      fun callback given => Route.call_eq_callWith carried given⟩

end Runtimes

/-! ## A page out of reach -/

attribute [local instance] Runtime.usual

/-- A session with the route of a page, in which the next request fails on the way. -/
def offlinePage : Session :=
  { (pageCreation []).2 with replies := [.failure "refused"] }

/-- The callback of a route that decodes bodies is told once of a failure on the way. -/
theorem WebTransport.invokes_once_offline :
    ∃ notification : Notification, notification.Reaches true ∧
      ((pageRoute.call pageArguments).run offlinePage).1 = .ok notification.result ∧
      ((pageRoute.call pageArguments).run offlinePage).2.delivered = [notification.arguments] := by
  have returns : ((pageRoute.call pageArguments).run offlinePage).1.toOption.isSome = true := by
    decide +kernel
  obtain ⟨once, same⟩ := (WebTransport.invokes_once ⟨[], false⟩).2 pageRoute rfl pageArguments
  have recording : (Callback.caller true).listener = ⟨false, Action.deliver⟩ := rfl
  rw [same (.caller true) rfl, recording] at returns ⊢
  rcases (once false).recorded offlinePage with ⟨failure, failed, -⟩ | ⟨notification, fits, run⟩
  · rw [failed] at returns
    cases returns
  · exact ⟨notification, fits, run⟩

example : (((pageRoute.call pageArguments).run offlinePage).2.delivered.map fun given =>
    given.map Value.display) = [["GET http://h/page failed: refused", "None", "None"]] := by
  decide +kernel

end Routebook

import Routebook.Http.Exchange
import Routebook.Proofs.Http.Reply
import Routebook.Proofs.Session.Action

/-!
# Exchanges

An exchange ends with a response or with a report of what went wrong on the way.  It fails only
where no request can be made for an address (`Http.exchanges_exchange`): the bodies of the requests
in it are at hand, and so are the replies of a session that is served (`Session.Served`).
-/

namespace Routebook

set_option autoImplicit false

variable [Runtime]

/-- Every reply that the network has ready is a response or a failure on the way. -/
def Session.Served (session : Session) : Prop := ∀ cause, .unmade cause ∉ session.replies

namespace Http

/-- Whether a failure says that no request can be made for an address. -/
def isAddressFailure : Failure → Bool
  | .malformedUrl _ | .malformedHost _ => true
  | _ => false

/-- A computation goes wrong by an address alone. -/
abbrev Addresses {α : Type} (property : α → Prop) (result : Except Failure α) : Prop :=
  Outcome (fun failure => isAddressFailure failure = true) property result

omit [Runtime] in
/-- An address that cannot be asked is no problem that a caller is told about. -/
theorem unreported_of_addresses {α : Type} {property : α → Prop} {result : Except Failure α}
    (addresses : Addresses property result) : Unreported result := by
  refine .of_cases (fun _ _ => trivial) fun failure failed cause same => ?_
  have address := addresses.error failed
  rw [same] at address
  cases address

/-! ## Addresses and requests -/

/-- The bytes of the body of a request are at hand. -/
def Request.IsWhole (request : Request) : Prop := request.body.fault = none

theorem addresses_urlFailure {α : Type} (result : Except UrlFault α) :
    Addresses (fun _ => True) (urlFailure result) := by
  cases result with
  | ok value => exact trivial
  | error fault => exact rfl

/-- What may be a fault of an address adds no other failure. -/
theorem addresses_urlFailure_bind {α β : Type} {property : β → Prop} (result : Except UrlFault α)
    {next : α → Except Failure β} (rest : ∀ value, Addresses property (next value)) :
    Addresses property (urlFailure result >>= next) :=
  .bind (addresses_urlFailure result) fun value _ => rest value

omit [Runtime] in
theorem addresses_requireHost (url : Url) : Addresses (fun _ => True) url.requireHost := by
  unfold Url.requireHost
  cases Text.checkShownHost url.host.toList with
  | ok checked => exact trivial
  | error fault => exact rfl

omit [Runtime] in
/-- Checking a host first adds no other failure. -/
theorem addresses_requireHost_bind {α : Type} {property : α → Prop} (url : Url)
    {next : Unit → Except Failure α} (rest : Addresses property (next ())) :
    Addresses property (url.requireHost >>= next) :=
  .bind (addresses_requireHost url) fun _ _ => rest

/-- A request without a body is whole. -/
theorem addresses_make (method : String) (url : Url) (headers : Headers) :
    Addresses Request.IsWhole (Request.make method url headers .nothing) := by
  have made : Request.IsWhole ⟨method, url, completeHeaders method url headers [], .ofBytes []⟩ := rfl
  change Addresses Request.IsWhole (if (!headers.has "host") = true then _ else _)
  exact .ite (addresses_requireHost_bind url made) made

/-- Going on with an address, or with what a text says in its place. -/
theorem addresses_resolve {property : Url → Prop} (hosted : Url) (text : String)
    {finish : Url → Except Failure Url} (finished : ∀ url, Addresses property (finish url)) :
    Addresses property (if hosted.isAbsolute = true then pure hosted >>= finish
      else urlFailure (Url.parse text) >>= finish) :=
  .ite (finished hosted) (addresses_urlFailure_bind _ finished)

theorem addresses_redirectUrl (current location : Url) :
    Addresses (fun _ => True) (redirectUrl current location) := by
  have finished : ∀ resolved : Url, Addresses (fun _ => True)
      (if (!(current.fragment.getD "").isEmpty && (resolved.fragment.getD "").isEmpty) = true then
        pure { resolved with
          fragment := some (String.ofList (quoteKeeping (isPlainSafe fragmentUnsafe)
            (unquote (current.fragment.getD "").toList))) }
      else pure resolved) :=
    fun resolved => .ite trivial trivial
  unfold redirectUrl
  dsimp only
  split
  · refine addresses_requireHost_bind _ ?_
    split
    · exact addresses_requireHost_bind _ (addresses_urlFailure_bind _ fun hosted =>
        addresses_resolve hosted _ finished)
    · exact addresses_resolve location _ finished
  · split
    · exact addresses_requireHost_bind _ (addresses_urlFailure_bind _ fun hosted =>
        addresses_resolve hosted _ finished)
    · exact addresses_resolve location _ finished

/-- The request that a reply refers to is whole if the one before it is. -/
theorem addresses_redirect {request : Request} (whole : request.IsWhole) (cookies : CookieJar)
    (status : Nat) (location : Url) :
    Addresses Request.IsWhole (redirect request cookies status location) := by
  refine .bind (addresses_redirectUrl _ _) fun url _ => ?_
  have rest : ∀ method headers, Addresses Request.IsWhole
      (if (method != request.method && method == "GET") = true then
        Request.make method url headers .nothing
      else pure { request with method, url, headers }) :=
    fun method headers => .ite (addresses_make _ _ _) whole
  dsimp only
  split
  · exact addresses_requireHost_bind _ (addresses_requireHost_bind _ (rest _ _))
  · exact addresses_requireHost_bind _ (addresses_requireHost_bind _ (rest _ _))

/-! ## Sending -/

open Routebook.Action

/-- In a session that is served, a computation goes wrong by an address alone. -/
abbrev Exchanges {α : Type} (property : α → Prop) (action : Action α) : Prop :=
  Maintains Session.Served (fun failure => isAddressFailure failure = true) property action

omit [Runtime] in
theorem exchanges_recordSent (request : SentRequest) :
    Exchanges (fun _ => True) (recordSent request) :=
  fun _ served => ⟨served, trivial⟩

omit [Runtime] in
/-- The next reply is a response or a failure on the way. -/
theorem exchanges_nextReply :
    Exchanges (fun reply => ∀ cause, reply ≠ .unmade cause) nextReply := by
  refine .bind_get fun session served => ?_
  rcases replies : session.replies with _ | ⟨reply, rest⟩
  · exact ⟨served, nofun⟩
  · refine ⟨fun cause present => served cause ?_, fun cause same => served cause ?_⟩
    · rw [replies]
      exact List.mem_cons_of_mem reply present
    · rw [replies, ← same]
      exact List.mem_cons_self

theorem exchanges_sendOnce (timeout : Value) {request : Request} (whole : request.IsWhole) :
    Exchanges (fun _ => True) (sendOnce timeout request) := by
  unfold sendOnce
  split
  · exact .pure trivial
  · rw [whole]
    refine .bind (exchanges_recordSent _) fun _ _ => ?_
    refine .bind exchanges_nextReply fun reply atHand => ?_
    cases reply with
    | response content => exact .pure trivial
    | failure reason => exact .pure trivial
    | unmade cause => exact absurd rfl (atHand cause)

/-- Whether a hop that leads on leads to a request that is whole. -/
def Hop.IsWhole : Hop → Prop
  | .final _ => True
  | .onward _ _ next => next.IsWhole

theorem exchanges_hop (timeout : Value) (jar : CookieJar) {request : Request}
    (whole : request.IsWhole) : Exchanges Hop.IsWhole (hop timeout jar request) := by
  refine .bind (exchanges_sendOnce timeout whole) fun outcome _ => ?_
  cases outcome with
  | error reason => exact .pure trivial
  | ok response =>
      dsimp only
      split
      · split
        · exact .pure trivial
        · refine .bind_get fun session served => ?_
          refine Action.Maintains.bind (.ofExcept (addresses_redirect whole _ _ _)) ?_ session served
          exact fun next onward => .pure onward
      · exact .pure trivial

/-- Following replies goes wrong by an address alone, however many are followed. -/
theorem exchanges_follow (timeout : Value) (followRedirects : Bool) (left : Nat) (jar : CookieJar)
    {request : Request} (whole : request.IsWhole) :
    Exchanges (fun _ => True) (follow timeout followRedirects left jar request) := by
  induction left generalizing jar request with
  | zero =>
      rw [follow]
      refine .bind (exchanges_hop timeout jar whole) fun led onward => ?_
      cases led with
      | final outcome => exact .pure trivial
      | onward response cookies next =>
          dsimp only
          split <;> exact .pure trivial
  | succ fewer inductionHypothesis =>
      rw [follow]
      refine .bind (exchanges_hop timeout jar whole) fun led onward => ?_
      cases led with
      | final outcome => exact .pure trivial
      | onward response cookies next =>
          dsimp only
          split
          · exact .pure trivial
          · exact inductionHypothesis cookies onward

/-- **An exchange fails only where no request can be made for an address.** -/
theorem exchanges_exchange (timeout : Value) (followRedirects : Bool) {request : Request}
    (whole : request.IsWhole) :
    Exchanges (fun _ => True) (exchange timeout followRedirects request) :=
  exchanges_follow timeout followRedirects maxRedirects [] whole

end Http

end Routebook

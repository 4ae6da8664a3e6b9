import Routebook.Proofs.Http.Address
import Routebook.Proofs.Transport.Carrier

/-!
# Rehearsals

A dry run makes the request of the options in another way than a run that sends it: the address is
not completed, and nothing goes out.  Where something is sent at all, both ways lead to one request
(`WebTransport.buildRequest_of_isWeb`), and the dry run notes its method, its address and its
fields.  Its body is noted unless it is streamed: then the dry run fails instead of noting it,
though the body would be sent (`WebTransport.rehearsal_of_sent`).
-/

namespace Routebook

set_option autoImplicit false

open Routebook.Action

namespace Http

variable [Runtime]

/-! ## The first request of an exchange -/

/-- A request as it arrives. -/
def Request.arriving (request : Request) (timeout : Value) : SentRequest where
  method := request.method
  url := request.url.text
  headers := request.headers
  body := request.body.bytes
  timeout := timeout

/-- Whether the scheme of an address is one of the web. -/
def Url.IsWeb (url : Url) : Prop := url.scheme = "http" ∨ url.scheme = "https"

/-- Nothing is sent between two sessions, or what is sent starts with a request over the web. -/
def Starts (request : Request) (timeout : Value) (before after : Session) : Prop :=
  after.sent = before.sent ∨ request.url.IsWeb ∧
    ∃ later, after.sent = before.sent ++ request.arriving timeout :: later

/-- Takes what the network answers. -/
def receive : Action (Except String Response) := do
  match ← nextReply with
  | .failure reason => return .error reason
  | .unmade cause => throw cause
  | .response content => return content.decoded.mapError Compression.Fault.message

theorem keeps_sent_receive : Keeps Session.sent receive := by
  have taking : Keeps Session.sent nextReply := Keeps.bind_get fun session => by
    cases session.replies <;> rfl
  refine Keeps.bind taking fun reply => ?_
  cases reply with
  | response content => exact Keeps.pure _
  | failure reason => exact Keeps.pure _
  | unmade cause => exact Keeps.throw _

/-- A request is sent over the web, or nothing is sent and there is no response. -/
theorem sent_sendOnce (timeout : Value) (request : Request) {session after : Session}
    {result : Except Failure (Except String Response)}
    (run : (sendOnce timeout request).run session = (result, after)) :
    (after.sent = session.sent ∧ ∀ response, result ≠ .ok (.ok response)) ∨
      (request.url.IsWeb ∧ after.sent = session.sent ++ [request.arriving timeout]) := by
  by_cases supported : (request.url.scheme != "http" && request.url.scheme != "https") = true
  · rw [sendOnce, if_pos supported] at run
    cases run
    exact .inl ⟨rfl, nofun⟩
  · have web : request.url.IsWeb := by
      simpa [Url.IsWeb, Classical.or_iff_not_imp_left] using supported
    cases faulty : request.body.fault with
    | some fault =>
        rw [sendOnce, if_neg supported, faulty] at run
        cases run
        exact .inl ⟨rfl, nofun⟩
    | none =>
        have sending : (sendOnce timeout request).run session
            = receive.run { session with sent := session.sent ++ [request.arriving timeout] } := by
          rw [sendOnce, if_neg supported, faulty]
          rfl
        have kept := keeps_sent_receive
          { session with sent := session.sent ++ [request.arriving timeout] }
        rw [← sending, run] at kept
        exact .inr ⟨web, kept⟩

/-- Reads from an outcome where it leads. -/
def leadOn (jar : CookieJar) (request : Request) : Except String Response → Action Hop
  | .error reason => return .final (.error reason)
  | .ok response => do
      let cookies := jar.take (← get).clock request.url request.headers response.headers
      match isRedirect response.status, response.headers.get? "location" with
      | true, some location =>
          match Url.parse location with
          | .error fault => return .final (.error (badLocation fault))
          | .ok url =>
              return .onward response cookies
                (← Action.ofExcept (redirect request cookies response.status url))
      | _, _ => return .final (.ok response)

theorem hop_eq (timeout : Value) (jar : CookieJar) (request : Request) :
    hop timeout jar request = sendOnce timeout request >>= leadOn jar request := by
  refine bind_congr fun outcome => ?_
  cases outcome <;> rfl

theorem keeps_sent_leadOn (jar : CookieJar) (request : Request)
    (outcome : Except String Response) : Keeps Session.sent (leadOn jar request outcome) := by
  cases outcome with
  | error reason => exact Keeps.pure _
  | ok response =>
      refine Keeps.bind Keeps.get fun session => ?_
      split
      · split
        · exact Keeps.pure _
        · exact Keeps.bind (Keeps.ofExcept _) fun _ => Keeps.pure _
      · exact Keeps.pure _

/-- A hop that leads on has sent its request. -/
theorem sent_hop (timeout : Value) (jar : CookieJar) (request : Request) {session after : Session}
    {result : Except Failure Hop} (run : (hop timeout jar request).run session = (result, after)) :
    (after.sent = session.sent ∧
        ∀ response cookies next, result ≠ .ok (.onward response cookies next)) ∨
      (request.url.IsWeb ∧ after.sent = session.sent ++ [request.arriving timeout]) := by
  rw [hop_eq] at run
  rcases sending : (sendOnce timeout request).run session with ⟨failure | outcome, between⟩
  · rw [run_bind_error sending] at run
    cases run
    refine (sent_sendOnce timeout request sending).imp_left fun same => ⟨same.1, ?_⟩
    intro response cookies next equal
    cases equal
  · rw [run_bind_ok sending] at run
    have kept := keeps_sent_leadOn jar request outcome between
    rw [run] at kept
    rcases sent_sendOnce timeout request sending with ⟨same, none⟩ | ⟨web, first⟩
    · refine .inl ⟨kept.trans same, ?_⟩
      cases outcome with
      | ok response => exact absurd rfl (none response)
      | error reason =>
          cases run
          intro response cookies next equal
          cases equal
    · exact .inr ⟨web, kept.trans first⟩

/-- What goes on from a hop by sending more starts with the request of the hop. -/
theorem starts_hop_bind {α : Type} (timeout : Value) (jar : CookieJar) (request : Request)
    {next : Hop → Action α} (final : ∀ outcome, Keeps Session.sent (next (.final outcome)))
    (onward : ∀ response cookies other session, ∃ more,
      ((next (.onward response cookies other)).run session).2.sent = session.sent ++ more)
    (session : Session) :
    Starts request timeout session ((hop timeout jar request >>= next).run session).2 := by
  rcases hopping : (hop timeout jar request).run session with
    ⟨failure | outcome | ⟨response, cookies, other⟩, between⟩
  · rw [run_bind_error hopping]
    rcases sent_hop timeout jar request hopping with ⟨same, -⟩ | ⟨web, first⟩
    · exact .inl same
    · exact .inr ⟨web, [], first⟩
  · rw [run_bind_ok hopping]
    have kept := final outcome between
    rcases sent_hop timeout jar request hopping with ⟨same, -⟩ | ⟨web, first⟩
    · exact .inl (kept.trans same)
    · exact .inr ⟨web, [], kept.trans first⟩
  · rw [run_bind_ok hopping]
    obtain ⟨more, later⟩ := onward response cookies other between
    rcases sent_hop timeout jar request hopping with ⟨-, none⟩ | ⟨web, first⟩
    · exact absurd rfl (none response cookies other)
    · refine .inr ⟨web, more, ?_⟩
      rw [later, first, List.append_assoc]
      rfl

/-- **What an exchange sends starts with its request, however many redirects it follows.** -/
theorem starts_follow (timeout : Value) (followRedirects : Bool) (left : Nat) (jar : CookieJar)
    (request : Request) (session : Session) :
    Starts request timeout session
      ((follow timeout followRedirects left jar request).run session).2 := by
  induction left generalizing jar request session with
  | zero =>
      rw [follow]
      refine starts_hop_bind timeout jar request (fun outcome => ?_) ?_ session
      · exact Keeps.pure outcome
      · intro response cookies other between
        refine ⟨[], ?_⟩
        dsimp only
        split <;> exact (List.append_nil _).symm
  | succ fewer inductionHypothesis =>
      rw [follow]
      refine starts_hop_bind timeout jar request (fun outcome => ?_) ?_ session
      · exact Keeps.pure outcome
      · intro response cookies other between
        dsimp only
        split
        · exact ⟨[], (List.append_nil _).symm⟩
        · rcases inductionHypothesis cookies other between with same | ⟨-, later, more⟩
          · exact ⟨[], same.trans (List.append_nil _).symm⟩
          · exact ⟨_, more⟩

/-! ## Streamed bodies -/

/-- Whether content is given in pieces: a list, a tuple or a set in place of a form. -/
def Content.isStreamed : Content → Bool
  | .form value =>
      match value.opened with
      | .list _ | .tuple _ | .set _ => true
      | _ => false
  | _ => false

omit [Runtime] in
/-- A body in pieces is streamed, whether or not the pieces can be sent. -/
theorem streamed_of_pieces {pieces : List Value} {fields : Headers} {body : Body}
    (embodied : (match streamedBytes pieces with
      | .ok bytes => .ok ⟨bytes, fields, true, none⟩
      | .error fault => .ok ⟨[], fields, true, some fault⟩ : Except Failure Body) = .ok body) :
    body.streamed = true := by
  cases streaming : streamedBytes pieces with
  | ok bytes =>
      rw [streaming] at embodied
      cases embodied
      rfl
  | error fault =>
      rw [streaming] at embodied
      cases embodied
      rfl

/-- A text is not streamed. -/
theorem streamed_of_ofText {text : String} {body : Body} (embodied : Body.ofText text = .ok body) :
    body.streamed = false := by
  obtain ⟨_, _, last⟩ := Outcome.exists_of_bind embodied
  cases last
  rfl

/-- A body is streamed when its content is given in pieces. -/
theorem streamed_of_ofContent {content : Content} {body : Body}
    (embodied : Body.ofContent content = .ok body) : body.streamed = content.isStreamed := by
  cases content with
  | nothing =>
      cases embodied
      rfl
  | raw bytes =>
      cases embodied
      rfl
  | text text => exact streamed_of_ofText embodied
  | json value =>
      obtain ⟨text, _, rest⟩ := Outcome.exists_of_bind embodied
      obtain ⟨_, _, last⟩ := Outcome.exists_of_bind rest
      cases last
      rfl
  | form value =>
      rw [Body.ofContent, Body.ofForm] at embodied
      rw [Content.isStreamed]
      generalize value.opened = opened at embodied ⊢
      cases opened with
      | mapping entries =>
          cases entries with
          | nil =>
              cases embodied
              rfl
          | cons entry entries =>
              obtain ⟨_, _, rest⟩ := Outcome.exists_of_bind embodied
              obtain ⟨_, _, last⟩ := Outcome.exists_of_bind rest
              cases last
              rfl
      | list pieces => exact streamed_of_pieces embodied
      | tuple pieces => exact streamed_of_pieces embodied
      | set pieces => exact streamed_of_pieces embodied
      | text text => exact streamed_of_ofText embodied
      | bytes bytes =>
          cases embodied
          rfl
      | _ => cases embodied

end Http

namespace WebTransport

section Runtimes

variable [Runtime]

/-! ## One request for both ways -/

omit [Runtime] in
/-- An address of the web is asked as it is. -/
theorem eq_of_forRequest {url resolved : Http.Url} (completed : url.forRequest = .ok resolved)
    (web : resolved.IsWeb) : resolved = url := by
  unfold Http.Url.forRequest at completed
  split at completed
  · exact (Except.ok.inj completed).symm
  · -- An address that has been completed has no scheme.
    have scheme : resolved.scheme.toList = [] := (Http.assembled_of_assemble completed).scheme
    rcases web with http | https
    · rw [http] at scheme
      cases scheme
    · rw [https] at scheme
      cases scheme

/-- A request has the address and the body that it is made of. -/
theorem of_make {method : String} {url : Http.Url} {headers : Http.Headers}
    {content : Http.Content} {request : Http.Request}
    (made : Http.Request.make method url headers content = .ok request) :
    request.url = url ∧ Http.Body.ofContent content = .ok request.body := by
  obtain ⟨body, embodied, rest⟩ := Outcome.exists_of_bind made
  dsimp only at rest
  split at rest
  · obtain ⟨_, _, last⟩ := Outcome.exists_of_bind rest
    cases last
    exact ⟨rfl, embodied⟩
  · cases rest
    exact ⟨rfl, embodied⟩

/-- **A request over the web is the one that a dry run makes.** -/
theorem buildRequest_of_isWeb {order : Order} {request : Http.Request}
    (built : buildRequest Http.Url.forRequest order = .ok request) (web : request.url.IsWeb) :
    buildRequest .ok order = .ok request := by
  obtain ⟨url, reading, rest⟩ := Outcome.exists_of_bind built
  obtain ⟨resolved, resolving, making⟩ := Outcome.exists_of_bind rest
  obtain ⟨headers, fields, made⟩ := Outcome.exists_of_bind making
  rw [(of_make made).1] at web
  cases completed : url.forRequest with
  | error fault =>
      rw [completed] at resolving
      cases resolving
  | ok other =>
      rw [completed] at resolving
      cases resolving
      rw [eq_of_forRequest completed web] at making
      rw [buildRequest, reading]
      exact making

/-- Whether what arrives is a request: by its method, its address and the bytes of its body. -/
structure Conveys (arrived : SentRequest) (request : Http.Request) : Prop where
  method : arrived.method = request.method
  url : arrived.url = request.url.text
  body : arrived.body = request.body.bytes

/-- What is sent for an order starts with the request that a dry run makes of it. -/
theorem exists_of_sent_send {order : Order} {options : Entries} {session : Session}
    {first : SentRequest} {rest : List SentRequest}
    (sends : ((send order options).run session).2.sent = session.sent ++ first :: rest) :
    ∃ request, buildRequest .ok order = .ok request ∧ request.url.IsWeb ∧
      Conveys first request := by
  unfold send at sends
  cases timing : readTimeout (Options.getOr options "timeout" defaultTimeout) with
  | error failure =>
      rw [timing, run_bind_error (run_ofExcept _ _)] at sends
      exact absurd sends (by simp)
  | ok timeout =>
      rw [timing, run_bind_ok (run_ofExcept _ _)] at sends
      cases built : buildRequest Http.Url.forRequest order with
      | error failure =>
          rw [built, run_bind_error (run_ofExcept _ _)] at sends
          exact absurd sends (by simp)
      | ok request =>
          rw [built, run_bind_ok (run_ofExcept _ _)] at sends
          rcases Http.starts_follow timeout _ Http.maxRedirects []
              { request with headers := Http.authorize request.url request.headers } session with
            same | ⟨web, later, starts⟩
          · exact absurd (sends.symm.trans same) (by simp)
          · have same := List.append_cancel_left (sends.symm.trans starts)
            obtain ⟨rfl, -⟩ := List.cons.inj same
            exact ⟨request, buildRequest_of_isWeb built web, web, rfl, rfl, rfl⟩

/-! ## What a dry run notes -/

/-- The lines about a request: its method and its address, and its fields. -/
def rehearsalLines (request : Http.Request) : List Notice :=
  .info ("[dry-run] " ++ request.method ++ " " ++ request.url.text)
    :: request.headers.joined.map fun field => .info ("  Header: " ++ field.1 ++ ": " ++ field.2)

/-- The line about the bytes of a body; there is none if it is empty. -/
def bodyLines (bytes : List UInt8) : List Notice :=
  if bytes.isEmpty then []
  else [.info ("  Body: " ++ String.ofList (Text.utf8DecodeReplacing bytes))]

theorem run_rehearse_of_error {order : Order} {failure : Failure}
    (failed : buildRequest .ok order = .error failure) (session : Session) :
    (rehearse order).run session = (.error failure, session) := by
  rw [rehearse, failed, run_bind_error (run_ofExcept _ _)]

/-- A dry run notes the lines about its request and about the body, unless the body is streamed. -/
theorem run_rehearse {order : Order} {request : Http.Request}
    (built : buildRequest .ok order = .ok request) (session : Session) :
    (rehearse order).run session
      = if request.body.streamed then (.error .bodyUnread, session.noting (rehearsalLines request))
        else (.ok dryRunResponse,
          session.noting (rehearsalLines request ++ bodyLines request.body.bytes)) := by
  rw [rehearse, built, run_bind_ok (run_ofExcept _ _), run_bind_ok (run_note _ _)]
  refine (run_bind_ok (run_forIn_note (fun field : String × String =>
    Notice.info ("  Header: " ++ field.1 ++ ": " ++ field.2)) _ _)).trans ?_
  dsimp only
  rw [Session.noting_noting, List.singleton_append, ← rehearsalLines]
  cases request.body.streamed with
  | true => rfl
  | false =>
      rw [← Session.noting_noting]
      unfold bodyLines
      cases request.body.bytes.isEmpty with
      | true =>
          rw [if_pos (rfl : true = true), Session.noting_nil]
          rfl
      | false => rfl

/-- A dry run sends nothing. -/
theorem keeps_sent_rehearse (order : Order) : Keeps Session.sent (rehearse order) := by
  intro session
  cases built : buildRequest .ok order with
  | error failure => rw [run_rehearse_of_error built]
  | ok request =>
      rw [run_rehearse built]
      split <;> rfl

section Calls

variable {transport : WebTransport} {requested options : Entries} {order : Order}
  {session : Session} {lines : List String} {failure : Failure}

theorem run_answer_of_error
    (merging : Options.merge transport.defaults requested = .error failure) :
    (transport.answer requested).run session = (.error failure, session) := by
  rw [answer, merging, run_bind_error (run_ofExcept _ _)]

theorem run_answer_of_unreadable
    (merging : Options.merge transport.defaults requested = .ok options)
    (unreadable : Options.ignoredLines options = .error failure) :
    (transport.answer requested).run session = (.error failure, session) := by
  rw [answer, merging, run_bind_ok (run_ofExcept _ _), unreadable, run_bind_error (run_ofExcept _ _)]

theorem run_answer_of_refused
    (merging : Options.merge transport.defaults requested = .ok options)
    (ignoring : Options.ignoredLines options = .ok lines)
    (refused : orderOf options = .error failure) :
    (transport.answer requested).run session
      = (.error failure, session.noting (lines.map .debug)) := by
  rw [answer, merging, run_bind_ok (run_ofExcept _ _), ignoring, run_bind_ok (run_ofExcept _ _)]
  refine (run_bind_ok (run_forIn_note Notice.debug _ _)).trans ?_
  rw [refused, run_bind_error (run_ofExcept _ _)]

/-- The answer for an order is got by rehearsing it or by sending it. -/
theorem run_answer_of_order
    (merging : Options.merge transport.defaults requested = .ok options)
    (ignoring : Options.ignoredLines options = .ok lines)
    (ordering : orderOf options = .ok order) :
    (transport.answer requested).run session
      = (if transport.dryRun then do return ⟨options, order, .ok (← rehearse order)⟩
        else do return ⟨options, order, ← send order options⟩ : Action Answer).run
          (session.noting (lines.map .debug)) := by
  rw [answer, merging, run_bind_ok (run_ofExcept _ _), ignoring, run_bind_ok (run_ofExcept _ _)]
  refine (run_bind_ok (run_forIn_note Notice.debug _ _)).trans ?_
  rw [ordering, run_bind_ok (run_ofExcept _ _)]

end Calls

variable {transport : WebTransport} {requested : Entries} {callback : Option Callback}
  {session : Session} {first : SentRequest} {rest : List SentRequest}

/-- **What a call sends starts with the request that a dry run makes of its options.** -/
theorem exists_of_sent
    (sends : ((transport.call requested callback).run session).2.sent
      = session.sent ++ first :: rest) :
    transport.dryRun = false ∧ ∃ options lines order request,
      Options.merge transport.defaults requested = .ok options ∧
      Options.ignoredLines options = .ok lines ∧ orderOf options = .ok order ∧
      buildRequest .ok order = .ok request ∧ request.url.IsWeb ∧ Conveys first request := by
  have answers : ((transport.answer requested).run session).2.sent
      = session.sent ++ first :: rest := by
    rw [← sends, call_eq, run_bind]
    split
    · rename_i answer after run
      rw [run]
      exact (keeps_reportAnswer callback answer after).symm
    · rename_i failure after run
      rw [run]
  cases merging : Options.merge transport.defaults requested with
  | error failure =>
      rw [run_answer_of_error merging] at answers
      exact absurd answers (by simp)
  | ok options =>
  cases ignoring : Options.ignoredLines options with
  | error failure =>
      rw [run_answer_of_unreadable merging ignoring] at answers
      exact absurd answers (by simp)
  | ok lines =>
  cases ordering : orderOf options with
  | error failure =>
      rw [run_answer_of_refused merging ignoring ordering] at answers
      exact absurd answers (by simp [Session.noting])
  | ok order =>
      rw [run_answer_of_order merging ignoring ordering] at answers
      generalize noted : session.noting (lines.map .debug) = start at answers
      have same : start.sent = session.sent := by rw [← noted]; rfl
      rw [← same] at answers
      split at answers
      · have kept := Keeps.bind (keeps_sent_rehearse order)
          (fun response => Keeps.pure (⟨options, order, .ok response⟩ : Answer)) start
        exact absurd (answers.symm.trans kept) (by simp)
      · rename_i sending
        have sent : ((send order options).run start).2.sent = start.sent ++ first :: rest := by
          rw [run_bind] at answers
          split at answers <;> rename_i run <;> rw [run] <;> exact answers
        obtain ⟨request, built, web, conveys⟩ := exists_of_sent_send sent
        exact ⟨Bool.eq_false_iff.mpr sending, options, lines, order, request, rfl, ignoring, ordering,
          built, web, conveys⟩

/-- **Where a call sends something, a dry run makes the same request and notes it.**  Its method,
its address and its fields are always noted, and nothing is sent.  The bytes of its body are noted
and the call goes on to an answer exactly if the body is not streamed; the dry run of a streamed
body fails behind the fields. -/
theorem rehearsal_of_sent {defaults : Entries}
    (sends : (((WebTransport.mk defaults false).call requested callback).run session).2.sent
      = session.sent ++ first :: rest) :
    let rehearsal := ((WebTransport.mk defaults true).call requested callback).run session
    rehearsal.2.sent = session.sent ∧
    ∃ options lines order request,
      Options.merge defaults requested = .ok options ∧ Options.ignoredLines options = .ok lines ∧
      orderOf options = .ok order ∧ buildRequest .ok order = .ok request ∧ Conveys first request ∧
      let noted := session.noting (lines.map .debug ++ rehearsalLines request)
      rehearsal =
        if order.content.isStreamed then (.error .bodyUnread, noted)
        else (reportAnswer callback ⟨options, order, .ok dryRunResponse⟩).run
          (noted.noting (bodyLines first.body)) := by
  intro rehearsal
  obtain ⟨-, options, lines, order, request, merging, ignoring, ordering, built, -, conveys⟩ :=
    exists_of_sent sends
  have streamed : request.body.streamed = order.content.isStreamed := by
    obtain ⟨url, -, rest⟩ := Outcome.exists_of_bind built
    obtain ⟨resolved, -, making⟩ := Outcome.exists_of_bind rest
    obtain ⟨headers, -, made⟩ := Outcome.exists_of_bind making
    exact Http.streamed_of_ofContent (of_make made).2
  have calls : rehearsal = if order.content.isStreamed then
        (.error .bodyUnread, session.noting (lines.map .debug ++ rehearsalLines request))
      else (reportAnswer callback ⟨options, order, .ok dryRunResponse⟩).run
        ((session.noting (lines.map .debug ++ rehearsalLines request)).noting
          (bodyLines first.body)) := by
    have rehearsing := run_rehearse built (session.noting (lines.map .debug))
    rw [streamed, ← conveys.body, Session.noting_noting, Session.noting_noting,
      ← List.append_assoc, ← Session.noting_noting session (_ ++ rehearsalLines request)] at rehearsing
    have answering := @run_answer_of_order _ ⟨defaults, true⟩ requested options order session lines
      merging ignoring ordering
    simp only [rehearsal]
    rw [call_eq, run_bind, answering]
    simp only [if_true]
    rw [run_bind, rehearsing]
    cases order.content.isStreamed <;> rfl
  refine ⟨?_, options, lines, order, request, merging, ignoring, ordering, built, conveys, calls⟩
  rw [calls]
  split
  · rfl
  · exact keeps_reportAnswer callback _ _

end Runtimes

/-! ## A value and a body in pieces -/

attribute [local instance] Runtime.usual

/-- Options with further query entries and a value for the body. -/
def valueOptions : Entries :=
  [(.text "uri", .text "http://h/a?x=1"), (.text "method", .text "post"),
   (.text "qs", .mapping [(.text "y", .text "2 3")]),
   (.text "json", .mapping [(.text "k", .int 1)])]

/-- The dry run of a value notes the request that is sent, and answers. -/
theorem rehearsal_of_sent_value :
    ∃ first request,
      (((WebTransport.mk [] false).call valueOptions none).run Session.empty).2.sent = [first] ∧
      first.method = "POST" ∧ first.url = "http://h/a?x=1&y=2+3" ∧
      first.body = Http.asciiBytes "\x7b\"k\":1\x7d" ∧ Conveys first request ∧
      let rehearsal := ((WebTransport.mk [] true).call valueOptions none).run Session.empty
      rehearsal.1 = .ok (.response dryRunResponse) ∧ rehearsal.2.sent = [] ∧
        rehearsalLines request ++ bodyLines first.body <:+: rehearsal.2.notices := by
  have sent : (((WebTransport.mk [] false).call valueOptions none).run
      Session.empty).2.sent.map (fun arrived => (arrived.method, arrived.url, arrived.body))
        = [("POST", "http://h/a?x=1&y=2+3", Http.asciiBytes "\x7b\"k\":1\x7d")] := by
    decide +kernel
  have whole : ((Options.merge [] valueOptions).toOption.bind fun options =>
      (orderOf options).toOption).all (fun order => !order.content.isStreamed) = true := by
    decide +kernel
  obtain ⟨first, single, described⟩ := List.map_eq_singleton_iff.mp sent
  obtain ⟨method, url, body⟩ : first.method = "POST" ∧ first.url = "http://h/a?x=1&y=2+3" ∧
      first.body = Http.asciiBytes "\x7b\"k\":1\x7d" := by simpa using described
  obtain ⟨nothing, options, lines, order, request, merging, -, ordering, -, conveys, calls⟩ :=
    rehearsal_of_sent (show _ = Session.empty.sent ++ first :: [] from single)
  rw [merging] at whole
  change (orderOf options).toOption.all (fun order => !order.content.isStreamed) = true at whole
  rw [ordering] at whole
  rw [(Bool.not_eq_true' _).mp whole] at calls
  refine ⟨first, request, single, method, url, body, conveys, ?_, nothing, ?_⟩
  · rw [calls]
    rfl
  · rw [calls]
    refine ⟨lines.map .debug,
      [.debug ("HTTP 200 from " ++ order.method ++ " " ++ order.url.display)], ?_⟩
    rw [← List.append_assoc (lines.map Notice.debug)]
    rfl

/-- Options with a body in pieces. -/
def piecesOptions : Entries :=
  [(.text "uri", .text "http://h/"), (.text "method", .text "POST"),
   (.text "form", .list [.bytes [97, 98]])]

/-- The dry run of a body in pieces fails, though the body is sent. -/
theorem not_rehearsal_of_sent_pieces :
    (((WebTransport.mk [] false).call piecesOptions none).run
        Session.empty).2.sent.map (fun arrived => (arrived.method, arrived.url, arrived.body))
          = [("POST", "http://h/", [97, 98])] ∧
      let rehearsal := ((WebTransport.mk [] true).call piecesOptions none).run Session.empty
      rehearsal.1 = .error .bodyUnread ∧
        ∀ notice ∈ rehearsal.2.notices, notice ∉ bodyLines [97, 98] := by
  refine ⟨?_, Outcome.eq_error_of_failure? ?_, ?_⟩
  · decide +kernel
  · decide +kernel
  · decide +kernel

end WebTransport

end Routebook

import Routebook.Proofs.Options.Supported
import Routebook.Proofs.Transport.Invocation
import Routebook.Proofs.Transport.Layers
import Routebook.Proofs.Transport.Telling
import Routebook.Proofs.Value.Text

/-!
# Options that are not supported

A web transport reads its options by known names alone.  So a request with options is the request
with the supported part of every layer of options, behind the lines that tell which options were
ignored (`WebTransport.request_eq_supported`), and of two requests whose layers have the same
supported parts neither the network nor the callback nor the caller can tell which one was made
(`WebTransport.ignores_unsupported`).
-/

namespace Routebook

set_option autoImplicit false

open Routebook.Action

namespace WebTransport

section Runtimes

variable [Runtime]

/-! ## Reading options -/

theorem orderOf_supported (options : Entries) :
    orderOf (Options.supported options) = orderOf options := by
  have get : ∀ name ∈ Options.known,
      Options.get (Options.supported options) name = Options.get options name :=
    fun name listed => Options.get_supported listed options
  simp only [orderOf, contentOf, get "uri" (by decide), get "url" (by decide),
    get "method" (by decide), get "headers" (by decide), get "qs" (by decide),
    get "form" (by decide), get "json" (by decide), get "body" (by decide)]

theorem send_supported (order : Order) (options : Entries) :
    send order (Options.supported options) = send order options := by
  have getOr : ∀ name ∈ Options.known, ∀ default,
      Options.getOr (Options.supported options) name default
        = Options.getOr options name default :=
    fun name listed => Options.getOr_supported listed options
  simp only [send, getOr "timeout" (by decide), getOr "followRedirect" (by decide)]

theorem responseBody_supported (response : Http.Response) (options : Entries)
    (callback : Callback) :
    responseBody response (Options.supported options) callback
      = responseBody response options callback := by
  have json : "json" ∈ Options.known := by decide
  simp only [responseBody, Options.get_supported json]

/-- What is done with an answer depends only on the supported part of its options. -/
def SupportedOnly {β : Type} (next : Answer → Action β) : Prop :=
  ∀ answer, next { answer with options := Options.supported answer.options } = next answer

theorem supportedOnly_reportAnswer (callback : Option Callback) :
    SupportedOnly (reportAnswer callback) := by
  intro answer
  simp only [reportAnswer, report, responseBody_supported]

theorem supportedOnly_notification (decodes : Bool) : SupportedOnly (notification decodes) := by
  intro answer
  simp only [notification, responseBody_supported]

/-! ## Answers -/

theorem tells_notification (decodes : Bool) (answer : Answer) :
    Tells (notification decodes answer) := by
  unfold notification
  split
  · refine Tells.bind (Tells.debug _) fun _ => ?_
    exact Tells.bind (Tells.ofExcept _) fun _ => Tells.pure _
  · exact Tells.bind (Tells.debug _) fun _ => Tells.pure _

/-- Gets the answer for the options in force, without a word about what is ignored. -/
def carryOut (transport : WebTransport) (options : Entries) : Action Answer := do
  let order ← Action.ofExcept (orderOf options)
  if transport.dryRun then return ⟨options, order, .ok (← rehearse order)⟩
  else return ⟨options, order, ← send order options⟩

theorem tells_carryOut (transport : WebTransport) (options : Entries) :
    Tells (transport.carryOut options) :=
  Tells.bind (Tells.ofExcept _) fun order => tells_order transport options order

section Acting

variable {β : Type} {options : Entries} {lines : List String} {failure : Failure}

/-- The lines about ignored options come first. -/
theorem run_act_bind (ignoring : Options.ignoredLines options = .ok lines)
    (transport : WebTransport) (next : Answer → Action β) (session : Session) :
    (transport.act options >>= next).run session
      = (transport.carryOut options >>= next).run (session.noting (lines.map .debug)) := by
  have acting : (transport.act options).run session
      = (transport.carryOut options).run (session.noting (lines.map .debug)) := by
    rw [act, ignoring, run_bind_ok (run_ofExcept _ _)]
    exact run_bind_ok (run_forIn_note Notice.debug lines session)
  rw [run_bind, run_bind, acting]

/-- Without a line about every ignored option nothing happens. -/
theorem run_act_bind_of_error (failed : Options.ignoredLines options = .error failure)
    (transport : WebTransport) (next : Answer → Action β) (session : Session) :
    (transport.act options >>= next).run session = (.error failure, session) := by
  refine run_bind_error ?_
  rw [act, failed, run_bind_error (run_ofExcept _ _)]

end Acting

/-- The supported part of the defaults of a transport. -/
def supported (transport : WebTransport) : WebTransport :=
  { transport with defaults := Options.supported transport.defaults }

theorem carryOut_supported {β : Type} {next : Answer → Action β} (only : SupportedOnly next)
    (transport : WebTransport) (options : Entries) :
    transport.supported.carryOut (Options.supported options) >>= next
      = transport.carryOut options >>= next := by
  have dryRun : transport.supported.dryRun = transport.dryRun := rfl
  simp only [carryOut, orderOf_supported, dryRun, bind_assoc]
  refine congrArg _ (funext fun order => ?_)
  split
  · simp only [bind_assoc, pure_bind]
    exact congrArg _ (funext fun response => only ⟨options, order, .ok response⟩)
  · simp only [bind_assoc, pure_bind, send_supported]
    exact congrArg _ (funext fun outcome => only ⟨options, order, outcome⟩)

/-! ## Layers of defaults -/

/-- The transport with layers of defaults over one another, the lowest first. -/
def layered (dryRun : Bool) (base : Entries) (layers : List Entries) :
    Except Failure WebTransport :=
  layers.foldlM withDefaults ⟨base, dryRun⟩

omit [Runtime] in
theorem withDefaults_supported (transport : WebTransport) (options : Entries) :
    transport.supported.withDefaults (Options.supported options)
      = (transport.withDefaults options).map supported := by
  have defaults : transport.supported.defaults = Options.supported transport.defaults := rfl
  rw [withDefaults, withDefaults, defaults, Options.supported_merge]
  cases Options.merge transport.defaults options <;> rfl

omit [Runtime] in
theorem foldlM_withDefaults_supported (transport : WebTransport) (layers : List Entries) :
    (layers.map Options.supported).foldlM withDefaults transport.supported
      = (layers.foldlM withDefaults transport).map supported := by
  induction layers generalizing transport with
  | nil => rfl
  | cons layer rest inductionHypothesis =>
      rw [List.map_cons, List.foldlM_cons, List.foldlM_cons, withDefaults_supported]
      cases transport.withDefaults layer with
      | error failure => rfl
      | ok further => exact inductionHypothesis further

omit [Runtime] in
/-- Every key of the defaults is a key of one of their layers, or the one of the header fields. -/
theorem keys_foldlM_withDefaults {property : Value → Prop} (named : property (.text "headers"))
    {transport layered : WebTransport} {layers : List Entries}
    (lower : ∀ entry ∈ transport.defaults, property entry.1)
    (upper : ∀ layer ∈ layers, ∀ entry ∈ layer, property entry.1)
    (building : layers.foldlM withDefaults transport = .ok layered) :
    ∀ entry ∈ layered.defaults, property entry.1 := by
  induction layers generalizing transport with
  | nil =>
      cases building
      exact lower
  | cons layer rest inductionHypothesis =>
      rw [List.forall_mem_cons] at upper
      rw [List.foldlM_cons] at building
      obtain ⟨further, adding, later⟩ := Outcome.exists_of_bind building
      obtain ⟨merged, merging, rfl⟩ := Outcome.exists_of_map adding
      exact inductionHypothesis (Options.keys_merge named lower upper.1 merging) upper.2 later

omit [Runtime] in
/-- **The supported part of layers of defaults.** -/
theorem layered_supported (dryRun : Bool) (base : Entries) (layers : List Entries) :
    layered dryRun (Options.supported base) (layers.map Options.supported)
      = (layered dryRun base layers).map supported :=
  foldlM_withDefaults_supported ⟨base, dryRun⟩ layers

/-! ## Requests over layers of defaults -/

/-- A request over layers of defaults. -/
structure LayeredRequest where
  dryRun : Bool
  base : Entries
  layers : List Entries
  options : Entries

namespace LayeredRequest

/-- Gets the answer for a request and goes on with it. -/
def answerThen {β : Type} (request : LayeredRequest) (next : Answer → Action β) : Action β := do
  let transport ← Action.ofExcept (layered request.dryRun request.base request.layers)
  transport.answer request.options >>= next

/-- Makes the request. -/
def call (request : LayeredRequest) (callback : Option Callback) : Action Value := do
  let transport ← Action.ofExcept (layered request.dryRun request.base request.layers)
  transport.call request.options callback

/-- Gets the notification for the request: the arguments for whatever is called back, and what is
returned after it. -/
def notify (request : LayeredRequest) (decodes : Bool) : Action Notification := do
  let transport ← Action.ofExcept (layered request.dryRun request.base request.layers)
  transport.notify request.options decodes

theorem call_eq (request : LayeredRequest) (callback : Option Callback) :
    request.call callback = request.answerThen (reportAnswer callback) := by
  simp only [call, answerThen, WebTransport.call_eq]

/-- The request with the supported part of every layer. -/
def supported (request : LayeredRequest) : LayeredRequest where
  dryRun := request.dryRun
  base := Options.supported request.base
  layers := request.layers.map Options.supported
  options := Options.supported request.options

/-- The options of the request laid over its layers of defaults. -/
def merged (request : LayeredRequest) : Except Failure Entries := do
  let transport ← layered request.dryRun request.base request.layers
  Options.merge transport.defaults request.options

/-- Whether every ignored option of a request can be told of. -/
def Told (request : LayeredRequest) : Prop :=
  ∀ options, request.merged = .ok options → ∃ lines, Options.ignoredLines options = .ok lines

omit [Runtime] in
theorem merged_supported (request : LayeredRequest) :
    request.supported.merged = request.merged.map Options.supported := by
  obtain ⟨dryRun, base, layers, options⟩ := request
  simp only [merged, supported, layered_supported]
  cases layered dryRun base layers with
  | error failure => rfl
  | ok transport => exact Options.supported_merge transport.defaults options

section Running

variable {β : Type} {next : Answer → Action β}

/-- A request whose options cannot be merged fails. -/
theorem run_answerThen_of_error {request : LayeredRequest} {failure : Failure}
    (failed : request.merged = .error failure) (next : Answer → Action β) (session : Session) :
    (request.answerThen next).run session = (.error failure, session) := by
  rw [answerThen]
  rcases Outcome.error_of_bind failed with building | ⟨transport, building, merging⟩
  · rw [building, run_bind_error (run_ofExcept _ _)]
  · rw [building, run_bind_ok (run_ofExcept _ _), answer_eq, merging, bind_assoc,
      run_bind_error (run_ofExcept _ _)]

/-- A request acts on its merged options, over the transport with its layers of defaults. -/
theorem run_answerThen {request : LayeredRequest} {transport : WebTransport} {options : Entries}
    (building : layered request.dryRun request.base request.layers = .ok transport)
    (merging : Options.merge transport.defaults request.options = .ok options)
    (next : Answer → Action β) (session : Session) :
    (request.answerThen next).run session = (transport.act options >>= next).run session := by
  rw [answerThen, building, run_bind_ok (run_ofExcept _ _), answer_eq, merging, bind_assoc,
    run_bind_ok (run_ofExcept _ _)]

/-- **A request is that with the supported part of every layer, with the lines about the ignored
options in front of all that it notes itself**, if there is a line about each of them. -/
theorem exists_run_answerThen {request : LayeredRequest} (told : request.Told)
    (tells : ∀ answer, Tells (next answer)) (only : SupportedOnly next) (start : Session) :
    ∃ ignored lines, Options.ignoredLines ignored = .ok lines ∧
      (request.answerThen next).run start
        = (((request.supported.answerThen next).run start.silent).1,
          Session.behind (start.noting (lines.map .debug))
            ((request.supported.answerThen next).run start.silent).2) := by
  have plain := request.merged_supported
  cases merging : request.merged with
  | error failure =>
      rw [merging] at plain
      refine ⟨[], [], Options.ignoredLines_supported [], ?_⟩
      rw [run_answerThen_of_error merging, run_answerThen_of_error plain, List.map_nil,
        Session.noting_nil, Session.behind_silent]
  | ok options =>
      rw [merging] at plain
      obtain ⟨lines, ignoring⟩ := told options merging
      obtain ⟨transport, building, merged⟩ := Outcome.exists_of_bind merging
      have supportedBuilding : layered request.supported.dryRun request.supported.base
          request.supported.layers = .ok transport.supported := by
        have layers := layered_supported request.dryRun request.base request.layers
        rwa [building] at layers
      have supportedMerged : Options.merge transport.supported.defaults request.supported.options
          = .ok (Options.supported options) := by
        have both := Options.supported_merge transport.defaults request.options
        rwa [merged] at both
      refine ⟨options, lines, ignoring, ?_⟩
      rw [run_answerThen building merged, run_answerThen supportedBuilding supportedMerged,
        run_act_bind ignoring, run_act_bind (Options.ignoredLines_supported options),
        List.map_nil, Session.noting_nil, carryOut_supported only,
        ← Tells.run_behind (Tells.bind (tells_carryOut transport options) tells)]
      have same : start.silent = (start.noting (lines.map .debug)).silent := rfl
      rw [same, Session.behind_silent]

/-- A request with an ignored option that cannot be told of fails before anything happens. -/
theorem exists_failure_of_not_told {request : LayeredRequest} (untold : ¬request.Told) :
    ∃ failure, ∀ {β : Type} (next : Answer → Action β) session,
      (request.answerThen next).run session = (.error failure, session) := by
  obtain ⟨options, failing⟩ := Classical.not_forall.mp untold
  obtain ⟨merging, none⟩ := Classical.not_imp.mp failing
  obtain ⟨transport, building, merged⟩ := Outcome.exists_of_bind merging
  cases failed : Options.ignoredLines options with
  | ok lines => exact absurd ⟨lines, failed⟩ none
  | error failure =>
      refine ⟨failure, fun next session => ?_⟩
      rw [run_answerThen building merged, run_act_bind_of_error failed]

end Running

/-- Options whose keys are texts can all be told of. -/
theorem told_of_textKeys {request : LayeredRequest}
    (texts : ∀ layer ∈ request.base :: request.options :: request.layers,
      Options.textKeys layer = true) : request.Told := by
  simp only [List.forall_mem_cons, Options.textKeys_iff] at texts
  obtain ⟨lowest, upper, between⟩ := texts
  intro merged merging
  obtain ⟨transport, building, last⟩ := Outcome.exists_of_bind merging
  have named : Options.IsName (.text "headers") := ⟨_, rfl⟩
  have defaults := keys_foldlM_withDefaults named lowest between building
  refine Options.exists_ignoredLines_iff.mpr fun entry present _ => ?_
  obtain ⟨name, same⟩ := Options.keys_merge named defaults upper last entry present
  exact ⟨name, same ▸ Value.asText_text name⟩

/-! ## What ignored options leave alone -/

/-- Two requests with the same supported part in every layer. -/
structure Alike (first second : LayeredRequest) : Prop where
  dryRun : first.dryRun = second.dryRun
  base : Options.supported first.base = Options.supported second.base
  layers : first.layers.map Options.supported = second.layers.map Options.supported
  options : Options.supported first.options = Options.supported second.options

omit [Runtime] in
theorem Alike.supported {first second : LayeredRequest} (alike : Alike first second) :
    first.supported = second.supported := by
  simp only [LayeredRequest.supported, alike.dryRun, alike.base, alike.layers, alike.options]

end LayeredRequest

/-- Two runs from one session that differ at most in the lines about ignored options: they have the
same outcome and leave the same session behind, but for these lines, which come before all others
that the runs note. -/
def IgnoredApart {α : Type} (start : Session) (first second : Except Failure α × Session) : Prop :=
  ∃ outcome after ignored lines otherIgnored otherLines,
    Options.ignoredLines ignored = .ok lines ∧ Options.ignoredLines otherIgnored = .ok otherLines ∧
    first = (outcome, Session.behind (start.noting (lines.map .debug)) after) ∧
    second = (outcome, Session.behind (start.noting (otherLines.map .debug)) after)

/-- Views of the session that do not show its lines are the same after both runs. -/
theorem IgnoredApart.same_view {α γ : Type} {start : Session}
    {first second : Except Failure α × Session} (apart : IgnoredApart start first second)
    {view : Session → γ}
    (blind : ∀ (session : Session) (notices : List Notice) (written : List String),
      view { session with notices := notices, written := written } = view session) :
    view first.2 = view second.2 := by
  obtain ⟨outcome, after, _, _, _, _, -, -, rfl, rfl⟩ := apart
  exact (blind after _ _).trans (blind after _ _).symm

open LayeredRequest in
/-- Requests that are alike run alike, whatever is done with the answer, if this reads only the
supported part of the options. -/
theorem ignoredApart_answerThen {β : Type} {first second : LayeredRequest}
    (alike : Alike first second) (told : first.Told) (otherTold : second.Told)
    {next : Answer → Action β} (tells : ∀ answer, Tells (next answer)) (only : SupportedOnly next)
    (start : Session) :
    IgnoredApart start ((first.answerThen next).run start) ((second.answerThen next).run start) := by
  obtain ⟨ignored, lines, ignoring, run⟩ := exists_run_answerThen told tells only start
  obtain ⟨otherIgnored, otherLines, otherIgnoring, otherRun⟩ :=
    exists_run_answerThen otherTold tells only start
  rw [alike.supported] at run
  exact ⟨_, _, ignored, lines, otherIgnored, otherLines, ignoring, otherIgnoring, run, otherRun⟩

/-- **Options that are not supported cannot influence a request.**  Whatever entries with unknown
keys the options of a request or any layer of defaults under them have, a call with any callback
returns or fails in the same way and leaves the same session behind, requests sent and callbacks
made included, up to the lines about ignored options; and whatever else is called back gets the same
arguments.  Keys that are texts can always be told of in such a line.  A key of another type that
has no text cannot, and then the request fails before anything happens. -/
theorem ignores_unsupported :
    (∀ first second : LayeredRequest, first.Alike second → first.Told → second.Told → ∀ start,
      (∀ callback, IgnoredApart start ((first.call callback).run start)
        ((second.call callback).run start)) ∧
      ∀ decodes, IgnoredApart start ((first.notify decodes).run start)
        ((second.notify decodes).run start)) ∧
    (∀ request : LayeredRequest,
      (∀ layer ∈ request.base :: request.options :: request.layers,
        Options.textKeys layer = true) → request.Told) ∧
    ∀ request : LayeredRequest, ¬request.Told → ∃ failure, ∀ start,
      (∀ callback, (request.call callback).run start = (.error failure, start)) ∧
      ∀ decodes, (request.notify decodes).run start = (.error failure, start) := by
  refine ⟨fun first second alike told otherTold start => ⟨fun callback => ?_, fun decodes => ?_⟩,
    fun request texts => LayeredRequest.told_of_textKeys texts, fun request untold => ?_⟩
  · simp only [LayeredRequest.call_eq]
    exact ignoredApart_answerThen alike told otherTold (tells_reportAnswer callback)
      (supportedOnly_reportAnswer callback) start
  · exact ignoredApart_answerThen alike told otherTold (tells_notification decodes)
      (supportedOnly_notification decodes) start
  · obtain ⟨failure, failing⟩ := LayeredRequest.exists_failure_of_not_told untold
    refine ⟨failure, fun start => ⟨fun callback => ?_, fun decodes => failing _ start⟩⟩
    rw [LayeredRequest.call_eq]
    exact failing _ start

end Runtimes

/-! ## A request with and without stray options -/

attribute [local instance] Runtime.usual

/-- A request with entries in every layer that are not supported. -/
def strayRequest : LayeredRequest where
  dryRun := false
  base := [(.text "trace", .truth true), (.text "timeout", .int 5)]
  layers := [[(.text "headers", .mapping [(.text "Accept", .text "text")]), (.int 7, .null)]]
  options := [(.text "uri", .text "http://h/page"), (.text "Headers", .text "none"),
    (.text "headers", .mapping [(.text "Trace", .text "1")])]

/-- The request without them. -/
def plainRequest : LayeredRequest where
  dryRun := false
  base := [(.text "timeout", .int 5)]
  layers := [[(.text "headers", .mapping [(.text "Accept", .text "text")])]]
  options := [(.text "uri", .text "http://h/page"),
    (.text "headers", .mapping [(.text "Trace", .text "1")])]

/-- A callback is told the same, and the same is sent, with entries that are not supported and
without. -/
theorem ignores_unsupported_stray :
    strayRequest.Alike plainRequest ∧
    ((strayRequest.call (some (.caller true))).run Session.empty).2.delivered
      = ((plainRequest.call (some (.caller true))).run Session.empty).2.delivered ∧
    ((strayRequest.call (some (.caller true))).run Session.empty).2.sent
      = ((plainRequest.call (some (.caller true))).run Session.empty).2.sent ∧
    ((plainRequest.call (some (.caller true))).run Session.empty).2.sent.length = 1 := by
  have alike : strayRequest.Alike plainRequest := ⟨rfl, rfl, rfl, rfl⟩
  have told : strayRequest.Told := by
    intro options merging
    have lines : (strayRequest.merged.toOption.any fun options =>
        (Options.ignoredLines options).isOk) = true := by decide +kernel
    rw [merging] at lines
    exact Outcome.exists_of_isOk lines
  have plainTold : plainRequest.Told := ignores_unsupported.2.1 plainRequest (by decide +kernel)
  obtain ⟨calls, -⟩ := ignores_unsupported.1 strayRequest plainRequest alike told plainTold
    Session.empty
  refine ⟨alike, (calls _).same_view fun _ _ _ => rfl, (calls _).same_view fun _ _ _ => rfl, ?_⟩
  decide +kernel

end WebTransport

end Routebook

import Routebook.Proofs.Client.Compiled
import Routebook.Proofs.Options.Layering
import Routebook.Proofs.Route.Request
import Routebook.Proofs.Transport.Answer

/-!
# Layers of defaults

A web transport acts on the options of a request laid over its defaults, and its defaults are a
stack of layers: one for every time that default options were set.  So the options that a call acts
on can be read off the layers (`WebCall.ActsOn`): its extra options, the options of the route, and
the defaults from the last to the first, with the address, the method and the body always those of
the call.
-/

namespace Routebook

set_option autoImplicit false

open Routebook.Action

section Runtimes

variable [Runtime]

namespace WebTransport

/-! ## Chains of defaults -/

omit [Runtime] in
/-- Every layer of defaults is one more layer of the stack. -/
theorem exists_foldlM_withDefaults {earlier layers : List Entries} {sender : WebTransport}
    (stacked : Options.Stacked earlier sender.defaults)
    (own : ∀ layer ∈ layers, Options.Layer layer) :
    ∃ chained, layers.foldlM withDefaults sender = .ok chained ∧
      Options.Stacked (earlier ++ layers) chained.defaults := by
  induction layers generalizing earlier sender with
  | nil => exact ⟨sender, rfl, (List.append_nil earlier).symm ▸ stacked⟩
  | cons layer rest inductionHypothesis =>
      rw [List.forall_mem_cons] at own
      obtain ⟨merged, merging, further⟩ := stacked.exists_merge own.1
      obtain ⟨chained, run, final⟩ :=
        @inductionHypothesis (earlier ++ [layer]) { sender with defaults := merged } further own.2
      refine ⟨chained, ?_, ?_⟩
      · rw [List.foldlM_cons, withDefaults, merging]
        exact run
      · rwa [List.append_assoc] at final

omit [Runtime] in
/-- **Setting default options twice is setting them once, merged.** -/
theorem withDefaults_withDefaults (sender : WebTransport) {first second : Entries}
    (own : Options.WellFormed sender.defaults) (lower : Options.WellFormed first)
    (upper : Options.WellFormed second) :
    (sender.withDefaults first).bind (·.withDefaults second)
      = (Options.merge first second).bind sender.withDefaults := by
  have merging := Options.merge_assoc own lower upper
  have left : (sender.withDefaults first).bind (·.withDefaults second)
      = ((Options.merge sender.defaults first).bind (Options.merge · second)).map
          fun merged => { sender with defaults := merged } := by
    unfold withDefaults
    cases Options.merge sender.defaults first <;> rfl
  have right : (Options.merge first second).bind sender.withDefaults
      = ((Options.merge first second).bind (Options.merge sender.defaults ·)).map
          fun merged => { sender with defaults := merged } := by
    unfold withDefaults
    cases Options.merge first second <;> rfl
  rw [left, right, merging]

/-- Gets the answer for the options in force. -/
def act (transport : WebTransport) (options : Entries) : Action Answer := do
  for line in ← Action.ofExcept (Options.ignoredLines options) do
    Action.debug line
  let order ← Action.ofExcept (orderOf options)
  if transport.dryRun then return ⟨options, order, .ok (← rehearse order)⟩
  else return ⟨options, order, ← send order options⟩

/-- The options in force are those of the request laid over the defaults. -/
theorem answer_eq (transport : WebTransport) (requestOptions : Entries) :
    transport.answer requestOptions
      = Action.ofExcept (Options.merge transport.defaults requestOptions) >>= transport.act := rfl

end WebTransport

/-! ## The options of a call -/

namespace Route

/-- The options that are always those of a call. -/
def reserved (route : Route) : List String :=
  ["uri", "method"] ++ if route.method.hasBody then ["body"] else []

section Completing

variable {route : Route} {address : String} {body key : Value} {options : Entries}

omit [Runtime] in
theorem lookup_insert_self {name : String} {value : Value}
    (hashable : ∀ entry ∈ options, entry.1.isHashable = true) :
    Value.lookup (.text name) (Value.insert (.text name) value options) = some value := by
  rw [Value.lookup_insert hashable rfl rfl, if_pos (Store.same_text.mpr rfl)]

omit [Runtime] in
theorem lookup_insert_of_ne {name : String} {value : Value}
    (hashable : ∀ entry ∈ options, entry.1.isHashable = true) (own : key.isHashable = true)
    (other : key ≠ .text name) :
    Value.lookup key (Value.insert (.text name) value options) = Value.lookup key options := by
  rw [Value.lookup_insert hashable rfl own, if_neg fun same => other (Store.same_text_right.mp same)]

omit [Runtime] in
/-- An option that a call leaves to its layers. -/
theorem lookup_completed_of_ne (hashable : ∀ entry ∈ options, entry.1.isHashable = true)
    (own : key.isHashable = true) (apart : ∀ name ∈ route.reserved, key ≠ .text name) :
    Value.lookup key (route.completed address body options) = Value.lookup key options := by
  have uri : key ≠ .text "uri" := apart "uri" (by simp [reserved])
  have method : key ≠ .text "method" := apart "method" (by simp [reserved])
  have addressed := @Value.hashable_insert (.text "uri") (.text address) options hashable rfl
  have named := @Value.hashable_insert (.text "method") (.text route.method.name) _ addressed rfl
  unfold completed
  dsimp only
  split
  · rename_i carries
    have content : key ≠ .text "body" := apart "body" (by simp [reserved, carries])
    rw [lookup_insert_of_ne named own content, lookup_insert_of_ne addressed own method,
      lookup_insert_of_ne hashable own uri]
  · rw [lookup_insert_of_ne addressed own method, lookup_insert_of_ne hashable own uri]

omit [Runtime] in
/-- The address, the method and the body are those of the call. -/
theorem lookup_completed_reserved (hashable : ∀ entry ∈ options, entry.1.isHashable = true) :
    Value.lookup (.text "uri") (route.completed address body options) = some (.text address) ∧
      Value.lookup (.text "method") (route.completed address body options)
        = some (.text route.method.name) ∧
      (route.method.hasBody = true →
        Value.lookup (.text "body") (route.completed address body options) = some body) := by
  have addressed := @Value.hashable_insert (.text "uri") (.text address) options hashable rfl
  have named := @Value.hashable_insert (.text "method") (.text route.method.name) _ addressed rfl
  unfold completed
  dsimp only
  split
  · refine ⟨?_, ?_, fun _ => lookup_insert_self named⟩
    · rw [lookup_insert_of_ne named rfl (by simp), lookup_insert_of_ne addressed rfl (by simp),
        lookup_insert_self hashable]
    · rw [lookup_insert_of_ne named rfl (by simp), lookup_insert_self addressed]
  · rename_i carries
    refine ⟨?_, lookup_insert_self addressed, fun carried => absurd carried carries⟩
    rw [lookup_insert_of_ne addressed rfl (by simp), lookup_insert_self hashable]

omit [Runtime] in
theorem keyed_completed (keyed : Value.Keyed options) :
    Value.Keyed (route.completed address body options) := by
  unfold completed
  dsimp only
  split
  · exact ((keyed.insert rfl).insert rfl).insert rfl
  · exact (keyed.insert rfl).insert rfl

end Completing

end Route

/-- A call of a route over a web transport, with layers of options for its extra options and for
those of the route. -/
structure WebCall (sender : WebTransport) (session : Session) where
  route : Route
  arguments : CallArguments
  extra : List (Value × Handle)
  address : String
  carried : route.transport = .web sender
  within : arguments.Within session.store.size
  accepted : arguments.body.isSome = true → route.method.hasBody = true
  copyable : (session.store.read route.options).Copyable
  given : Route.extraOptions arguments session.store = .ok extra
  addressed : route.addressOf arguments session.store = .ok address
  own : Options.Layer (route.currentOptions session.store)
  passed : Options.Layer (session.store.readEntries extra)

namespace WebCall

variable {sender : WebTransport} {session : Session}

/-- The extra options of the call. -/
def upper (call : WebCall sender session) : Entries := session.store.readEntries call.extra

/-- The options of the route. -/
def lower (call : WebCall sender session) : Entries := call.route.currentOptions session.store

/-- The body of the call. -/
def body (call : WebCall sender session) : Value :=
  session.store.readArgument call.arguments.body

/-- The options of the request. -/
def options (call : WebCall sender session) : Entries :=
  call.route.completed call.address call.body (Value.overlay call.lower call.upper)

/-- The header fields of the request: those of the extra options if these have any, and otherwise
those of the route. -/
def requestFields (call : WebCall sender session) : Entries :=
  Options.fieldsOf ((Options.headers? call.upper).or (Options.headers? call.lower))

theorem handedOver_eq (call : WebCall sender session) :
    call.route.handedOver call.arguments session.store = .ok call.options := by
  have accepted : (call.arguments.body.isSome && !call.route.method.hasBody) = false := by
    refine Bool.eq_false_iff.mpr fun refused => ?_
    obtain ⟨present, lacks⟩ := (Bool.and_eq_true _ _).mp refused
    rw [call.accepted present] at lacks
    cases lacks
  exact Route.handedOver_of_ok accepted call.copyable call.given call.addressed

/-- The header option of the request is that of the extra options, if they have one. -/
theorem headers?_options (call : WebCall sender session) :
    Options.headers? call.options
      = (Options.headers? call.upper).or (Options.headers? call.lower) := by
  have laid := Value.hashable_overlay call.own.keyed.hashable call.passed.keyed.hashable
  refine (Route.lookup_completed_of_ne laid Options.hashable_headers ?_).trans
    (Options.headers?_overlay call.own.keyed.hashable call.passed.keyed)
  intro name reserved same
  rw [Value.text.injEq] at same
  rw [← same, Route.reserved] at reserved
  split at reserved <;> simp at reserved

/-- The options of the request are a layer. -/
theorem layer_options (call : WebCall sender session) : Options.Layer call.options where
  keyed := Route.keyed_completed (call.own.keyed.overlay call.passed.keyed.hashable)
  headers := by
    rw [headers?_options]
    cases given : Options.headers? call.upper with
    | none => exact call.own.headers
    | some value =>
        have own : Options.Mapped (Options.headers? call.upper) := call.passed.headers
        rwa [given] at own

/-- The options that a call acts on, given the layers of defaults, the lowest first. -/
structure ActsOn (call : WebCall sender session) (layers : List Entries) (options : Entries) :
    Prop where
  /-- Any other option is the first of the extra options, the options of the route and the defaults
  from the last to the first. -/
  value : ∀ key, key.isHashable = true → key ≠ .text "headers" →
    (∀ name ∈ call.route.reserved, key ≠ .text name) →
    Value.lookup key options
      = (call.upper :: call.lower :: layers.reverse).findSome? (Value.lookup key)
  uri : Value.lookupText "uri" options = some (.text call.address)
  method : Value.lookupText "method" options = some (.text call.route.method.name)
  body : call.route.method.hasBody = true → Value.lookupText "body" options = some call.body
  headers : (Options.headers? options).isSome
    = (layers.any (fun layer => (Options.headers? layer).isSome)
      || (Options.headers? call.upper).isSome || (Options.headers? call.lower).isSome)
  /-- The header fields are those of the defaults with those of the request over them. -/
  fields : Options.fields options
    = (layers.map Options.fields ++ [call.requestFields]).foldl Value.overlay []
  field : ∀ name, name.isHashable = true →
    Value.lookup name (Options.fields options)
      = (call.requestFields :: (layers.map Options.fields).reverse).findSome? (Value.lookup name)

section Stacks

variable (call : WebCall sender session) {layers : List Entries} {options : Entries}

theorem fields_options : Options.fields call.options = call.requestFields :=
  congrArg Options.fieldsOf call.headers?_options

/-- In a stack with the options of the request at the top, these come first. -/
theorem lookup_of_stacked (stacked : Options.Stacked (layers ++ [call.options]) options) {key : Value}
    (hashable : key.isHashable = true) (other : key ≠ .text "headers") :
    Value.lookup key options
      = (Value.lookup key call.options).or (layers.reverse.findSome? (Value.lookup key)) := by
  rw [stacked.value key hashable other, List.reverse_append, List.reverse_singleton,
    List.singleton_append, List.findSome?_cons]
  cases Value.lookup key call.options <;> rfl

/-- In a stack with the options of the request at the top, a header field is the one of the request,
or else of the last of the defaults that have it. -/
theorem lookup_fields_of_stacked (own : ∀ layer ∈ layers, Options.Layer layer)
    (stacked : Options.Stacked (layers ++ [call.options]) options) {name : Value}
    (hashable : name.isHashable = true) :
    Value.lookup name (Options.fields options)
      = (call.requestFields :: (layers.map Options.fields).reverse).findSome?
          (Value.lookup name) := by
  have keyed : ∀ fields ∈ layers.map Options.fields ++ [call.requestFields],
      Value.Keyed fields := by
    intro fields present
    rcases List.mem_append.mp present with lower | request
    · obtain ⟨layer, among, rfl⟩ := List.mem_map.mp lower
      exact (own layer among).keyed_fields
    · rw [List.mem_singleton.mp request, ← call.fields_options]
      exact call.layer_options.keyed_fields
  rw [stacked.fields, List.map_append, List.map_singleton, call.fields_options,
    Options.lookup_foldl_overlay keyed Value.Keyed.nil.hashable hashable, List.reverse_append,
    List.reverse_singleton, List.singleton_append]
  exact Option.or_none

/-- What a stack of defaults with the options of the request over it comes to. -/
theorem actsOn_of_stacked (own : ∀ layer ∈ layers, Options.Layer layer)
    (stacked : Options.Stacked (layers ++ [call.options]) options) :
    call.ActsOn layers options := by
  have laid := Value.hashable_overlay call.own.keyed.hashable call.passed.keyed.hashable
  -- What the route itself writes is in the uppermost layer, whatever the layers below say.
  have written : ∀ {name : String} {value : Value}, Value.text name ≠ .text "headers" →
      Value.lookupText name call.options = some value →
        Value.lookupText name options = some value := by
    intro name value other own
    refine (call.lookup_of_stacked stacked rfl other).trans ?_
    have found : Value.lookup (.text name) call.options = some value := own
    rw [found]
    rfl
  obtain ⟨uri, method, body⟩ :=
    @Route.lookup_completed_reserved call.route call.address call.body _ laid
  refine ⟨?_, written (by simp) uri, written (by simp) method,
    fun carries => written (by simp) (body carries), ?_, ?_,
    fun _ => call.lookup_fields_of_stacked own stacked⟩
  · intro key hashable other apart
    have request : Value.lookup key call.options
        = (Value.lookup key call.upper).or (Value.lookup key call.lower) :=
      (Route.lookup_completed_of_ne laid hashable apart).trans
        (Value.lookup_overlay call.own.keyed.hashable call.passed.keyed hashable)
    rw [call.lookup_of_stacked stacked hashable other, request, List.findSome?_cons,
      List.findSome?_cons]
    cases Value.lookup key call.upper with
    | some value => rfl
    | none => cases Value.lookup key call.lower <;> rfl
  · rw [stacked.headers, List.any_append, List.any_cons, List.any_nil, call.headers?_options,
      Bool.or_false, Option.isSome_or, Bool.or_assoc]
  · rw [stacked.fields, List.map_append, List.map_singleton, call.fields_options]

end Stacks

/-- **A call acts on options that can be read off its layers.** -/
theorem exists_actsOn (call : WebCall sender session) (sound : session.store.Sound)
    {layers : List Entries} (own : ∀ layer ∈ layers, Options.Layer layer)
    (stacked : Options.Stacked layers sender.defaults) :
    ∃ options store lines, call.ActsOn layers options ∧
      (call.route.call call.arguments).run session
        = (sender.act options >>= WebTransport.reportAnswer (call.route.callbackFor
            (call.arguments.callback.bind Callback.ofHandle))).run
          (Session.noting { session with store := store } lines) := by
  obtain ⟨options, merging, further⟩ := stacked.exists_merge call.layer_options
  have building := Route.run_buildRequest call.route sound call.within
  rw [call.handedOver_eq] at building
  obtain ⟨handles, before, address, finished, run⟩ := building
  let lines : List Notice := [.debug (call.route.method.name ++ " " ++ address)]
  let prepared : Session :=
    Session.noting { session with store := (before.make (.mapping handles)).2 } lines
  have reads : prepared.store.read (before.make (.mapping handles)).1 = .mapping call.options := by
    rw [← finished.reads]
    exact Store.read_make finished.sound finished.within
  have noted : (Action.debug (call.route.method.name ++ " " ++ address)).run
      { session with store := (before.make (.mapping handles)).2 } = (.ok ⟨⟩, prepared) := rfl
  have answering : (call.route.answer sender call.arguments).run session
      = (sender.act options).run prepared := by
    unfold Route.answer
    rw [run_bind_ok run]
    dsimp only
    rw [run_bind_ok noted, run_bind_ok (run_get _), reads, Options.requireMapping_mapping,
      run_bind_ok (run_ofExcept _ _), WebTransport.answer_eq, merging,
      run_bind_ok (run_ofExcept _ _)]
  refine ⟨options, (before.make (.mapping handles)).2, lines, call.actsOn_of_stacked own further, ?_⟩
  rw [Route.call_eq call.carried, run_bind, run_bind, answering]

end WebCall

/-! ## The layers under a client -/

namespace Client

variable {config : ClientConfig} {sender : WebTransport} {session created : Session}

omit [Runtime] in
theorem yields_resolveTransport_layers (config : ClientConfig) (sender : WebTransport) :
    Yields (fun active => ∃ other, active = .web other ∧
      config.requestDefaults.toList.foldlM WebTransport.withDefaults sender = .ok other)
      (resolveTransport config (.web sender)) := by
  unfold resolveTransport
  cases config.requestDefaults with
  | none => exact Yields.pure ⟨sender, rfl, rfl⟩
  | some options =>
      intro session active after run
      obtain ⟨other, following, resolved, last⟩ := exists_of_run_bind run
      rw [run_ofExcept] at resolved
      cases last
      refine ⟨other, rfl, ?_⟩
      rw [Option.toList_some, List.foldlM_cons, (Prod.mk.inj resolved).1]
      rfl

/-- **The default options of a configuration are the uppermost layer under the routes of its
client.** -/
theorem exists_layers_of_create {client : Client}
    (creation : (create config (.web sender)).run session = (.ok client, created)) :
    ∃ other, config.requestDefaults.toList.foldlM WebTransport.withDefaults sender = .ok other ∧
      ∀ entry ∈ client.routes, entry.2.transport = .web other := by
  obtain ⟨active, ⟨other, rfl, chained⟩, compiled⟩ :=
    yields_create (yields_resolveTransport_layers config sender) session client created creation
  exact ⟨other, chained, fun entry present => (compiled entry present).transport⟩

end Client

/-! ## The law of layers -/

/-- **A call acts on its extra options, the options of the route, and the layers of defaults, one
laid over the other; and merging two layers first makes no difference.** -/
theorem WebTransport.acts_on_layers :
    (∀ first second third, Options.WellFormed first → Options.WellFormed second →
      Options.WellFormed third →
        (Options.merge first second).bind (Options.merge · third)
          = (Options.merge second third).bind (Options.merge first ·)) ∧
    (∀ layer, Options.WellFormed layer →
      Options.merge [] layer = .ok layer ∧ Options.merge layer [] = .ok layer) ∧
    (∀ (sender : WebTransport) first second, Options.WellFormed sender.defaults →
      Options.WellFormed first → Options.WellFormed second →
        (sender.withDefaults first).bind (·.withDefaults second)
          = (Options.merge first second).bind sender.withDefaults) ∧
    ∀ (base : Entries) (layers : List Entries) (dryRun : Bool),
      (∀ layer ∈ base :: layers, Options.Layer layer) →
      ∃ sender, layers.foldlM WebTransport.withDefaults ⟨base, dryRun⟩ = .ok sender ∧
        (∀ config session client created,
          (Client.create config (.web sender)).run session = (.ok client, created) →
          ∃ other, (layers ++ config.requestDefaults.toList).foldlM WebTransport.withDefaults
              ⟨base, dryRun⟩ = .ok other ∧
            ∀ entry ∈ client.routes, entry.2.transport = .web other) ∧
        ∀ (session : Session) (call : WebCall sender session), session.store.Sound →
          ∃ options store lines, call.ActsOn (base :: layers) options ∧
            (call.route.call call.arguments).run session
              = (sender.act options >>= WebTransport.reportAnswer (call.route.callbackFor
                  (call.arguments.callback.bind Callback.ofHandle))).run
                (Session.noting { session with store := store } lines) := by
  refine ⟨fun _ _ _ => Options.merge_assoc, fun layer own => ?_,
    fun sender _ _ => withDefaults_withDefaults sender, fun base layers dryRun own => ?_⟩
  · exact ⟨Options.merge_nil_left own, Options.merge_nil_right own⟩
  · have single : Options.Stacked [base] (WebTransport.mk base dryRun).defaults :=
      Options.Stacked.single (own base List.mem_cons_self)
    obtain ⟨sender, chained, stacked⟩ := exists_foldlM_withDefaults single
      fun layer present => own layer (List.mem_cons_of_mem _ present)
    refine ⟨sender, chained, fun config session client created creation => ?_,
      fun session call sound => call.exists_actsOn sound own stacked⟩
    obtain ⟨other, further, carried⟩ := Client.exists_layers_of_create creation
    refine ⟨other, ?_, carried⟩
    rw [List.foldlM_append, chained]
    exact further

end Runtimes

attribute [local instance] Runtime.usual

/-! ## Two layers of defaults -/

/-- Defaults with header fields and a timeout. -/
def tracedDefaults : Entries :=
  [(.text "headers", .mapping [(.text "Accept", .text "text"), (.text "Trace", .text "0")]),
   (.text "timeout", .int 5)]

/-- Defaults with a header field, laid over them. -/
def acceptDefaults : Entries := [(.text "headers", .mapping [(.text "Accept", .text "json")])]

/-- Options of a route with a header field. -/
def tracedOptions : Entries :=
  [(.text "headers", .mapping [(.text "Trace", .text "1")]), (.text "json", .truth true)]

/-- Extra options without header fields. -/
def plainOptions : Entries := [(.text "json", .truth false)]

/-- A session with the options of the route and the extra options. -/
def layeredSession : Session :=
  { Session.empty with
    store := ⟨#[.mapping [(.text "Trace", .atom (.text "1"))],
      .mapping [(.text "headers", .object 0), (.text "json", .atom (.truth true))],
      .mapping [(.text "json", .atom (.truth false))]]⟩ }

theorem sound_layeredSession : layeredSession.store.Sound := by
  intro index content held handle present
  match index with
  | 0 =>
      cases held
      rw [List.mem_singleton.mp present]
      trivial
  | 1 =>
      cases held
      rcases List.mem_cons.mp present with rfl | present
      · exact ⟨Nat.le_refl _, Nat.zero_lt_one⟩
      · rw [List.mem_singleton.mp present]
        trivial
  | 2 =>
      cases held
      rw [List.mem_singleton.mp present]
      trivial
  | _ + 3 => cases held

/-- A call over two layers of defaults. -/
def layeredCall (sender : WebTransport) : WebCall sender layeredSession where
  route :=
    { root := "http://h", pattern := Template.parse "/items", method := .get
      transport := .web sender, options := .object 1, parseJson := false, encodeValues := false
      name := "items" }
  arguments := { CallArguments.none with options := some (.object 2) }
  extra := [(.text "json", .atom (.truth false))]
  address := "http://h/items"
  carried := rfl
  within := ⟨nofun, nofun, by
    rintro handle ⟨⟩
    exact ⟨Nat.zero_le _, by decide⟩⟩
  accepted := nofun
  copyable := by
    have copyable : (layeredSession.store.read (.object 1)).Copyable := by decide +kernel
    exact copyable
  given := rfl
  addressed := by
    have built : ((Uri.build "http://h" (Template.parse "/items") false .null).map
        Uri.Resolution.uri).toOption = some "http://h/items" := by
      decide +kernel
    exact eq_ok_of_toOption built
  own := by
    have own : Options.Layer tracedOptions := by decide +kernel
    exact own
  passed := by
    have own : Options.Layer plainOptions := by decide +kernel
    exact own

/-- A call acts on its options over those of the route over the defaults, header fields apart. -/
theorem WebTransport.acts_on_layers_traced :
    ∃ sender options,
      [acceptDefaults].foldlM WebTransport.withDefaults ⟨tracedDefaults, false⟩ = .ok sender ∧
      (layeredCall sender).ActsOn [tracedDefaults, acceptDefaults] options ∧
      Value.lookupText "json" options = some (.truth false) ∧
      Value.lookupText "timeout" options = some (.int 5) ∧
      Value.lookupText "Accept" (Options.fields options) = some (.text "json") ∧
      Value.lookupText "Trace" (Options.fields options) = some (.text "1") := by
  have own : ∀ layer ∈ [tracedDefaults, acceptDefaults], Options.Layer layer := by
    decide +kernel
  obtain ⟨sender, chained, -, acts⟩ :=
    WebTransport.acts_on_layers.2.2.2 tracedDefaults [acceptDefaults] false own
  obtain ⟨options, store, notices, actsOn, -⟩ :=
    acts layeredSession (layeredCall sender) sound_layeredSession
  have upper : (layeredCall sender).upper = plainOptions := rfl
  have lower : (layeredCall sender).lower = tracedOptions := rfl
  have reserved : (layeredCall sender).route.reserved = ["uri", "method"] := rfl
  have value := actsOn.value
  have field := actsOn.field
  rw [WebCall.requestFields] at field
  rw [upper, lower] at value field
  rw [reserved] at value
  refine ⟨sender, options, chained, actsOn, ?_, ?_, ?_, ?_⟩
  · refine (value (.text "json") rfl (by simp) (by simp)).trans ?_
    simp [plainOptions, Value.lookup, Value.same]
  · refine (value (.text "timeout") rfl (by simp) (by simp)).trans ?_
    simp [plainOptions, tracedOptions, acceptDefaults, tracedDefaults, Value.lookup, Value.same]
  · refine (field (.text "Accept") rfl).trans ?_
    simp [plainOptions, tracedOptions, acceptDefaults, Options.headers?, Options.fields,
      Options.fieldsOf, Value.lookupText, Value.lookup, Value.same,
      Options.requireMapping_mapping, Except.toOption]
  · refine (field (.text "Trace") rfl).trans ?_
    simp [plainOptions, tracedOptions, acceptDefaults, Options.headers?, Options.fields,
      Options.fieldsOf, Value.lookupText, Value.lookup, Value.same,
      Options.requireMapping_mapping, Except.toOption]

end Routebook

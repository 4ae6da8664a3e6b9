import Routebook.Proofs.Client.Declared
import Routebook.Proofs.Http.Overwriting
import Routebook.Proofs.Options.Layering
import Routebook.Proofs.Transport.Rehearsal
import Routebook.Proofs.Uri.QueryText

/-!
# The query option

The query option of a request is merged into the address that was built for it: the query of the
address is read, the entries of the option are written over it, and all of it is written again in
another coding.  Where the values are encoded and the root and the path have no marks, reading
undoes what building wrote, so no query argument of the call is lost or changed but for those that
the option names itself (`Client.merged_query_of_sent`).
-/

namespace Routebook

set_option autoImplicit false

open Routebook.Action

section Runtimes

variable [Runtime]

/-! ## The option in force -/

namespace Value

/-- A mapping from texts to texts. -/
def texts (entries : List (String × String)) : Entries :=
  entries.map fun entry => (.text entry.1, .text entry.2)

omit [Runtime] in
/-- In mappings laid over one another a text leads where it leads in the upper one, if it is there.
-/
theorem lookup_text_overlay (name : String) {base override : Entries} (upper : Keyed override) :
    lookup (.text name) (overlay base override)
      = (lookup (.text name) override).or (lookup (.text name) base) := by
  induction override generalizing base with
  | nil => rfl
  | cons entry rest inductionHypothesis =>
      rw [overlay_cons, inductionHypothesis upper.tail, lookup_text_insert, lookup]
      split
      · rename_i same
        have alone : lookup (.text name) rest = none := by
          rw [lookup_eq_none_iff]
          intro other present
          rw [← Store.same_text.mp same]
          exact upper.apart other present
        rw [alone]
        rfl
      · rfl

end Value

omit [Runtime] in
/-- An option of the upper layer is in force, the header fields apart. -/
theorem Options.get_of_merge {base override options : Entries} {name : String} {value : Value}
    (other : name ≠ "headers") (merging : merge base override = .ok options)
    (upper : Value.Keyed override) (given : Value.lookupText name override = some value) :
    get options name = value := by
  have laid : Value.lookup (.text name) (Value.overlay base override) = some value := by
    have found : Value.lookup (.text name) override = some value := given
    rw [Value.lookup_text_overlay name upper, found]
    rfl
  have apart : ¬Value.same (.text name) (.text "headers") = true := fun same =>
    other (Value.text.inj (Store.same_text.mp same)).symm
  obtain ⟨headers, -, merged⟩ := Outcome.exists_of_bind merging
  rw [get, Value.lookupText]
  cases headers with
  | none =>
      cases merged
      rw [laid]
      rfl
  | some fields =>
      cases merged
      rw [Value.insertText, Value.lookup_text_insert, if_neg apart, laid]
      rfl

namespace Route

/-- The options that a call of a route over the web acts on: what the call hands over, laid over the
defaults of the transport. -/
structure InForce (route : Route) (active : WebTransport) (given : CallArguments) (store : Store)
    (options : Entries) : Prop where
  carried : route.transport = .web active
  layered : ∃ requested, route.handedOver given store = .ok requested ∧ Value.Keyed requested ∧
    Options.merge active.defaults requested = .ok options

/-- What is handed over has the address that was built. -/
theorem exists_of_handedOver {route : Route} {given : CallArguments} {store : Store}
    {requested : Entries} (handed : route.handedOver given store = .ok requested) :
    ∃ resolution, Uri.build route.root route.pattern route.encodeValues
        (store.readArgument given.pathArguments) = .ok resolution ∧
      Value.lookupText "uri" requested = some (.text resolution.uri) := by
  unfold handedOver at handed
  split at handed
  · cases handed
  · obtain ⟨_, -, copied⟩ := Outcome.exists_of_bind handed
    obtain ⟨extra, -, rest⟩ := Outcome.exists_of_bind copied
    obtain ⟨address, addressed, last⟩ := Outcome.exists_of_bind rest
    obtain ⟨resolution, built, rfl⟩ := Outcome.exists_of_map addressed
    cases last
    refine ⟨resolution, built, ?_⟩
    have uri := (route.get_completed resolution.uri (store.readArgument given.body)
      (Value.overlay (route.currentOptions store) (store.readEntries extra))).1
    rw [Options.get] at uri
    cases found : Value.lookupText "uri" (route.completed resolution.uri
        (store.readArgument given.body)
        (Value.overlay (route.currentOptions store) (store.readEntries extra))) with
    | none =>
        rw [found] at uri
        cases uri
    | some value =>
        rw [found] at uri
        exact congrArg some uri

/-- A call over the web hands its options to the transport, and nothing is sent before. -/
theorem exists_run_call {route : Route} {active : WebTransport} {given : CallArguments}
    {session : Session} {requested : Entries} (carried : route.transport = .web active)
    (sound : session.store.Sound) (within : given.Within session.store.size)
    (handed : route.handedOver given session.store = .ok requested) :
    ∃ callback store lines, (route.call given).run session
      = (active.call requested callback).run
          (Session.noting { session with store := store } lines) := by
  obtain ⟨handle, address, store, building, reads⟩ :=
    exists_run_buildRequest sound within handed
  refine ⟨route.callbackFor (given.callback.bind Callback.ofHandle), store,
    [.debug (route.method.name ++ " " ++ address)], ?_⟩
  unfold call
  rw [run_bind_ok building]
  dsimp only
  have read : (Session.noting { session with store := store }
      [.debug (route.method.name ++ " " ++ address)]).store.read handle = .mapping requested := reads
  rw [Action.debug, run_bind_ok (run_note _ _), carried, Transport.call, run_bind_ok (run_get _), read,
    Options.requireMapping_mapping, run_bind_ok (run_ofExcept _ _)]

end Route

/-! ## Merging the option -/

namespace WebTransport

theorem eq_ok_of_urlFailure {α : Type} {result : Except Http.UrlFault α} {value : α}
    (read : Http.urlFailure result = .ok value) : result = .ok value := by
  cases result with
  | error fault => cases read
  | ok other => exact congrArg Except.ok (Except.ok.inj read)

/-- An address that can be read is parsed. -/
theorem parse_of_readUrl {address : String} {url : Http.Url}
    (reading : readUrl (.text address) = .ok url) : Http.Url.parse address = .ok url := by
  obtain ⟨parsed, parsing, rest⟩ := Outcome.exists_of_bind reading
  obtain ⟨_, -, last⟩ := Outcome.exists_of_bind rest
  cases last
  exact eq_ok_of_urlFailure parsing

/-- Entries of texts are query entries with single values. -/
theorem queryParameters_texts {override : List (String × String)}
    (separate : (override.map Prod.fst).Nodup) :
    queryParameters (Value.texts override) = override.map Http.single := by
  have folded : queryParameters (Value.texts override)
      = (override.map Http.single).foldl Http.writeValues [] := by
    rw [queryParameters, Value.texts, List.foldl_map, List.foldl_map]
    rfl
  have start : ([] : List (String × List String)) = List.map Http.single [] := rfl
  rw [folded, start, Http.foldl_writeValues separate, Http.overwrite_nil_left]

/-- The address of an order is the one that was built, with the query option merged into it. -/
theorem mergeQuery_of_orderOf {options : Entries} {order : Order} {address : String}
    (uri : Options.get options "uri" = .text address) (nonempty : address ≠ "")
    (ordering : orderOf options = .ok order) :
    mergeQuery (.text address) (Options.get options "qs") = .ok order.url := by
  have truthy : (Value.text address).isTruthy = true := by
    rw [Value.isTruthy, Bool.not_eq_true', ← Bool.not_eq_true, String.isEmpty_iff]
    exact nonempty
  unfold orderOf at ordering
  rw [uri, Options.firstTruthy, if_pos truthy] at ordering
  dsimp only at ordering
  rw [truthy] at ordering
  obtain ⟨method, -, named⟩ := Outcome.exists_of_bind ordering
  obtain ⟨headers, -, rest⟩ := Outcome.exists_of_bind named
  obtain ⟨merged, merging, last⟩ := Outcome.exists_of_bind rest
  cases last
  exact merging

/-- A query option that maps texts to texts is written over the query of the address. -/
theorem exists_of_mergeQuery {address : String} {override : List (String × String)}
    {result : Value} (nonempty : override ≠ [])
    (merging : mergeQuery (.text address) (.mapping (Value.texts override)) = .ok result) :
    ∃ url merged, Http.Url.parse address = .ok url ∧
      url.mergeParameters (queryParameters (Value.texts override)) = .ok merged ∧
      result = .text merged.text := by
  have truthy : (Value.mapping (Value.texts override)).isTruthy = true := by
    cases override with
    | nil => exact absurd rfl nonempty
    | cons entry rest => rfl
  rw [mergeQuery, if_pos truthy] at merging
  obtain ⟨url, reading, rest⟩ := Outcome.exists_of_bind merging
  obtain ⟨entries, taken, further⟩ := Outcome.exists_of_bind rest
  obtain ⟨_, -, texts⟩ := Outcome.exists_of_bind further
  obtain ⟨_, -, last⟩ := Outcome.exists_of_bind texts
  obtain ⟨merged, writing, final⟩ := Outcome.exists_of_bind last
  cases taken
  cases final
  exact ⟨url, merged, parse_of_readUrl reading, eq_ok_of_urlFailure writing, rfl⟩

/-- **The query that is sent is that of the address with the query option written over it.** -/
theorem queryOf_of_sent {transport : WebTransport} {requested options : Entries}
    {callback : Option Callback} {session : Session} {first : SentRequest}
    {rest : List SentRequest} {address : String} {own override : List (String × String)}
    (merging : Options.merge transport.defaults requested = .ok options)
    (uri : Options.get options "uri" = .text address) (nonempty : address ≠ "")
    (entries : Http.decodeForm (Http.quoteKeeping (Http.isPlainSafe Http.queryUnsafe)
      (Http.queryOf address)) = own)
    (distinct : (own.map Prod.fst).Nodup)
    (asked : Options.get options "qs" = .mapping (Value.texts override))
    (separate : (override.map Prod.fst).Nodup) (given : override ≠ [])
    (sends : ((transport.call requested callback).run session).2.sent
      = session.sent ++ first :: rest) :
    Http.decodeForm (Http.queryOf first.url) = Http.overwrite own override := by
  obtain ⟨-, others, _, order, request, same, -, ordering, built, -, conveys⟩ :=
    exists_of_sent sends
  cases merging.symm.trans same
  have query := mergeQuery_of_orderOf uri nonempty ordering
  rw [asked] at query
  obtain ⟨url, merged, reading, writing, result⟩ := exists_of_mergeQuery given query
  rw [queryParameters_texts separate] at writing
  have written := Http.queryOf_merged reading entries distinct separate writing
  obtain ⟨final, opening, further⟩ := Outcome.exists_of_bind built
  obtain ⟨resolved, resolving, making⟩ := Outcome.exists_of_bind further
  obtain ⟨headers, -, made⟩ := Outcome.exists_of_bind making
  cases resolving
  rw [result] at opening
  have address : first.url = final.text := conveys.url.trans (congrArg Http.Url.text (of_make made).1)
  rw [address, Http.queryOf_text_of_parse (parse_of_readUrl opening), written,
    Http.encodeForm_eq, Http.quoteKeeping_written Http.coding_formCharacter,
    Http.decodeForm_written Http.coding_formCharacter]

end WebTransport

/-! ## Calls of a client -/

/-- A text that is an absolute address over the web without a query and a fragment. -/
structure Http.WebRoot (root : String) : Prop where
  absolute : ∃ scheme rest, root.toList = scheme ++ "://".toList ++ rest ∧
    (scheme.map Char.toLower = "http".toList ∨ scheme.map Char.toLower = "https".toList)
  unmarked : '?' ∉ root.toList ∧ '#' ∉ root.toList

namespace Http.WebRoot

variable {root : String} (web : WebRoot root)

include web

omit [Runtime] in
theorem exists_cons : ∃ first rest, root.toList = first :: rest ∧ first ≠ '$' := by
  obtain ⟨scheme, rest, whole, http⟩ := web.absolute
  have lower : ∃ other, scheme.map Char.toLower = 'h' :: other := by
    rcases http with same | same
    · exact ⟨_, same⟩
    · exact ⟨_, same⟩
  obtain ⟨other, start⟩ := lower
  cases scheme with
  | nil => cases start
  | cons first more =>
      refine ⟨first, _, whole, ?_⟩
      rintro rfl
      exact absurd (List.cons.inj start).1 (by decide)

omit [Runtime] in
theorem not_mem : ∀ mark ∈ Text.partMarks, mark ∉ root.toList :=
  fun _ own => Text.not_mem_of_marks own web.unmarked.1 web.unmarked.2

/-- No address that is built on it is empty. -/
theorem uri_ne_empty (pattern : Pattern) (encode : Bool) (arguments : List (String × Value)) :
    (Uri.reportOf root pattern encode arguments).uri ≠ "" := by
  obtain ⟨first, rest, whole, plain⟩ := web.exists_cons
  obtain ⟨more, begins⟩ := @Uri.exists_cons_pathPart _ root pattern first rest whole plain encode
    (pattern.playing .path arguments)
  intro empty
  have nothing := congrArg String.toList empty
  rw [Uri.reportOf, Uri.assemble, String.toList_ofList, begins] at nothing
  cases nothing

end Http.WebRoot

namespace Client

/-- The pattern of a route of a client is parsed from a template. -/
theorem yields_patterns (config : ClientConfig) (transport : Transport) :
    Yields (fun client => ∀ entry ∈ client.routes, ∃ template,
      entry.2.pattern = Template.parse template) (create config transport) := by
  refine Yields.bind (Yields.trivial _) fun active _ => ?_
  refine Yields.bind (Yields.foldlM (by simp) fun routes definition parsed => ?_)
    fun routes parsed => Yields.pure parsed
  intro session compiled after run
  by_cases copyable : definition.Copyable
  · rw [run_compileRoute_of_copyable copyable] at run
    cases run
    intro entry present
    rcases mem_bind present with rfl | old
    · exact ⟨definition.template, rfl⟩
    · exact parsed entry old
  · rw [run_compileRoute_of_not_copyable copyable] at run
    cases run

/-- The root and the pattern of a route of a client that encodes values. -/
theorem exists_of_create {config : ClientConfig} {transport : Transport} {client : Client}
    {session created : Session}
    (creation : (create config transport).run session = (.ok client, created)) {name : String}
    {route : Route} (found : client.route? name = some route) :
    route.root = config.root ∧ route.encodeValues = config.encodeValues ∧
      ∃ template, route.pattern = Template.parse template := by
  obtain ⟨active, -, compiled⟩ :=
    yields_create (Yields.trivial (resolveTransport config transport)) session client created creation
  obtain ⟨entry, present, rfl⟩ := exists_mem_of_find? found
  exact ⟨(compiled entry present).root, (compiled entry present).encodeValues,
    yields_patterns config transport session client created creation entry present⟩

/-- **Merging the query option loses no query argument.**  What is sent first has the query
arguments of the call in their order, each with the value that the option names for it, and
otherwise with its own text; the other entries of the option follow in their order. -/
theorem merged_query_of_sent {config : ClientConfig} {sender : WebTransport} {client : Client}
    {session created : Session}
    (creation : (create config (.web sender)).run session = (.ok client, created))
    {name : String} {route : Route} (found : client.route? name = some route)
    (encoded : config.encodeValues = true) (root : Http.WebRoot config.root)
    (path : '#' ∉ route.pattern.literalPath.toList)
    (names : ∀ name ∈ route.pattern.queryNames, ∀ character ∈ name.toList,
      Uri.isUnreserved character = true)
    {before : Session} (sound : before.store.Sound) {given : CallArguments}
    (within : given.Within before.store.size) {arguments options : Entries}
    (argued : Uri.argumentEntries (before.store.readArgument given.pathArguments) = .ok arguments)
    (keyed : Value.Keyed arguments) {active : WebTransport}
    (inForce : route.InForce active given before.store options)
    {override : List (String × String)}
    (asked : Options.get options "qs" = .mapping (Value.texts override))
    (separate : (override.map Prod.fst).Nodup) (nonempty : override ≠ [])
    {first : SentRequest} {rest : List SentRequest}
    (sends : ((route.call given).run before).2.sent = before.sent ++ first :: rest) :
    let declared := route.pattern.playing .query (Uri.named arguments)
    (∀ argument ∈ declared, Uri.stringify argument.2 = .ok (Uri.stringified argument.2)) ∧
    Http.decodeForm (Http.queryOf first.url)
      = (declared.map fun argument =>
          (argument.1, (override.lookup argument.1).getD (Uri.stringified argument.2)))
        ++ override.filter fun entry => !(declared.map Prod.fst).contains entry.1 := by
  intro declared
  obtain ⟨base, encodes, template, parsed⟩ := exists_of_create creation found
  obtain ⟨carried, requested, handed, own, merging⟩ := inForce
  obtain ⟨resolution, built, uri⟩ := Route.exists_of_handedOver handed
  rw [base, encodes, encoded] at built
  have address := Uri.uri_of_build argued built
  have renderable := Uri.renderable_of_build argued built
  have full : resolution.uri ≠ "" := address ▸ root.uri_ne_empty _ _ _
  -- The query of the address that was built is the text of a form with the query arguments.
  have marks : ∀ mark ∈ Text.partMarks, mark ∉ route.pattern.literalPath.toList := by
    refine fun mark own => Text.not_mem_of_marks own ?_ path
    rw [parsed]
    exact Uri.not_mem_literalPath template
  have query := Uri.queryOf_reportOf root.not_mem marks names renderable
  have entries : Http.decodeForm (Http.quoteKeeping (Http.isPlainSafe Http.queryUnsafe)
      (Http.queryOf resolution.uri)) = Uri.asked route.pattern (Uri.named arguments) := by
    rw [address, query, Http.quoteKeeping_written Http.coding_percentCharacter,
      Http.decodeForm_written Http.coding_percentCharacter]
  -- That address is in force, so what is sent is the address with the option written over it.
  have force := Options.get_of_merge (by decide) merging own uri
  obtain ⟨callback, store, lines, run⟩ := Route.exists_run_call carried sound within handed
  rw [run] at sends
  have sent := WebTransport.queryOf_of_sent merging force full entries (Uri.nodup_asked keyed _)
    asked separate nonempty sends
  refine ⟨fun argument plays => (renderable argument plays).stringify, ?_⟩
  rw [sent, Http.overwrite, Uri.keys_asked, Uri.asked, List.map_map]
  rfl

end Client

end Runtimes

/-! ## A query option for all requests -/

namespace Client

attribute [local instance] Runtime.usual

/-- A configuration with a query option for all requests. -/
def askingConfig : ClientConfig where
  root := "http://h"
  parseJson := false
  encodeValues := true
  requestDefaults := some [(.text "qs", .mapping (Value.texts [("q", "2 3"), ("z", "é&=")]))]
  declarations := ⟨[], [("page", .template "/page?q|r")], [], [], [], []⟩

/-- The transport of its client. -/
def askingSender : WebTransport where
  defaults := [(.text "qs", .mapping (Value.texts [("q", "2 3"), ("z", "é&=")]))]
  dryRun := false

/-- The route of its client. -/
def askingRoute : Route where
  root := "http://h"
  pattern := Template.parse "/page?q|r"
  method := .get
  transport := .web askingSender
  options := .object 1
  parseJson := false
  encodeValues := true
  name := "page"

/-- The run that makes the client, in a session with the arguments of a call. -/
def askingCreation : Except Failure Client × Session :=
  (create askingConfig (.web ⟨[], false⟩)).run
    { Session.empty with
      store := ⟨#[.mapping [(.text "r", .atom (.text "a&b")), (.text "q", .atom (.int 1))]]⟩
      replies := [.response ⟨200, [], []⟩] }

/-- A call with these arguments. -/
def askingArguments : CallArguments := { CallArguments.none with pathArguments := some (.object 0) }

theorem sound_askingCreation : askingCreation.2.store.Sound := by
  intro index content held
  match index with
  | 0 | 1 =>
      cases held
      decide +kernel
  | _ + 2 => cases held

/-- The options that the call acts on. -/
def askingOptions : Entries :=
  [(.text "qs", .mapping (Value.texts [("q", "2 3"), ("z", "é&=")])),
   (.text "uri", .text "http://h/page?r=a%26b&q=1"), (.text "method", .text "GET")]

theorem inForce_asking :
    askingRoute.InForce askingSender askingArguments askingCreation.2.store askingOptions := by
  have addressed : askingRoute.addressOf askingArguments askingCreation.2.store
      = .ok "http://h/page?r=a%26b&q=1" := by
    have built : (askingRoute.addressOf askingArguments askingCreation.2.store).toOption
        = some "http://h/page?r=a%26b&q=1" := by
      decide +kernel
    exact eq_ok_of_toOption built
  have copyable : (askingCreation.2.store.read askingRoute.options).Copyable := by decide +kernel
  have handed := @Route.handedOver_of_ok _ askingRoute askingArguments askingCreation.2.store [] _ rfl
    copyable rfl addressed
  refine ⟨rfl, _, handed, ?_, ?_⟩
  · decide +kernel
  · with_unfolding_all rfl

/-- A name that both sides have gets the value of the option, in the place of the argument. -/
theorem merged_query_of_sent_asking :
    ∃ first,
      ((askingRoute.call askingArguments).run askingCreation.2).2.sent = [first] ∧
      first.url = "http://h/page?r=a%26b&q=2+3&z=%C3%A9%26%3D" ∧
      Http.decodeForm (Http.queryOf first.url)
        = [("r", "a&b"), ("q", "2 3"), ("z", "é&=")] := by
  have creation : askingCreation = (.ok ⟨[("page", askingRoute)]⟩, askingCreation.2) := rfl
  have found : (Client.mk [("page", askingRoute)]).route? "page" = some askingRoute := rfl
  have root : Http.WebRoot askingConfig.root :=
    ⟨⟨"http".toList, "h".toList, rfl, .inl rfl⟩, by decide⟩
  have path : '#' ∉ askingRoute.pattern.literalPath.toList := by decide +kernel
  have unreserved : askingRoute.pattern.queryNames.all (·.toList.all Uri.isUnreserved) = true := by
    decide +kernel
  have names : ∀ name ∈ askingRoute.pattern.queryNames, ∀ character ∈ name.toList,
      Uri.isUnreserved character = true :=
    fun name declared => List.all_eq_true.mp (List.all_eq_true.mp unreserved name declared)
  have within : askingArguments.Within askingCreation.2.store.size :=
    ⟨by rintro handle ⟨⟩; decide +kernel, nofun, nofun⟩
  have argued : Uri.argumentEntries
      (askingCreation.2.store.readArgument askingArguments.pathArguments)
        = .ok [(.text "r", .text "a&b"), (.text "q", .int 1)] := rfl
  have keyed : Value.Keyed [(.text "r", .text "a&b"), (.text "q", .int 1)] := by decide +kernel
  have asked : Options.get askingOptions "qs"
      = .mapping (Value.texts [("q", "2 3"), ("z", "é&=")]) := by with_unfolding_all rfl
  have urls : ((askingRoute.call askingArguments).run askingCreation.2).2.sent.map
      SentRequest.url = ["http://h/page?r=a%26b&q=2+3&z=%C3%A9%26%3D"] := by
    decide +kernel
  obtain ⟨first, sent, url⟩ := List.map_eq_singleton_iff.mp urls
  obtain ⟨-, query⟩ := merged_query_of_sent creation found rfl root path names sound_askingCreation
    within argued keyed inForce_asking asked (by decide) (by decide)
    (show _ = askingCreation.2.sent ++ first :: [] from sent)
  have entries : (askingRoute.pattern.playing .query
        (Uri.named [(.text "r", .text "a&b"), (.text "q", .int 1)])).map (fun argument =>
          (argument.1, ([("q", "2 3"), ("z", "é&=")].lookup argument.1).getD
            (Uri.stringified argument.2)))
      ++ [("q", "2 3"), ("z", "é&=")].filter (fun entry => !((askingRoute.pattern.playing .query
        (Uri.named [(.text "r", .text "a&b"), (.text "q", .int 1)])).map Prod.fst).contains entry.1)
      = [("r", "a&b"), ("q", "2 3"), ("z", "é&=")] := by
    decide +kernel
  exact ⟨first, sent, url, query.trans entries⟩

end Client

end Routebook

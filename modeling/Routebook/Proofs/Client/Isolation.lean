import Routebook.Proofs.Client.Sequence

/-!
# Isolation of calls

A call is isolated from earlier ones when it hands over what it hands over as the first call.  Over
a transport that edits its options this is so exactly when the edits to header fields that earlier
calls passed leave what the call hands over as it was (`Client.isolated_iff`): always, if no earlier
call passes header fields, and not if the call passes header fields that got a new field.
-/

namespace Routebook

set_option autoImplicit false

open Routebook.Action

namespace Client

section Runtimes

variable [Runtime]

/-! ## What calls leak -/

/-- A call hands over after earlier calls what it hands over as the first one. -/
def Isolated (client : Client) (earlier : List Invocation) (invocation : Invocation)
    (session : Session) : Prop :=
  client.handsOver invocation (client.invokeAll earlier session)
    = client.handsOver invocation session

/-- The options that a call hands over, given the objects of the callers, unless it fails. -/
def optionsOf? (client : Client) (store : Store) (invocation : Invocation) : Option Entries :=
  match invocation.resolve client with
  | .ok (route, arguments) => (route.handedOver arguments store).toOption
  | .error _ => none

/-- The header fields that a call passes in its extra options, unless it fails. -/
def headersOf? (client : Client) (store : Store) (invocation : Invocation) : Option Handle :=
  match invocation.resolve client with
  | .ok (route, arguments) =>
      match route.handedOver arguments store with
      | .ok _ => Route.passedHeaders arguments store
      | .error _ => none
  | .error _ => none

/-- A call passes header fields in extra options that are a mapping. -/
structure PassesHeaders (client : Client) (store : Store) (invocation : Invocation)
    (headers : Handle) : Prop where
  passed : client.headersOf? store invocation = some headers
  mapping : ∀ route arguments, invocation.resolve client = .ok (route, arguments) →
    ∃ options ∈ arguments.options, ∃ entries, store.content? options = some (.mapping entries)

theorem recordsOf_eq_iff (client : Client) (recorder : Recorder) (first second : Store)
    (invocation : Invocation) :
    client.recordsOf recorder first invocation = client.recordsOf recorder second invocation ↔
      client.optionsOf? first invocation = client.optionsOf? second invocation := by
  unfold recordsOf optionsOf? Route.recordsOf
  cases invocation.resolve client with
  | error failure => exact ⟨fun _ => rfl, fun _ => rfl⟩
  | ok called =>
      obtain ⟨route, arguments⟩ := called
      dsimp only
      cases route.handedOver arguments first <;> cases route.handedOver arguments second <;>
        simp [Except.toOption]

theorem stain_eq (client : Client) (store : Store) (invocation : Invocation) :
    client.stain store invocation =
      match client.headersOf? store invocation with
      | some headers => store.assign headers (.text "X-Call") (.text "1")
      | none => store := by
  unfold stain headersOf? Route.storeAfter Route.stained
  cases invocation.resolve client with
  | error failure => rfl
  | ok called =>
      obtain ⟨route, arguments⟩ := called
      dsimp only
      cases route.handedOver arguments store <;> rfl

/-- A call that passes no mapping as header fields leaves the objects of the callers as they are. -/
theorem stain_eq_self {client : Client} {store : Store} {invocation : Invocation}
    (none : ∀ headers ∈ client.headersOf? store invocation, ∀ entries,
      store.content? headers ≠ some (.mapping entries)) :
    client.stain store invocation = store := by
  rw [stain_eq]
  cases passed : client.headersOf? store invocation with
  | none => rfl
  | some headers => exact Store.assign_eq_self (none headers passed) _ _

theorem foldl_stain_eq_self {client : Client} {store : Store} {invocations : List Invocation}
    (none : ∀ invocation ∈ invocations, ∀ headers ∈ client.headersOf? store invocation,
      ∀ entries, store.content? headers ≠ some (.mapping entries)) :
    invocations.foldl client.stain store = store := by
  induction invocations with
  | nil => rfl
  | cons invocation rest inductionHypothesis =>
      rw [List.foldl_cons, stain_eq_self (none invocation List.mem_cons_self)]
      exact inductionHypothesis fun later present => none later (List.mem_cons_of_mem _ present)

/-- A store with the objects of another one, in some of which the field of the transport is written.
-/
def Stained (store stained : Store) : Prop :=
  ∀ index : Nat, stained.contents[index]? = store.contents[index]? ∨
    stained.contents[index]? = Store.written (.text "X-Call") (.text "1") store.contents[index]?

omit [Runtime] in
theorem Stained.refl (store : Store) : Stained store store := fun _ => .inl rfl

omit [Runtime] in
/-- Writing the field twice is writing it once. -/
theorem Stained.trans {store between stained : Store} (first : Stained store between)
    (later : Stained between stained) : Stained store stained := by
  intro index
  rcases first index with same | written
  · rw [← same]
    exact later index
  · have rest := later index
    rw [written, Store.written_written, or_self] at rest
    exact .inr rest

theorem stained_stain (client : Client) (store : Store) (invocation : Invocation) :
    Stained store (client.stain store invocation) := by
  intro index
  rw [stain_eq]
  cases client.headersOf? store invocation with
  | none => exact .inl rfl
  | some headers =>
      dsimp only
      rw [Store.getElem?_assign]
      cases headers with
      | atom value => exact .inl rfl
      | object changed =>
          dsimp only
          split
          · exact .inr rfl
          · exact .inl rfl

theorem stained_foldl_stain (client : Client) (store : Store) (invocations : List Invocation) :
    Stained store (invocations.foldl client.stain store) := by
  induction invocations generalizing store with
  | nil => exact Stained.refl store
  | cons invocation rest inductionHypothesis =>
      exact (stained_stain client store invocation).trans (inductionHypothesis _)

section Passing

variable {store stained : Store} {arguments : CallArguments}

omit [Runtime] in
/-- A call passes the same header fields when they have got a field. -/
theorem Stained.passedHeaders (stains : Stained store stained) (sound : store.Sound)
    (stainedSound : stained.Sound) {options : Handle} (given : options ∈ arguments.options)
    {entries : List (Value × Handle)} (held : store.content? options = some (.mapping entries)) :
    Route.passedHeaders arguments stained = Route.passedHeaders arguments store := by
  cases options with
  | atom value => cases held
  | object index =>
      have other : ¬Value.same (.text "headers") (.text "X-Call") := by decide +kernel
      have mapping : store.contents[index]? = some (.mapping entries) := held
      rw [Route.passedHeaders_mapping sound given mapping]
      rcases stains index with same | written
      · rw [Route.passedHeaders_mapping stainedSound given (same.trans mapping)]
      · rw [mapping] at written
        rw [Route.passedHeaders_mapping stainedSound given written,
          Store.lookupEntry_reverse_insertEntry other]

omit [Runtime] in
/-- Header fields that read as before have got no field, for then it was there before. -/
theorem Stained.content?_of_read_eq (stains : Stained store stained) (sound : store.Sound)
    (stainedSound : stained.Sound) {headers : Handle}
    (reads : stained.read headers = store.read headers) :
    stained.content? headers = store.content? headers := by
  cases headers with
  | atom value => rfl
  | object index =>
      rcases stains index with same | written
      · exact same
      · refine Eq.trans written ?_
        change _ = store.contents[index]?
        cases held : store.contents[index]? with
        | none => rfl
        | some content =>
            cases content with
            | list items | tuple items => rfl
            | mapping entries =>
                rw [held] at written
                have stainedReads := Store.read_object stainedSound written
                rw [reads, Store.read_object sound held] at stainedReads
                have same := Value.mapping.inj stainedReads
                exact congrArg (some ∘ Content.mapping)
                  (Store.insertEntry_eq_of_readEntries_eq same.symm)

end Passing

theorem exists_of_headersOf? {client : Client} {store : Store} {invocation : Invocation}
    {headers : Handle} (passed : client.headersOf? store invocation = some headers) :
    ∃ route arguments options, invocation.resolve client = .ok (route, arguments) ∧
      route.handedOver arguments store = .ok options ∧
      Route.passedHeaders arguments store = some headers := by
  unfold headersOf? at passed
  split at passed
  · rename_i route arguments resolved
    split at passed
    · rename_i options handed
      exact ⟨route, arguments, options, resolved, handed, passed⟩
    · cases passed
  · cases passed

/-- A call that hands over the same passes header fields that have got no field. -/
theorem content?_foldl_stain {client : Client} {recorder : Recorder} {store : Store}
    (edited : Edited client recorder store) {earlier : List Invocation} {invocation : Invocation}
    (within : ∀ handle ∈ invocation.handles, handle.Within 0 store.size) {headers : Handle}
    (passes : client.PassesHeaders store invocation headers)
    (same : client.optionsOf? (earlier.foldl client.stain store) invocation
      = client.optionsOf? store invocation) :
    (earlier.foldl client.stain store).content? headers = store.content? headers := by
  have stains := stained_foldl_stain client store earlier
  have size := size_foldl_stain client store earlier
  have sound := (edited.foldl_stain earlier).sound
  generalize earlier.foldl client.stain store = stained at same stains size sound ⊢
  obtain ⟨route, arguments, options, resolved, handed, passed⟩ := exists_of_headersOf? passes.passed
  have fits : arguments.Within store.size :=
    Invocation.within_arguments within (Invocation.of_resolve resolved).2
  have stainedHanded : route.handedOver arguments stained = .ok options := by
    simp only [optionsOf?, resolved, handed] at same
    exact eq_ok_of_toOption same
  obtain ⟨extra, given, entries, held⟩ := passes.mapping route arguments resolved
  have stainedPassed : Route.passedHeaders arguments stained = some headers :=
    (stains.passedHeaders edited.sound sound given held).trans passed
  have before := Route.lookup_headers_of_handedOver edited.sound fits handed passed
  have after := Route.lookup_headers_of_handedOver sound (size.symm ▸ fits) stainedHanded
    stainedPassed
  exact stains.content?_of_read_eq edited.sound sound (Option.some.inj (after.symm.trans before))

/-! ## Isolation -/

/-- **A call is isolated exactly when the edits to header fields that earlier calls passed leave
what it hands over as it was: always if no earlier call passes header fields, and not if it passes
header fields that were edited.** -/
theorem isolated_iff {config : ClientConfig} {recorder : Recorder} {client : Client}
    {session created : Session}
    (creation : (create config (.recording recorder)).run session = (.ok client, created))
    (edits : recorder.edits = true) (sound : session.store.Sound) {earlier : List Invocation}
    {invocation : Invocation}
    (within : ∀ call ∈ invocation :: earlier, ∀ handle ∈ call.handles,
      handle.Within 0 created.store.size) :
    let stained := earlier.foldl client.stain created.store
    client.handsOver invocation (client.invokeAll earlier created)
        = client.handsOver invocation { created with store := stained } ∧
      (client.Isolated earlier invocation created ↔
        client.optionsOf? stained invocation = client.optionsOf? created.store invocation) ∧
      ((∀ call ∈ earlier, ∀ headers ∈ client.headersOf? created.store call, ∀ entries,
          created.store.content? headers ≠ some (.mapping entries)) →
        client.Isolated earlier invocation created) ∧
      ∀ headers, client.PassesHeaders created.store invocation headers →
        client.Isolated earlier invocation created →
        stained.content? headers = created.store.content? headers := by
  intro stained
  obtain ⟨active, edited⟩ := edited_of_create creation edits sound
  have fits := within invocation List.mem_cons_self
  have start : Continues created.store created.store := ⟨fun _ _ => rfl, edited.sound⟩
  have run : Continues stained (client.invokeAll earlier created).store :=
    continues_invokeAll edited start fun call present => within call (List.mem_cons_of_mem _ present)
  have stainedEdited : Edited client active stained := edited.foldl_stain earlier
  have stainedFits : ∀ handle ∈ invocation.handles, handle.Within 0 stained.size := by
    rw [size_foldl_stain]
    exact fits
  have first := handsOver_eq edited start fits
  have last := handsOver_eq stainedEdited run stainedFits
  have again : client.handsOver invocation { created with store := stained }
      = client.recordsOf active stained invocation :=
    handsOver_eq stainedEdited ⟨fun _ _ => rfl, stainedEdited.sound⟩ stainedFits
  have unaffected : client.Isolated earlier invocation created ↔
      client.optionsOf? stained invocation = client.optionsOf? created.store invocation := by
    rw [Isolated, last, first]
    exact recordsOf_eq_iff client active stained created.store invocation
  refine ⟨last.trans again.symm, unaffected, fun none => ?_, fun headers passes isolated => ?_⟩
  · rw [unaffected]
    exact congrArg (client.optionsOf? · invocation) (foldl_stain_eq_self none)
  · exact content?_foldl_stain edited fits passes (unaffected.mp isolated)

end Runtimes

/-! ## Header fields that are shared -/

attribute [local instance] Runtime.usual

/-- A configuration with one route. -/
def itemsConfig : ClientConfig where
  root := "http://h"
  parseJson := false
  encodeValues := false
  requestDefaults := none
  declarations := ⟨[], [("items", .template "/items")], [], [], [], []⟩

/-- Header fields, extra options that hold them, and extra options that hold none. -/
def itemsStore : Store :=
  ⟨#[.mapping [(.text "a", .atom (.text "1"))], .mapping [(.text "headers", .object 0)],
    .mapping [(.text "timeout", .atom (.int 5))]]⟩

/-- The run that makes the client over a transport that edits its options. -/
def itemsCreation : Except Failure Client × Session :=
  (create itemsConfig (.recording ⟨1, true, true, .null⟩)).run
    { Session.empty with store := itemsStore, transports := 1 }

/-- The client of that run. -/
def itemsClient : Client where
  routes := [("items",
    { root := "http://h"
      pattern := Template.parse "/items"
      method := .get
      transport := .recording ⟨1, true, true, .null⟩
      options := .object 3
      parseJson := false
      encodeValues := false
      name := "items" })]

/-- A call with the extra options that hold the header fields. -/
def sharingCall : Invocation := .positional "items" [.atom .null, .object 1, .atom .null]

/-- A call with the extra options that hold none. -/
def plainCall : Invocation := .named "items" [("request_options", .object 2)]

theorem sound_itemsStore : itemsStore.Sound := by
  intro index content held handle present
  match index with
  | 0 =>
      cases held
      rw [List.mem_singleton.mp present]
      trivial
  | 1 =>
      cases held
      rw [List.mem_singleton.mp present]
      exact ⟨Nat.le_refl _, Nat.zero_lt_one⟩
  | 2 =>
      cases held
      rw [List.mem_singleton.mp present]
      trivial
  | _ + 3 => cases held

/-- Calls that pass no header fields leave a call with header fields as it is. -/
theorem isolated_iff_plain :
    itemsCreation.1 = .ok itemsClient ∧
      itemsClient.Isolated [plainCall, plainCall] sharingCall itemsCreation.2 := by
  have creation : itemsCreation = (.ok itemsClient, itemsCreation.2) := rfl
  have within : ∀ call ∈ [sharingCall, plainCall, plainCall], ∀ handle ∈ call.handles,
      handle.Within 0 itemsCreation.2.store.size := by
    decide +kernel
  have plain : itemsClient.headersOf? itemsCreation.2.store plainCall = none :=
    Option.isNone_iff_eq_none.mp (by decide +kernel)
  refine ⟨rfl, (isolated_iff creation rfl sound_itemsStore within).2.2.1 ?_⟩
  intro call present headers passed
  have same : call = plainCall := by simpa using present
  rw [same, plain] at passed
  cases passed

/-- Whether a transport was handed the header field that it adds. -/
def hasField : Record → Bool
  | .request _ _ options =>
      match Options.get options "headers" with
      | .mapping fields => (Value.lookupText "X-Call" fields).isSome
      | _ => false
  | .defaults _ => false

/-- The same call again hands over the field that the transport added to its header fields. -/
theorem not_isolated_sharing :
    itemsCreation.1 = .ok itemsClient ∧ itemsCreation.2.store.Sound ∧
      ¬itemsClient.Isolated [sharingCall] sharingCall itemsCreation.2 := by
  have creation : itemsCreation = (.ok itemsClient, itemsCreation.2) := rfl
  obtain ⟨active, edited⟩ := edited_of_create creation rfl sound_itemsStore
  refine ⟨rfl, edited.sound, fun isolated => ?_⟩
  · have same := congrArg (List.any · hasField) isolated
    revert same
    decide +kernel

end Client

end Routebook

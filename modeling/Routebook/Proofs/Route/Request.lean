import Routebook.Proofs.Session.Action
import Routebook.Proofs.Store.Entries
import Routebook.Proofs.Store.Writing
import Routebook.Proofs.Value.Copy

/-!
# The options of a call

The options that a call hands over are determined by what its arguments and the route's own options
read as (`Route.handedOver`).  They are a new object, in which only the handles that the call's
extra options hold lead to objects that were there before (`Route.run_buildRequest`).
-/

namespace Routebook

set_option autoImplicit false

open Routebook.Action

/-- Whether the objects that arguments lead to are there. -/
structure CallArguments.Within (bound : Nat) (arguments : CallArguments) : Prop where
  pathArguments : ∀ handle ∈ arguments.pathArguments, handle.Within 0 bound
  body : ∀ handle ∈ arguments.body, handle.Within 0 bound
  options : ∀ handle ∈ arguments.options, handle.Within 0 bound

namespace CallArguments

variable {bound : Nat}

theorem Within.mono {wide : Nat} {arguments : CallArguments} (within : arguments.Within bound)
    (higher : bound ≤ wide) : arguments.Within wide where
  pathArguments handle given := (within.pathArguments handle given).mono (Nat.le_refl _) higher
  body handle given := (within.body handle given).mono (Nat.le_refl _) higher
  options handle given := (within.options handle given).mono (Nat.le_refl _) higher

/-- The handles of arguments. -/
def handles (arguments : CallArguments) : List Handle :=
  arguments.pathArguments.toList ++ arguments.body.toList ++ arguments.options.toList

theorem mem_handles {arguments : CallArguments} {handle : Handle} :
    handle ∈ arguments.handles ↔
      handle ∈ arguments.pathArguments ∨ handle ∈ arguments.body ∨ handle ∈ arguments.options := by
  simp only [handles, List.mem_append, Option.mem_toList, Option.mem_def, or_assoc]

theorem Within.of_handles {arguments : CallArguments}
    (within : ∀ handle ∈ arguments.handles, handle.Within 0 bound) : arguments.Within bound where
  pathArguments handle given := within handle (mem_handles.mpr (.inl given))
  body handle given := within handle (mem_handles.mpr (.inr (.inl given)))
  options handle given := within handle (mem_handles.mpr (.inr (.inr given)))

theorem mem_handles_of_add {arguments result : CallArguments} {field : String × Handle}
    (added : arguments.add field = .ok result) {handle : Handle} (present : handle ∈ result.handles) :
    handle = field.2 ∨ handle ∈ arguments.handles := by
  rw [mem_handles] at present ⊢
  unfold CallArguments.add at added
  split at added <;> cases added
  · rcases present with given | body | options
    · exact .inl (Option.some.inj given).symm
    · exact .inr (.inr (.inl body))
    · exact .inr (.inr (.inr options))
  · rcases present with path | given | options
    · exact .inr (.inl path)
    · exact .inl (Option.some.inj given).symm
    · exact .inr (.inr (.inr options))
  · rcases present with path | body | given
    · exact .inr (.inl path)
    · exact .inr (.inr (.inl body))
    · exact .inl (Option.some.inj given).symm
  · exact .inr present

/-- Arguments given by name are among what is given. -/
theorem mem_of_ofFields {fields : List (String × Handle)} {result : CallArguments}
    (given : ofFields fields = .ok result) {handle : Handle} (present : handle ∈ result.handles) :
    handle ∈ fields.map Prod.snd := by
  have folded : ∀ arguments : CallArguments,
      fields.foldlM CallArguments.add arguments = .ok result →
        handle ∈ arguments.handles ∨ handle ∈ fields.map Prod.snd := by
    clear given
    induction fields with
    | nil =>
        intro arguments run
        cases run
        exact .inl present
    | cons field rest inductionHypothesis =>
        intro arguments run
        rw [List.foldlM_cons] at run
        obtain ⟨next, added, later⟩ := Outcome.exists_of_bind run
        rcases inductionHypothesis next later with early | late
        · rcases mem_handles_of_add added early with rfl | before
          · exact .inr List.mem_cons_self
          · exact .inl before
        · exact .inr (List.mem_cons_of_mem _ late)
  rcases folded none given with absent | inside
  · cases absent
  · exact inside

/-- Arguments given by position are among what is given. -/
theorem mem_of_ofPositions {route : String} {takesBody : Bool} {given : List Handle}
    {result : CallArguments} (positioned : ofPositions route takesBody given = .ok result)
    {handle : Handle} (present : handle ∈ result.handles) : handle ∈ given := by
  unfold ofPositions at positioned
  split at positioned <;> cases positioned <;> simp [handles] at present ⊢ <;> grind

end CallArguments

namespace Store

/-- The value of an argument; null if it is not given. -/
def readArgument (store : Store) : Option Handle → Value
  | none => .null
  | some handle => store.read handle

theorem Shared.readArgument {bound : Nat} {first second : Store}
    (shared : Shared bound first second) {argument : Option Handle}
    (within : ∀ handle ∈ argument, handle.Within 0 bound) :
    first.readArgument argument = second.readArgument argument := by
  cases argument with
  | none => rfl
  | some handle => exact shared.read (within handle rfl)

end Store

/-- A name has the value that was written at it, and otherwise the one that it had before. -/
theorem Value.lookup_text_insert (name : String) (key value : Value) (entries : Entries) :
    Value.lookup (.text name) (Value.insert key value entries)
      = if Value.same (.text name) key then some value else Value.lookup (.text name) entries := by
  induction entries with
  | nil => rfl
  | cons entry rest inductionHypothesis =>
      rw [Value.insert]
      split
      · rename_i same
        have alike : Value.same (.text name) entry.1 = Value.same (.text name) key := by
          rw [Bool.eq_iff_iff, Store.same_text, Store.same_text]
          constructor
          · intro named
            rw [named] at same
            exact Store.same_text_right.mp same
          · intro named
            rw [named] at same
            exact Store.same_text.mp same
        rw [Value.lookup, Value.lookup, alike]
        split <;> rfl
      · rename_i different
        rw [Value.lookup, Value.lookup, inductionHypothesis]
        split
        · rename_i named
          rw [if_neg]
          intro same
          rw [Store.same_text.mp same, Store.same_text.mp named] at different
          exact different (Store.same_text.mpr rfl)
        · rfl

namespace Route

/-! ## What is handed over -/

/-- The entries that a call adds to the options of a route. -/
def extraOptions (arguments : CallArguments) (store : Store) :
    Except Failure (List (Value × Handle)) :=
  match arguments.options with
  | none => .ok []
  | some handle => store.optionalEntriesOf handle

/-- The address of a call. -/
def addressOf [Runtime] (route : Route) (arguments : CallArguments) (store : Store) :
    Except Failure String :=
  (Uri.build route.root route.pattern route.encodeValues
    (store.readArgument arguments.pathArguments)).map Uri.Resolution.uri

/-- Options with the address, the method and, where the method carries one, the body. -/
def completed (route : Route) (address : String) (body : Value) (options : Entries) : Entries :=
  let addressed := Value.insert (.text "uri") (.text address) options
  let named := Value.insert (.text "method") (.text route.method.name) addressed
  if route.method.hasBody then Value.insert (.text "body") body named else named

/-- The header fields that a call's extra options hold, if any. -/
def passedHeaders (arguments : CallArguments) (store : Store) : Option Handle :=
  match extraOptions arguments store with
  | .ok extra => Store.lookupEntry (.text "headers") extra.reverse
  | .error _ => none

/-- The options that a call hands over. -/
def handedOver [Runtime] (route : Route) (arguments : CallArguments) (store : Store) :
    Except Failure Entries :=
  if arguments.body.isSome && !route.method.hasBody then
    .error (.problem (.bodyRefused route.method.name route.name))
  else do
    (store.read route.options).requireCopyable
    let extra ← extraOptions arguments store
    let address ← route.addressOf arguments store
    return route.completed address (store.readArgument arguments.body)
      (Value.overlay (route.currentOptions store) (store.readEntries extra))

/-- A call that is accepted hands its options over, given what it adds and its address, if the
options of the route can be copied. -/
theorem handedOver_of_ok [Runtime] {route : Route} {arguments : CallArguments} {store : Store}
    {extra : List (Value × Handle)} {address : String}
    (accepted : (arguments.body.isSome && !route.method.hasBody) = false)
    (copyable : (store.read route.options).Copyable)
    (added : extraOptions arguments store = .ok extra)
    (addressed : route.addressOf arguments store = .ok address) :
    route.handedOver arguments store = .ok (route.completed address
      (store.readArgument arguments.body)
      (Value.overlay (route.currentOptions store) (store.readEntries extra))) := by
  rw [handedOver, accepted, Value.requireCopyable_of_copyable copyable, added, addressed]
  rfl

/-- The address and the method that are handed over are those of the call. -/
theorem get_completed (route : Route) (address : String) (body : Value) (options : Entries) :
    Options.get (route.completed address body options) "uri" = .text address ∧
      Options.get (route.completed address body options) "method" = .text route.method.name := by
  have uriMethod : ¬Value.same (.text "uri") (.text "method") := by decide +kernel
  have uriBody : ¬Value.same (.text "uri") (.text "body") := by decide +kernel
  have methodBody : ¬Value.same (.text "method") (.text "body") := by decide +kernel
  have uri : Value.same (.text "uri") (.text "uri") = true := Store.same_text.mpr rfl
  have method : Value.same (.text "method") (.text "method") = true := Store.same_text.mpr rfl
  unfold Options.get Value.lookupText completed
  dsimp only
  split
  · simp only [Value.lookup_text_insert, if_neg uriMethod, if_neg uriBody, if_neg methodBody,
      if_pos uri, if_pos method, Option.getD_some, and_self]
  · simp only [Value.lookup_text_insert, if_neg uriMethod, if_pos uri, if_pos method,
      Option.getD_some, and_self]

section Sharing

variable {first second : Store} {bound : Nat} {arguments : CallArguments}

theorem extraOptions_congr (shared : Store.Shared bound first second)
    (within : arguments.Within bound) :
    extraOptions arguments first = extraOptions arguments second := by
  unfold extraOptions
  cases given : arguments.options with
  | none => rfl
  | some handle => exact shared.optionalEntriesOf (within.options handle given)

theorem within_of_extraOptions (sound : first.Sound) (within : arguments.Within bound)
    {extra : List (Value × Handle)} (found : extraOptions arguments first = .ok extra)
    {handle : Handle} (present : handle ∈ extra.map Prod.snd) : handle.Within 0 bound := by
  unfold extraOptions at found
  cases given : arguments.options with
  | none =>
      rw [given] at found
      cases found
      cases present
  | some options =>
      rw [given] at found
      exact (sound.closed bound).optionalEntriesOf (within.options options given) found present

theorem passedHeaders_congr (shared : Store.Shared bound first second)
    (within : arguments.Within bound) :
    passedHeaders arguments first = passedHeaders arguments second := by
  rw [passedHeaders, passedHeaders, extraOptions_congr shared within]

/-- **The options that a call hands over depend on the objects alone that its arguments and the
route's own options lead to.** -/
theorem handedOver_congr [Runtime] (shared : Store.Shared bound first second) {route : Route}
    (own : route.options.Within 0 bound) (within : arguments.Within bound) :
    route.handedOver arguments first = route.handedOver arguments second := by
  have reads := shared.read own
  have options : route.currentOptions first = route.currentOptions second := by
    rw [currentOptions, currentOptions, reads]
  have address : route.addressOf arguments first = route.addressOf arguments second := by
    rw [addressOf, addressOf, shared.readArgument within.pathArguments]
  unfold handedOver
  rw [← extraOptions_congr shared within, ← options, ← address, ← reads,
    ← shared.readArgument within.body]
  refine congrArg (ite _ _) (congrArg _ (funext fun _ => ?_))
  cases added : extraOptions arguments first with
  | error failure => rfl
  | ok extra =>
      have read : first.readEntries extra = second.readEntries extra :=
        shared.readEntries fun handle present =>
          within_of_extraOptions shared.sound within added present
      dsimp only [bind, Except.bind]
      rw [read]

end Sharing

/-! ## Building the request -/

variable {route : Route} {arguments : CallArguments} {session : Session}

/-- A copy of a mapping is made of new objects and reads as the mapping. -/
theorem content?_load_mapping {store : Store} (sound : store.Sound) (entries : Entries) :
    ∃ own, (store.load (.mapping entries)).2.content? (store.load (.mapping entries)).1
        = some (.mapping own) ∧
      (store.load (.mapping entries)).2.readEntries own = entries ∧
      ∀ handle ∈ own.map Prod.snd,
        handle.Within store.size (store.load (.mapping entries)).2.size := by
  obtain ⟨keys, parts⟩ := Store.load_loaded.2.1 store entries sound
  rw [Store.load]
  generalize store.loadEntries entries = run at keys parts
  obtain ⟨handles, loaded⟩ := run
  dsimp only at keys parts ⊢
  have agree := Store.agree_make loaded (.mapping handles)
  refine ⟨handles, Store.getElem?_make loaded (.mapping handles), ?_, ?_⟩
  · rw [← Store.readEntries_eq keys parts.read]
    refine ((Store.Shared.of_agree parts.sound agree).readEntries fun handle present => ?_).symm
    exact (parts.within handle present).mono (Nat.zero_le _) (Nat.le_refl _)
  · exact fun handle present => (parts.within handle present).mono (Nat.le_refl _) agree.size_le

/-- A copy of a route's options: it is made of new objects and reads as the options. -/
structure Copied (route : Route) (store : Store) (own : List (Value × Handle)) (copied : Store) :
    Prop where
  agree : Store.AgreeBelow store.size store copied
  sound : copied.Sound
  reads : copied.readEntries own = route.currentOptions store
  fresh : ∀ handle ∈ own.map Prod.snd, handle.Within store.size copied.size

/-- The options of a route are the entries of the mapping that its handle stands for. -/
theorem currentOptions_eq (route : Route) (store : Store) :
    route.currentOptions store = match store.read route.options with
      | .mapping entries => entries
      | _ => [] := rfl

/-- Options that are nested too deeply are not copied, and then nothing happens. -/
theorem run_copyOptions_of_not_copyable [Runtime]
    (deep : ¬(session.store.read route.options).Copyable) :
    route.copyOptions.run session = (.error .tooDeep, session) := by
  unfold copyOptions
  rw [run_bind_ok (run_get _), Value.requireCopyable_of_not_copyable deep]
  rfl

theorem run_copyOptions [Runtime] (sound : session.store.Sound)
    (copyable : (session.store.read route.options).Copyable) :
    ∃ own copied, Copied route session.store own copied ∧
      route.copyOptions.run session = (.ok own, { session with store := copied }) := by
  have loaded := Store.load_loaded.1 session.store (session.store.read route.options) sound
  have current := route.currentOptions_eq session.store
  unfold copyOptions
  rw [run_bind_ok (run_get _), Value.requireCopyable_of_copyable copyable,
    run_bind_ok (run_ofExcept _ _)]
  dsimp only
  rw [run_bind_ok (run_set _ _), Store.copy]
  generalize session.store.read route.options = value at loaded current ⊢
  cases value with
  | mapping entries =>
      obtain ⟨own, held, reads, within⟩ := content?_load_mapping sound entries
      rw [held]
      exact ⟨own, _, ⟨loaded.agree, loaded.sound, reads.trans current.symm, within⟩, rfl⟩
  | list items =>
      have held : (session.store.load (.list items)).2.content? (session.store.load (.list items)).1
          = some (.list (session.store.loadItems items).1) := Store.getElem?_make _ _
      rw [held]
      exact ⟨[], _, ⟨loaded.agree, loaded.sound, current.symm, nofun⟩, rfl⟩
  | tuple items =>
      have held : (session.store.load (.tuple items)).2.content? (session.store.load (.tuple items)).1
          = some (.tuple (session.store.loadItems items).1) := Store.getElem?_make _ _
      rw [held]
      exact ⟨[], _, ⟨loaded.agree, loaded.sound, current.symm, nofun⟩, rfl⟩
  | _ => exact ⟨[], _, ⟨loaded.agree, loaded.sound, current.symm, nofun⟩, rfl⟩

/-- The handles of the finished options of a call. -/
def finishedHandles (route : Route) (address : String) (body : Option Handle)
    (layered : List (Value × Handle)) : List (Value × Handle) :=
  let addressed := Store.insertEntry (.text "uri") (.atom (.text address)) layered
  let named := Store.insertEntry (.text "method") (.atom (.text route.method.name)) addressed
  if route.method.hasBody then Store.insertEntry (.text "body") (body.getD (.atom .null)) named
  else named

theorem readEntries_finishedHandles (store : Store) (route : Route) (address : String)
    (body : Option Handle) (layered : List (Value × Handle)) :
    store.readEntries (route.finishedHandles address body layered)
      = route.completed address (store.readArgument body) (store.readEntries layered) := by
  have given : store.read (body.getD (.atom .null)) = store.readArgument body := by
    cases body with
    | none => exact Store.readWithin_atom store _ _
    | some handle => rfl
  unfold finishedHandles completed
  dsimp only
  split
  · rw [Store.readEntries_insertEntry, Store.readEntries_insertEntry,
      Store.readEntries_insertEntry, given]
    rfl
  · rw [Store.readEntries_insertEntry, Store.readEntries_insertEntry]
    rfl

/-- Finishing the options leaves the header fields alone. -/
theorem lookupEntry_finishedHandles (route : Route) (address : String) (body : Option Handle)
    (layered : List (Value × Handle)) :
    Store.lookupEntry (.text "headers") (route.finishedHandles address body layered)
      = Store.lookupEntry (.text "headers") layered := by
  have uri : ¬Value.same (.text "headers") (.text "uri") := by decide +kernel
  have method : ¬Value.same (.text "headers") (.text "method") := by decide +kernel
  have content : ¬Value.same (.text "headers") (.text "body") := by decide +kernel
  unfold finishedHandles
  dsimp only
  split
  · rw [Store.lookupEntry_insertEntry, if_neg content, Store.lookupEntry_insertEntry,
      if_neg method, Store.lookupEntry_insertEntry, if_neg uri]
  · rw [Store.lookupEntry_insertEntry, if_neg method, Store.lookupEntry_insertEntry, if_neg uri]

theorem run_callEntries (arguments : CallArguments) (session : Session) :
    (callEntries arguments.options).run session
      = (extraOptions arguments session.store, session) := by
  unfold callEntries extraOptions
  cases arguments.options with
  | none => rfl
  | some handle =>
      dsimp only
      rw [run_bind_ok (run_get _), run_ofExcept]

theorem run_argumentValue (argument : Option Handle) (session : Session) :
    (argumentValue argument).run session = (.ok (session.store.readArgument argument), session) := by
  cases argument <;> rfl

theorem run_buildUri [Runtime] (route : Route) (argument : Option Handle) (session : Session) :
    (route.buildUri argument).run session
      = (Uri.build route.root route.pattern route.encodeValues
          (session.store.readArgument argument), session) := by
  unfold buildUri
  rw [run_bind_ok (run_argumentValue argument session), run_ofExcept]

/-- Finished options whose entries read as given, before an object is made of them.  The header
fields among them are those that the call passes, or else new. -/
structure Finished (arguments : CallArguments) (store : Store) (options : Entries)
    (handles : List (Value × Handle)) (before : Store) : Prop where
  agree : Store.AgreeBelow store.size store before
  sound : before.Sound
  reads : before.readEntries handles = options
  within : ∀ handle ∈ handles.map Prod.snd, handle.Within 0 before.size
  headers : ∃ own, Store.lookupEntry (.text "headers") handles
      = (passedHeaders arguments store).or own ∧
    ∀ handle ∈ own, handle.Within store.size before.size

theorem mem_finishedHandles {route : Route} {address : String} {body : Option Handle}
    {layered : List (Value × Handle)} {handle : Handle}
    (present : handle ∈ (route.finishedHandles address body layered).map Prod.snd) :
    (∃ value, handle = .atom value) ∨ handle ∈ body ∨ handle ∈ layered.map Prod.snd := by
  have named : ∀ {handle : Handle}, handle ∈ (Store.insertEntry (.text "method")
      (.atom (.text route.method.name)) (Store.insertEntry (.text "uri")
        (.atom (.text address)) layered)).map Prod.snd →
      (∃ value, handle = .atom value) ∨ handle ∈ layered.map Prod.snd := by
    intro handle present
    rcases Store.mem_insertEntry present with method | present
    · exact .inl ⟨_, method⟩
    · rcases Store.mem_insertEntry present with address | old
      · exact .inl ⟨_, address⟩
      · exact .inr old
  unfold finishedHandles at present
  dsimp only at present
  split at present
  · rcases Store.mem_insertEntry present with given | present
    · cases body with
      | none => exact .inl ⟨.null, given⟩
      | some other => exact .inr (.inl (congrArg some given.symm))
    · rcases named present with atom | old
      · exact .inl atom
      · exact .inr (.inr old)
  · rcases named present with atom | old
    · exact .inl atom
    · exact .inr (.inr old)

theorem finished_of_copied {store copied : Store} {own extra : List (Value × Handle)}
    (sound : store.Sound) (within : arguments.Within store.size)
    (copy : Copied route store own copied) (added : extraOptions arguments store = .ok extra)
    (address : String) :
    Finished arguments store
      (route.completed address (store.readArgument arguments.body)
        (Value.overlay (route.currentOptions store) (store.readEntries extra)))
      (route.finishedHandles address arguments.body (overlayHandles own extra)) copied := by
  have shared := Store.Shared.of_agree sound copy.agree
  have inside : ∀ handle ∈ extra.map Prod.snd, handle.Within 0 store.size :=
    fun handle present => within_of_extraOptions sound within added present
  refine ⟨copy.agree, copy.sound, ?_, ?_, ?_⟩
  · rw [readEntries_finishedHandles, Store.readEntries_overlayHandles, copy.reads,
      shared.readEntries inside, shared.readArgument within.body]
  · intro handle present
    have grown := copy.agree.size_le
    rcases mem_finishedHandles present with ⟨value, rfl⟩ | body | layered
    · trivial
    · exact (within.body handle body).mono (Nat.le_refl _) grown
    · rcases Store.mem_overlayHandles layered with old | new
      · exact (copy.fresh handle old).mono (Nat.zero_le _) (Nat.le_refl _)
      · exact (inside handle new).mono (Nat.le_refl _) grown
  · refine ⟨Store.lookupEntry (.text "headers") own, ?_, fun handle found => ?_⟩
    · rw [lookupEntry_finishedHandles, Store.lookupEntry_overlayHandles, passedHeaders, added]
    · exact copy.fresh handle (Store.mem_of_lookupEntry found)

/-- **A call builds the options that it hands over, or fails as they do.** -/
theorem run_buildRequest [Runtime] (route : Route) (sound : session.store.Sound)
    (within : arguments.Within session.store.size) :
    match route.handedOver arguments session.store with
    | .error failure => ∃ store,
        (route.buildRequest arguments).run session = (.error failure, { session with store := store }) ∧
          Store.AgreeBelow session.store.size session.store store ∧ store.Sound
    | .ok options => ∃ handles before address,
        Finished arguments session.store options handles before ∧
          (route.buildRequest arguments).run session
            = (.ok ((before.make (.mapping handles)).1, address),
              { session with store := (before.make (.mapping handles)).2 }) := by
  unfold handedOver buildRequest
  cases refused : arguments.body.isSome && !route.method.hasBody with
  | true =>
      simp only [if_true]
      exact ⟨session.store, rfl, fun _ _ => rfl, sound⟩
  | false =>
      simp only [Bool.false_eq_true, if_false]
      by_cases copyable : (session.store.read route.options).Copyable
      case neg =>
        rw [Value.requireCopyable_of_not_copyable copyable]
        refine ⟨session.store, ?_, fun _ _ => rfl, sound⟩
        rw [run_bind_error (run_copyOptions_of_not_copyable copyable)]
      rw [Value.requireCopyable_of_copyable copyable]
      obtain ⟨own, copied, copy, copying⟩ := run_copyOptions sound copyable
      have shared := Store.Shared.of_agree sound copy.agree
      have entries : extraOptions arguments session.store = extraOptions arguments copied :=
        extraOptions_congr shared within
      have path : session.store.readArgument arguments.pathArguments
          = copied.readArgument arguments.pathArguments :=
        shared.readArgument within.pathArguments
      rw [run_bind_ok copying]
      cases extra : extraOptions arguments session.store with
      | error failure =>
          rw [extra] at entries
          refine ⟨copied, ?_, copy.agree, copy.sound⟩
          rw [run_bind_error]
          rw [run_callEntries, ← entries]
      | ok added =>
          rw [extra] at entries
          have called : (callEntries arguments.options).run { session with store := copied }
              = (.ok added, { session with store := copied }) := by
            rw [run_callEntries, ← entries]
          rw [run_bind_ok called]
          have address :=
            run_buildUri route arguments.pathArguments { session with store := copied }
          rw [← path] at address
          unfold addressOf
          cases built : Uri.build route.root route.pattern route.encodeValues
              (session.store.readArgument arguments.pathArguments) with
          | error failure =>
              rw [built] at address
              refine ⟨copied, ?_, copy.agree, copy.sound⟩
              rw [run_bind_error address]
          | ok resolution =>
              rw [built] at address
              rw [run_bind_ok address]
              exact ⟨_, copied, resolution.uri,
                finished_of_copied sound within copy extra resolution.uri, rfl⟩

/-- The object that a call builds reads as the options that it hands over. -/
theorem exists_run_buildRequest [Runtime] {options : Entries} (sound : session.store.Sound)
    (within : arguments.Within session.store.size)
    (handed : route.handedOver arguments session.store = .ok options) :
    ∃ handle address store, (route.buildRequest arguments).run session
        = (.ok (handle, address), { session with store := store }) ∧
      store.read handle = .mapping options := by
  have building := run_buildRequest route sound within
  rw [handed] at building
  obtain ⟨handles, before, address, finished, run⟩ := building
  refine ⟨_, address, _, run, ?_⟩
  rw [← finished.reads]
  exact Store.read_make finished.sound finished.within

section Headers

variable {store : Store}

theorem passedHeaders_mapping (sound : store.Sound) {index : Nat}
    {entries : List (Value × Handle)} (given : arguments.options = some (.object index))
    (held : store.contents[index]? = some (.mapping entries)) :
    passedHeaders arguments store = Store.lookupEntry (.text "headers") entries.reverse := by
  unfold passedHeaders extraOptions
  rw [given]
  dsimp only
  rw [Store.optionalEntriesOf_mapping sound held]

theorem within_of_passedHeaders (sound : store.Sound) (within : arguments.Within store.size)
    {headers : Handle} (passed : passedHeaders arguments store = some headers) :
    headers.Within 0 store.size := by
  unfold passedHeaders at passed
  split at passed
  · rename_i extra added
    have present := Store.mem_of_lookupEntry passed
    rw [List.map_reverse, List.mem_reverse] at present
    exact within_of_extraOptions sound within added present
  · cases passed

/-- The header fields that a call hands over are those that it passes, if it passes any. -/
theorem lookup_headers_of_handedOver [Runtime] (sound : store.Sound)
    (within : arguments.Within store.size) {options : Entries}
    (handed : route.handedOver arguments store = .ok options)
    {headers : Handle} (passed : passedHeaders arguments store = some headers) :
    Value.lookup (.text "headers") options = some (store.read headers) := by
  have building :=
    @run_buildRequest arguments { Session.empty with store := store } _ route sound within
  dsimp only at building
  rw [handed] at building
  obtain ⟨handles, before, -, finished, -⟩ := building
  obtain ⟨own, found, -⟩ := finished.headers
  rw [passed, Option.some_or] at found
  rw [← finished.reads, Store.lookup_readEntries, found, Option.map_some,
    Store.read_of_agree sound finished.agree (within_of_passedHeaders sound within passed)]

end Headers

end Route

end Routebook

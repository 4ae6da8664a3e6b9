import Routebook.Proofs.Route.Request

/-!
# Calls over a recording transport

A recording transport writes down the options that a call hands over.  One that edits its options
changes the new object that it was given, and one object of the caller's at most: the header fields
that the extra options of the call hold (`Route.run_call_edited`).
-/

namespace Routebook

set_option autoImplicit false

variable [Runtime]

open Routebook.Action

/-! ## What callbacks leave alone -/

/-- A view of the session that shows neither the callbacks made nor the diagnostics. -/
class Action.IgnoresCallbacks {γ : Type} (view : Session → γ) : Prop where
  same : ∀ (session : Session) (delivered : List (List Value)) (notices : List Notice)
    (written : List String),
    view { session with delivered := delivered, notices := notices, written := written }
      = view session

/-- The objects of a session and what recording transports wrote down. -/
def Action.recorded (session : Session) : Store × List Record := (session.store, session.records)

instance : IgnoresCallbacks recorded := ⟨fun _ _ _ _ => rfl⟩

instance : IgnoresCallbacks Session.store := ⟨fun _ _ _ _ => rfl⟩

instance : IgnoresCallbacks Session.sent := ⟨fun _ _ _ _ => rfl⟩

/-- A callback makes no objects, writes nothing down and sends nothing. -/
theorem Callback.keeps_call {γ : Type} {view : Session → γ} [IgnoresCallbacks view]
    (callback : Callback) (arguments : List Value) : Keeps view (callback.call arguments) := by
  induction callback generalizing arguments with
  | caller callable =>
      unfold call
      split
      · exact Keeps.bind (Keeps.modify fun session =>
          IgnoresCallbacks.same session _ session.notices session.written) fun _ =>
            Keeps.bind Keeps.get fun _ => Keeps.pure _
      · exact Keeps.throw _
  | decoding inner inductionHypothesis =>
      cases arguments with
      | nil => exact Keeps.throw _
      | cons error rest =>
          unfold call
          dsimp only
          split
          · exact Keeps.throw_bind _ _
          · split
            · exact inductionHypothesis _
            · split
              · exact inductionHypothesis _
              · exact Keeps.bind (Keeps.note fun session =>
                  IgnoresCallbacks.same session session.delivered) fun _ => inductionHypothesis _
              · exact Keeps.throw _
              · exact Keeps.throw _

namespace Recorder

omit [Runtime] in
theorem keeps_nextPrepared : Keeps recorded nextPrepared :=
  Keeps.bind_get fun session => by
    cases session.prepared <;> rfl

/-- The store that an editing transport leaves when it is given an object. -/
def edited (store : Store) (index : Nat) (handles : List (Value × Handle)) : Store :=
  let injected := store.assign (.object index) (.text "injected") (.truth true)
  match Store.lookupEntry (.text "headers") handles with
  | some headers => injected.assign headers (.text "X-Call") (.text "1")
  | none => injected

omit [Runtime] in
theorem run_edit {session : Session} {index : Nat} {handles : List (Value × Handle)}
    (held : session.store.contents[index]? = some (.mapping handles)) :
    (edit (.object index)).run session
      = (.ok ⟨⟩, { session with store := edited session.store index handles }) := by
  have content : session.store.content? (.object index) = some (.mapping handles) := held
  unfold edit
  rw [run_bind_ok (run_get _)]
  dsimp only
  rw [content, run_modify]
  rfl

omit [Runtime] in
theorem Sound.edited {store : Store} (sound : store.Sound) (index : Nat)
    (handles : List (Value × Handle)) : (edited store index handles).Sound := by
  unfold Recorder.edited
  dsimp only
  split
  · exact (sound.assign _ _ _).assign _ _ _
  · exact sound.assign _ _ _

/-- What a recording transport does once it has written the options down: it calls the callback with
the arguments that are prepared for it, if there are any. -/
def respond (recorder : Recorder) (callback : Option Callback) : Action Value :=
  match callback with
  | none => return recorder.result
  | some callback => do
      match ← nextPrepared with
      | none => return recorder.result
      | some arguments =>
          let _ ← callback.call arguments
          return recorder.result

theorem keeps_respond {γ : Type} {view : Session → γ} [IgnoresCallbacks view]
    (prepares : Keeps view nextPrepared)
    (recorder : Recorder) (callback : Option Callback) :
    Keeps view (recorder.respond callback) := by
  cases callback with
  | none => exact Keeps.pure _
  | some callback =>
      refine Keeps.bind prepares fun prepared => ?_
      cases prepared with
      | none => exact Keeps.pure _
      | some arguments => exact Keeps.bind (callback.keeps_call arguments) fun _ => Keeps.pure _

/-- A call over an editing transport writes the options down and edits them. -/
theorem recorded_call {recorder : Recorder} (edits : recorder.edits = true) {session : Session}
    {index : Nat} {handles : List (Value × Handle)}
    (held : session.store.contents[index]? = some (.mapping handles))
    (sound : session.store.Sound) (callback : Option Callback) :
    recorded ((recorder.call (.object index) callback).run session).2
      = (edited session.store index handles,
        session.records ++ [.request recorder.number (.of callback)
          (session.store.readEntries handles)]) := by
  have read : session.store.read (.object index) = .mapping (session.store.readEntries handles) :=
    Store.read_object sound held
  unfold call
  rw [run_bind_ok (run_get _), read]
  dsimp only
  rw [Action.record, run_bind_ok (run_modify _ _)]
  simp only [edits, if_true]
  generalize session.records ++ _ = records
  have editing : (edit (.object index)).run { session with records := records }
      = (.ok ⟨⟩, { session with
          store := edited session.store index handles
          records := records }) := run_edit held
  rw [run_bind_ok editing]
  exact keeps_respond keeps_nextPrepared recorder callback _

end Recorder

namespace Route

variable {route : Route} {recorder : Recorder} {arguments : CallArguments}

/-! ## What a call leaves behind -/

/-- The store of the callers with the field that an editing transport adds to the header fields that
a call passes. -/
def stained (arguments : CallArguments) (store : Store) : Store :=
  match passedHeaders arguments store with
  | some headers => store.assign headers (.text "X-Call") (.text "1")
  | none => store

/-- The store of the callers after a call over an editing transport. -/
def storeAfter (route : Route) (arguments : CallArguments) (store : Store) : Store :=
  match route.handedOver arguments store with
  | .ok _ => stained arguments store
  | .error _ => store

theorem size_storeAfter (route : Route) (arguments : CallArguments) (store : Store) :
    (route.storeAfter arguments store).size = store.size := by
  unfold storeAfter stained
  split
  · split
    · exact Store.size_assign store _ _ _
    · rfl
  · rfl

theorem sound_storeAfter {store : Store} (sound : store.Sound) (route : Route)
    (arguments : CallArguments) : (route.storeAfter arguments store).Sound := by
  unfold storeAfter stained
  split
  · split
    · exact sound.assign _ _ _
    · exact sound
  · exact sound

/-- A call does the same to all stores that have the objects it depends on. -/
theorem agree_storeAfter {bound : Nat} {first second : Store}
    (shared : Store.Shared bound first second) {route : Route}
    (own : route.options.Within 0 bound) (within : arguments.Within bound) :
    Store.AgreeBelow bound (route.storeAfter arguments first)
      (route.storeAfter arguments second) := by
  unfold storeAfter stained
  rw [← handedOver_congr shared own within, ← passedHeaders_congr shared within]
  split
  · split
    · exact shared.agree.assign _ _ _
    · exact shared.agree
  · exact shared.agree

/-- What a recording transport writes down for a call. -/
def recordsOf (route : Route) (recorder : Recorder) (arguments : CallArguments) (store : Store) :
    List Record :=
  match route.handedOver arguments store with
  | .ok options => [.request recorder.number
      (.of (route.callbackFor (arguments.callback.bind Callback.ofHandle))) options]
  | .error _ => []

omit [Runtime] in
/-- Besides new objects an editing transport changes the header fields alone that a call passes. -/
theorem agree_edited {store before : Store} {options : Entries} {handles : List (Value × Handle)}
    (finished : Finished arguments store options handles before) :
    Store.AgreeBelow store.size
      (Recorder.edited (before.make (.mapping handles)).2 before.size handles)
      (stained arguments store) := by
  have grown := finished.agree.size_le
  have made : Store.AgreeBelow store.size (before.make (.mapping handles)).2 store :=
    (finished.agree.trans ((Store.agree_make before _).mono grown)).symm
  have fresh : (Handle.object before.size).Within store.size (before.size + 1) :=
    ⟨grown, Nat.lt_succ_self _⟩
  have injected := (Store.agree_assign (before.make (.mapping handles)).2 fresh
    (.text "injected") (.truth true)).trans made
  obtain ⟨own, found, new⟩ := finished.headers
  unfold Recorder.edited stained
  dsimp only
  rw [found]
  cases passed : passedHeaders arguments store with
  | some headers => exact injected.assign headers _ _
  | none =>
      cases own with
      | none => exact injected
      | some headers => exact (Store.agree_assign _ (new headers rfl) _ _).trans injected

/-- **A call over an editing transport hands over its options, and it changes the header fields
alone that it passes.** -/
theorem run_call_edited (carried : route.transport = .recording recorder)
    (edits : recorder.edits = true) {session : Session} (sound : session.store.Sound)
    (within : arguments.Within session.store.size) :
    let after := ((route.call arguments).run session).2
    after.records = session.records ++ route.recordsOf recorder arguments session.store ∧
      Store.AgreeBelow session.store.size after.store (route.storeAfter arguments session.store) ∧
      after.store.Sound := by
  intro after
  have building := run_buildRequest route sound within
  unfold recordsOf storeAfter
  cases handed : route.handedOver arguments session.store with
  | error failure =>
      rw [handed] at building
      obtain ⟨store, run, agree, built⟩ := building
      have ended : after = { session with store := store } := by
        simp only [after, call]
        rw [run_bind_error run]
      rw [ended]
      exact ⟨(List.append_nil _).symm, agree.symm, built⟩
  | ok options =>
      rw [handed] at building
      obtain ⟨handles, before, address, finished, run⟩ := building
      have built : (before.make (.mapping handles)).2.Sound :=
        finished.sound.make finished.within
      let prepared := Session.noting { session with store := (before.make (.mapping handles)).2 }
        [.debug (route.method.name ++ " " ++ address)]
      have ended : recorded after = recorded ((recorder.call (.object before.size)
          (route.callbackFor (arguments.callback.bind Callback.ofHandle))).run prepared).2 := by
        simp only [after, call]
        rw [run_bind_ok run, Action.debug, run_bind_ok (run_note _ _), carried]
        rfl
      have reads : prepared.store.readEntries handles = options := by
        rw [← finished.reads]
        exact ((Store.Shared.of_agree finished.sound (Store.agree_make before _)).readEntries
          finished.within).symm
      have held : prepared.store.contents[before.size]? = some (.mapping handles) :=
        Store.getElem?_make before _
      rw [Recorder.recorded_call edits held built, reads] at ended
      have store : after.store = _ := congrArg Prod.fst ended
      have records : after.records = _ := congrArg Prod.snd ended
      rw [store, records]
      exact ⟨rfl, agree_edited finished, Recorder.Sound.edited built _ _⟩

end Route

end Routebook

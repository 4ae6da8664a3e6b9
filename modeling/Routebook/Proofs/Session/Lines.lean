import Routebook.Proofs.Session.Action

/-!
# Lines that are told

Computations note lines, but none reads the lines noted before or asks which of them show.  So a
computation has one result and leaves one session behind, whatever the verbosity and whatever was
noted before, and tells the same lines each time; what is written of them is what the output writes
(`Action.Tells`).  In particular a run that starts behind further lines is the run that starts
without them, with the lines in front of all others (`Action.Tells.run_behind`).
-/

namespace Routebook

set_option autoImplicit false

/-! ## Voices -/

/-- What a session has for its diagnostics: which lines show, and what was noted and written so far.
-/
structure Voice where
  quiet : Bool
  verbose : Bool
  notices : List Notice
  written : List String

namespace Session

/-- The voice of a session. -/
def voice (session : Session) : Voice where
  quiet := session.output.quiet
  verbose := session.output.verbose
  notices := session.notices
  written := session.written

/-- A session with another voice. -/
def withVoice (session : Session) (voice : Voice) : Session :=
  { session with
    output := { session.output with quiet := voice.quiet, verbose := voice.verbose }
    notices := voice.notices
    written := voice.written }

@[simp] theorem withVoice_voice (session : Session) : session.withVoice session.voice = session := rfl

@[simp] theorem withVoice_withVoice (session : Session) (first second : Voice) :
    (session.withVoice first).withVoice second = session.withVoice second := rfl

/-- A session behind the lines of an earlier one. -/
def behind (earlier session : Session) : Session :=
  { session with
    notices := earlier.notices ++ session.notices
    written := earlier.written ++ session.written }

/-- A session without its lines. -/
def silent (session : Session) : Session := { session with notices := [], written := [] }

theorem behind_silent (session : Session) : session.behind session.silent = session := by
  simp [behind, silent]

end Session

variable [Runtime]

/-- The voice after lines were noted with an output. -/
def Voice.adding (voice : Voice) (output : Output) (lines : List Notice) : Voice :=
  { voice with
    notices := voice.notices ++ lines
    written := voice.written ++ lines.map
      { output with quiet := voice.quiet, verbose := voice.verbose }.writeNotice }

theorem Session.noting_withVoice (session : Session) (voice : Voice) (lines : List Notice) :
    (session.withVoice voice).noting lines
      = session.withVoice (voice.adding session.output lines) := rfl

theorem Session.noting_behind (earlier session : Session) (lines : List Notice) :
    (earlier.behind session).noting lines = earlier.behind (session.noting lines) := by
  simp [Session.noting, Session.behind]

namespace Action

variable {α β : Type}

/-! ## Computations that tell lines -/

/-- A computation tells lines when it has the same result, leaves the same behind and notes the same
lines with every voice. -/
def Tells (action : Action α) : Prop :=
  ∀ session : Session, ∃ (result : Except Failure α) (after : Session) (lines : List Notice),
    after.output = session.output ∧
    ∀ voice, action.run (session.withVoice voice) = (result, (after.withVoice voice).noting lines)

namespace Tells

/-- A computation that notes nothing and is the same with every voice. -/
theorem of_run {action : Action α}
    (run : ∀ session : Session, ∃ (result : Except Failure α) (after : Session),
      after.output = session.output ∧ ∀ voice,
        action.run (session.withVoice voice) = (result, after.withVoice voice)) :
    Tells action := by
  intro session
  obtain ⟨result, after, same, runs⟩ := run session
  refine ⟨result, after, [], same, fun voice => ?_⟩
  rw [runs, Session.noting_nil]

/-- A computation that depends on the objects of a session alone and changes nothing else. -/
theorem of_store {action : Action α} (change : Store → Except Failure α × Store)
    (run : ∀ session : Session, action.run session
      = ((change session.store).1, { session with store := (change session.store).2 })) :
    Tells action :=
  of_run fun session => ⟨(change session.store).1,
    { session with store := (change session.store).2 }, rfl, fun voice => run (session.withVoice voice)⟩

theorem pure (value : α) : Tells (Pure.pure value : Action α) :=
  of_run fun session => ⟨_, session, rfl, fun _ => rfl⟩

theorem throw (failure : Failure) : Tells (MonadExcept.throw failure : Action α) :=
  of_run fun session => ⟨_, session, rfl, fun _ => rfl⟩

/-- Nothing happens after a failure. -/
theorem throw_bind (failure : Failure) (next : α → Action β) :
    Tells ((MonadExcept.throw failure : Action α) >>= next) :=
  of_run fun session => ⟨_, session, rfl, fun _ => rfl⟩

theorem ofExcept (result : Except Failure α) : Tells (Action.ofExcept result) :=
  of_run fun session => ⟨result, session, rfl, fun _ => run_ofExcept result _⟩

/-- The lines of a computation are those of its parts, one after the other. -/
theorem bind {action : Action α} {next : α → Action β} (first : Tells action)
    (second : ∀ value, Tells (next value)) : Tells (action >>= next) := by
  intro session
  obtain ⟨result, after, lines, same, run⟩ := first session
  cases result with
  | error failure =>
      exact ⟨.error failure, after, lines, same, fun voice => run_bind_error (run voice)⟩
  | ok value =>
      obtain ⟨final, last, more, still, rest⟩ := second value after
      refine ⟨final, last, lines ++ more, still.trans same, fun voice => ?_⟩
      rw [run_bind_ok (run voice), Session.noting_withVoice, rest, ← still, ← Session.noting_withVoice,
        Session.noting_noting]

/-- Reading a part of the session that has no voice, and going on from it. -/
theorem bind_get {next : Session → Action β}
    (blind : ∀ session voice, next (session.withVoice voice) = next session)
    (tells : ∀ session, Tells (next session)) : Tells (MonadState.get >>= next) := by
  intro session
  obtain ⟨result, after, lines, same, run⟩ := tells session session
  refine ⟨result, after, lines, same, fun voice => ?_⟩
  rw [run_bind_ok (run_get _), blind, run]

/-- Changing a session without regard to its voice. -/
theorem modify {change : Session → Session}
    (output : ∀ session, (change session).output = session.output)
    (commutes : ∀ session voice,
      change (session.withVoice voice) = (change session).withVoice voice) :
    Tells (modify change : Action PUnit) :=
  of_run fun session => ⟨.ok ⟨⟩, change session, output session, fun voice => by
    rw [run_modify, commutes]⟩

theorem note (notice : Notice) : Tells (Action.note notice) :=
  fun session => ⟨.ok ⟨⟩, session, [notice], rfl, fun _ => rfl⟩

theorem debug (text : String) : Tells (Action.debug text) := note (.debug text)

theorem print (text : String) : Tells (Action.print text) :=
  bind (ofExcept _) fun _ => modify (fun _ => rfl) fun _ _ => rfl

theorem recordSent (request : SentRequest) : Tells (Action.recordSent request) :=
  modify (fun _ => rfl) fun _ _ => rfl

theorem nextReply : Tells Action.nextReply := by
  refine of_run fun session => ?_
  cases waiting : session.replies with
  | nil =>
      refine ⟨.ok Http.Reply.empty, session, rfl, fun voice => ?_⟩
      rw [Action.nextReply, run_bind_ok (run_get _)]
      dsimp only [Session.withVoice]
      rw [waiting]
      rfl
  | cons reply rest =>
      refine ⟨.ok reply, { session with replies := rest }, rfl, fun voice => ?_⟩
      rw [Action.nextReply, run_bind_ok (run_get _)]
      dsimp only [Session.withVoice]
      rw [waiting]
      rfl

theorem deliver (arguments : List Value) : Tells (Action.deliver arguments) :=
  of_run fun session =>
    ⟨.ok session.callbackResult, { session with delivered := session.delivered ++ [arguments] },
      rfl, fun _ => rfl⟩

/-- A loop tells lines if all of its steps do. -/
theorem forIn {state : Type} {items : List α} {initial : state}
    {step : α → state → Action (ForInStep state)}
    (tells : ∀ item current, Tells (step item current)) :
    Tells (ForIn.forIn items initial step) := by
  induction items generalizing initial with
  | nil => exact Tells.pure initial
  | cons item items inductionHypothesis =>
      rw [List.forIn_cons]
      refine bind (tells item initial) fun result => ?_
      cases result with
      | done final => exact Tells.pure final
      | yield next => exact inductionHypothesis

/-- A loop that only acts tells lines if all of its steps do. -/
theorem forM {items : List α} {step : α → Action PUnit} (tells : ∀ item, Tells (step item)) :
    Tells (items.forM step) := by
  induction items with
  | nil => exact Tells.pure _
  | cons item items inductionHypothesis =>
      rw [List.forM_eq_forM, List.forM_cons]
      exact bind (tells item) fun _ => inductionHypothesis

/-- So does a fold whose steps do. -/
theorem foldlM {items : List β} {initial : α} {step : α → β → Action α}
    (tells : ∀ current item, Tells (step current item)) : Tells (items.foldlM step initial) := by
  induction items generalizing initial with
  | nil => exact Tells.pure initial
  | cons item items inductionHypothesis =>
      rw [List.foldlM_cons]
      exact bind (tells initial item) fun _ => inductionHypothesis

/-! ## Runs with different voices -/

/-- **Further lines in front make no difference to a computation that tells lines.** -/
theorem run_behind {action : Action α} (tells : Tells action) (earlier session : Session) :
    action.run (earlier.behind session)
      = ((action.run session).1, earlier.behind (action.run session).2) := by
  obtain ⟨result, after, lines, -, run⟩ := tells session
  have own := run session.voice
  have later := run (earlier.behind session).voice
  rw [Session.withVoice_voice] at own
  change action.run (earlier.behind session) = _ at later
  rw [later, own, ← Session.noting_behind]
  rfl

/-- **With different voices a computation that tells lines has the same result, leaves the same
behind and notes the same lines**; each voice is followed by what its output writes of them. -/
theorem exists_run_withVoice {action : Action α} (tells : Tells action) (session : Session) :
    ∃ (result : Except Failure α) (after : Session) (lines : List Notice),
      after.output = session.output ∧ ∀ voice, action.run (session.withVoice voice)
        = (result, after.withVoice (voice.adding session.output lines)) := by
  obtain ⟨result, after, lines, same, run⟩ := tells session
  refine ⟨result, after, lines, same, fun voice => ?_⟩
  rw [run, Session.noting_withVoice, same]

end Tells

end Action

end Routebook

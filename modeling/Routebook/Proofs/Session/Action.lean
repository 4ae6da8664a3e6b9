import Routebook.Proofs.Outcome
import Routebook.Proofs.Text.Whole
import Routebook.Session

/-!
# What computations return and what they leave alone

A computation in a session is known by its run: the result and the session afterwards.  The
equations of the first section run a computation step by step.  Three properties of computations are
then closed under everything that computations are built from: that a computation keeps a view of
the session whatever its result (`Action.Keeps`), that all its results have a property
(`Action.Yields`), and that it keeps an invariant under which it has an outcome
(`Action.Maintains`).
-/

namespace Routebook

set_option autoImplicit false

/-! ## Lines noted -/

/-- The session after lines were noted in it. -/
def Session.noting [Runtime] (session : Session) (lines : List Notice) : Session :=
  { session with
    notices := session.notices ++ lines
    written := session.written ++ lines.map session.output.writeNotice }

namespace Session

variable [Runtime] (session : Session)

@[simp] theorem noting_nil : session.noting [] = session := by
  simp [noting]

/-- Lines noted one after the other are noted in their order. -/
theorem noting_noting (first second : List Notice) :
    (session.noting first).noting second = session.noting (first ++ second) := by
  simp [noting]

theorem noting_cons (line : Notice) (rest : List Notice) :
    session.noting (line :: rest) = (session.noting [line]).noting rest :=
  (session.noting_noting [line] rest).symm

end Session

namespace Action

variable {α β : Type}

/-! ## Running -/

/-- A computation goes on with the result of its first part, unless that part failed. -/
theorem run_bind (action : Action α) (next : α → Action β) (session : Session) :
    (action >>= next).run session =
      match action.run session with
      | (.ok value, after) => (next value).run after
      | (.error failure, after) => (.error failure, after) := by
  change ExceptT.bindCont next (action.run session).1 (action.run session).2 = _
  rcases action.run session with ⟨_ | _, after⟩ <;> rfl

theorem run_bind_ok {action : Action α} {next : α → Action β} {session after : Session} {value : α}
    (first : action.run session = (.ok value, after)) :
    (action >>= next).run session = (next value).run after := by
  rw [run_bind, first]

theorem run_bind_error {action : Action α} {next : α → Action β} {session after : Session}
    {failure : Failure} (first : action.run session = (.error failure, after)) :
    (action >>= next).run session = (.error failure, after) := by
  rw [run_bind, first]

/-- A computation that succeeds as a whole succeeds in its first part. -/
theorem exists_of_run_bind {action : Action α} {next : α → Action β} {session final : Session}
    {result : β} (run : (action >>= next).run session = (.ok result, final)) :
    ∃ value after, action.run session = (.ok value, after) ∧
      (next value).run after = (.ok result, final) := by
  rw [run_bind] at run
  split at run
  · rename_i value after first
    exact ⟨value, after, first, run⟩
  · cases run

theorem run_get (session : Session) :
    (get : Action Session).run session = (.ok session, session) := rfl

theorem run_set (next session : Session) :
    (set next : Action PUnit).run session = (.ok ⟨⟩, next) := rfl

theorem run_modify (change : Session → Session) (session : Session) :
    (modify change : Action PUnit).run session = (.ok ⟨⟩, change session) := rfl

theorem run_ofExcept (result : Except Failure α) (session : Session) :
    (ofExcept result).run session = (result, session) := by
  cases result <;> rfl

/-- The result of a computation that starts with what needs no session. -/
theorem result_ofExcept_bind (first : Except Failure α) (next : α → Action β) (session : Session) :
    ((ofExcept first >>= next).run session).1
      = first >>= fun value => ((next value).run session).1 := by
  cases first with
  | error failure => rfl
  | ok value => rfl

/-- The result of a computation that ends in what needs no session. -/
theorem result_bind_ofExcept (action : Action α) (next : α → Except Failure β) (session : Session) :
    ((action >>= fun value => ofExcept (next value)).run session).1
      = (action.run session).1 >>= next := by
  rw [run_bind]
  rcases action.run session with ⟨failure | value, after⟩
  · rfl
  · exact congrArg Prod.fst (run_ofExcept (next value) after)

section Lines

variable [Runtime]

theorem run_note (notice : Notice) (session : Session) :
    (note notice).run session = (.ok ⟨⟩, session.noting [notice]) := rfl

/-- A loop that notes a line for every item notes the lines in order. -/
theorem run_forIn_note {item : Type} (line : item → Notice) (items : List item)
    (session : Session) :
    (forIn items PUnit.unit fun item _ => do
      note (line item)
      Pure.pure (ForInStep.yield PUnit.unit) : Action PUnit).run session
      = (.ok ⟨⟩, session.noting (items.map line)) := by
  induction items generalizing session with
  | nil =>
      rw [List.map_nil, session.noting_nil]
      rfl
  | cons item items inductionHypothesis =>
      rw [List.forIn_cons, List.map_cons, session.noting_cons]
      exact inductionHypothesis (session.noting [line item])

/-- A text without lone halves is printed on a line of its own. -/
theorem run_print {text : String} (whole : Text.isWhole text.toList = true) (session : Session) :
    (print text).run session
      = (.ok ⟨⟩, { session with printed := session.printed ++ [text ++ "\n"] }) := by
  rw [print, Text.requireWhole_eq_ok_iff.mpr whole]
  rfl

/-- A text with a lone half is not printed. -/
theorem run_print_of_not_whole {text : String} (halved : ¬Text.isWhole text.toList = true)
    (session : Session) : (print text).run session = (.error .unencodable, session) := by
  rw [print, Text.requireWhole_of_not_whole halved]
  rfl

end Lines

theorem eq_ok_of_toOption {ε : Type} {result : Except ε α} {value : α}
    (same : result.toOption = some value) : result = .ok value := by
  cases result with
  | error failure => cases same
  | ok found => exact congrArg Except.ok (Option.some.inj same)

/-- A run whose result passes a test has a result, which passes the test. -/
theorem exists_of_any {action : Action α} {test : α → Bool} {session : Session}
    (passed : (action.run session).1.toOption.any test = true) :
    ∃ value after, action.run session = (.ok value, after) ∧ test value = true := by
  rcases ran : action.run session with ⟨_ | value, after⟩
  · rw [ran] at passed
    cases passed
  · rw [ran] at passed
    exact ⟨value, after, rfl, passed⟩

/-! ## Keeping a view of the session -/

/-- A computation keeps a view of the session when the view is the same after every run. -/
def Keeps {γ : Type} (view : Session → γ) (action : Action α) : Prop :=
  ∀ session, view (action.run session).2 = view session

namespace Keeps

variable {γ : Type} {view : Session → γ}

theorem pure (value : α) : Keeps view (Pure.pure value : Action α) := fun _ => rfl

theorem throw (failure : Failure) : Keeps view (MonadExcept.throw failure : Action α) :=
  fun _ => rfl

/-- Nothing happens after a failure. -/
theorem throw_bind (failure : Failure) (next : α → Action β) :
    Keeps view ((MonadExcept.throw failure : Action α) >>= next) := fun _ => rfl

/-- A computation that keeps a view keeps every part of it. -/
theorem part {δ : Type} (select : γ → δ) {action : Action α} (kept : Keeps view action) :
    Keeps (fun session => select (view session)) action :=
  fun session => congrArg select (kept session)

theorem get : Keeps view (MonadState.get : Action Session) := fun _ => rfl

theorem ofExcept (result : Except Failure α) : Keeps view (Action.ofExcept result) := by
  intro session
  rw [run_ofExcept]

theorem bind {action : Action α} {next : α → Action β} (first : Keeps view action)
    (second : ∀ value, Keeps view (next value)) : Keeps view (action >>= next) := by
  intro session
  have kept := first session
  rw [run_bind]
  split
  · rename_i value after run
    rw [run] at kept
    exact (second value after).trans kept
  · rename_i failure after run
    rw [run] at kept
    exact kept

/-- Reading the session and going on from what was read keeps a view, if the rest does. -/
theorem bind_get {next : Session → Action β}
    (second : ∀ session, view ((next session).run session).2 = view session) :
    Keeps view (MonadState.get >>= next) := by
  intro session
  rw [run_bind_ok (run_get session)]
  exact second session

theorem modify {change : Session → Session} (same : ∀ session, view (change session) = view session) :
    Keeps view (modify change : Action PUnit) := fun session => same session

theorem note [Runtime] {notice : Notice}
    (same : ∀ (session : Session) (notices : List Notice) (written : List String),
      view { session with notices := notices, written := written } = view session) :
    Keeps view (Action.note notice) := fun session => same session _ _

/-- A loop keeps what every one of its steps keeps. -/
theorem forIn {state : Type} {items : List α} {initial : state}
    {step : α → state → Action (ForInStep state)}
    (kept : ∀ item current, Keeps view (step item current)) :
    Keeps view (ForIn.forIn items initial step) := by
  induction items generalizing initial with
  | nil => exact Keeps.pure initial
  | cons item items inductionHypothesis =>
      rw [List.forIn_cons]
      refine bind (kept item initial) fun result => ?_
      cases result with
      | done final => exact Keeps.pure final
      | yield next => exact inductionHypothesis

/-- A left fold keeps what every one of its steps keeps. -/
theorem foldlM {item : Type} {items : List item} {initial : α} {step : α → item → Action α}
    (kept : ∀ current next, Keeps view (step current next)) :
    Keeps view (items.foldlM step initial) := by
  induction items generalizing initial with
  | nil => exact Keeps.pure initial
  | cons next items inductionHypothesis =>
      rw [List.foldlM_cons]
      exact bind (kept initial next) fun _ => inductionHypothesis

end Keeps

/-! ## What callers see -/

/-- What callers see of a session besides requests and diagnostics: the callbacks made, the value
that the next one returns, and the data printed. -/
def visible (session : Session) : List (List Value) × Value × List String :=
  (session.delivered, session.callbackResult, session.printed)

/-- A view of the session that shows neither the exchange with the network nor the diagnostics. -/
class IgnoresTraffic {γ : Type} (view : Session → γ) : Prop where
  same : ∀ (session : Session) (replies : List Http.Reply) (sent : List SentRequest)
    (notices : List Notice) (written : List String),
    view { session with
      replies := replies, sent := sent, notices := notices, written := written } = view session

instance : IgnoresTraffic visible := ⟨fun _ _ _ _ _ => rfl⟩

instance : IgnoresTraffic Session.store := ⟨fun _ _ _ _ _ => rfl⟩

section Traffic

variable {γ : Type} {view : Session → γ} [IgnoresTraffic view]

theorem keeps_note [Runtime] (notice : Notice) : Keeps view (note notice) :=
  Keeps.note fun session => IgnoresTraffic.same session session.replies session.sent

theorem keeps_recordSent (request : SentRequest) : Keeps view (recordSent request) :=
  Keeps.modify fun session =>
    IgnoresTraffic.same session session.replies _ session.notices session.written

theorem keeps_nextReply : Keeps view nextReply :=
  Keeps.bind_get fun session => by
    cases session.replies with
    | nil => rfl
    | cons reply rest =>
        exact IgnoresTraffic.same session rest session.sent session.notices session.written

end Traffic

/-! ## Results with a property -/

/-- All results of a computation have a property. -/
def Yields (property : α → Prop) (action : Action α) : Prop :=
  ∀ session value after, action.run session = (.ok value, after) → property value

namespace Yields

variable {property : α → Prop}

theorem pure {value : α} (holds : property value) : Yields property (Pure.pure value) := by
  intro session result after run
  cases run
  exact holds

theorem bind {action : Action α} {next : α → Action β} {goal : β → Prop}
    (first : Yields property action) (second : ∀ value, property value → Yields goal (next value)) :
    Yields goal (action >>= next) := by
  intro session result final run
  obtain ⟨value, after, run, rest⟩ := exists_of_run_bind run
  exact second value (first session value after run) after result final rest

/-- A failure yields nothing. -/
theorem throw (failure : Failure) :
    Yields property (MonadExcept.throw failure : Action α) := by
  intro session value after run
  cases run

/-- Every computation yields something. -/
theorem trivial (action : Action α) : Yields (fun _ => True) action := fun _ _ _ _ => ⟨⟩

/-- A left fold yields what its start has and every step keeps. -/
theorem foldlM {item : Type} {items : List item} {step : α → item → Action α} {initial : α}
    (start : property initial)
    (keeps : ∀ current next, property current → Yields property (step current next)) :
    Yields property (items.foldlM step initial) := by
  induction items generalizing initial with
  | nil => exact pure start
  | cons next items inductionHypothesis =>
      rw [List.foldlM_cons]
      exact bind (keeps initial next start) fun _ holds => inductionHypothesis holds

end Yields

/-! ## Maintaining an invariant -/

/-- Every run of a computation keeps an invariant of sessions, and under it its result has a
property or its failure another one. -/
def Maintains (invariant : Session → Prop) (refusal : Failure → Prop) (property : α → Prop)
    (action : Action α) : Prop :=
  ∀ session, invariant session →
    invariant (action.run session).2 ∧ Outcome refusal property (action.run session).1

namespace Maintains

variable {invariant : Session → Prop} {refusal : Failure → Prop} {property : α → Prop}

theorem pure {value : α} (holds : property value) :
    Maintains invariant refusal property (Pure.pure value : Action α) :=
  fun _ start => ⟨start, holds⟩

theorem throw {failure : Failure} (refused : refusal failure) :
    Maintains invariant refusal property (MonadExcept.throw failure : Action α) :=
  fun _ start => ⟨start, refused⟩

/-- Nothing happens after a failure. -/
theorem throw_bind {failure : Failure} (refused : refusal failure) (next : β → Action α) :
    Maintains invariant refusal property ((MonadExcept.throw failure : Action β) >>= next) :=
  fun _ start => ⟨start, refused⟩

theorem ofExcept {result : Except Failure α} (outcome : Outcome refusal property result) :
    Maintains invariant refusal property (Action.ofExcept result) := by
  intro session start
  rw [run_ofExcept]
  exact ⟨start, outcome⟩

theorem bind {action : Action α} {next : α → Action β} {goal : β → Prop}
    (first : Maintains invariant refusal property action)
    (second : ∀ value, property value → Maintains invariant refusal goal (next value)) :
    Maintains invariant refusal goal (action >>= next) := by
  intro session start
  obtain ⟨kept, outcome⟩ := first session start
  rw [run_bind]
  rcases ran : action.run session with ⟨failure | value, after⟩
  · rw [ran] at kept outcome
    exact ⟨kept, outcome⟩
  · rw [ran] at kept outcome
    exact second value outcome after kept

/-- A session that is read has the invariant. -/
theorem bind_get {next : Session → Action α}
    (rest : ∀ session, invariant session →
      invariant ((next session).run session).2 ∧
        Outcome refusal property ((next session).run session).1) :
    Maintains invariant refusal property (MonadState.get >>= next) := by
  intro session start
  rw [run_bind_ok (run_get session)]
  exact rest session start

/-- A computation that keeps a view keeps every invariant of it. -/
theorem of_keeps {γ : Type} {view : Session → γ} (holds : γ → Prop) {action : Action α}
    (kept : Keeps view action) :
    Maintains (fun session => holds (view session)) (fun _ => True) (fun _ => True) action := by
  intro session start
  exact ⟨(congrArg holds (kept session)).mpr start, .of_cases (fun _ _ => trivial) fun _ _ => trivial⟩

end Maintains

end Action

end Routebook

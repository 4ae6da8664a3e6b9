import Routebook.Output
import Routebook.Proofs.Session.Action

/-!
# The two streams

An operation of the output is a line for the diagnostics or a piece of data.  What an operation
writes depends on how output is written, and not on what was written before
(`Output.writes_perform`); lines go to the diagnostics alone and data to the data alone.  So what a
sequence of operations leaves among the data is what its data operations leave, one after the other
(`Output.printed_performAll`).
-/

namespace Routebook

set_option autoImplicit false

variable [Runtime]

open Routebook.Action

/-- The session after lines and data were written in it. -/
def Session.writing (session : Session) (lines : List Notice) (data : List String) : Session :=
  { session.noting lines with printed := session.printed ++ data }

theorem Session.writing_nil (session : Session) : session.writing [] [] = session := by
  simp [Session.writing]

theorem Session.writing_writing (session : Session) (lines more : List Notice)
    (data further : List String) :
    (session.writing lines data).writing more further
      = session.writing (lines ++ more) (data ++ further) := by
  simp [Session.writing, Session.noting]

/-! ## Computations that only write -/

namespace Action

variable {α β : Type} {output : Output}

/-- A computation with a result that adds lines and data to whatever session it runs in, if output
is written in a given way. -/
def Writes (output : Output) (action : Action α) (result : Except Failure α) (notices : List Notice)
    (printed : List String) : Prop :=
  ∀ session, session.output = output →
    action.run session = (result, session.writing notices printed)

namespace Writes

/-- A computation that writes nothing. -/
theorem of_run {action : Action α} {result : Except Failure α}
    (run : ∀ session, action.run session = (result, session)) :
    Writes output action result [] [] := by
  intro session _
  rw [session.writing_nil, run]

theorem pure (value : α) : Writes output (Pure.pure value : Action α) (.ok value) [] [] :=
  of_run fun _ => rfl

theorem throw (failure : Failure) :
    Writes output (MonadExcept.throw failure : Action α) (.error failure) [] [] :=
  of_run fun _ => rfl

theorem ofExcept (result : Except Failure α) :
    Writes output (Action.ofExcept result) result [] [] :=
  of_run (run_ofExcept result)

theorem note (notice : Notice) : Writes output (Action.note notice) (.ok ⟨⟩) [notice] [] := by
  intro session _
  rw [run_note, Session.writing, List.append_nil]
  rfl

variable {action : Action α} {next : α → Action β} {notices more : List Notice}
  {printed further : List String}

theorem bind {value : α} {result : Except Failure β}
    (first : Writes output action (.ok value) notices printed)
    (second : Writes output (next value) result more further) :
    Writes output (action >>= next) result (notices ++ more) (printed ++ further) := by
  intro session same
  have later : (session.writing notices printed).output = output := same
  rw [run_bind_ok (first session same), second _ later, Session.writing_writing]

theorem bind_error {failure : Failure} (first : Writes output action (.error failure) notices printed) :
    Writes output (action >>= next) (.error failure) notices printed := by
  intro session same
  rw [run_bind_error (first session same)]

/-- Reading the session and going on from how output is written. -/
theorem bind_get {next : Session → Action β} {result : Except Failure β}
    (rest : ∀ session, session.output = output →
      Writes output (next session) result notices printed) :
    Writes output (MonadState.get >>= next) result notices printed := by
  intro session same
  rw [run_bind_ok (run_get session)]
  exact rest session same session same

/-- A text is printed if it is whole. -/
theorem print (text : String) :
    Writes output (Action.print text) (Text.requireWhole text.toList) []
      (if Text.isWhole text.toList then [text ++ "\n"] else []) := by
  intro session _
  by_cases whole : Text.isWhole text.toList = true
  · rw [run_print whole, Text.requireWhole_eq_ok_iff.mpr whole, if_pos whole, Session.writing,
      Session.noting_nil]
  · rw [run_print_of_not_whole whole, Text.requireWhole_of_not_whole whole, if_neg whole,
      Session.writing_nil]

end Writes

/-- A computation that writes data and no lines, the same for every output with a format and a
width.
-/
def Prints (format : Format) (width : Nat) (action : Action α) : Prop :=
  ∃ result printed, ∀ output : Output, output.format = format → output.width = width →
    Writes output action result [] printed

namespace Prints

variable {format : Format} {width : Nat}

theorem pure (value : α) : Prints format width (Pure.pure value : Action α) :=
  ⟨_, _, fun _ _ _ => Writes.pure value⟩

theorem ofExcept (result : Except Failure α) : Prints format width (Action.ofExcept result) :=
  ⟨_, _, fun _ _ _ => Writes.ofExcept result⟩

theorem print (text : String) : Prints format width (Action.print text) :=
  ⟨_, _, fun _ _ _ => Writes.print text⟩

theorem bind {action : Action α} {next : α → Action β} (first : Prints format width action)
    (second : ∀ value, Prints format width (next value)) : Prints format width (action >>= next) := by
  obtain ⟨result, printed, writes⟩ := first
  cases result with
  | error failure =>
      exact ⟨_, _, fun output formatted wide => (writes output formatted wide).bind_error⟩
  | ok value =>
      obtain ⟨other, further, rest⟩ := second value
      exact ⟨other, printed ++ further, fun output formatted wide =>
        (writes output formatted wide).bind (rest output formatted wide)⟩

/-- Reading the session and going on from the format and the width. -/
theorem bind_get {next : Session → Action β} {body : Action β}
    (reads : ∀ session : Session, session.output.format = format → session.output.width = width →
      next session = body)
    (rest : Prints format width body) : Prints format width (MonadState.get >>= next) := by
  obtain ⟨result, printed, writes⟩ := rest
  refine ⟨result, printed, fun output formatted wide => Writes.bind_get fun session same => ?_⟩
  rw [reads session (same ▸ formatted) (same ▸ wide)]
  exact writes output formatted wide

theorem forIn {state : Type} {items : List α} {initial : state}
    {step : α → state → Action (ForInStep state)}
    (prints : ∀ item current, Prints format width (step item current)) :
    Prints format width (ForIn.forIn items initial step) := by
  induction items generalizing initial with
  | nil => exact Prints.pure initial
  | cons item items inductionHypothesis =>
      rw [List.forIn_cons]
      apply bind (prints item initial)
      intro result
      cases result with
      | done final => exact Prints.pure final
      | yield next => exact inductionHypothesis

theorem forM {items : List α} {step : α → Action PUnit}
    (prints : ∀ item, Prints format width (step item)) :
    Prints format width (items.forM step) := by
  induction items with
  | nil => exact Prints.pure _
  | cons item items inductionHypothesis =>
      rw [List.forM_eq_forM, List.forM_cons]
      exact bind (prints item) fun _ => inductionHypothesis

end Prints

/-- A computation that notes lines and writes no data. -/
def Notes (output : Output) (action : Action α) : Prop :=
  ∃ result notices, Writes output action result notices []

namespace Notes

theorem throw_bind (failure : Failure) (next : α → Action β) :
    Notes output ((MonadExcept.throw failure : Action α) >>= next) :=
  ⟨_, _, (Writes.throw failure).bind_error⟩

theorem note (notice : Notice) : Notes output (Action.note notice) := ⟨_, _, Writes.note notice⟩

theorem ofExcept_bind (result : Except Failure α) {next : α → Action β}
    (rest : ∀ value, Notes output (next value)) : Notes output (Action.ofExcept result >>= next) := by
  cases result with
  | error failure => exact throw_bind failure next
  | ok value => exact rest value

/-- Reading the session and going on from how output is written. -/
theorem bind_get {next : Session → Action β}
    (reads : ∀ first second : Session, first.output = second.output → next first = next second)
    (rest : ∀ session, session.output = output → Notes output (next session)) :
    Notes output (MonadState.get >>= next) := by
  obtain ⟨result, notices, writes⟩ := rest { Session.empty with output } rfl
  refine ⟨result, notices, Writes.bind_get fun session same => ?_⟩
  rw [reads session { Session.empty with output } same]
  exact writes

end Notes

end Action

namespace Output

/-! ## Operations -/

/-- The kinds of lines. -/
inductive Diagnostic
  | info
  | success
  | warning
  | error
  | debug
  deriving DecidableEq, Repr

/-- The line of a kind with a text. -/
def Diagnostic.notice : Diagnostic → String → Notice
  | .info => .info
  | .success => .success
  | .warning => .warning
  | .error => .error
  | .debug => .debug

/-- An operation of the output. -/
inductive Operation
  | announce (kind : Diagnostic) (message : Value)
  | printData (text : String)
  | formatResponse (data : Value)
  | printTable (data : TableData)

/-- Whether an operation writes data. -/
def Operation.isData : Operation → Bool
  | .announce _ _ => false
  | .printData _ | .formatResponse _ | .printTable _ => true

/-- Performs an operation. -/
def perform : Operation → Action Unit
  | .announce kind message => Output.announce kind.notice message
  | .printData text => Action.print text
  | .formatResponse data => printResponse data
  | .printTable data => Output.printTable data

/-! ## What an operation writes -/

section Written

variable (output : Output) (format : Format) (width : Nat)

theorem prints_printJson (data : Value) : Prints format width (printJson data) := by
  have rendered : ∀ value : Value, Prints format width (do
      Action.print (← Action.ofExcept (Json.render .readable value))) := by
    intro value
    exact Prints.bind (Prints.ofExcept _) fun text => Prints.print text
  cases data with
  | text text =>
      apply Prints.bind (Prints.ofExcept _)
      intro decoded
      cases decoded with
      | none => exact Prints.print text
      | some value => exact rendered value
  | _ => exact rendered _

theorem prints_printRichValue (cells : Nat) (data : Value) :
    Prints format width (printRichValue cells data) := by
  cases data with
  | null => exact Prints.pure _
  | mapping entries => exact Prints.bind (Prints.ofExcept _) fun text => Prints.print _
  | list items => exact Prints.bind (Prints.ofExcept _) fun text => Prints.print _
  | _ => exact Prints.bind (Prints.ofExcept _) fun text => Prints.print _

theorem prints_printRich (cells : Nat) (data : Value) :
    Prints format width (printRich cells data) := by
  have whole := prints_printRichValue format width cells data
  cases data with
  | text text =>
      apply Prints.bind (Prints.ofExcept _)
      intro decoded
      cases decoded with
      | none => exact Prints.print _
      | some value => exact prints_printRichValue format width cells value
  | _ => exact whole

theorem prints_printResponse (data : Value) : Prints format width (printResponse data) := by
  have lines : Prints format width ((plainLines data).forM fun line => do
      Action.print (← Action.ofExcept line)) :=
    Prints.forM fun line => Prints.bind (Prints.ofExcept _) fun text => Prints.print text
  cases format with
  | json =>
      refine Prints.bind_get (fun session formatted wide => ?_) (prints_printJson .json width data)
      simp only [formatted]
  | plain =>
      refine Prints.bind_get (fun session formatted wide => ?_) lines
      simp only [formatted]
  | rich =>
      refine Prints.bind_get (fun session formatted wide => ?_)
        (prints_printRich .rich width width data)
      simp only [formatted, wide]

theorem prints_printTable (data : TableData) : Prints format width (Output.printTable data) := by
  cases format with
  | json =>
      have records : Prints .json width (do
          let records ← Action.ofExcept do (← parts data.rows).mapM (record data.headings)
          Action.print (← Action.ofExcept (Json.render .records (.list records)))) :=
        Prints.bind (Prints.ofExcept _) fun _ =>
          Prints.bind (Prints.ofExcept _) fun text => Prints.print text
      refine Prints.bind_get (fun session formatted wide => ?_) records
      simp only [formatted]
  | plain =>
      have rows : Prints .plain width (do
          Action.print (← Action.ofExcept (rowLine data.headings))
          for row in ← Action.ofExcept (parts data.rows) do
            Action.print (← Action.ofExcept (rowLine row))) := by
        refine Prints.bind (Prints.ofExcept _) fun heading => ?_
        refine Prints.bind (Prints.print heading) fun _ => ?_
        refine Prints.bind (Prints.ofExcept _) fun rows => ?_
        refine Prints.bind (Prints.forIn fun row _ => ?_) fun _ => Prints.pure _
        refine Prints.bind (Prints.ofExcept _) fun line => ?_
        exact Prints.bind (Prints.print line) fun _ => Prints.pure _
      refine Prints.bind_get (fun session formatted wide => ?_) rows
      simp only [formatted]
  | rich =>
      have lines : Prints .rich width (do
          let lines ← Action.ofExcept (tableLines width data)
          Action.print (String.ofList (['\n'].intercalate lines))) :=
        Prints.bind (Prints.ofExcept _) fun lines => Prints.print _
      refine Prints.bind_get (fun session formatted wide => ?_) lines
      simp only [formatted, wide]

/-- A text is announced as a line of a kind. -/
theorem writes_announce_text (kind : Diagnostic) (text : String) :
    Writes output (Output.announce kind.notice (.text text)) (.ok ⟨⟩) [kind.notice text] [] :=
  Writes.bind_get fun _ _ => Writes.note (kind.notice text)

/-- Announcing something writes no data. -/
theorem notes_announce (kind : Diagnostic) (message : Value) :
    Notes output (Output.announce kind.notice message) := by
  refine Notes.bind_get (fun first second same => by simp only [same]) fun session same => ?_
  cases message with
  | text text => exact Notes.note _
  | _ =>
      dsimp only
      split
      · split
        · exact Notes.throw_bind _ _
        · exact Notes.ofExcept_bind _ fun _ => Notes.note _
      · exact Notes.note _

end Written

/-! ## Operations on an output -/

section Operations

variable (output : Output) (operation : Operation)

/-- What a session has after an operation when it had nothing before, and how the operation ended.
-/
def outcomeOf : Except Failure Unit × Session :=
  (perform operation).run { Session.empty with output }

/-- The data that an operation writes. -/
def written : List String := (outcomeOf output operation).2.printed

/-- The lines that an operation notes. -/
def noted : List Notice := (outcomeOf output operation).2.notices

/-- The result of an operation. -/
def result : Except Failure Unit := (outcomeOf output operation).1

/-- A data operation writes the same data for every output with a format and a width. -/
theorem prints_perform {operation : Operation} (data : operation.isData = true) (format : Format)
    (width : Nat) : Prints format width (perform operation) := by
  cases operation with
  | announce kind message => cases data
  | printData text => exact Prints.print text
  | formatResponse body => exact prints_printResponse format width body
  | printTable table => exact prints_printTable format width table

theorem exists_writes : ∃ result notices printed,
    Writes output (perform operation) result notices printed ∧
      (operation.isData = false → printed = []) ∧ (operation.isData = true → notices = []) := by
  cases data : operation.isData with
  | false =>
      cases operation with
      | announce kind message =>
          obtain ⟨result, notices, writes⟩ := notes_announce output kind message
          exact ⟨result, notices, [], writes, fun _ => rfl, nofun⟩
      | _ => cases data
  | true =>
      obtain ⟨result, printed, writes⟩ := prints_perform data output.format output.width
      exact ⟨result, [], printed, writes output rfl rfl, nofun, fun _ => rfl⟩

variable {output operation}

/-- What a computation is known to write is what it writes where nothing was written. -/
theorem outcomeOf_of_writes {result : Except Failure Unit} {notices : List Notice}
    {printed : List String} (writes : Writes output (perform operation) result notices printed) :
    output.result operation = result ∧ output.noted operation = notices ∧
      output.written operation = printed := by
  have run := writes { Session.empty with output } rfl
  simp only [Output.result, noted, written, outcomeOf, run]
  trivial

variable (output operation)

/-- **What an operation writes does not depend on what was written before.** -/
theorem writes_perform : Writes output (perform operation) (output.result operation)
    (output.noted operation) (output.written operation) := by
  obtain ⟨result, notices, printed, writes, -⟩ := exists_writes output operation
  obtain ⟨rfl, rfl, rfl⟩ := outcomeOf_of_writes writes
  exact writes

/-- **Lines for the diagnostics are no data.** -/
theorem written_of_diagnostic {operation : Operation} (diagnostic : operation.isData = false) :
    output.written operation = [] := by
  obtain ⟨result, notices, printed, writes, nothing, -⟩ := exists_writes output operation
  rw [(outcomeOf_of_writes writes).2.2, nothing diagnostic]

/-- **Data is no line for the diagnostics.** -/
theorem noted_of_data {operation : Operation} (data : operation.isData = true) :
    output.noted operation = [] := by
  obtain ⟨result, notices, printed, writes, -, nothing⟩ := exists_writes output operation
  rw [(outcomeOf_of_writes writes).2.1, nothing data]

end Operations

/-! ## Sequences of operations -/

/-- Performs operations one after the other, whether or not they fail. -/
def performAll (operations : List Operation) (session : Session) : Session :=
  operations.foldl (fun current operation => ((perform operation).run current).2) session

/-- **A sequence of operations writes what its operations write, one after the other.** -/
theorem performAll_eq (operations : List Operation) (session : Session) :
    performAll operations session = session.writing (operations.flatMap session.output.noted)
      (operations.flatMap session.output.written) := by
  induction operations generalizing session with
  | nil => exact session.writing_nil.symm
  | cons operation rest inductionHypothesis =>
      have first := writes_perform session.output operation session rfl
      rw [performAll, List.foldl_cons, first]
      refine (inductionHypothesis _).trans ?_
      rw [Session.writing_writing, List.flatMap_cons, List.flatMap_cons]
      rfl

/-- Performs operations one after the other, until one of them fails. -/
def performUntilFailure : List Operation → Action Unit
  | [] => pure ()
  | operation :: rest => do
      perform operation
      performUntilFailure rest

/-- The data operations of a sequence. -/
def dataOf (operations : List Operation) : List Operation := operations.filter Operation.isData

/-- Lines for the diagnostics leave nothing among the data of a sequence. -/
theorem flatMap_written_dataOf (output : Output) (operations : List Operation) :
    (dataOf operations).flatMap output.written = operations.flatMap output.written := by
  induction operations with
  | nil => rfl
  | cons operation rest inductionHypothesis =>
      by_cases data : operation.isData = true
      · have kept : dataOf (operation :: rest) = operation :: dataOf rest :=
          List.filter_cons_of_pos data
        rw [kept, List.flatMap_cons, List.flatMap_cons, inductionHypothesis]
      · have dropped : dataOf (operation :: rest) = dataOf rest := List.filter_cons_of_neg data
        have nothing := written_of_diagnostic output (Bool.eq_false_iff.mpr data)
        rw [dropped, List.flatMap_cons, nothing, inductionHypothesis, List.nil_append]

/-- An operation whose message, if it has one, is a text. -/
def Operation.Stated : Operation → Prop
  | .announce _ message => ∃ text, message = .text text
  | _ => True

/-- A text can always be announced. -/
theorem result_of_stated (output : Output) {operation : Operation} (stated : operation.Stated)
    (diagnostic : ¬operation.isData = true) : output.result operation = .ok () := by
  cases operation with
  | announce kind message =>
      obtain ⟨text, rfl⟩ := stated
      exact (outcomeOf_of_writes (writes_announce_text output kind text)).1
  | _ => exact absurd rfl diagnostic

section Congruence

variable {output other : Output} (format : output.format = other.format)
  (width : output.width = other.width)

include format width

/-- What comes of a data operation depends on the output only by its format and its width. -/
theorem outcome_congr {operation : Operation} (data : operation.isData = true) :
    output.result operation = other.result operation ∧
      output.written operation = other.written operation := by
  obtain ⟨result, printed, writes⟩ := prints_perform data other.format other.width
  obtain ⟨results, -, writtens⟩ := outcomeOf_of_writes (writes output format width)
  obtain ⟨others, -, othersWritten⟩ := outcomeOf_of_writes (writes other rfl rfl)
  exact ⟨results.trans others.symm, writtens.trans othersWritten.symm⟩

/-- What an operation writes as data depends on the output only by its format and its width. -/
theorem written_congr (operation : Operation) :
    output.written operation = other.written operation := by
  cases data : operation.isData with
  | false => rw [written_of_diagnostic output data, written_of_diagnostic other data]
  | true => exact (outcome_congr format width data).2

end Congruence

section Sessions

variable {session start : Session} (format : session.output.format = start.output.format)
  (width : session.output.width = start.output.width) (same : session.printed = start.printed)

include format width same

/-- **The data of a sequence of operations is that of its data operations alone**, and does not
depend on anything but the format and the width. -/
theorem printed_performAll (operations : List Operation) :
    (performAll operations session).printed = (performAll (dataOf operations) start).printed := by
  have written : session.output.written = start.output.written :=
    funext (written_congr format width)
  rw [performAll_eq, performAll_eq]
  change session.printed ++ _ = start.printed ++ _
  rw [flatMap_written_dataOf, written, same]

/-- **The same holds of a sequence that ends with the first operation that fails**, if the messages
are texts: these can always be announced. -/
theorem printed_performUntilFailure (operations : List Operation)
    (stated : ∀ operation ∈ operations, operation.Stated) :
    ((performUntilFailure operations).run session).1
        = ((performUntilFailure (dataOf operations)).run start).1 ∧
      ((performUntilFailure operations).run session).2.printed
        = ((performUntilFailure (dataOf operations)).run start).2.printed := by
  induction operations generalizing session start with
  | nil => exact ⟨rfl, same⟩
  | cons operation rest inductionHypothesis =>
      obtain ⟨own, others⟩ := List.forall_mem_cons.mp stated
      have first := writes_perform session.output operation session rfl
      rw [performUntilFailure]
      by_cases data : operation.isData = true
      · have kept : dataOf (operation :: rest) = operation :: dataOf rest :=
          List.filter_cons_of_pos data
        have second := writes_perform start.output operation start rfl
        obtain ⟨results, writtens⟩ := outcome_congr format width data
        have printed : session.printed ++ session.output.written operation
            = start.printed ++ start.output.written operation := by rw [same, writtens]
        rw [kept, performUntilFailure, run_bind, first, run_bind, second, results]
        cases start.output.result operation with
        | error failure => exact ⟨rfl, printed⟩
        | ok done => exact inductionHypothesis format width printed others
      · have dropped : dataOf (operation :: rest) = dataOf rest := List.filter_cons_of_neg data
        have nothing := written_of_diagnostic session.output (Bool.eq_false_iff.mpr data)
        rw [dropped, run_bind, first, result_of_stated _ own data, nothing]
        exact inductionHypothesis format width ((List.append_nil _).trans same) others

end Sessions

end Output

end Routebook

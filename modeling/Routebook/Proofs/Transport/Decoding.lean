import Routebook.Proofs.Json.Limits
import Routebook.Proofs.Transport.Invocation

/-!
# What a decoding callback hands on

A decoding callback can stand before anything that can be called back (`Callback.decodingFor`).
What it owes to that is settled by its own arguments (`Callback.due`): the error alone, the message
with the value of the body, or the problem that the body is no JSON.  It hands on what it owes in a
single call and returns what that call returns, unless there is no error and the reader meets one of
its limits in the body; then it fails before it calls anything (`Callback.calls_once_iff`).
-/

namespace Routebook

set_option autoImplicit false

open Routebook.Action

section Runtimes

variable [Runtime]

/-! ## Bodies -/

namespace Body

/-- The value of a body: that of the JSON in a text or in bytes, if they are JSON, and of everything
else but null the body itself. -/
def value? : Value → Option Value
  | .text text => (Json.parse text).toOption
  | .bytes bytes => (Json.parseBytes bytes).toOption
  | .null => none
  | decoded => some decoded

/-- The text of a body that is a text or bytes of one. -/
def text? : Value → Option (List Char)
  | .text text => some text.toList
  | .bytes bytes => ((Text.Encoding.detect bytes).decodeWith true bytes).toOption
  | _ => none

/-- The failure of a reading that ended at a limit. -/
def limitFailure? : Except Json.Fault Value → Option Failure
  | .error .tooManyDigits => some .badValue
  | .error .tooDeep => some .tooDeep
  | _ => none

/-- The failure of the reader at a limit that it meets in a body. -/
def refusal? : Value → Option Failure
  | .text text => limitFailure? (Json.parse text)
  | .bytes bytes => limitFailure? (Json.parseBytes bytes)
  | _ => none

/-- A text passes the limit that a failure of the reader stands for. -/
def PassesLimit (text : List Char) (failure : Failure) : Prop :=
  failure = .badValue ∧ Json.HoldsLongInteger text
    ∨ failure = .tooDeep ∧ Runtime.jsonDepth < Json.openings text

omit [Runtime] in
theorem limitFailure?_eq_some {reading : Except Json.Fault Value} {failure : Failure}
    (found : limitFailure? reading = some failure) :
    failure = .badValue ∧ reading = .error .tooManyDigits
      ∨ failure = .tooDeep ∧ reading = .error .tooDeep := by
  unfold limitFailure? at found
  split at found
  · exact .inl ⟨(Option.some.inj found).symm, rfl⟩
  · exact .inr ⟨(Option.some.inj found).symm, rfl⟩
  · cases found

/-- A body that is refused has a text, and the text passes the limit. -/
theorem passesLimit_of_refusal? {body : Value} {failure : Failure}
    (refused : refusal? body = some failure) :
    ∃ text, text? body = some text ∧ PassesLimit text failure := by
  cases body with
  | text text =>
      refine ⟨text.toList, rfl, ?_⟩
      rcases limitFailure?_eq_some refused with ⟨rfl, digits⟩ | ⟨rfl, depth⟩
      · exact .inl ⟨rfl, Json.holdsLongInteger_of_parse digits⟩
      · exact .inr ⟨rfl, Json.openings_of_parse depth⟩
  | bytes bytes =>
      rcases limitFailure?_eq_some refused with ⟨rfl, digits⟩ | ⟨rfl, depth⟩
      · obtain ⟨text, decoded, long⟩ := Json.holdsLongInteger_of_parseBytes digits
        exact ⟨text, by rw [text?, decoded]; rfl, .inl ⟨rfl, long⟩⟩
      · obtain ⟨text, decoded, deep⟩ := Json.openings_of_parseBytes depth
        exact ⟨text, by rw [text?, decoded]; rfl, .inr ⟨rfl, deep⟩⟩
  | _ => cases refused

end Body

/-! ## Decoding -/

/-- The result of decoding a body: its value, or a fault that is the reader's refusal of it, or else
that it is no JSON. -/
inductive Body.Decoding (body : Value) : Except BodyFault Value → Prop
  | decoded {value : Value} (accepted : Body.refusal? body = none)
      (found : Body.value? body = some value) : Decoding body (.ok value)
  | unreadable {reason : String} (accepted : Body.refusal? body = none)
      (missing : Body.value? body = none) : Decoding body (.error (.unreadable reason))
  | tooManyDigits (refused : Body.refusal? body = some .badValue) :
      Decoding body (.error .tooManyDigits)
  | tooDeep (refused : Body.refusal? body = some .tooDeep) : Decoding body (.error .tooDeep)

/-- The result of a reading decides what decoding makes of what was read. -/
theorem Body.decoding_of_reading {body : Value} {reading : Except Json.Fault Value}
    (decoded : decodeBody body = match reading with
      | .ok value => .ok value
      | .error fault => .error (.ofJson fault))
    (value : Body.value? body = reading.toOption)
    (refusal : Body.refusal? body = Body.limitFailure? reading) :
    Body.Decoding body (decodeBody body) := by
  rw [decoded]
  rcases reading with fault | found
  · cases fault with
    | tooManyDigits => exact .tooManyDigits refusal
    | tooDeep => exact .tooDeep refusal
    | malformed _ _ _ _ | undecodable _ => exact .unreadable refusal value
  · exact .decoded refusal value

/-- Decoding yields the value of a body unless there is none or the reader refuses the body. -/
theorem decoding_decodeBody (body : Value) : Body.Decoding body (decodeBody body) := by
  cases body with
  | text text => exact Body.decoding_of_reading rfl rfl rfl
  | bytes bytes => exact Body.decoding_of_reading rfl rfl rfl
  | null => exact .unreadable rfl rfl
  | _ => exact .decoded rfl rfl

namespace Callback

/-! ## Calling once -/

/-- A decoding callback before anything that can be called back. -/
def decodingFor (invoke : List Value → Action Value) (arguments : List Value) : Action Value :=
  handOn arguments >>= invoke

/-- What a decoding callback owes to the callback behind it. -/
def due (error message body : Value) : List Value :=
  if error.isTruthy then [error, .null, .null]
  else match Body.value? body with
    | some value => [.null, message, value]
    | none => [.problem .bodyNotJson, .null, .null]

/-- The failure with which a decoding callback refuses its arguments: without an error, that of the
reader. -/
def refusal? (error body : Value) : Option Failure :=
  if error.isTruthy then none else Body.refusal? body

/-- From a session on, a decoding callback comes down to one call with what it owes, whatever it
stands before; up to that call it does nothing but note lines. -/
def CallsOnce (error message body : Value) (start : Session) : Prop :=
  ∃ lines, ∀ invoke, (decodingFor invoke [error, message, body]).run start
    = (invoke (due error message body)).run (start.noting lines)

/-- With three arguments a decoding callback goes by the error first. -/
theorem handOn_eq (error message body : Value) :
    handOn [error, message, body] =
      if error.isTruthy then pure [error, .null, .null]
      else match decodeBody body with
        | .ok decoded => pure [.null, message, decoded]
        | .error (.unreadable reason) => do
            Action.debug ("Response body is not JSON: " ++ reason)
            return [.problem .bodyNotJson, .null, .null]
        | .error .tooManyDigits => throw .badValue
        | .error .tooDeep => throw .tooDeep := rfl

/-- **What is not refused is handed on.** -/
theorem run_handOn (error message body : Value) (start : Session) :
    (refusal? error body = none ∧ ∃ lines, (handOn [error, message, body]).run start
      = (.ok (due error message body), start.noting lines)) ∨
    ∃ failure, refusal? error body = some failure ∧
      (handOn [error, message, body]).run start = (.error failure, start) := by
  rw [handOn_eq, refusal?, due]
  by_cases failed : error.isTruthy = true
  · rw [if_pos failed, if_pos failed, if_pos failed]
    refine .inl ⟨rfl, [], ?_⟩
    rw [start.noting_nil]
    rfl
  · rw [if_neg failed, if_neg failed, if_neg failed]
    have decoding := decoding_decodeBody body
    cases result : decodeBody body with
    | ok value =>
        rw [result] at decoding
        obtain ⟨accepted, found⟩ := decoding
        rw [found]
        refine .inl ⟨accepted, [], ?_⟩
        rw [start.noting_nil]
        rfl
    | error fault =>
        rw [result] at decoding
        cases decoding with
        | @unreadable reason accepted missing =>
            rw [missing]
            exact .inl ⟨accepted, [.debug ("Response body is not JSON: " ++ reason)], rfl⟩
        | tooManyDigits refused => exact .inr ⟨_, refused, rfl⟩
        | tooDeep refused => exact .inr ⟨_, refused, rfl⟩

/-- What is refused is not handed on, and nothing happens. -/
theorem run_handOn_of_refused {error message body : Value} {failure : Failure}
    (refused : refusal? error body = some failure) (start : Session) :
    (handOn [error, message, body]).run start = (.error failure, start) := by
  rcases run_handOn error message body start with ⟨accepted, -⟩ | ⟨found, same, run⟩
  · rw [accepted] at refused
    cases refused
  · rw [same] at refused
    cases refused
    exact run

/-- Where something is refused there is no call. -/
theorem not_callsOnce_of_refused {error message body : Value} {failure : Failure}
    (refused : refusal? error body = some failure) (start : Session) :
    ¬CallsOnce error message body start := by
  rintro ⟨lines, once⟩
  -- A callback that just returns would have returned.
  have returned := once fun _ => pure .null
  rw [decodingFor, run_bind_error (run_handOn_of_refused refused start)] at returned
  cases returned

/-- **A decoding callback makes the call that it owes exactly when the reader does not refuse the
body.**  Any error and any body that is no text and no bytes can do without the reader; a text that
is refused is nested too deeply or has too many digits in a row, and then there is no call at all.
-/
theorem calls_once_iff (error message body : Value) :
    (∀ inner : Callback, (Callback.decoding inner).call = decodingFor inner.call) ∧
    (∀ start, CallsOnce error message body start ↔ refusal? error body = none) ∧
    ∀ failure, refusal? error body = some failure →
      (∀ start invoke,
        (decodingFor invoke [error, message, body]).run start = (.error failure, start)) ∧
      error.isTruthy = false ∧
      ∃ text, Body.text? body = some text ∧ Body.PassesLimit text failure := by
  refine ⟨fun inner => funext fun arguments => call_decoding inner arguments, ?_, ?_⟩
  · intro start
    rcases run_handOn error message body start with ⟨accepted, lines, run⟩ | ⟨failure, refused, -⟩
    · exact iff_of_true ⟨lines, fun invoke => run_bind_ok run⟩ accepted
    · refine iff_of_false (not_callsOnce_of_refused refused start) fun accepted => ?_
      rw [accepted] at refused
      cases refused
  · intro failure refused
    have silent : error.isTruthy = false := by
      rw [← Bool.not_eq_true]
      intro failed
      rw [refusal?, if_pos failed] at refused
      cases refused
    refine ⟨fun start invoke => run_bind_error (run_handOn_of_refused refused start), silent, ?_⟩
    rw [refusal?, silent] at refused
    exact Body.passesLimit_of_refusal? refused

end Callback

end Runtimes

namespace Callback

/-! ## A list and brackets -/

attribute [local instance] Runtime.usual

/-- Bytes of a list, with the mark of their encoding before them, are handed on as the list. -/
theorem calls_once_iff_bytes :
    due .null (.response (pageResponse [])) (.bytes [0xEF, 0xBB, 0xBF, 91, 49, 93])
        = [.null, .response (pageResponse []), .list [.int 1]] ∧
      ∀ start, CallsOnce .null (.response (pageResponse []))
        (.bytes [0xEF, 0xBB, 0xBF, 91, 49, 93]) start := by
  refine ⟨rfl, fun start => ?_⟩
  exact ((calls_once_iff _ _ _).2.1 start).mpr rfl

/-- Brackets that only open are no JSON, but nothing is called to say so. -/
theorem not_calls_once_brackets :
    due .null (.response (pageResponse [])) (.text (String.ofList (List.replicate 1000 '[')))
        = [.problem .bodyNotJson, .null, .null] ∧
      (∀ start, ¬CallsOnce .null (.response (pageResponse []))
        (.text (String.ofList (List.replicate 1000 '['))) start) ∧
      ((Callback.decoding (.caller true)).call [.null, .response (pageResponse []),
        .text (String.ofList (List.replicate 1000 '['))]).run Session.empty
          = (.error .tooDeep, Session.empty) := by
  have deep : Json.parse (String.ofList (List.replicate 1000 '[')) = .error .tooDeep :=
    Json.parse_brackets (by decide)
  have refused : refusal? .null (.text (String.ofList (List.replicate 1000 '['))) = some .tooDeep := by
    rw [refusal?, if_neg (by decide), Body.refusal?, deep]
    rfl
  refine ⟨?_, not_callsOnce_of_refused refused, ?_⟩
  · rw [due, if_neg (by decide), Body.value?, deep]
    rfl
  · rw [call_decoding]
    exact run_bind_error (run_handOn_of_refused refused Session.empty)

end Callback

end Routebook

import Routebook.Json.Reader
import Routebook.Session

/-!
# Callbacks

A callback takes an error, a message and a body.  A decoding callback stands before another one and
hands it the body decoded from JSON; it calls the other one exactly once, with the error alone when
there is one or when the body cannot be decoded.
-/

namespace Routebook

set_option autoImplicit false

variable [Runtime]

/-! ## Decoding bodies -/

/-- Why a body cannot be decoded. -/
inductive BodyFault
  /-- It is not JSON. -/
  | unreadable (reason : String)
  /-- It holds an integer with more digits than are read. -/
  | tooManyDigits
  /-- It nests containers more deeply than they are read. -/
  | tooDeep
  deriving DecidableEq, Repr

/-- The failure that a fault of a body is. -/
def BodyFault.failure : BodyFault → Failure
  | .unreadable _ => .problem .bodyNotJson
  | .tooManyDigits => .badValue
  | .tooDeep => .tooDeep

/-- The fault of a body that a reader refused. -/
def BodyFault.ofJson : Json.Fault → BodyFault
  | .tooManyDigits => .tooManyDigits
  | .tooDeep => .tooDeep
  | fault => .unreadable fault.message

/-- Decodes a body: texts and bytes are JSON, null is no body, and everything else is decoded
already. -/
def decodeBody : Value → Except BodyFault Value
  | .text text =>
      match Json.parse text with
      | .ok value => .ok value
      | .error fault => .error (.ofJson fault)
  | .bytes bytes =>
      match Json.parseBytes bytes with
      | .ok value => .ok value
      | .error fault => .error (.ofJson fault)
  | .null => .error (.unreadable Problem.bodyNotJson.message)
  | other => .ok other

/-! ## Calling -/

/-- A callback. -/
inductive Callback
  /-- What a caller passed as a callback; it may not be something that can be called. -/
  | caller (callable : Bool)
  /-- A callback that decodes the body for another one. -/
  | decoding (inner : Callback)
  deriving DecidableEq, Repr

/-- The callback that a caller passed, if any. -/
def Callback.ofHandle : Handle → Option Callback
  | .atom .null => none
  | .atom (.foreign typeName) => some (.caller (typeName == "function"))
  | _ => some (.caller false)

/-- Whether a callback decodes bodies. -/
def Callback.decodes : Callback → Bool
  | .caller _ => false
  | .decoding _ => true

/-- Which callback an optional callback is. -/
def CallbackKind.of : Option Callback → CallbackKind
  | none => .absent
  | some callback => if callback.decodes then .decoding else .plain

/-- Calls a callback with any number of arguments. -/
def Callback.call : Callback → List Value → Action Value
  | .caller callable, arguments =>
      if callable then Action.deliver arguments else throw .wrongType
  | .decoding inner, arguments =>
      match arguments with
      | [] => throw .wrongType
      | error :: rest => do
          if 2 < rest.length then throw .wrongType
          let message := rest[0]?.getD .null
          let body := rest[1]?.getD .null
          if error.isTruthy then inner.call [error, .null, .null]
          else
            match decodeBody body with
            | .ok decoded => inner.call [.null, message, decoded]
            | .error (.unreadable reason) =>
                Action.debug ("Response body is not JSON: " ++ reason)
                inner.call [.problem .bodyNotJson, .null, .null]
            | .error .tooManyDigits => throw .badValue
            | .error .tooDeep => throw .tooDeep

end Routebook

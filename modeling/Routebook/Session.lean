import Routebook.Diagnostics
import Routebook.Http.Clock
import Routebook.Http.Reply
import Routebook.Store

/-!
# Sessions

A session is what the computations of this library read and leave behind: the time, how output is
written, the objects that callers share, the replies that the network has ready, and, in the order
in which they happened, the requests sent, the callbacks made, the lines noted for the diagnostics,
those of them that were written, and the texts printed as data.  A computation that fails keeps what
it left behind before.
-/

namespace Routebook

set_option autoImplicit false

variable [Runtime]

/-- A request as it arrives. -/
structure SentRequest where
  method : String
  url : String
  headers : Http.Headers
  body : List UInt8
  timeout : Value
  deriving Repr

/-- Which callback came with a request. -/
inductive CallbackKind
  | absent
  | plain
  | decoding
  deriving DecidableEq, Repr

/-- What a recording transport writes down. -/
inductive Record
  | request (transport : Nat) (callback : CallbackKind) (options : Entries)
  | defaults (options : Value)
  deriving Repr

/-- A session. -/
structure Session where
  /-- The time. -/
  clock : Http.Clock
  /-- How output is written. -/
  output : Output
  /-- The objects that callers share. -/
  store : Store
  /-- What the network answers next. -/
  replies : List Http.Reply
  /-- The requests that were sent. -/
  sent : List SentRequest
  /-- The arguments that recording transports hand to callbacks next. -/
  prepared : List (List Value)
  /-- What recording transports wrote down. -/
  records : List Record
  /-- The number of recording transports made so far. -/
  transports : Nat
  /-- The arguments of the callbacks made. -/
  delivered : List (List Value)
  /-- What the caller's callback returns. -/
  callbackResult : Value
  /-- The lines noted, whether or not they show. -/
  notices : List Notice
  /-- What was written of them. -/
  written : List String
  /-- The texts printed as data, line ends included. -/
  printed : List String

/-- A session in which nothing has happened and nothing is prepared. -/
def Session.empty : Session where
  clock := .start
  output := .default
  store := Store.empty
  replies := []
  sent := []
  prepared := []
  records := []
  transports := 0
  delivered := []
  callbackResult := .null
  notices := []
  written := []
  printed := []

/-- A computation in a session that may fail. -/
abbrev Action (α : Type) := ExceptT Failure (StateM Session) α

namespace Action

/-- Runs a computation. -/
def run {α : Type} (action : Action α) (session : Session) : Except Failure α × Session :=
  Id.run (StateT.run (ExceptT.run action) session)

/-- A computation that fails or yields a given result. -/
def ofExcept {α : Type} (result : Except Failure α) : Action α :=
  match result with
  | .ok value => pure value
  | .error failure => throw failure

/-- Notes a line, which is written if it shows. -/
def note (notice : Notice) : Action Unit :=
  modify fun session =>
    { session with
      notices := session.notices ++ [notice]
      written := session.written ++ [session.output.writeNotice notice] }

/-- Notes a line for debugging. -/
def debug (text : String) : Action Unit := note (.debug text)

/-- Prints data on a line of its own, if it can be encoded. -/
def print (text : String) : Action Unit := do
  ofExcept (Text.requireWhole text.toList)
  modify fun session => { session with printed := session.printed ++ [text ++ "\n"] }

/-- Takes the next reply of the network; after the last one every request is answered with success.
-/
def nextReply : Action Http.Reply := do
  let session ← get
  match session.replies with
  | [] => return Http.Reply.empty
  | reply :: rest =>
      set { session with replies := rest }
      return reply

/-- Writes down a request that arrives. -/
def recordSent (request : SentRequest) : Action Unit :=
  modify fun session => { session with sent := session.sent ++ [request] }

/-- Writes down what a recording transport saw. -/
def record (entry : Record) : Action Unit :=
  modify fun session => { session with records := session.records ++ [entry] }

/-- Calls the caller's callback. -/
def deliver (arguments : List Value) : Action Value := do
  modify fun session => { session with delivered := session.delivered ++ [arguments] }
  return (← get).callbackResult

end Action

end Routebook

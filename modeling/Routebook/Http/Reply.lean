import Routebook.Http.Header
import Routebook.Http.Parameter

/-!
# Replies

What the network answers to a request: a response with its status, fields and body, or a failure on
the way or in making the answer.  The text of a response is read in the encoding that its content
type names, or in UTF-8 when it names none that is known.
-/

namespace Routebook.Http

set_option autoImplicit false

variable [Runtime]

/-- What the network answers. -/
inductive Reply
  | response (content : Response)
  | failure (reason : String)
  /-- A reply that could not be put together. -/
  | unmade (cause : Failure)
  deriving Repr

/-- The answer when nothing else is prepared. -/
def Reply.empty : Reply := .response ⟨200, [], []⟩

/-! ## Statuses -/

/-- The status line of a response. -/
def statusLine (status : Nat) : String :=
  let phrase := reasonPhrase status
  "HTTP " ++ toString status ++ (if phrase.isEmpty then "" else " " ++ phrase)

/-- Whether a status reports success. -/
def isSuccess (status : Nat) : Bool := 200 ≤ status && status ≤ 299

/-- Whether a status refers to another address. -/
def isRedirect (status : Nat) : Bool := [301, 302, 303, 307, 308].contains status

/-! ## Text -/

/-- The encoding of the text of a response. -/
def Response.charset (response : Response) : Except Failure Text.Charset := do
  match response.headers.get? "content-type" with
  | none => return .units .utf8
  | some contentType =>
      match (← charset? contentType).bind Text.Charset.named? with
      | none => return .units .utf8
      | some (.ok found) => return found
      | some (.error cause) => throw (.unreadable cause)

/-- The text of a response; without a body the content type does not matter. -/
def Response.text (response : Response) : Except Failure String := do
  if response.body.isEmpty then return ""
  let charset ← response.charset
  if charset.lacksMark response.body then throw .orderUnmarked
  if charset.leavesTooMuch response.body then throw (.unreadable .unfinished)
  return String.ofList (charset.decodeReplacing response.body)

end Routebook.Http

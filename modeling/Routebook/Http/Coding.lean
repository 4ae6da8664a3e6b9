import Routebook.Compression.Stream
import Routebook.Http.Reply

/-!
# Content codings

A response says how its body was compressed.  Codings are undone in the reverse of the order in
which they were applied; one that is not known is left in place.
-/

namespace Routebook.Http

set_option autoImplicit false

variable [Runtime]

/-- A coding of a body. -/
inductive Coding
  | gzip
  | deflate
  deriving DecidableEq, Repr

/-- The coding with a name. -/
def Coding.named? (name : List Char) : Option Coding :=
  if name == "gzip".toList then some .gzip
  else if name == "deflate".toList then some .deflate
  else none

/-- The body before a coding was applied; with `deflate` the wrapping may be missing. -/
def Coding.undo (coding : Coding) (body : List UInt8) :
    Except Compression.Fault (List UInt8) :=
  match coding with
  | .gzip => Compression.decompress .file body
  | .deflate =>
      match Compression.decompress .brief body with
      | .ok content => .ok content
      | .error _ => Compression.decompress .bare body

/-- The codings of a response in the order in which they were applied. -/
def Response.codings (response : Response) : List Coding :=
  let field := (response.headers.get? "content-encoding").getD ""
  (Text.split ',' field.toList).filterMap fun name =>
    Coding.named? ((Text.trim name).map Char.toLower)

/-- A response with its body as it was before codings were applied. -/
def Response.decoded (response : Response) : Except Compression.Fault Response := do
  let body ← response.codings.reverse.foldlM (fun body coding => coding.undo body) response.body
  return { response with body }

end Routebook.Http

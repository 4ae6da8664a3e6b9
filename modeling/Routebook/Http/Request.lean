import Routebook.Http.Header
import Routebook.Http.Url
import Routebook.Json.Writer
import Routebook.Text.Whole

/-!
# Requests

A request is made of a method, an address, header fields and a body.  The body is given as a form,
as a value to be sent as JSON, or as text or bytes; the fields that describe it are added unless the
caller has set them.
-/

namespace Routebook.Http

set_option autoImplicit false

variable [Runtime]

/-! ## Bodies -/

/-- What a body is made of. -/
inductive Content
  | nothing
  /-- The entries of a form, or anything else given in its place. -/
  | form (value : Value)
  | json (value : Value)
  | text (value : String)
  | raw (bytes : List UInt8)

/-- The text of a single value in a form or a query. -/
def primitiveText : Value → String
  | .truth flag => if flag then "true" else "false"
  | .null => ""
  | other => other.display

/-- The entries of a form: a list stands for several values of one name. -/
def formEntries (entries : Entries) : List (Value × String) :=
  entries.flatMap fun entry =>
    match entry.2.opened with
    | .list items | .tuple items => items.map fun item => (entry.1, primitiveText item)
    | _ => [(entry.1, primitiveText entry.2)]

/-- A name or value of a form in its encoded form. -/
def encodeFormName : Value → List Char
  | .bytes bytes => bytes.flatMap fun byte =>
      let character := Char.ofNat byte.toNat
      if byte.toNat == 0x20 then ['+']
      else if byte.toNat < 0x80 && Uri.isUnreserved character then [character]
      else Uri.percentByte byte
  | other => formEncode other.display.toList

/-- Requires that the names and values of a form can be encoded. -/
def requireWholeForm (entries : Entries) : Except Failure Unit :=
  (formEntries entries).forM fun entry => do
    match entry.1 with
    | .bytes _ => pure ()
    | name => Text.requireWhole name.display.toList
    Text.requireWhole entry.2.toList

/-- The body of a form. -/
def formBody (entries : Entries) : List UInt8 :=
  let pieces := (formEntries entries).map fun entry =>
    encodeFormName entry.1 ++ '=' :: formEncode entry.2.toList
  Text.utf8Encode (['&'].intercalate pieces)

/-- The bytes that the pieces of a streamed body are. -/
def streamedBytes (pieces : List Value) : Except Failure (List UInt8) :=
  (pieces.mapM fun (piece : Value) =>
    match piece with
    | .bytes bytes => Except.ok bytes
    | _ => Except.error Failure.wrongType).map List.flatten

/-- A body with the fields that describe it. -/
structure Body where
  bytes : List UInt8
  fields : Headers
  /-- Whether the bytes become available only when the request is sent. -/
  streamed : Bool
  /-- The fault that arises when a streamed body is read. -/
  fault : Option Failure

/-- The field that gives the length of a body. -/
def lengthField (bytes : List UInt8) : Field :=
  .ofText "Content-Length" (toString bytes.length)

/-- A body of bytes at hand. -/
def Body.ofBytes (bytes : List UInt8) : Body :=
  ⟨bytes, if bytes.isEmpty then [] else [lengthField bytes], false, none⟩

/-- The body that a text is. -/
def Body.ofText (text : String) : Except Failure Body := do
  Text.requireWhole text.toList
  return .ofBytes (Text.utf8Encode text.toList)

/-- The body that a value given in place of a form stands for. -/
def Body.ofForm (value : Value) : Except Failure Body :=
  match value.opened with
  | .mapping [] => .ok (.ofBytes [])
  | .mapping entries => do
      (Value.mapping entries).requireText
      requireWholeForm entries
      let bytes := formBody entries
      return ⟨bytes,
        [lengthField bytes, .ofText "Content-Type" "application/x-www-form-urlencoded"],
        false, none⟩
  | .text text => Body.ofText text
  | .bytes bytes => .ok (.ofBytes bytes)
  | .list pieces | .tuple pieces | .set pieces =>
      let fields := [Field.ofText "Transfer-Encoding" "chunked"]
      match streamedBytes pieces with
      | .ok bytes => .ok ⟨bytes, fields, true, none⟩
      | .error fault => .ok ⟨[], fields, true, some fault⟩
  | _ => .error .wrongType

/-- The body that content stands for. -/
def Body.ofContent : Content → Except Failure Body
  | .nothing => .ok (.ofBytes [])
  | .text text => Body.ofText text
  | .raw bytes => .ok (.ofBytes bytes)
  | .form value => Body.ofForm value
  | .json value => do
      let text ← Json.render .compact value
      Text.requireWhole text.toList
      let bytes := Text.utf8Encode text.toList
      return ⟨bytes, [lengthField bytes, .ofText "Content-Type" "application/json"], false, none⟩

/-! ## Requests -/

/-- A request. -/
structure Request where
  method : String
  url : Url
  headers : Headers
  body : Body

/-- The fields of a body added to those of a request, unless they are set already. -/
def describeBody (headers fields : Headers) : Headers :=
  fields.foldl (fun described field =>
    if field.isNamed "transfer-encoding" && described.has "content-length" then described
    else described.setDefault field) headers

/-- The fields of a request with a body: host and length come first if they are added. -/
def completeHeaders (method : String) (url : Url) (headers fields : Headers) : Headers :=
  let described := describeBody headers fields
  let host := if described.has "host" || url.host.isEmpty then []
    else [Field.ofText "Host" url.netloc]
  let hasLength := described.has "content-length" || described.has "transfer-encoding"
  let length := if !hasLength && ["POST", "PUT", "PATCH"].contains method then
    [Field.ofText "Content-Length" "0"] else []
  host ++ length ++ described

/-- Checks that the host of an address can be shown. -/
def Url.requireHost (url : Url) : Except Failure Unit :=
  (Text.checkShownHost url.host.toList).mapError Failure.malformedHost

/-- The request with the given parts; the host is looked at unless a field names it. -/
def Request.make (method : String) (url : Url) (headers : Headers) (content : Content) :
    Except Failure Request := do
  let body ← Body.ofContent content
  if !headers.has "host" then url.requireHost
  return ⟨method, url, completeHeaders method url headers body.fields, body⟩

end Routebook.Http

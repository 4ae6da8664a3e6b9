import Routebook.Runtime
import Routebook.Text.Encoding
import Routebook.Value.Basic

/-!
# Header fields

The fields of a message in their order.  A field's name is compared without regard to case.
-/

namespace Routebook.Http

set_option autoImplicit false

variable [Runtime]

/-- The bytes of an ASCII text. -/
def asciiBytes (text : String) : List UInt8 :=
  text.toList.map fun character => UInt8.ofNat character.toNat

/-- A field with an ASCII name and value. -/
def Field.ofText (name value : String) : Field := ⟨asciiBytes name, asciiBytes value⟩

/-- A byte in lower case. -/
def lowerByte (byte : UInt8) : UInt8 :=
  if 0x41 ≤ byte.toNat && byte.toNat ≤ 0x5A then byte + 0x20 else byte

/-- The name of a field in lower case. -/
def Field.lowerName (field : Field) : List UInt8 := field.name.map lowerByte

/-- Whether a field has a name, given in lower case. -/
def Field.isNamed (name : String) (field : Field) : Bool := field.lowerName == asciiBytes name

namespace Headers

/-- Whether there is a field with a name, given in lower case. -/
def has (name : String) (headers : Headers) : Bool := headers.any (Field.isNamed name)

/-- The fields without those that have a name, given in lower case. -/
def erase (name : String) (headers : Headers) : Headers := headers.filter (!Field.isNamed name ·)

/-- The fields with one more at the end, unless its name is present. -/
def setDefault (field : Field) (headers : Headers) : Headers :=
  if headers.any fun present => present.lowerName == field.lowerName then headers
  else headers ++ [field]

/-- The fields with a value written at a name: in place of the first field with that name, or at the
end. -/
def set (field : Field) : Headers → Headers
  | [] => [field]
  | present :: rest =>
      if present.lowerName == field.lowerName then
        field :: rest.filter fun other => other.lowerName != field.lowerName
      else present :: set field rest

/-- The encoding in which all names and values are text: the narrowest of three. -/
def encoding (headers : Headers) : Text.Encoding :=
  let fits := fun (candidate : Text.Encoding) =>
    headers.all fun field =>
      (candidate.decode field.name).isOk && (candidate.decode field.value).isOk
  if fits .ascii then .ascii else if fits .utf8 then .utf8 else .latin

/-- The names in lower case with the values, as text. -/
def texts (headers : Headers) : List (String × String) :=
  let decode := fun bytes => String.ofList (headers.encoding.decodeReplacing bytes)
  headers.map fun field => (decode field.lowerName, decode field.value)

/-- The names in lower case, each once, with the values as text; several values of one name are
joined by commas. -/
def joined (headers : Headers) : List (String × String) :=
  headers.texts.foldl (fun grouped (name, value) =>
    if grouped.any fun entry => entry.1 == name then
      grouped.map fun entry =>
        if entry.1 == name then (name, entry.2 ++ ", " ++ value) else entry
    else grouped ++ [(name, value)]) []

/-- The text of the fields with a name, given in lower case. -/
def get? (name : String) (headers : Headers) : Option String :=
  (headers.joined.find? fun entry => entry.1 == name).map Prod.snd

end Headers

/-! ## Headers of requests -/

/-- A text as bytes, if it is ASCII. -/
def asciiBytes? (text : String) : Except Failure (List UInt8) :=
  if text.toList.all fun character => character.toNat < 0x80 then .ok (asciiBytes text)
  else .error .unencodable

/-- The name of a field that a caller supplies. -/
def fieldName : Value → Except Failure (List UInt8)
  | .bytes name => .ok name
  | .text name => asciiBytes? name
  | _ => .error .missingAttribute

/-- The value of a field that a caller supplies. -/
def fieldValue : Value → Except Failure (List UInt8)
  | .bytes value => .ok value
  | .text value => asciiBytes? value
  | _ => .error .wrongType

/-- The fields that a caller supplies. -/
def Headers.ofEntries (entries : Entries) : Except Failure Headers :=
  entries.mapM fun entry => do
    let name ← fieldName entry.1
    let value ← fieldValue entry.2
    return ⟨name, value⟩

end Routebook.Http

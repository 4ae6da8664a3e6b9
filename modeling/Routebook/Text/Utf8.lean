/-!
# Text as bytes

The UTF-8 form of a character is the list of one to four bytes given by its code point.  Reading
goes the other way one step at a time: a step takes the bytes of one character, or reports how many
bytes are damaged and why, so that the same step serves a strict reader and one that replaces
damage.
-/

namespace Routebook.Text

set_option autoImplicit false

/-! ## Writing -/

/-- The bytes of one character. -/
def utf8Bytes (character : Char) : List UInt8 :=
  let code := character.toNat
  if code < 0x80 then [UInt8.ofNat code]
  else if code < 0x800 then
    [UInt8.ofNat (0xC0 + code / 0x40), UInt8.ofNat (0x80 + code % 0x40)]
  else if code < 0x10000 then
    [UInt8.ofNat (0xE0 + code / 0x1000), UInt8.ofNat (0x80 + code / 0x40 % 0x40),
     UInt8.ofNat (0x80 + code % 0x40)]
  else
    [UInt8.ofNat (0xF0 + code / 0x40000), UInt8.ofNat (0x80 + code / 0x1000 % 0x40),
     UInt8.ofNat (0x80 + code / 0x40 % 0x40), UInt8.ofNat (0x80 + code % 0x40)]

/-- The bytes of a text. -/
def utf8Encode (text : List Char) : List UInt8 :=
  text.flatMap utf8Bytes

/-! ## Reading one character -/

/-- Why bytes are not the form of a character. -/
inductive Defect
  /-- No character starts with this byte. -/
  | start
  /-- A byte that should continue the character does not. -/
  | continuation
  /-- The bytes end inside a character. -/
  | endOfData
  /-- A leading half of a pair is not followed by its trailing half. -/
  | brokenPair
  /-- A trailing half of a pair stands alone. -/
  | strayHalf
  /-- The bytes end inside a code unit. -/
  | partialUnit
  /-- The number is beyond the last code point. -/
  | outOfRange
  /-- The number is reserved for halves of pairs. -/
  | reserved
  deriving DecidableEq, Repr

/-- The wording of a defect. -/
def Defect.reason : Defect → String
  | .start => "invalid start byte"
  | .continuation => "invalid continuation byte"
  | .endOfData => "unexpected end of data"
  | .brokenPair => "illegal UTF-16 surrogate"
  | .strayHalf => "illegal encoding"
  | .partialUnit => "truncated data"
  | .outOfRange => "code point not in range(0x110000)"
  | .reserved => "code point in surrogate code point range(0xd800, 0xe000)"

/-- What the first bytes of some data are: a character with its length, or damage with its length.
-/
inductive Step
  | character (value : Char) (length : Nat)
  | damage (defect : Defect) (length : Nat)
  deriving DecidableEq, Repr

/-- Whether a byte continues a character. -/
def isContinuation (byte : UInt8) : Bool :=
  0x80 ≤ byte.toNat && byte.toNat < 0xC0

/-- The allowed second bytes after a first byte of a three- or four-byte form. -/
def secondByteRange (first : UInt8) : Nat × Nat :=
  if first.toNat == 0xE0 then (0xA0, 0xBF)
  else if first.toNat == 0xED then (0x80, 0x9F)
  else if first.toNat == 0xF0 then (0x90, 0xBF)
  else if first.toNat == 0xF4 then (0x80, 0x8F)
  else (0x80, 0xBF)

/-- Whether a byte may follow the first byte of a character. -/
def isSecondByte (first second : UInt8) : Bool :=
  let range := secondByteRange first
  range.1 ≤ second.toNat && second.toNat ≤ range.2

/-- The six bits that a continuing byte carries. -/
def payload (byte : UInt8) : Nat :=
  byte.toNat - 0x80

/-- The next step of reading UTF-8 from a first byte and what follows it. -/
def utf8Step (first : UInt8) (rest : List UInt8) : Step :=
  let lead := first.toNat
  if lead < 0x80 then .character (Char.ofNat lead) 1
  else if lead < 0xC2 then .damage .start 1
  else if lead < 0xE0 then
    match rest with
    | [] => .damage .endOfData 1
    | second :: _ =>
        if isContinuation second then
          .character (Char.ofNat ((lead - 0xC0) * 0x40 + payload second)) 2
        else .damage .continuation 1
  else if lead < 0xF0 then
    match rest with
    | [] => .damage .endOfData 1
    | second :: tail =>
        if !isSecondByte first second then .damage .continuation 1
        else
          match tail with
          | [] => .damage .endOfData 2
          | third :: _ =>
              if isContinuation third then
                .character (Char.ofNat
                  ((lead - 0xE0) * 0x1000 + payload second * 0x40 + payload third)) 3
              else .damage .continuation 2
  else if lead < 0xF5 then
    match rest with
    | [] => .damage .endOfData 1
    | second :: tail =>
        if !isSecondByte first second then .damage .continuation 1
        else
          match tail with
          | [] => .damage .endOfData 2
          | third :: tail =>
              if !isContinuation third then .damage .continuation 2
              else
                match tail with
                | [] => .damage .endOfData 3
                | fourth :: _ =>
                    if isContinuation fourth then
                      .character (Char.ofNat ((lead - 0xF0) * 0x40000 + payload second * 0x1000
                        + payload third * 0x40 + payload fourth)) 4
                    else .damage .continuation 3
  else .damage .start 1

/-! ## Reading a whole text -/

/-- Damaged bytes found while reading a text strictly. -/
structure Undecodable where
  /-- The encoding that was expected. -/
  encoding : String
  /-- Where the damage starts, counted in bytes. -/
  offset : Nat
  /-- The damaged bytes. -/
  bytes : List UInt8
  /-- What is wrong with them. -/
  defect : Defect
  deriving DecidableEq, Repr

/-- The two lower-case hexadecimal digits of a byte. -/
def hexByte (byte : UInt8) : List Char :=
  [Nat.digitChar (byte.toNat / 16), Nat.digitChar (byte.toNat % 16)]

/-- The report of damaged bytes. -/
def Undecodable.message (damage : Undecodable) : String :=
  let place := match damage.bytes with
    | [byte] =>
        "byte 0x" ++ String.ofList (hexByte byte) ++ " in position " ++ toString damage.offset
    | _ => "bytes in position " ++ toString damage.offset ++ "-"
        ++ toString (damage.offset + damage.bytes.length - 1)
  "'" ++ damage.encoding ++ "' codec can't decode " ++ place ++ ": " ++ damage.defect.reason

/-- Reads a text strictly with the given step; `budget` bounds the number of steps. -/
def decodeStrictFrom (encoding : String) (step : UInt8 → List UInt8 → Step) :
    Nat → Nat → List UInt8 → Except Undecodable (List Char)
  | 0, _, _ => .ok []
  | _, _, [] => .ok []
  | budget + 1, offset, first :: rest =>
      match step first rest with
      | .character value length =>
          (decodeStrictFrom encoding step budget (offset + length) (rest.drop (length - 1))).map
            (value :: ·)
      | .damage defect length =>
          .error ⟨encoding, offset, (first :: rest).take length, defect⟩

/-- Reads a text with the given step, a replacement character standing for each damaged piece. -/
def decodeReplacingFrom (step : UInt8 → List UInt8 → Step) : Nat → List UInt8 → List Char
  | 0, _ => []
  | _, [] => []
  | budget + 1, first :: rest =>
      match step first rest with
      | .character value length =>
          value :: decodeReplacingFrom step budget (rest.drop (length - 1))
      | .damage _ length =>
          '\uFFFD' :: decodeReplacingFrom step budget (rest.drop (length - 1))

/-- Reads UTF-8 strictly. -/
def utf8Decode (bytes : List UInt8) : Except Undecodable (List Char) :=
  decodeStrictFrom "utf-8" utf8Step bytes.length 0 bytes

/-- Reads UTF-8, a replacement character standing for each damaged piece. -/
def utf8DecodeReplacing (bytes : List UInt8) : List Char :=
  decodeReplacingFrom utf8Step bytes.length bytes

end Routebook.Text

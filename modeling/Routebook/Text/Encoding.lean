import Routebook.Text.CodePage
import Routebook.Text.Half
import Routebook.Text.Utf8

/-!
# Other encodings of text

Sixteen- and thirty-two-bit encodings in either byte order, single-byte encodings, and the choice of
an encoding by the first bytes of the data.
-/

namespace Routebook.Text

set_option autoImplicit false

variable [Halves]

/-- The order of the bytes in a code unit. -/
inductive ByteOrder
  | little
  | big
  deriving DecidableEq, Repr

/-- A number made of bytes in the given order. -/
def ByteOrder.number (order : ByteOrder) (bytes : List UInt8) : Nat :=
  let ordered := match order with
    | .little => bytes.reverse
    | .big => bytes
  ordered.foldl (fun total byte => total * 0x100 + byte.toNat) 0

/-- The step over a half of a pair that stands alone, by its number, if halves are let pass. -/
def loneHalf (passes : Bool) (code size : Nat) (defect : Defect) (length : Nat) : Step :=
  if passes then .character (Halves.standIn code) size else .damage defect length

/-- The next step of reading sixteen-bit units. -/
def utf16Step (passes : Bool) (order : ByteOrder) (first : UInt8) (rest : List UInt8) : Step :=
  match rest with
  | [] => .damage .partialUnit 1
  | second :: tail =>
      let unit := order.number [first, second]
      if unit < 0xD800 || 0xE000 ≤ unit then .character (Char.ofNat unit) 2
      else if 0xDC00 ≤ unit then loneHalf passes unit 2 .strayHalf 2
      else
        match tail with
        | [] => loneHalf passes unit 2 .endOfData 2
        | [_] => loneHalf passes unit 2 .endOfData 3
        | third :: fourth :: _ =>
            let trailing := order.number [third, fourth]
            if 0xDC00 ≤ trailing && trailing < 0xE000 then
              .character (Char.ofNat (0x10000 + (unit - 0xD800) * 0x400 + (trailing - 0xDC00))) 4
            else loneHalf passes unit 2 .brokenPair 2

/-- The next step of reading thirty-two-bit units. -/
def utf32Step (passes : Bool) (order : ByteOrder) (first : UInt8) (rest : List UInt8) : Step :=
  match rest with
  | second :: third :: fourth :: _ =>
      let code := order.number [first, second, third, fourth]
      if 0x110000 ≤ code then .damage .outOfRange 4
      else if 0xD800 ≤ code && code < 0xE000 then loneHalf passes code 4 .reserved 4
      else .character (Char.ofNat code) 4
  | _ => .damage .partialUnit (1 + rest.length)

/-- The next step of reading UTF-8 in which halves of pairs may be written like characters. -/
def utf8HalvesStep (passes : Bool) (first : UInt8) (rest : List UInt8) : Step :=
  match passes, first.toNat, rest with
  | true, 0xED, second :: third :: _ =>
      if 0xA0 ≤ second.toNat && isContinuation second && isContinuation third then
        let code := 0xD000 + (second.toNat - 0x80) * 0x40 + (third.toNat - 0x80)
        .character (Halves.standIn code) 3
      else utf8Step first rest
  | _, _, _ => utf8Step first rest

/-- The next step of reading an encoding with one byte a character. -/
def singleByteStep (table : UInt8 → Option Char) (first : UInt8) (_rest : List UInt8) : Step :=
  match table first with
  | some value => .character value 1
  | none => .damage .start 1

/-- An encoding of text. -/
inductive Encoding
  | ascii
  | latin
  | page (table : CodePage)
  | utf8
  /-- UTF-8 whose leading mark is dropped. -/
  | utf8Marked
  | utf16 (order : ByteOrder)
  /-- Sixteen-bit units whose order a leading mark gives; little-endian without one. -/
  | utf16Marked
  | utf32 (order : ByteOrder)
  /-- Thirty-two-bit units whose order a leading mark gives; little-endian without one. -/
  | utf32Marked
  deriving DecidableEq, Repr

/-- An encoding without a mark: its name in reports, its step, and how many bytes of mark precede.
-/
structure Reading where
  name : String
  step : UInt8 → List UInt8 → Step
  markLength : Nat

/-- Sixteen-bit reading in one order. -/
def Reading.utf16 (passes : Bool) (order : ByteOrder) (markLength : Nat) : Reading :=
  match order with
  | .little => ⟨"utf-16-le", utf16Step passes .little, markLength⟩
  | .big => ⟨"utf-16-be", utf16Step passes .big, markLength⟩

/-- Thirty-two-bit reading in one order. -/
def Reading.utf32 (passes : Bool) (order : ByteOrder) (markLength : Nat) : Reading :=
  match order with
  | .little => ⟨"utf-32-le", utf32Step passes .little, markLength⟩
  | .big => ⟨"utf-32-be", utf32Step passes .big, markLength⟩

/-- How given data is read in an encoding, any leading mark taken into account; `passes` says
whether halves of pairs that stand alone are let pass. -/
def Encoding.reading (encoding : Encoding) (passes : Bool) (bytes : List UInt8) : Reading :=
  let lead := (bytes.take 4).map UInt8.toNat
  match encoding with
  | .ascii =>
      ⟨"ascii", singleByteStep fun byte =>
        if byte.toNat < 0x80 then some (Char.ofNat byte.toNat) else none, 0⟩
  | .latin => ⟨"latin-1", singleByteStep fun byte => some (Char.ofNat byte.toNat), 0⟩
  | .page table => ⟨table.name, singleByteStep table.character?, 0⟩
  | .utf8 => ⟨"utf-8", utf8HalvesStep passes, 0⟩
  | .utf8Marked =>
      ⟨"utf-8", utf8HalvesStep passes, if lead.take 3 == [0xEF, 0xBB, 0xBF] then 3 else 0⟩
  | .utf16 order => Reading.utf16 passes order 0
  | .utf16Marked =>
      if lead.take 2 == [0xFE, 0xFF] then Reading.utf16 passes .big 2
      else if lead.take 2 == [0xFF, 0xFE] then Reading.utf16 passes .little 2
      else Reading.utf16 passes .little 0
  | .utf32 order => Reading.utf32 passes order 0
  | .utf32Marked =>
      if lead == [0, 0, 0xFE, 0xFF] then Reading.utf32 passes .big 4
      else if lead == [0xFF, 0xFE, 0, 0] then Reading.utf32 passes .little 4
      else Reading.utf32 passes .little 0

/-- Reads data strictly, except that halves of pairs that stand alone may be let pass.  Positions in
a report count from the start of the data, but the mark of marked UTF-8 is not counted. -/
def Encoding.decodeWith (encoding : Encoding) (passes : Bool) (bytes : List UInt8) :
    Except Undecodable (List Char) :=
  let reading := encoding.reading passes bytes
  let offset := match encoding with
    | .utf8Marked => 0
    | _ => reading.markLength
  decodeStrictFrom reading.name reading.step bytes.length offset (bytes.drop reading.markLength)

/-- Reads data strictly. -/
def Encoding.decode (encoding : Encoding) (bytes : List UInt8) : Except Undecodable (List Char) :=
  encoding.decodeWith false bytes

/-- Whether data is to start with a mark of the order of its bytes and does not. -/
def Encoding.lacksMark (encoding : Encoding) (bytes : List UInt8) : Bool :=
  match encoding with
  | .utf16Marked => (encoding.reading false bytes).markLength == 0 && 2 ≤ bytes.length
  | .utf32Marked => (encoding.reading false bytes).markLength == 0 && 4 ≤ bytes.length
  | _ => false

/-- Reads data, a replacement character standing for each damaged piece. -/
def Encoding.decodeReplacing (encoding : Encoding) (bytes : List UInt8) : List Char :=
  let reading := encoding.reading false bytes
  decodeReplacingFrom reading.step bytes.length (bytes.drop reading.markLength)

/-- The encoding that the zero bytes and the mark at the start of a document of ASCII punctuation
reveal. -/
def Encoding.detect (bytes : List UInt8) : Encoding :=
  let lead := (bytes.take 4).map UInt8.toNat
  if lead == [0, 0, 0xFE, 0xFF] || lead == [0xFF, 0xFE, 0, 0] then .utf32Marked
  else if lead.take 2 == [0xFE, 0xFF] || lead.take 2 == [0xFF, 0xFE] then .utf16Marked
  else if lead.take 3 == [0xEF, 0xBB, 0xBF] then .utf8Marked
  else
    match lead with
    | [0, second, _, _] => if second == 0 then .utf32 .big else .utf16 .big
    | [_, 0, third, fourth] => if third == 0 && fourth == 0 then .utf32 .little else .utf16 .little
    | [0, _] => .utf16 .big
    | [_, 0] => .utf16 .little
    | _ => .utf8

end Routebook.Text

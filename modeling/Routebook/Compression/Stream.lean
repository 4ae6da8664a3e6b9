import Routebook.Compression.Checksum
import Routebook.Compression.Deflate

/-!
# Compressed streams

Compressed blocks travel alone, between a short header and a checksum, or as the content of a file
with a longer header.  A stream that ends early yields what it holds, and what follows a stream is
left alone.
-/

namespace Routebook.Compression

set_option autoImplicit false

/-- How blocks are wrapped. -/
inductive Wrapping
  | bare
  | brief
  | file
  deriving DecidableEq, Repr

/-! ## Headers -/

/-- The bytes of a number, the lowest first. -/
def lowBytes : Nat → Nat → List UInt8
  | 0, _ => []
  | count + 1, value => UInt8.ofNat (value % 256) :: lowBytes count (value / 256)

/-- Reads a number of whole bytes, the lowest first. -/
def readWord (bytes : Nat) : Inflation Nat := Inflation.number (8 * bytes)

/-- Reads several bytes. -/
def readBytes : Nat → Inflation (List UInt8)
  | 0 => return []
  | count + 1 => do
      let next ← readWord 1
      return UInt8.ofNat next :: (← readBytes count)

/-- Reads a text up to a zero byte, with a bound on its length; the zero belongs to it. -/
def readTerminated : Nat → Inflation (List UInt8)
  | 0 => throw .exhausted
  | steps + 1 => do
      let next ← readWord 1
      if next == 0 then return [0]
      return UInt8.ofNat next :: (← readTerminated steps)

/-- Reads the header of a brief wrapping: two bytes that a check ties together. -/
def readBriefHeader : Inflation Unit := do
  let header ← readWord 2
  let low := header % 256
  if (low * 256 + header / 256) % 31 != 0 then Inflation.fail .header
  if low % 16 != 8 then Inflation.fail .method
  if 7 < low / 16 then Inflation.fail .windowSize
  if (header / 256).testBit 5 then
    let _ ← readWord 4
    Inflation.fail .dictionaryNeeded

/-- Reads the header of a file: its mark, flags, time and system, and the parts that flags announce.
-/
def readFileHeader : Inflation Unit := do
  let mark ← readWord 2
  if mark != 0x8B1F then Inflation.fail .header
  let flags ← readWord 2
  if flags % 256 != 8 then Inflation.fail .method
  if 0x20 ≤ flags / 256 then Inflation.fail .headerFlags
  let has := fun place => (flags / 256).testBit place
  let bound := (← get).bits.length + 1
  let time ← readWord 4
  let system ← readWord 2
  let extra ←
    if has 2 then do
      let length ← readWord 2
      pure (lowBytes 2 length ++ (← readBytes length))
    else pure []
  let name ← if has 3 then readTerminated bound else pure []
  let comment ← if has 4 then readTerminated bound else pure []
  if has 1 then
    let check ← readWord 2
    let header := lowBytes 2 mark ++ lowBytes 2 flags ++ lowBytes 4 time ++ lowBytes 2 system
      ++ extra ++ name ++ comment
    if check != remainder header % 65536 then Inflation.fail .headerCheck

/-! ## Streams -/

/-- The number with the bytes of another one in reverse order. -/
def reverseBytes (value : Nat) : Nat :=
  (lowBytes 4 value).foldl (fun total byte => total * 256 + byte.toNat) 0

/-- Reads a stream. -/
def readStream (wrapping : Wrapping) : Inflation Unit := do
  match wrapping with
  | .bare => readDeflated
  | .brief => do
      readBriefHeader
      readDeflated
      Inflation.align
      let check ← readWord 4
      if reverseBytes check != pairedSum (← get).output.toList then Inflation.fail .dataCheck
  | .file => do
      readFileHeader
      readDeflated
      Inflation.align
      let check ← readWord 4
      let output := (← get).output
      if check != remainder output.toList then Inflation.fail .dataCheck
      let length ← readWord 4
      if length != output.size % 4294967296 then Inflation.fail .lengthCheck

/-- What a stream holds. -/
def decompress (wrapping : Wrapping) (bytes : List UInt8) : Except Fault (List UInt8) :=
  match (readStream wrapping).run ⟨dataBits bytes, #[]⟩ with
  | .error (.fault fault) _ => .error fault
  | .error .exhausted progress | .ok _ progress => .ok progress.output.toList

end Routebook.Compression

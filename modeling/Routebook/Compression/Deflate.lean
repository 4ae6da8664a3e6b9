/-!
# Compressed blocks

Compressed data is a row of bits, the lowest bit of each byte first.  It comes in blocks: bytes as
they are, or symbols in a prefix code, each a byte, the end of the block, or the length of a piece
that is repeated from a distance back.  Reading keeps what was produced when the data ends early.
-/

namespace Routebook.Compression

set_option autoImplicit false

/-! ## Faults -/

/-- What is wrong with compressed data. -/
inductive Fault
  | header
  | method
  | headerFlags
  | headerCheck
  | windowSize
  | dictionaryNeeded
  | blockType
  | storedLength
  | symbolCount
  | codeLengthCode
  | repetition
  | endMissing
  | literalCode
  | distanceCode
  | literalSymbol
  | distanceSymbol
  | distanceTooFar
  | dataCheck
  | lengthCheck
  deriving DecidableEq, Repr

/-- What a fault is called. -/
def Fault.description : Fault → String
  | .header => "incorrect header check"
  | .method => "unknown compression method"
  | .headerFlags => "unknown header flags set"
  | .headerCheck => "header crc mismatch"
  | .windowSize => "invalid window size"
  | .dictionaryNeeded => ""
  | .blockType => "invalid block type"
  | .storedLength => "invalid stored block lengths"
  | .symbolCount => "too many length or distance symbols"
  | .codeLengthCode => "invalid code lengths set"
  | .repetition => "invalid bit length repeat"
  | .endMissing => "invalid code -- missing end-of-block"
  | .literalCode => "invalid literal/lengths set"
  | .distanceCode => "invalid distances set"
  | .literalSymbol => "invalid literal/length code"
  | .distanceSymbol => "invalid distance code"
  | .distanceTooFar => "invalid distance too far back"
  | .dataCheck => "incorrect data check"
  | .lengthCheck => "incorrect length check"

/-- The report of a fault. -/
def Fault.message : Fault → String
  | .dictionaryNeeded => "Error 2 while decompressing data"
  | fault => "Error -3 while decompressing data: " ++ fault.description

/-! ## Reading bits -/

/-- How far reading has come: the bits ahead and the bytes produced. -/
structure Progress where
  bits : List Bool
  output : Array UInt8

/-- Why reading stops. -/
inductive Halt
  | exhausted
  | fault (fault : Fault)
  deriving DecidableEq, Repr

/-- A computation that reads bits and produces bytes; what it has produced outlives a stop. -/
abbrev Inflation (α : Type) := EStateM Halt Progress α

/-- The bits of a byte, the lowest first. -/
def byteBits (byte : UInt8) : List Bool :=
  (List.range 8).map fun place => byte.toNat.testBit place

/-- The bits of data. -/
def dataBits (bytes : List UInt8) : List Bool := bytes.flatMap byteBits

namespace Inflation

/-- Stops with a fault. -/
def fail {α : Type} (fault : Fault) : Inflation α := throw (.fault fault)

/-- The next bit. -/
def bit : Inflation Nat := do
  let progress ← get
  match progress.bits with
  | [] => throw .exhausted
  | next :: rest =>
      set { progress with bits := rest }
      return next.toNat

/-- The number that the next bits make, the lowest first; either all of them are there or none is
taken. -/
def number (count : Nat) : Inflation Nat := do
  let progress ← get
  let taken := progress.bits.take count
  if taken.length < count then throw .exhausted
  set { progress with bits := progress.bits.drop count }
  return taken.foldr (fun next total => next.toNat + 2 * total) 0

/-- Drops what is left of a byte that has been read in part. -/
def align : Inflation Unit :=
  modify fun progress =>
    { progress with bits := progress.bits.drop (progress.bits.length % 8) }

/-- Produces a byte. -/
def emit (byte : UInt8) : Inflation Unit :=
  modify fun progress => { progress with output := progress.output.push byte }

/-- Copies bytes as they are. -/
def copyStored : Nat → Inflation Unit
  | 0 => pure ()
  | count + 1 => do
      emit (UInt8.ofNat (← number 8))
      copyStored count

/-- Repeats bytes from a distance back. -/
def repeatBack (distance : Nat) : Nat → Inflation Unit
  | 0 => pure ()
  | count + 1 => do
      let output := (← get).output
      emit (output[output.size - distance]?.getD 0)
      repeatBack distance count

end Inflation

/-! ## Prefix codes -/

/-- A prefix code: how many symbols have each length from one on, and the symbols in order. -/
structure PrefixCode where
  counts : List Nat
  symbols : Array Nat

/-- The code in which each symbol has the given length; a symbol of length zero has none. -/
def PrefixCode.ofLengths (lengths : List Nat) : PrefixCode :=
  let longest := lengths.foldl max 0
  let places := (List.range longest).map (· + 1)
  { counts := places.map fun length => lengths.count length
    symbols := (places.flatMap fun length =>
      (lengths.zipIdx.filter fun entry => entry.1 == length).map Prod.snd).toArray }

/-- How a code fills the space of all codes. -/
inductive Filling
  | exact
  | partly
  | beyond
  deriving DecidableEq, Repr

/-- How symbols of the given counts fill the codes that are left. -/
def fillingFrom : Nat → List Nat → Filling
  | 0, [] => .exact
  | _ + 1, [] => .partly
  | left, count :: more =>
      if 2 * left < count then .beyond else fillingFrom (2 * left - count) more

/-- How a code fills the space of all codes. -/
def PrefixCode.filling (code : PrefixCode) : Filling := fillingFrom 1 code.counts

/-- Whether a code can be used for symbols: it fills the space, or all its symbols have length one.
-/
def PrefixCode.isUsable (code : PrefixCode) : Bool :=
  match code.filling with
  | .exact => true
  | .beyond => false
  | .partly => code.counts.length ≤ 1

/-- The symbol whose code comes next, if there is one.  `code` is what has been read, `first` the
first code of its length, and `index` the place of that code's symbol. -/
def PrefixCode.symbolFrom (symbols : Array Nat) (code first index : Nat) :
    List Nat → Inflation (Option Nat)
  | [] => pure none
  | count :: more => do
      let extended := code + (← Inflation.bit)
      if extended < first + count then return symbols[index + (extended - first)]?
      symbolFrom symbols (2 * extended) (2 * (first + count)) (index + count) more

/-- The symbol whose code comes next, if there is one; a code without symbols takes one bit. -/
def PrefixCode.symbol (code : PrefixCode) : Inflation (Option Nat) :=
  symbolFrom code.symbols 0 0 0 (if code.counts.isEmpty then [0] else code.counts)

/-! ## Lengths and distances -/

/-- The lengths that the symbols from 257 on stand for, each with the number of bits that add to it.
-/
def lengthSteps : List (Nat × Nat) :=
  [(3, 0), (4, 0), (5, 0), (6, 0), (7, 0), (8, 0), (9, 0), (10, 0), (11, 1), (13, 1), (15, 1),
   (17, 1), (19, 2), (23, 2), (27, 2), (31, 2), (35, 3), (43, 3), (51, 3), (59, 3), (67, 4),
   (83, 4), (99, 4), (115, 4), (131, 5), (163, 5), (195, 5), (227, 5), (258, 0)]

/-- The distances that symbols stand for, each with the number of bits that add to it. -/
def distanceSteps : List (Nat × Nat) :=
  [(1, 0), (2, 0), (3, 0), (4, 0), (5, 1), (7, 1), (9, 2), (13, 2), (17, 3), (25, 3), (33, 4),
   (49, 4), (65, 5), (97, 5), (129, 6), (193, 6), (257, 7), (385, 7), (513, 8), (769, 8),
   (1025, 9), (1537, 9), (2049, 10), (3073, 10), (4097, 11), (6145, 11), (8193, 12), (12289, 12),
   (16385, 13), (24577, 13)]

/-- A step with the bits that add to it. -/
def readStep (step : Nat × Nat) : Inflation Nat := do
  return step.1 + (← Inflation.number step.2)

/-- Repeats the piece that a length symbol and what follows it describe. -/
def readRepeat (distances : PrefixCode) (step : Nat × Nat) : Inflation Unit := do
  let length ← readStep step
  match (← distances.symbol).bind (distanceSteps[·]?) with
  | none => Inflation.fail .distanceSymbol
  | some distanceStep =>
      let distance ← readStep distanceStep
      if (← get).output.size < distance then Inflation.fail .distanceTooFar
      else Inflation.repeatBack distance length

/-- Reads symbols up to the end of a block, with a bound on their number. -/
def readSymbols (literals distances : PrefixCode) : Nat → Inflation Unit
  | 0 => throw .exhausted
  | steps + 1 => do
      match ← literals.symbol with
      | none => Inflation.fail .literalSymbol
      | some 256 => return
      | some symbol =>
          if symbol < 256 then Inflation.emit (UInt8.ofNat symbol)
          else
            match lengthSteps[symbol - 257]? with
            | none => Inflation.fail .literalSymbol
            | some step => readRepeat distances step
          readSymbols literals distances steps

/-! ## Blocks -/

/-- The lengths of the fixed code of literals. -/
def fixedLiterals : PrefixCode :=
  .ofLengths (List.replicate 144 8 ++ List.replicate 112 9 ++ List.replicate 24 7
    ++ List.replicate 8 8)

/-- The lengths of the fixed code of distances. -/
def fixedDistances : PrefixCode := .ofLengths (List.replicate 32 5)

/-- The order in which the lengths of the code of lengths are written. -/
def lengthOrder : List Nat :=
  [16, 17, 18, 0, 8, 7, 9, 6, 10, 5, 11, 4, 12, 3, 13, 2, 14, 1, 15]

/-- Reads several numbers of three bits. -/
def readTriples : Nat → Inflation (List Nat)
  | 0 => return []
  | count + 1 => do
      let next ← Inflation.number 3
      return next :: (← readTriples count)

/-- A length several times: which one, or the last one, how often at least, and how many bits add to
that. -/
def lengthRun? (symbol : Nat) (lengths : Array Nat) : Option (Option Nat × Nat × Nat) :=
  if symbol < 16 then some (some symbol, 1, 0)
  else if symbol == 16 then some (lengths.back?, 3, 2)
  else if symbol == 17 then some (some 0, 3, 3)
  else if symbol == 18 then some (some 0, 11, 7)
  else none

/-- Reads the lengths of the symbols of two codes, with a bound on the number of steps. -/
def readLengths (code : PrefixCode) (wanted : Nat) :
    Nat → Array Nat → Inflation (Array Nat)
  | 0, _ => throw .exhausted
  | steps + 1, lengths => do
      if wanted ≤ lengths.size then return lengths
      -- A code of lengths without symbols reads as zeros.
      let symbol := (← code.symbol).getD 0
      match lengthRun? symbol lengths with
      | none => Inflation.fail .repetition
      | some (length, least, extra) =>
          let more ← Inflation.number extra
          match length with
          | none => Inflation.fail .repetition
          | some length =>
              if wanted < lengths.size + (least + more) then Inflation.fail .repetition
              else
                readLengths code wanted steps
                  (lengths ++ (List.replicate (least + more) length).toArray)

/-- Reads the two codes of a block that brings its own. -/
def readCodes : Inflation (PrefixCode × PrefixCode) := do
  let counts ← Inflation.number 14
  let literalCount := counts % 32 + 257
  let distanceCount := counts / 32 % 32 + 1
  let lengthCount := counts / 1024 + 4
  if 286 < literalCount || 30 < distanceCount then Inflation.fail .symbolCount
  let written ← readTriples lengthCount
  let lengthOf := fun symbol =>
    (((lengthOrder.zip written).find? fun entry => entry.1 == symbol).map Prod.snd).getD 0
  let lengthCode := PrefixCode.ofLengths ((List.range 19).map lengthOf)
  if lengthCode.filling != .exact && !lengthCode.counts.isEmpty then
    Inflation.fail .codeLengthCode
  let wanted := literalCount + distanceCount
  let lengths ← readLengths lengthCode wanted (wanted + 1) #[]
  if lengths[256]?.getD 0 == 0 then Inflation.fail .endMissing
  let literals := PrefixCode.ofLengths (lengths.toList.take literalCount)
  if !literals.isUsable then Inflation.fail .literalCode
  let distances := PrefixCode.ofLengths (lengths.toList.drop literalCount)
  if !distances.isUsable then Inflation.fail .distanceCode
  return (literals, distances)

/-- Reads a block of bytes as they are. -/
def readStored : Inflation Unit := do
  Inflation.align
  let lengths ← Inflation.number 32
  if lengths % 65536 + lengths / 65536 != 65535 then Inflation.fail .storedLength
  Inflation.copyStored (lengths % 65536)

/-- Reads a block; the answer says whether it is the last one. -/
def readBlock : Inflation Bool := do
  let head ← Inflation.number 3
  let bound := (← get).bits.length + 1
  match head / 2 with
  | 0 => readStored
  | 1 => readSymbols fixedLiterals fixedDistances bound
  | 2 =>
      let (literals, distances) ← readCodes
      readSymbols literals distances bound
  | _ => Inflation.fail .blockType
  return head % 2 == 1

/-- Reads blocks up to the last one, with a bound on their number. -/
def readBlocks : Nat → Inflation Unit
  | 0 => throw .exhausted
  | steps + 1 => do
      if !(← readBlock) then readBlocks steps

/-- Reads all blocks of the data ahead. -/
def readDeflated : Inflation Unit := do
  readBlocks ((← get).bits.length + 1)

end Routebook.Compression

/-!
# Reading bytes by pieces

An encoding in which characters differ in length, or in which the meaning of a byte depends on what
came before it, is read piece by piece: each piece is some bytes with the characters they stand for,
or bytes that stand for none.
-/

namespace Routebook.Text

set_option autoImplicit false

/-- The next piece of a text. -/
inductive Piece
  | text (characters : List Char) (length : Nat)
  | damage (length : Nat)
  /-- The start of something that the end of the text cuts off. -/
  | unfinished (length : Nat)
  deriving DecidableEq, Repr

/-- The piece of the given length with a character, or one damaged byte without it. -/
def Piece.ofCharacter (length : Nat) : Option Char → Piece
  | some character => .text [character] length
  | none => .damage 1

/-- The piece that a single byte is, as its own number. -/
def Piece.ofByte (byte : Nat) : Piece := .text [Char.ofNat byte] 1

/-- A way of reading bytes: the state at the start, and how the next piece is read in a state. -/
structure PieceReader where
  State : Type
  start : State
  next : State → Nat → List Nat → Piece × State

/-- Reads the pieces of a text, as many as a budget allows; a replacement character stands for each
damaged piece. -/
def PieceReader.readFrom (reader : PieceReader) :
    Nat → reader.State → List Nat → List Char
  | 0, _, _ => []
  | _, _, [] => []
  | budget + 1, state, first :: rest =>
      match reader.next state first rest with
      | (.text characters length, state) =>
          characters ++ reader.readFrom budget state ((first :: rest).drop length)
      | (.damage length, state) | (.unfinished length, state) =>
          '\uFFFD' :: reader.readFrom budget state ((first :: rest).drop length)

/-- Reads a text. -/
def PieceReader.read (reader : PieceReader) (bytes : List UInt8) : List Char :=
  reader.readFrom bytes.length reader.start (bytes.map UInt8.toNat)

/-- Reads the pieces of a text of which none is damaged, as many as a budget allows. -/
def PieceReader.readStrictlyFrom? (reader : PieceReader) :
    Nat → reader.State → List Nat → Option (List Char)
  | 0, _, _ => some []
  | _, _, [] => some []
  | budget + 1, state, first :: rest =>
      match reader.next state first rest with
      | (.text characters length, state) => do
          let others ← reader.readStrictlyFrom? budget state ((first :: rest).drop length)
          return characters ++ others
      | (.damage _, _) | (.unfinished _, _) => none

/-- Reads a text that is not damaged. -/
def PieceReader.readStrictly? (reader : PieceReader) (bytes : List UInt8) : Option (List Char) :=
  reader.readStrictlyFrom? bytes.length reader.start (bytes.map UInt8.toNat)

/-- How many bytes are left unfinished behind so many pieces of a text. -/
def PieceReader.unfinishedFrom (reader : PieceReader) : Nat → reader.State → List Nat → Nat
  | 0, _, _ => 0
  | _, _, [] => 0
  | budget + 1, state, first :: rest =>
      match reader.next state first rest with
      | (.text _ length, state) | (.damage length, state) =>
          reader.unfinishedFrom budget state ((first :: rest).drop length)
      | (.unfinished length, _) => length

/-- How many bytes at the end of a text are left unfinished. -/
def PieceReader.unfinished (reader : PieceReader) (bytes : List UInt8) : Nat :=
  reader.unfinishedFrom bytes.length reader.start (bytes.map UInt8.toNat)

/-- A reader for which it makes no difference what came before. -/
def PieceReader.ofStep (step : Nat → List Nat → Piece) : PieceReader :=
  ⟨Unit, (), fun state first rest => (step first rest, state)⟩

end Routebook.Text

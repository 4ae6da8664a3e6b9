import Routebook.Text.EastAsian

/-!
# Designated tables

Encodings of seven-bit bytes in which sequences of bytes say what table the bytes after them refer
to: escape sequences designate tables to up to three places, or a tilde switches between ASCII and
one table.
-/

namespace Routebook.Text

set_option autoImplicit false

/-! ## Tables -/

/-- What can be designated. -/
inductive Designated
  | ascii
  | japaneseLatin
  | japaneseKana
  | japanese
  | japaneseSupplement
  | firstPlane (edition : Edition)
  | secondPlane (edition : Edition)
  | korean
  | chinese
  | latin
  | greek
  deriving DecidableEq, Repr

/-- How many bytes make a character. -/
def Designated.width : Designated → Nat
  | .ascii | .japaneseLatin | .japaneseKana | .latin | .greek => 1
  | _ => 2

/-- The characters of as many bytes as a table takes. -/
def Designated.characters? (table : Designated) (first second : Nat) : Option (List Char) :=
  let cell := squareCell (first + 0x80) (second + 0x80)
  let one := fun (found : Option Char) => found.map fun character => [character]
  match table with
  | .ascii => some [Char.ofNat first]
  | .japaneseLatin =>
      one (if first == 0x5C then some '¥' else if first == 0x7E then some '‾'
        else asciiByte first)
  | .japaneseKana => one (halfKana? (first + 0x80))
  | .japanese => one (cell.bind Text.japanese.character?)
  | .japaneseSupplement => one (cell.bind Text.japaneseSupplement.character?)
  | .firstPlane edition => cell.bind (firstPlane? edition)
  | .secondPlane edition => one (cell.bind (secondPlane? edition))
  | .korean => one (cell.bind Text.korean.character?)
  | .chinese => one (cell.bind basicSimplified?)
  | .latin | .greek => none

/-- The Greek character of a byte beyond ASCII. -/
def greekCharacter? (byte : Nat) : Option Char :=
  if byte < 0xA0 then some (Char.ofNat byte)
  else if byte == 0xA1 then some '‘'
  else if byte == 0xA2 then some '’'
  else if byte == 0xAF then some '―'
  else if [0xA0, 0xA3, 0xA6, 0xA7, 0xA8, 0xA9, 0xAB, 0xAC, 0xAD, 0xB0, 0xB1, 0xB2, 0xB3, 0xB5, 0xB6,
      0xB7, 0xBB, 0xBD].contains byte then some (Char.ofNat byte)
  else if 0xB4 ≤ byte && byte ≤ 0xFE && byte != 0xD2 then some (Char.ofNat (0x2D0 + byte))
  else none

/-! ## Escape sequences -/

/-- An encoding with escape sequences: the tables that can be designated, by the byte that ends the
sequence and by whether they take two bytes a character; whether there is a third place; and whether
bytes can shift between the first place and the second. -/
structure EscapeProfile where
  tables : List (Char × Bool × Designated)
  hasThird : Bool
  shifts : Bool
  deriving DecidableEq, Repr

/-- What is designated so far. -/
structure DesignationState where
  first : Designated
  second : Designated
  third : Designated
  /-- Whether the second place is in use. -/
  shifted : Bool
  /-- Whether an unknown escape sequence is still going on. -/
  passing : Bool
  deriving DecidableEq, Repr

/-- At the start everything is ASCII. -/
def DesignationState.initial : DesignationState := ⟨.ascii, .ascii, .ascii, false, false⟩

/-- The state with a table designated to a place. -/
def DesignationState.designate (state : DesignationState) (place : Nat) (table : Designated) :
    DesignationState :=
  match place with
  | 0 => { state with first := table }
  | 1 => { state with second := table }
  | _ => { state with third := table }

/-- Whether a byte ends an escape sequence. -/
def endsEscape (byte : Nat) : Bool := 0x40 ≤ byte && byte ≤ 0x5A

/-- The length of the escape sequence at the start of some bytes, from an index on for a few steps:
nothing if the bytes end before it does, and zero if it is too long. -/
def escapeLength (profile : EscapeProfile) (bytes : List Nat) : Nat → Nat → Option Nat
  | 0, _ => some 0
  | steps + 1, index =>
      match bytes[index]? with
      | none => none
      | some byte =>
          if 16 ≤ index then some 0
          else if endsEscape byte then some (index + 1)
          else if !profile.shifts && byte == 0x26 && bytes[index + 1]? == some 0x40 then
            escapeLength profile bytes steps (index + 3)
          else escapeLength profile bytes steps (index + 1)

/-- The table that ends a designation. -/
def EscapeProfile.table? (profile : EscapeProfile) (final : Nat) (double : Bool) :
    Option Designated :=
  if final == 0x42 && !double then some .ascii
  else
    (profile.tables.find? fun entry => entry.1.toNat == final && entry.2.1 == double).map
      fun entry => entry.2.2

/-- The place and the table that an escape sequence designates. -/
def EscapeProfile.designation? (profile : EscapeProfile) (sequence : List Nat) :
    Option (Nat × Designated) :=
  match sequence with
  | [_, 0x24, final] => (profile.table? final true).map (0, ·)
  | [_, 0x28, final] => (profile.table? final false).map (0, ·)
  | [_, 0x29, final] => (profile.table? final false).map (1, ·)
  | [_, 0x2E, final] =>
      if profile.hasThird then (profile.table? final false).map (2, ·) else none
  | [_, 0x24, 0x28, final] => (profile.table? final true).map (0, ·)
  | [_, 0x24, 0x29, final] => (profile.table? final true).map (1, ·)
  | [_, _, _, 0x1B, 0x24, 0x42] =>
      if profile.shifts then none else (profile.table? 0x42 true).map (0, ·)
  | _ => none

/-- The piece that starts with an escape byte. -/
def escapePiece (profile : EscapeProfile) (state : DesignationState) (rest : List Nat) :
    Piece × DesignationState :=
  match rest with
  | [] => (.damage 1, state)
  | second :: tail =>
      if [0x28, 0x29, 0x24, 0x2E, 0x26].contains second then
        let bytes := 0x1B :: rest
        match escapeLength profile bytes 16 1 with
        | none => (.unfinished bytes.length, state)
        | some 0 => (.damage 1, state)
        | some length =>
            match profile.designation? (bytes.take length) with
            | some (place, table) => (.text [] length, state.designate place table)
            | none => (.damage length, state)
      else if profile.hasThird && second == 0x4E then
        match tail with
        | [] => (.damage 2, state)
        | byte :: _ =>
            let found := match state.third with
              | .latin => if byte < 0x80 then some (Char.ofNat (byte + 0x80)) else none
              | .greek => greekCharacter? (byte ^^^ 0x80)
              | _ => if byte < 0x80 then some (Char.ofNat byte) else none
            match found with
            | some character => (.text [character] 3, state)
            | none => (.damage 3, state)
      else (.text ['\x1B'] 1, { state with passing := true })

/-- The next piece of a text with escape sequences. -/
def escapeStep (profile : EscapeProfile) (state : DesignationState) (first : Nat)
    (rest : List Nat) : Piece × DesignationState :=
  if state.passing then (.ofByte first, { state with passing := !endsEscape first })
  else if first == 0x1B then escapePiece profile state rest
  else if first == 0x0F && profile.shifts then (.text [] 1, { state with shifted := false })
  else if first == 0x0E && profile.shifts then (.text [] 1, { state with shifted := true })
  else if first == 0x0A then (.ofByte first, { state with shifted := false })
  else if first < 0x20 then (.ofByte first, state)
  else if 0x80 ≤ first then (.damage 1, state)
  else
    let table := if state.shifted then state.second else state.first
    if table.width == 2 && rest.isEmpty then (.damage 1, state)
    else
      match table.characters? first (rest.headD 0) with
      | some characters => (.text characters table.width, state)
      | none => (.damage table.width, state)

/-- The reader of an encoding with escape sequences. -/
def EscapeProfile.reader (profile : EscapeProfile) : PieceReader :=
  ⟨DesignationState, .initial, escapeStep profile⟩

/-! ## Tildes -/

/-- The next piece of a text in which tildes switch to a table and back. -/
def tildeStep (switched : Bool) (first : Nat) (rest : List Nat) : Piece × Bool :=
  if first == 0x7E then
    match rest with
    | [] => (.damage 1, switched)
    | second :: _ =>
        if !switched && second == 0x7E then (.text ['~'] 2, switched)
        else if !switched && second == 0x7B then (.text [] 2, true)
        else if !switched && second == 0x0A then (.text [] 2, switched)
        else if switched && second == 0x7D then (.text [] 2, false)
        else (.damage 1, switched)
  else if 0x80 ≤ first then (.damage 1, switched)
  else if !switched then (.ofByte first, switched)
  else
    match rest with
    | [] => (.damage 1, switched)
    | second :: _ =>
        match (squareCell (first + 0x80) (second + 0x80)).bind basicSimplified? with
        | some character => (.text [character] 2, switched)
        | none => (.damage 1, switched)

/-- The reader of the encoding with tildes. -/
def tildeReader : PieceReader := ⟨Bool, false, tildeStep⟩

end Routebook.Text

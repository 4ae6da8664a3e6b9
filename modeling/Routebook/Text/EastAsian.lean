import Routebook.Text.HongKong
import Routebook.Text.Japanese
import Routebook.Text.JapaneseExtension
import Routebook.Text.JapaneseSupplement
import Routebook.Text.Korean
import Routebook.Text.Piecewise
import Routebook.Text.SimplifiedChinese
import Routebook.Text.TraditionalChinese

/-!
# East Asian encodings

Encodings in which a character takes one byte or two, and in some of them up to eight.  The bytes of
a character give a cell of a table; the encodings differ in the tables and in how cells are
numbered.
-/

namespace Routebook.Text

set_option autoImplicit false

/-! ## Cells -/

/-- The cell that two bytes from 0xA1 on give in a table with 94 cells in a row. -/
def squareCell (first second : Nat) : Option Nat :=
  if 0xA1 ≤ first && first ≤ 0xFE && 0xA1 ≤ second && second ≤ 0xFE then
    some ((first - 0xA1) * 94 + (second - 0xA1))
  else none

/-- The place of a byte among those from 0x40 on, of which 0x7F does not count. -/
def widePlace (last second : Nat) : Option Nat :=
  if second < 0x40 || second == 0x7F || last < second then none
  else some (if second < 0x7F then second - 0x40 else second - 0x41)

/-- The cell that two bytes give where a first byte stands for two rows of 94 cells. -/
def pairedCell (first second : Nat) : Option Nat := do
  let place ← widePlace 0xFC second
  if 0x81 ≤ first && first ≤ 0x9F then return (first - 0x81) * 188 + place
  else if 0xE0 ≤ first && first ≤ 0xFC then return (first - 0xC1) * 188 + place
  else none

/-- The cell that two bytes give in a table with 190 cells in a row. -/
def wideCell (first second : Nat) : Option Nat := do
  let place ← widePlace 0xFE second
  if 0x81 ≤ first && first ≤ 0xFE then return (first - 0x81) * 190 + place else none

/-- The cell that two bytes give in a table with 157 cells in a row. -/
def splitCell (first second : Nat) : Option Nat :=
  if first < 0x81 || 0xFE < first then none
  else if 0x40 ≤ second && second ≤ 0x7E then some ((first - 0x81) * 157 + (second - 0x40))
  else if 0xA1 ≤ second && second ≤ 0xFE then some ((first - 0x81) * 157 + (second - 0xA1 + 63))
  else none

/-! ## Steps -/

/-- A step over one byte if it stands for a character by itself, and over two otherwise. -/
def pairStep (single : Nat → Option Char) (pair : Nat → Nat → Option (List Char)) (first : Nat)
    (rest : List Nat) : Piece :=
  match single first, rest with
  | some character, _ => .text [character] 1
  | none, [] => .damage 1
  | none, second :: _ =>
      match pair first second with
      | some characters => .text characters 2
      | none => .damage 1

/-- The characters that have their ASCII numbers. -/
def asciiByte (byte : Nat) : Option Char := if byte < 0x80 then some (Char.ofNat byte) else none

/-- A step of an encoding in which two bytes make every character beyond ASCII. -/
def cellStep (cell : Nat → Nat → Option Nat) (character : Nat → Option Char) :
    Nat → List Nat → Piece :=
  pairStep asciiByte fun first second =>
    ((cell first second).bind character).map fun found => [found]

/-! ## Chinese -/

/-- A character of the older table of simplified Chinese. -/
def basicSimplified? (cell : Nat) : Option Char :=
  if basicRanges.any fun range => range.1 ≤ cell && cell < range.1 + range.2 then
    match cell with
    | 3 => some '\u30FB'
    | 9 => some '\u2015'
    | _ => simplified.character? ((cell / 94 + 0x20) * 190 + (cell % 94 + 0x60))
  else none

/-- A character of the table of simplified Chinese with the additions of the national standard. -/
def nationalSimplified? (cell : Nat) : Option Char :=
  simplified.character? cell <|> nationalAdditions.character? cell
    <|> privateRanges.findSome? fun (start, code, count) =>
      if start ≤ cell && cell < start + count then some (Char.ofNat (code + (cell - start)))
      else none

/-- The character of a form of four bytes, by the first byte and the number that the bytes make. -/
def fourByteCharacter? (first number : Nat) : Option Char :=
  if first ≤ 0x84 then
    if number < 39420 then
      (fourByteRanges.filter fun range => range.1 ≤ number).getLast?.map fun range =>
        Char.ofNat (range.2 + (number - range.1))
    else none
  else if 0x90 ≤ first && number - 15 * 12600 < 0x100000 then
    some (Char.ofNat (0x10000 + (number - 15 * 12600)))
  else none

/-- The step of the national standard: a second byte that is a digit starts a form of four bytes. -/
def nationalStep (first : Nat) (rest : List Nat) : Piece :=
  match rest with
  | second :: tail =>
      if 0x80 ≤ first && 0x30 ≤ second && second ≤ 0x39 then
        match tail with
        | third :: fourth :: _ =>
            if first < 0x81 || 0xFE < first || third < 0x81 || 0xFE < third || fourth < 0x30
                || 0x39 < fourth then .damage 1
            else
              .ofCharacter 4 (fourByteCharacter? first
                ((((first - 0x81) * 10 + (second - 0x30)) * 126 + (third - 0x81)) * 10
                  + (fourth - 0x30)))
        | _ => .damage (2 + tail.length)
      else cellStep wideCell nationalSimplified? first rest
  | [] => cellStep wideCell nationalSimplified? first rest

/-- A character of traditional Chinese as a vendor has it. -/
def vendorTraditional? (cell : Nat) : Option Char :=
  vendorTraditional.character? cell <|> traditional.character? cell

/-- The characters of a cell with the additions of Hong Kong; in the cells from 0xC6A1 to 0xC8FE
only these count. -/
def hongKongCharacters? (first second : Nat) : Option (List Char) := do
  let cell ← splitCell first second
  let replaces := (first == 0xC6 && 0xA1 ≤ second) || first == 0xC7 || first == 0xC8
  let common := if replaces then none else traditional.character? cell
  let character ← common <|> hongKong.character? cell
  return character :: ((hongKongMarks.find? fun mark => mark.1 == cell).map Prod.snd).toList

/-! ## Japanese -/

/-- The half-wide sign or kana of a byte. -/
def halfKana? (byte : Nat) : Option Char :=
  if 0xA1 ≤ byte && byte ≤ 0xDF then some (Char.ofNat (0xFEC0 + byte)) else none

/-- The vendor's character of two bytes; some first bytes are for private use. -/
def vendorJapanese? (first second : Nat) : Option Char := do
  let cell ← pairedCell first second
  if 0xF0 ≤ first && first ≤ 0xF9 then return Char.ofNat (0xE000 + (cell - 0x2284))
  else vendorJapanese.character? cell <|> japanese.character? cell

/-- The vendor's characters of one byte. -/
def vendorByte? (byte : Nat) : Option Char :=
  if byte ≤ 0x80 then some (Char.ofNat byte)
  else if byte == 0xA0 then some '\uF8F0'
  else if 0xFD ≤ byte then some (Char.ofNat (0xF8F1 + (byte - 0xFD)))
  else halfKana? byte

/-- The editions of the extended tables. -/
inductive Edition
  | first
  | second
  deriving DecidableEq, Repr

/-- The cells of the first plane that only the second edition assigned. -/
def laterCells : List Nat :=
  [0x04C6, 0x0581, 0x1117, 0x1141, 0x1E80, 0x227F, 0x2280, 0x2281, 0x2282, 0x2283]

/-- The characters of a cell of the first plane. -/
def firstPlane? (edition : Edition) (cell : Nat) : Option (List Char) := do
  if edition == .first && laterCells.contains cell then failure
  let character ← japanese.character? cell <|> japaneseExtension.character? cell
  return character :: ((japaneseMarks.find? fun mark => mark.1 == cell).map Prod.snd).toList

/-- The character of a cell of the second plane. -/
def secondPlane? (edition : Edition) (cell : Nat) : Option Char :=
  if edition == .first && cell == 0x21E2 then some '\u9B1D'
  else japaneseSecondPlane.character? cell

/-- The row of the second plane that a paired row behind the first plane stands for. -/
def secondPlaneRow (row : Nat) : Nat :=
  if 103 ≤ row then row - 26 else if 99 ≤ row || row == 95 then row - 88 else row - 94

/-- The extended characters of two bytes, a first byte standing for two rows. -/
def extendedPair? (edition : Edition) (first second : Nat) : Option (List Char) := do
  let cell ← pairedCell first second
  if cell == 31 then return ['\\']
  else if cell < 94 * 94 then firstPlane? edition cell
  else
    let character ← secondPlane? edition (secondPlaneRow (cell / 94) * 94 + cell % 94)
    return [character]

/-- The extended characters of one byte: a yen sign and an overline stand in place of two of ASCII.
-/
def extendedByte? (byte : Nat) : Option Char :=
  if byte == 0x5C then some '¥' else if byte == 0x7E then some '‾'
  else asciiByte byte <|> halfKana? byte

/-- A step in which both bytes of a character that came with the second edition are damaged. -/
def earlierStep (cell : Nat → Nat → Option Nat) (step : Nat → List Nat → Piece) (first : Nat)
    (rest : List Nat) : Piece :=
  match rest with
  | second :: _ =>
      if ((cell first second).map laterCells.contains).getD false then .damage 2
      else step first rest
  | [] => step first rest

/-- A step in which characters that came with the second edition count as they do in an edition. -/
def editionStep (edition : Edition) (cell : Nat → Nat → Option Nat)
    (step : Nat → List Nat → Piece) : Nat → List Nat → Piece :=
  match edition with
  | .first => earlierStep cell step
  | .second => step

/-- A step of an encoding in which 0x8E comes before a half-wide character and 0x8F before the two
bytes of a second table. -/
def shiftedStep (common : Nat → Option (List Char)) (further : Nat → Option Char) (first : Nat)
    (rest : List Nat) : Piece :=
  if first == 0x8F then
    match rest with
    | second :: third :: _ => .ofCharacter 3 ((squareCell second third).bind further)
    | _ => .damage (1 + rest.length)
  else
    pairStep asciiByte (fun first second =>
      if first == 0x8E then (halfKana? second).map fun found => [found]
      else (squareCell first second).bind common) first rest

/-! ## Korean -/

/-- The consonants that start a syllable, in order. -/
def initialJamo : List Char :=
  ['ㄱ', 'ㄲ', 'ㄴ', 'ㄷ', 'ㄸ', 'ㄹ', 'ㅁ', 'ㅂ', 'ㅃ', 'ㅅ', 'ㅆ', 'ㅇ', 'ㅈ', 'ㅉ', 'ㅊ', 'ㅋ', 'ㅌ', 'ㅍ',
   'ㅎ']

/-- The consonants that end a syllable, in order. -/
def finalJamo : List Char :=
  ['ㄱ', 'ㄲ', 'ㄳ', 'ㄴ', 'ㄵ', 'ㄶ', 'ㄷ', 'ㄹ', 'ㄺ', 'ㄻ', 'ㄼ', 'ㄽ', 'ㄾ', 'ㄿ', 'ㅀ', 'ㅁ', 'ㅂ', 'ㅄ',
   'ㅅ', 'ㅆ', 'ㅇ', 'ㅈ', 'ㅊ', 'ㅋ', 'ㅌ', 'ㅍ', 'ㅎ']

/-- The syllable of an initial consonant, a vowel and a final consonant, by their places; without a
final consonant the last place is zero. -/
def syllable (initial vowel final : Nat) : Char :=
  Char.ofNat (0xAC00 + (initial * 21 + vowel) * 28 + final)

/-- The characters of one ordered list that are not in another. -/
def without : List Char → List Char → List Char
  | [], _ => []
  | characters, [] => characters
  | character :: rest, other :: others =>
      if character == other then without rest others
      else character :: without rest (other :: others)

/-- The syllables that are not common, in order. -/
def rareSyllables : Array Char :=
  (without ((List.range 11172).map fun place => Char.ofNat (0xAC00 + place))
    koreanSyllables.characters.toList).toArray

/-- The rare syllable of two bytes. -/
def rareSyllable? (first second : Nat) : Option Char := do
  let place ←
    if 0x41 ≤ second && second ≤ 0x5A then some (second - 0x41)
    else if 0x61 ≤ second && second ≤ 0x7A then some (second - 0x61 + 26)
    else if 0x81 ≤ second && second ≤ 0xFE then some (second - 0x81 + 52)
    else none
  if 0x81 ≤ first && first ≤ 0xA0 then rareSyllables[(first - 0x81) * 178 + place]?
  else if 0xA1 ≤ first && first ≤ 0xC6 && place < 84 then
    rareSyllables[32 * 178 + (first - 0xA1) * 84 + place]?
  else none

/-- The jamo of two bytes of which the first is 0xA4. -/
def jamo? (second : Nat) : Option Char := (squareCell 0xA4 second).bind korean.character?

/-- A step of the encoding in which a filler before three jamo makes a syllable. -/
def koreanStep (first : Nat) (rest : List Nat) : Piece :=
  match first, rest with
  | 0xA4, 0xD4 :: tail =>
      match tail with
      | 0xA4 :: initial :: 0xA4 :: vowel :: 0xA4 :: final :: _ =>
          let built := do
            let start ← (jamo? initial).bind fun jamo => initialJamo.idxOf? jamo
            let middle ← if 0xBF ≤ vowel && vowel ≤ 0xD3 then some (vowel - 0xBF) else none
            let stop ← if final == 0xD4 then some 0
              else (jamo? final).bind fun jamo => (finalJamo.idxOf? jamo).map (· + 1)
            return syllable start middle stop
          .ofCharacter 8 built
      | _ => if tail.length < 6 then .damage (2 + tail.length) else .damage 1
  | _, _ => cellStep squareCell korean.character? first rest

/-- The place of a five-bit code among codes that come in ranges. -/
def codePlace? (ranges : List (Nat × Nat)) (code : Nat) : Option Nat :=
  match ranges with
  | [] => none
  | (low, high) :: rest =>
      if low ≤ code && code ≤ high then some (code - low)
      else (codePlace? rest code).map (· + (high + 1 - low))

/-- The syllable or jamo of a number made of three five-bit codes, each of which has a filler. -/
def composedSyllable? (number : Nat) : Option Char := do
  let initialCode := number / 1024 % 32
  let vowelCode := number / 32 % 32
  let finalCode := number % 32
  let initial := codePlace? [(2, 20)] initialCode
  let vowel := codePlace? [(3, 7), (10, 15), (18, 23), (26, 29)] vowelCode
  let final := codePlace? [(2, 17), (19, 29)] finalCode
  if (initial.isNone && initialCode != 1) || (vowel.isNone && vowelCode != 2)
      || (final.isNone && finalCode != 1) then none
  else
    match initial, vowel, final with
    | none, none, none => some '\u3000'
    | none, none, some place => finalJamo[place]?
    | none, some place, none => some (Char.ofNat (0x314F + place))
    | some place, none, none => initialJamo[place]?
    | some start, some middle, none => some (syllable start middle 0)
    | some start, some middle, some stop => some (syllable start middle (stop + 1))
    | _, _, _ => none

/-- The sign or Han character of two bytes where syllables are composed. -/
def composedSign? (first second : Nat) : Option Char :=
  if first == 0xDF || 0xF9 < first || second < 0x31 || (0x80 ≤ second && second < 0x91)
      || second % 0x80 == 0x7F || (first == 0xDA && 0xA1 ≤ second && second ≤ 0xD3)
      || first == 0xD8 then none
  else
    let row := if first < 0xE0 then 2 * (first - 0xD9) else 2 * first - 0x197
    let place := if second < 0x91 then second - 0x31 else second - 0x43
    korean.character? (row * 94 + place)

/-! ## Encodings -/

/-- The encodings in which it makes no difference what came before. -/
inductive EastAsian
  | basicChinese
  | commonChinese
  | nationalChinese
  | traditionalChinese
  | vendorChinese
  | hongKong
  | pairedJapanese
  | vendorJapanese
  | shiftedJapanese
  | extendedPaired (edition : Edition)
  | extendedShifted (edition : Edition)
  | commonKorean
  | vendorKorean
  | composedKorean
  deriving DecidableEq, Repr

/-- The next piece of a text. -/
def EastAsian.step (encoding : EastAsian) : Nat → List Nat → Piece :=
  match encoding with
  | .basicChinese => cellStep squareCell basicSimplified?
  | .commonChinese => cellStep wideCell simplified.character?
  | .nationalChinese => nationalStep
  | .traditionalChinese => cellStep splitCell traditional.character?
  | .vendorChinese => cellStep splitCell vendorTraditional?
  | .hongKong => pairStep asciiByte hongKongCharacters?
  | .pairedJapanese =>
      pairStep (fun byte => asciiByte byte <|> halfKana? byte) fun first second =>
        ((pairedCell first second).bind japanese.character?).map fun found => [found]
  | .vendorJapanese =>
      pairStep vendorByte? fun first second =>
        (vendorJapanese? first second).map fun found => [found]
  | .shiftedJapanese =>
      shiftedStep (fun cell => (japanese.character? cell).map fun found => [found])
        japaneseSupplement.character?
  | .extendedPaired edition =>
      editionStep edition pairedCell (pairStep extendedByte? (extendedPair? edition))
  | .extendedShifted edition =>
      editionStep edition squareCell (shiftedStep (firstPlane? edition) fun cell =>
        secondPlane? edition cell <|> japaneseSupplement.character? cell)
  | .commonKorean => koreanStep
  | .vendorKorean =>
      pairStep asciiByte fun first second =>
        ((squareCell first second).bind korean.character? <|> rareSyllable? first second).map
          fun found => [found]
  | .composedKorean =>
      pairStep asciiByte fun first second =>
        (if first < 0xD8 then composedSyllable? (first * 0x100 + second)
          else composedSign? first second).map fun found => [found]

end Routebook.Text

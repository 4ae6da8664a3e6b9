import Routebook.Failure

/-!
# Places in a YAML text

A cursor is the text still to be read with its distance from the start, its line and its column.
The character classes of the grammar treat the end of the text as a character of its own, written
here as the absence of one.
-/

namespace Routebook.Yaml

set_option autoImplicit false

/-! ## Faults -/

/-- What is wrong with a YAML text. -/
inductive Complaint
  | unreadableCharacter
  | unexpectedCharacter
  | keyNotFollowedByColon
  | entryNotAllowed
  | keyNotAllowed
  | valueNotAllowed
  | malformedDirective
  | malformedAnchor
  | malformedTag
  | malformedBlockHeader
  | malformedEscape
  | unclosedQuote
  | separatorInQuote
  | documentStartExpected
  | repeatedDirective
  | unsupportedVersion
  | undefinedHandle
  | nodeExpected
  | blockEndExpected
  | flowEndExpected
  | undefinedAlias
  | repeatedAnchor
  | severalDocuments
  | unknownTag (tag : String)
  | wrongNode
  | unhashableKey
  | undecodableBinary
  deriving DecidableEq, Repr

/-- The wording of a complaint. -/
def Complaint.message : Complaint → String
  | .unreadableCharacter => "special characters are not allowed"
  | .unexpectedCharacter => "found character that cannot start any token"
  | .keyNotFollowedByColon => "could not find expected ':'"
  | .entryNotAllowed => "sequence entries are not allowed here"
  | .keyNotAllowed => "mapping keys are not allowed here"
  | .valueNotAllowed => "mapping values are not allowed here"
  | .malformedDirective => "malformed directive"
  | .malformedAnchor => "malformed anchor or alias"
  | .malformedTag => "malformed tag"
  | .malformedBlockHeader => "malformed header of a block scalar"
  | .malformedEscape => "malformed escape in a quoted scalar"
  | .unclosedQuote => "found unexpected end of stream"
  | .separatorInQuote => "found unexpected document separator"
  | .documentStartExpected => "expected '<document start>'"
  | .repeatedDirective => "found duplicate directive"
  | .unsupportedVersion => "found incompatible YAML document (version 1.* is required)"
  | .undefinedHandle => "found undefined tag handle"
  | .nodeExpected => "expected the node content"
  | .blockEndExpected => "expected <block end>"
  | .flowEndExpected => "expected ',' or the end of the collection"
  | .undefinedAlias => "found undefined alias"
  | .repeatedAnchor => "found duplicate anchor"
  | .severalDocuments => "expected a single document in the stream"
  | .unknownTag tag => "could not determine a constructor for the tag '" ++ tag ++ "'"
  | .wrongNode => "expected a node of another kind"
  | .unhashableKey => "found unhashable key"
  | .undecodableBinary => "failed to decode base64 data"

/-- Why a YAML text has no value: it is malformed, or a scalar names a value that does not exist. -/
inductive Fault
  | malformed (complaint : Complaint)
  | failure (cause : Failure)
  deriving DecidableEq, Repr

/-! ## Characters -/

/-- Whether a character ends a line. -/
def isBreak (character : Char) : Bool :=
  character == '\n' || character == '\r' || character == '\x85' || character == '\u2028'
    || character == '\u2029'

/-- Whether a character is a space or a tab. -/
def isSpace (character : Char) : Bool :=
  character == ' ' || character == '\t'

/-- Whether a line ends here. -/
def endsLine : Option Char → Bool
  | none => true
  | some character => isBreak character

/-- Whether a word of an indicator ends here; a tab does not end it. -/
def endsWord : Option Char → Bool
  | none => true
  | some character => character == ' ' || isBreak character

/-- Whether a separation from what came before starts here. -/
def separates : Option Char → Bool
  | none => true
  | some character => isSpace character || isBreak character

/-- Whether a character can stand in the name of an anchor, a handle or a directive. -/
def isWordCharacter (character : Char) : Bool :=
  character.isAlphanum || character == '-' || character == '_'

/-- Whether a character can stand in the rest of a tag. -/
def isTagCharacter (character : Char) : Bool :=
  character.isAlphanum || "-;/?:@&=+$,_.!~*'()[]%".toList.contains character

/-- Whether a text may hold a character. -/
def isReadable (character : Char) : Bool :=
  let code := character.toNat
  code == 0x09 || code == 0x0A || code == 0x0D || (0x20 ≤ code && code ≤ 0x7E) || code == 0x85
    || (0xA0 ≤ code && code ≤ 0xD7FF) || (0xE000 ≤ code && code ≤ 0xFFFD) || 0x10000 ≤ code

/-! ## Cursors -/

/-- A place in a text. -/
structure Cursor where
  rest : List Char
  /-- The number of characters of the whole text, which bounds what is left of it. -/
  size : Nat
  index : Nat
  line : Nat
  column : Nat
  deriving Repr

namespace Cursor

/-- The start of a text. -/
def start (text : List Char) : Cursor := ⟨text, text.length, 0, 0, 0⟩

/-- The next character. -/
def peek (cursor : Cursor) : Option Char := cursor.rest.head?

/-- The character at a distance. -/
def peekAt (cursor : Cursor) (distance : Nat) : Option Char := cursor.rest[distance]?

/-- The place after the next character.  The two characters of a line break count as one break, and
a byte order mark takes no column. -/
def advance (cursor : Cursor) : Cursor :=
  match cursor.rest with
  | [] => cursor
  | character :: rest =>
      let index := cursor.index + 1
      if isBreak character && (character != '\r' || rest.head? != some '\n') then
        { cursor with rest, index, line := cursor.line + 1, column := 0 }
      else if character == '\uFEFF' then { cursor with rest, index }
      else { cursor with rest, index, column := cursor.column + 1 }

/-- The place after a number of characters. -/
def advanceBy : Nat → Cursor → Cursor
  | 0, cursor => cursor
  | count + 1, cursor => advanceBy count cursor.advance

/-- The leading characters with a property, and the place after them. -/
def takeWhile (property : Char → Bool) (cursor : Cursor) : List Char × Cursor :=
  let taken := cursor.rest.takeWhile property
  (taken, cursor.advanceBy taken.length)

/-- The place after leading characters with a property. -/
def skipWhile (property : Char → Bool) (cursor : Cursor) : Cursor :=
  (cursor.takeWhile property).2

/-- The place after leading spaces. -/
def skipSpaces (cursor : Cursor) : Cursor := cursor.skipWhile (· == ' ')

/-- The place after leading spaces, as long as the column is below a limit. -/
def skipIndent (limit : Int) : Nat → Cursor → Cursor
  | 0, cursor => cursor
  | steps + 1, cursor =>
      if (cursor.column : Int) < limit && cursor.peek == some ' ' then
        skipIndent limit steps cursor.advance
      else cursor

/-- The place at the end of the line, if a comment starts here. -/
def skipComment (cursor : Cursor) : Cursor :=
  if cursor.peek == some '#' then cursor.skipWhile (!isBreak ·) else cursor

/-- The line break here as it counts in a scalar, and the place after it; nothing if there is none.
-/
def takeBreak (cursor : Cursor) : List Char × Cursor :=
  match cursor.rest with
  | '\r' :: '\n' :: _ => (['\n'], cursor.advanceBy 2)
  | character :: _ =>
      if character == '\n' || character == '\r' || character == '\x85' then
        (['\n'], cursor.advance)
      else if isBreak character then ([character], cursor.advance)
      else ([], cursor)
  | [] => ([], cursor)

/-- Whether three equal characters followed by a separation stand here. -/
def atMarker (mark : Char) (cursor : Cursor) : Bool :=
  cursor.rest.take 3 == [mark, mark, mark] && separates (cursor.peekAt 3)

/-- Whether a marker of the start or the end of a document stands here. -/
def atDocumentMarker (cursor : Cursor) : Bool :=
  cursor.atMarker '-' || cursor.atMarker '.'

end Cursor

end Routebook.Yaml

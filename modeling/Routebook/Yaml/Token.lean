import Routebook.Yaml.Scalar

/-!
# Tokens of a YAML text

The text is cut into tokens from left to right.  Indentation becomes the tokens that open and close
block collections, and a colon can turn something that was read before it into a key: the place
where such a key would start is remembered, at most one for each level of flow collections, until
its line ends.
-/

namespace Routebook.Yaml

set_option autoImplicit false

variable [Runtime]

/-- A directive before a document. -/
inductive Directive
  | version (major minor : Nat)
  | tagHandle (handle expansion : String)
  | other
  deriving DecidableEq, Repr

/-- A token. -/
inductive Token
  | directive (content : Directive)
  | documentStart
  | documentEnd
  | blockSequenceStart
  | blockMappingStart
  | blockEnd
  | flowSequenceStart
  | flowSequenceEnd
  | flowMappingStart
  | flowMappingEnd
  | blockEntry
  | flowEntry
  | key
  | value
  | anchor (name : String)
  | reference (name : String)
  | tag (handle : Option String) (suffix : String)
  | scalar (text : String) (plain : Bool)
  | streamEnd
  /-- The text cannot be cut into tokens any further. -/
  | broken (fault : Fault)
  deriving DecidableEq, Repr

/-! ## Words: directives, anchors and tags -/

/-- Reads a decimal number. -/
def readNumber (cursor : Cursor) : Except Fault (Nat × Cursor) :=
  let (digits, after) := cursor.takeWhile Char.isDigit
  if digits.isEmpty then .error (.malformed .malformedDirective)
  else if Number.digitLimit < digits.length then .error (.failure .badValue)
  else .ok (Number.digitsValue digits, after)

/-- Reads the escaped bytes at a place as text. -/
def readTagEscapes : Nat → Cursor → Except Fault (List UInt8 × Cursor)
  | 0, cursor => .ok ([], cursor)
  | steps + 1, cursor =>
      match cursor.rest with
      | '%' :: first :: second :: _ =>
          match Json.hexNumber? [first, second] with
          | none => .error (.malformed .malformedTag)
          | some code => do
              let (bytes, after) ← readTagEscapes steps (cursor.advanceBy 3)
              return (UInt8.ofNat code :: bytes, after)
      | '%' :: _ => .error (.malformed .malformedTag)
      | _ => .ok ([], cursor)

/-- Reads the characters of a tag; percent escapes stand for bytes of text. -/
def readTagText : Nat → Cursor → Except Fault (List Char × Cursor)
  | 0, cursor => .ok ([], cursor)
  | steps + 1, cursor =>
      match cursor.peek with
      | some '%' => do
          let (bytes, next) ← readTagEscapes cursor.size cursor
          match Text.utf8Decode bytes with
          | .error _ => throw (.malformed .malformedTag)
          | .ok text =>
              let (more, after) ← readTagText steps next
              return (text ++ more, after)
      | some character =>
          if isTagCharacter character then do
            let (more, after) ← readTagText steps cursor.advance
            return (character :: more, after)
          else return ([], cursor)
      | none => return ([], cursor)

/-- Reads the nonempty rest of a tag or the expansion of a handle. -/
def readTagSuffix (cursor : Cursor) : Except Fault (String × Cursor) := do
  let (text, after) ← readTagText cursor.size cursor
  if after.index == cursor.index then throw (.malformed .malformedTag)
  return (String.ofList text, after)

/-- Reads the handle of a tag: a mark alone, or a word between marks. -/
def readHandle (cursor : Cursor) : Except Fault (String × Cursor) :=
  if cursor.peek != some '!' then .error (.malformed .malformedTag)
  else
    let (word, afterWord) := cursor.advance.takeWhile isWordCharacter
    if afterWord.peek == some '!' && (cursor.peekAt 1 != some ' ') then
      .ok (String.ofList ('!' :: word ++ ['!']), afterWord.advance)
    else if cursor.peekAt 1 == some ' ' then .ok ("!", cursor.advance)
    else .error (.malformed .malformedTag)

/-- Reads the version after the name of its directive. -/
def readVersion (cursor : Cursor) : Except Fault (Directive × Cursor) := do
  let (major, afterMajor) ← readNumber cursor.skipSpaces
  if afterMajor.peek != some '.' then throw (.malformed .malformedDirective)
  let (minor, after) ← readNumber afterMajor.advance
  if !endsWord after.peek then throw (.malformed .malformedDirective)
  return (.version major minor, after)

/-- Reads a handle and its expansion after the name of their directive. -/
def readTagHandle (cursor : Cursor) : Except Fault (Directive × Cursor) := do
  let (handle, afterHandle) ← readHandle cursor.skipSpaces
  if afterHandle.peek != some ' ' then throw (.malformed .malformedDirective)
  let (expansion, after) ← readTagSuffix afterHandle.skipSpaces
  if !endsWord after.peek then throw (.malformed .malformedDirective)
  return (.tagHandle handle expansion, after)

/-- Reads a directive and the rest of its line. -/
def readDirective (cursor : Cursor) : Except Fault (Directive × Cursor) := do
  let (name, afterName) := cursor.advance.takeWhile isWordCharacter
  if name.isEmpty || !endsWord afterName.peek then throw (.malformed .malformedDirective)
  let (content, after) ←
    if name == "YAML".toList then readVersion afterName
    else if name == "TAG".toList then readTagHandle afterName
    else pure (.other, afterName.skipWhile (!isBreak ·))
  return (content, ← ignoredLine .malformedDirective after)

/-- Reads the name of an anchor or an alias after its mark. -/
def readAnchorName (cursor : Cursor) : Except Fault (String × Cursor) :=
  let (name, after) := cursor.advance.takeWhile isWordCharacter
  let ends := separates after.peek
    || (after.peek.map fun character => "?:,]\x7d%@\x60".toList.contains character).getD false
  if name.isEmpty || !ends then .error (.malformed .malformedAnchor)
  else .ok (String.ofList name, after)

/-- Whether a second mark follows in the same word, so that the tag starts with a handle. -/
def hasHandle : List Char → Bool
  | [] => false
  | character :: rest =>
      if character == ' ' || isBreak character then false
      else character == '!' || hasHandle rest

/-- Reads a tag: a whole one between angle brackets, the bare mark, or a handle with its rest. -/
def readTag (cursor : Cursor) : Except Fault (Token × Cursor) := do
  let next := cursor.advance
  let (token, after) ←
    if next.peek == some '<' then do
      let (suffix, after) ← readTagSuffix next.advance
      if after.peek != some '>' then throw (.malformed .malformedTag)
      pure (Token.tag none suffix, after.advance)
    else if separates next.peek then pure (Token.tag none "!", next)
    else if hasHandle next.rest then do
      let (handle, afterHandle) ← readHandle cursor
      let (suffix, after) ← readTagSuffix afterHandle
      pure (Token.tag (some handle) suffix, after)
    else do
      let (suffix, after) ← readTagSuffix next
      pure (Token.tag (some "!") suffix, after)
  if !endsWord after.peek then throw (.malformed .malformedTag)
  return (token, after)

/-! ## The state of the cutting -/

/-- A place where a key may have started. -/
structure Candidate where
  /-- The number of tokens before it. -/
  position : Nat
  /-- Whether the text is malformed unless it turns out to be a key. -/
  required : Bool
  index : Nat
  line : Nat
  column : Nat
  deriving Repr

/-- The state of the cutting: the place, the open collections, and the tokens so far. -/
structure Lexer where
  cursor : Cursor
  /-- How many flow collections are open; closing one too many leaves a level that never ends. -/
  flowLevel : Int
  /-- The indentation of the innermost block collection, and of those around it. -/
  indent : Int
  outerIndents : List Int
  /-- Whether a key can start here. -/
  keyAllowed : Bool
  /-- The remembered places by level. -/
  candidates : List (Int × Candidate)
  /-- The tokens so far, the last one first, and their number. -/
  emitted : List Token
  count : Nat
  deriving Repr

namespace Lexer

/-- The state at the start of a text. -/
def start (text : List Char) : Lexer where
  cursor := Cursor.start text
  flowLevel := 0
  indent := -1
  outerIndents := []
  keyAllowed := true
  candidates := []
  emitted := []
  count := 0

/-- Whether a flow collection is open. -/
def inFlow (lexer : Lexer) : Bool := lexer.flowLevel != 0

/-- The state with one more token. -/
def emit (lexer : Lexer) (token : Token) : Lexer :=
  { lexer with emitted := token :: lexer.emitted, count := lexer.count + 1 }

/-- The state with a token put in after the first few. -/
def emitAt (lexer : Lexer) (position : Nat) (token : Token) : Lexer :=
  let later := lexer.count - position
  { lexer with
    emitted := lexer.emitted.take later ++ token :: lexer.emitted.drop later
    count := lexer.count + 1 }

/-- The state with one more token, at the place after it. -/
def emitTo (lexer : Lexer) (token : Token) (after : Cursor) : Lexer :=
  { lexer.emit token with cursor := after }

/-- The place remembered at the current level. -/
def candidate? (lexer : Lexer) : Option Candidate :=
  (lexer.candidates.find? fun entry => entry.1 == lexer.flowLevel).map Prod.snd

/-- The state that remembers nothing at the current level. -/
def dropCandidate (lexer : Lexer) : Lexer :=
  { lexer with candidates := lexer.candidates.filter fun entry => entry.1 != lexer.flowLevel }

/-- Forgets the place at the current level, which must not be a required key. -/
def forgetCandidate (lexer : Lexer) : Except Fault Lexer :=
  match lexer.candidate? with
  | some candidate =>
      if candidate.required then .error (.malformed .keyNotFollowedByColon)
      else .ok lexer.dropCandidate
  | none => .ok lexer

/-- Remembers the current place, if a key can start here. -/
def rememberCandidate (lexer : Lexer) : Except Fault Lexer := do
  if !lexer.keyAllowed then return lexer
  let cleared ← lexer.forgetCandidate
  let cursor := lexer.cursor
  let candidate : Candidate :=
    { position := lexer.count
      required := !lexer.inFlow && lexer.indent == (cursor.column : Int)
      index := cursor.index
      line := cursor.line
      column := cursor.column }
  return { cleared with candidates := (lexer.flowLevel, candidate) :: cleared.candidates }

/-- Whether a place is too far back: a key stays on one line and within 1024 characters. -/
def isStale (lexer : Lexer) (candidate : Candidate) : Bool :=
  candidate.line != lexer.cursor.line || candidate.index + 1024 < lexer.cursor.index

/-- Forgets the places that are too far back. -/
def forgetStale (lexer : Lexer) : Except Fault Lexer :=
  if lexer.candidates.any fun entry => lexer.isStale entry.2 && entry.2.required then
    .error (.malformed .keyNotFollowedByColon)
  else
    .ok { lexer with candidates := lexer.candidates.filter fun entry => !lexer.isStale entry.2 }

/-- Closes the block collections that are indented more than a column. -/
def unwindFrom (column : Int) : List Int → Lexer → Lexer
  | [], lexer => lexer
  | outer :: rest, lexer =>
      if column < lexer.indent then
        unwindFrom column rest { lexer.emit .blockEnd with indent := outer, outerIndents := rest }
      else lexer

/-- Closes the block collections that are indented more than a column; flow collections ignore
indentation. -/
def unwind (lexer : Lexer) (column : Int) : Lexer :=
  if lexer.inFlow then lexer else unwindFrom column lexer.outerIndents lexer

/-- Opens a block collection at a column unless one as deep is open. -/
def openBlock (lexer : Lexer) (column : Int) (token : Token) (position : Nat) : Lexer :=
  if lexer.indent < column then
    { lexer.emitAt position token with
      indent := column
      outerIndents := lexer.indent :: lexer.outerIndents }
  else lexer

/-- The place of the next token, after blanks, comments and line breaks, and whether a line ended.
-/
def skipToToken (inFlow : Bool) : Nat → Bool → Cursor → Bool × Cursor
  | 0, keyAllowed, cursor => (keyAllowed, cursor)
  | steps + 1, keyAllowed, cursor =>
      let atEnd := cursor.skipSpaces.skipComment
      match atEnd.takeBreak with
      | ([], _) => (keyAllowed, atEnd)
      | (_, next) => skipToToken inFlow steps (keyAllowed || !inFlow) next

/-! ## Cutting one token -/

/-- Cuts the end of the text. -/
def cutEnd (lexer : Lexer) : Except Fault Lexer := do
  let closed ← (lexer.unwind (-1)).forgetCandidate
  return { closed.emit .streamEnd with keyAllowed := false, candidates := [] }

/-- Cuts a directive. -/
def cutDirective (lexer : Lexer) : Except Fault Lexer := do
  let closed ← (lexer.unwind (-1)).forgetCandidate
  let (content, after) ← readDirective lexer.cursor
  return { closed.emitTo (.directive content) after with keyAllowed := false }

/-- Cuts the marker of the start or the end of a document. -/
def cutMarker (lexer : Lexer) (token : Token) : Except Fault Lexer := do
  let closed ← (lexer.unwind (-1)).forgetCandidate
  return { closed.emitTo token (lexer.cursor.advanceBy 3) with keyAllowed := false }

/-- Cuts the start of a flow collection. -/
def cutFlowStart (lexer : Lexer) (token : Token) : Except Fault Lexer := do
  let remembered ← lexer.rememberCandidate
  return { remembered.emitTo token lexer.cursor.advance with
    flowLevel := lexer.flowLevel + 1
    keyAllowed := true }

/-- Cuts the end of a flow collection. -/
def cutFlowEnd (lexer : Lexer) (token : Token) : Except Fault Lexer := do
  let cleared ← lexer.forgetCandidate
  return { cleared.emitTo token lexer.cursor.advance with
    flowLevel := lexer.flowLevel - 1
    keyAllowed := false }

/-- Cuts the separator of a flow collection. -/
def cutFlowEntry (lexer : Lexer) : Except Fault Lexer := do
  let cleared ← lexer.forgetCandidate
  return { cleared.emitTo .flowEntry lexer.cursor.advance with keyAllowed := true }

/-- Cuts the mark of an item of a block sequence. -/
def cutBlockEntry (lexer : Lexer) : Except Fault Lexer := do
  if !lexer.inFlow && !lexer.keyAllowed then throw (.malformed .entryNotAllowed)
  let opened := if lexer.inFlow then lexer
    else lexer.openBlock lexer.cursor.column .blockSequenceStart lexer.count
  let cleared ← opened.forgetCandidate
  return { cleared.emitTo .blockEntry lexer.cursor.advance with keyAllowed := true }

/-- Cuts the mark of an explicit key. -/
def cutKey (lexer : Lexer) : Except Fault Lexer := do
  if !lexer.inFlow && !lexer.keyAllowed then throw (.malformed .keyNotAllowed)
  let opened := if lexer.inFlow then lexer
    else lexer.openBlock lexer.cursor.column .blockMappingStart lexer.count
  let cleared ← opened.forgetCandidate
  return { cleared.emitTo .key lexer.cursor.advance with keyAllowed := !lexer.inFlow }

/-- Cuts the mark of a value; a remembered place at this level becomes a key. -/
def cutValue (lexer : Lexer) : Except Fault Lexer := do
  match lexer.candidate? with
  | some candidate =>
      let keyed := lexer.dropCandidate.emitAt candidate.position .key
      let opened := if lexer.inFlow then keyed
        else keyed.openBlock candidate.column .blockMappingStart candidate.position
      return { opened.emitTo .value lexer.cursor.advance with keyAllowed := false }
  | none =>
      if !lexer.inFlow && !lexer.keyAllowed then throw (.malformed .valueNotAllowed)
      let opened := if lexer.inFlow then lexer
        else lexer.openBlock lexer.cursor.column .blockMappingStart lexer.count
      return { opened.emitTo .value lexer.cursor.advance with keyAllowed := !lexer.inFlow }

/-- Cuts a token that may start a key and that ends where it was read to. -/
def cutNode (lexer : Lexer) (read : Cursor → Except Fault (Token × Cursor)) :
    Except Fault Lexer := do
  let remembered ← lexer.rememberCandidate
  let (token, after) ← read lexer.cursor
  return { remembered.emitTo token after with keyAllowed := false }

/-- Cuts a block scalar. -/
def cutBlockScalar (lexer : Lexer) (folded : Bool) : Except Fault Lexer := do
  let cleared ← lexer.forgetCandidate
  let (text, after) ← blockScalar folded lexer.indent lexer.cursor
  return { cleared.emitTo (.scalar (String.ofList text) false) after with keyAllowed := true }

/-- Cuts a quoted scalar. -/
def cutQuoted (lexer : Lexer) (double : Bool) : Except Fault Lexer :=
  lexer.cutNode fun cursor => do
    let (text, after) ← quotedScalar double cursor
    return (.scalar (String.ofList text) false, after)

/-- Cuts a plain scalar. -/
def cutPlain (lexer : Lexer) : Except Fault Lexer := do
  let remembered ← lexer.rememberCandidate
  let (text, lineEnded, after) := plainScalar lexer.inFlow lexer.indent lexer.cursor
  return { remembered.emitTo (.scalar (String.ofList text) true) after with
    keyAllowed := lineEnded }

/-- Cuts the token at the current place. -/
def cutHere (lexer : Lexer) (first : Char) : Except Fault Lexer :=
  let cursor := lexer.cursor
  let second := cursor.peekAt 1
  let atLineStart := cursor.column == 0
  let marksEntry := separates second
  if first == '%' && atLineStart then lexer.cutDirective
  else if atLineStart && cursor.atMarker '-' then lexer.cutMarker .documentStart
  else if atLineStart && cursor.atMarker '.' then lexer.cutMarker .documentEnd
  else if first == '[' then lexer.cutFlowStart .flowSequenceStart
  else if first == '\x7b' then lexer.cutFlowStart .flowMappingStart
  else if first == ']' then lexer.cutFlowEnd .flowSequenceEnd
  else if first == '\x7d' then lexer.cutFlowEnd .flowMappingEnd
  else if first == ',' then lexer.cutFlowEntry
  else if first == '-' && marksEntry then lexer.cutBlockEntry
  else if first == '?' && (lexer.inFlow || marksEntry) then lexer.cutKey
  else if first == ':' && (lexer.inFlow || marksEntry) then lexer.cutValue
  else if first == '*' then
    lexer.cutNode fun place => (readAnchorName place).map fun found => (.reference found.1, found.2)
  else if first == '&' then
    lexer.cutNode fun place => (readAnchorName place).map fun found => (.anchor found.1, found.2)
  else if first == '!' then lexer.cutNode readTag
  else if first == '|' && !lexer.inFlow then lexer.cutBlockScalar false
  else if first == '>' && !lexer.inFlow then lexer.cutBlockScalar true
  else if first == '\'' then lexer.cutQuoted false
  else if first == '"' then lexer.cutQuoted true
  else if startsPlain lexer.inFlow (some first) second then lexer.cutPlain
  else .error (.malformed .unexpectedCharacter)

/-- Moves to the next token and cuts it. -/
def step (lexer : Lexer) : Except Fault Lexer := do
  let (keyAllowed, place) :=
    skipToToken lexer.inFlow lexer.cursor.size.succ lexer.keyAllowed lexer.cursor
  let ready ← ({ lexer with cursor := place, keyAllowed := keyAllowed } : Lexer).forgetStale
  let unwound := ready.unwind place.column
  match place.peek with
  | none => unwound.cutEnd
  | some first => unwound.cutHere first

/-- The tokens that no colon can change any more: those before the first one that may still turn out
to start a key. -/
def settled (lexer : Lexer) : List Token :=
  let undecided := lexer.candidates.filter fun entry => !lexer.isStale entry.2
  match (undecided.map fun entry => entry.2.position).min? with
  | some position => lexer.emitted.reverse.take position
  | none => lexer.emitted.reverse

/-- Cuts tokens until the text ends or cannot be cut any further.  A fault in the text stands right
after the settled tokens, since nobody can read on before the others are settled. -/
def run : Nat → Lexer → List Token
  | 0, lexer => lexer.emitted.reverse
  | steps + 1, lexer =>
      match lexer.step with
      | .error fault => lexer.settled ++ [.broken fault]
      | .ok next =>
          if next.emitted.head? == some .streamEnd then next.emitted.reverse
          else run steps next

end Lexer

/-- The tokens of a text.  A byte order mark at its start is skipped. -/
def Token.ofText (text : List Char) : List Token :=
  if !text.all isReadable then [.broken (.malformed .unreadableCharacter)]
  else
    let lexer := Lexer.start text
    let marked := match text with
      | '\uFEFF' :: _ => { lexer with cursor := lexer.cursor.advance }
      | _ => lexer
    Lexer.run (text.length + 2) marked

end Routebook.Yaml

import Routebook.Json.Reader
import Routebook.Runtime
import Routebook.Text.Utf8
import Routebook.Yaml.Cursor

/-!
# Scalars in a YAML text

The four written forms of a scalar: plain, in single quotes, in double quotes, and as a block that
is kept literally or folded.  Each reader takes the place where the form starts and returns the text
of the scalar with the place after it.
-/

namespace Routebook.Yaml

set_option autoImplicit false

variable [Runtime]

/-! ## Block scalars -/

/-- What happens to the line breaks at the end of a block scalar. -/
inductive Chomping
  | strip
  | clip
  | keep
  deriving DecidableEq, Repr

/-- The number that an indentation indicator stands for. -/
def indentIndicator? (character : Option Char) : Option Nat :=
  match character with
  | some digit => if digit.isDigit then some (digit.toNat - '0'.toNat) else none
  | none => none

/-- The chomping that an indicator stands for. -/
def chompIndicator? (character : Option Char) : Option Chomping :=
  match character with
  | some '+' => some .keep
  | some '-' => some .strip
  | _ => none

/-- The indicators in the header of a block scalar, in either order. -/
def blockIndicators (cursor : Cursor) : Except Fault (Chomping × Option Nat × Cursor) := do
  let (chomping, increment, after) :=
    match chompIndicator? cursor.peek with
    | some chomping =>
        let next := cursor.advance
        match indentIndicator? next.peek with
        | some increment => (chomping, some increment, next.advance)
        | none => (chomping, none, next)
    | none =>
        match indentIndicator? cursor.peek with
        | some increment =>
            let next := cursor.advance
            match chompIndicator? next.peek with
            | some chomping => (chomping, some increment, next.advance)
            | none => (.clip, some increment, next)
        | none => (.clip, none, cursor)
  if increment == some 0 || !endsWord after.peek then throw (.malformed .malformedBlockHeader)
  return (chomping, increment, after)

/-- The place after the rest of a line that may hold blanks and a comment only. -/
def ignoredLine (complaint : Complaint) (cursor : Cursor) : Except Fault Cursor :=
  let atEnd := cursor.skipSpaces.skipComment
  if endsLine atEnd.peek then .ok atEnd.takeBreak.2 else .error (.malformed complaint)

/-- The line breaks of leading blank lines, the widest indentation seen, and the place after them.
-/
def detectIndent : Nat → Nat → Cursor → List Char × Nat × Cursor
  | 0, widest, cursor => ([], widest, cursor)
  | steps + 1, widest, cursor =>
      match cursor.peek with
      | some ' ' =>
          let next := cursor.advance
          detectIndent steps (max widest next.column) next
      | some character =>
          if isBreak character then
            let (lineBreak, next) := cursor.takeBreak
            let (breaks, final, after) := detectIndent steps widest next
            (lineBreak ++ breaks, final, after)
          else ([], widest, cursor)
      | none => ([], widest, cursor)

/-- The line breaks of blank lines inside a block of a given indentation, and the place after them
and the indentation of the next line. -/
def blockBreaks (indent : Int) : Nat → Cursor → List Char × Cursor
  | 0, cursor => ([], cursor)
  | steps + 1, cursor =>
      let atText := cursor.skipIndent indent cursor.size
      match atText.peek with
      | some character =>
          if isBreak character then
            let (lineBreak, next) := atText.takeBreak
            let (breaks, after) := blockBreaks indent steps next
            (lineBreak ++ breaks, after)
          else ([], atText)
      | none => ([], atText)

/-- The lines of a block scalar, given the line breaks before the first of them: the text, the last
line break, the breaks after it, and the place after the block. -/
def blockLines (folded : Bool) (indent : Int) :
    Nat → List Char → Cursor → List Char × List Char × List Char × Cursor
  | 0, breaks, cursor => ([], [], breaks, cursor)
  | steps + 1, breaks, cursor =>
      let startsWithText := match cursor.peek with
        | some character => !isSpace character
        | none => true
      let (line, atBreak) := cursor.takeWhile (!isBreak ·)
      let (lineBreak, next) := atBreak.takeBreak
      let (following, atNext) := blockBreaks indent next.size next
      if (atNext.column : Int) == indent && atNext.peek.isSome then
        let nextStartsWithText := match atNext.peek with
          | some character => !isSpace character
          | none => true
        let joint :=
          if folded && lineBreak == ['\n'] && startsWithText && nextStartsWithText then
            if following.isEmpty then [' '] else []
          else lineBreak
        let (text, lastBreak, remaining, after) := blockLines folded indent steps following atNext
        (breaks ++ line ++ joint ++ text, lastBreak, remaining, after)
      else (breaks ++ line, lineBreak, following, atNext)

/-- Reads a block scalar; `parent` is the indentation of the collection around it. -/
def blockScalar (folded : Bool) (parent : Int) (cursor : Cursor) :
    Except Fault (List Char × Cursor) := do
  let (chomping, increment, afterHeader) ← blockIndicators cursor.advance
  let afterLine ← ignoredLine .malformedBlockHeader afterHeader
  let least := max (parent + 1) 1
  let (breaks, indent, atText) := match increment with
    | none =>
        let (breaks, widest, atText) := detectIndent afterLine.size 0 afterLine
        (breaks, max least (widest : Int), atText)
    | some increment =>
        let indent := least + increment - 1
        let (breaks, atText) := blockBreaks indent afterLine.size afterLine
        (breaks, indent, atText)
  let (text, lastBreak, remaining, after) :=
    if (atText.column : Int) == indent && atText.peek.isSome then
      blockLines folded indent atText.size breaks atText
    else ([], [], breaks, atText)
  let tail := match chomping with
    | .strip => []
    | .clip => lastBreak
    | .keep => lastBreak ++ remaining
  return (text ++ tail, after)

/-! ## Quoted scalars -/

/-- The character that a one-letter escape stands for. -/
def escapeLetter? : Char → Option Char
  | '0' => some '\x00'
  | 'a' => some '\x07'
  | 'b' => some '\x08'
  | 't' => some '\t'
  | '\t' => some '\t'
  | 'n' => some '\n'
  | 'v' => some '\x0B'
  | 'f' => some '\x0C'
  | 'r' => some '\r'
  | 'e' => some '\x1B'
  | ' ' => some ' '
  | '"' => some '"'
  | '\\' => some '\\'
  | '/' => some '/'
  | 'N' => some '\x85'
  | '_' => some '\xA0'
  | 'L' => some '\u2028'
  | 'P' => some '\u2029'
  | _ => none

/-- The number of hexadecimal digits that an escape letter announces. -/
def escapeWidth? : Char → Option Nat
  | 'x' => some 2
  | 'u' => some 4
  | 'U' => some 8
  | _ => none

/-- The line breaks of blank lines inside a quoted scalar, and the place of the next text. -/
def quotedBreaks : Nat → Cursor → Except Fault (List Char × Cursor)
  | 0, cursor => .ok ([], cursor)
  | steps + 1, cursor =>
      if cursor.atDocumentMarker then .error (.malformed .separatorInQuote)
      else
        let atText := cursor.skipWhile isSpace
        match atText.peek with
        | some character =>
            if isBreak character then do
              let (lineBreak, next) := atText.takeBreak
              let (breaks, after) ← quotedBreaks steps next
              return (lineBreak ++ breaks, after)
            else return ([], atText)
        | none => return ([], atText)

/-- The code point that an escape names. -/
def escapedCode (code : Nat) : Except Fault Nat :=
  if code < 0x110000 then .ok code
  else if code < 0x80000000 then .error (.failure .badValue)
  else .error (.failure .overflow)

/-- The text of a list of code points.  Halves of pairs stay halves, also one after the other. -/
def ofCodes (codes : List Nat) : List Char :=
  codes.map fun code =>
    if 0xD800 ≤ code && code < 0xE000 then Text.Halves.standIn code else Char.ofNat code

/-- The code points of a text. -/
def codesOf (text : List Char) : List Nat := text.map Char.toNat

/-- Reads an escape after its backslash: the code points that it stands for and the place after it.
-/
def quotedEscape (cursor : Cursor) : Except Fault (List Nat × Cursor) :=
  match cursor.peek with
  | none => .error (.malformed .malformedEscape)
  | some letter =>
      match escapeLetter? letter, escapeWidth? letter with
      | some character, _ => .ok ([character.toNat], cursor.advance)
      | none, some width =>
          let digits := (cursor.rest.drop 1).take width
          match Json.hexNumber? digits with
          | none => .error (.malformed .malformedEscape)
          | some code =>
              if digits.length < width then .error (.malformed .malformedEscape)
              else (escapedCode code).map fun code => ([code], cursor.advanceBy (width + 1))
      | none, none =>
          if isBreak letter then
            let next := cursor.takeBreak.2
            (quotedBreaks next.size next).map fun found => (codesOf found.1, found.2)
          else .error (.malformed .malformedEscape)

/-- Reads the code points of a quoted scalar after its opening quote. -/
def quotedCodes (double : Bool) : Nat → Cursor → Except Fault (List Nat × Cursor)
  | 0, _ => .error (.malformed .unclosedQuote)
  | steps + 1, cursor =>
      let continueWith := fun (codes : List Nat) (next : Cursor) => do
        let (more, after) ← quotedCodes double steps next
        return (codes ++ more, after)
      match cursor.peek with
      | none => .error (.malformed .unclosedQuote)
      | some character =>
          if !double && character == '\'' then
            if cursor.peekAt 1 == some '\'' then continueWith ['\''.toNat] (cursor.advanceBy 2)
            else .ok ([], cursor.advance)
          else if double && character == '"' then .ok ([], cursor.advance)
          else if double && character == '\\' then do
            let (codes, next) ← quotedEscape cursor.advance
            continueWith codes next
          else if isSpace character || isBreak character then
            let (blanks, atBreak) := cursor.takeWhile isSpace
            match atBreak.peek with
            | none => .error (.malformed .unclosedQuote)
            | some next =>
                if isBreak next then do
                  let (lineBreak, afterBreak) := atBreak.takeBreak
                  let (breaks, atText) ← quotedBreaks afterBreak.size afterBreak
                  let joint := if lineBreak != ['\n'] then lineBreak
                    else if breaks.isEmpty then [' '] else []
                  continueWith (codesOf (joint ++ breaks)) atText
                else continueWith (codesOf blanks) atBreak
          else continueWith [character.toNat] cursor.advance

/-- Reads a quoted scalar. -/
def quotedScalar (double : Bool) (cursor : Cursor) : Except Fault (List Char × Cursor) :=
  (quotedCodes double cursor.size cursor.advance).map fun found =>
    (ofCodes found.1, found.2)

/-! ## Plain scalars -/

/-- Whether a plain scalar can start with a character followed by another. -/
def startsPlain (inFlow : Bool) (first second : Option Char) : Bool :=
  match first with
  | none => false
  | some character =>
      let isIndicator := "-?:,[]\x7b\x7d#&*!|>'\"%@\x60".toList.contains character
      (!isIndicator && !separates first)
        || (!separates second
          && (character == '-' || (!inFlow && (character == '?' || character == ':'))))

/-- Whether a plain scalar ends before a character followed by another. -/
def endsPlain (inFlow : Bool) (character : Char) (next : Option Char) : Bool :=
  separates (some character)
    || (character == ':'
      && (separates next
        || (inFlow
          && (next.map fun following => ",[]\x7b\x7d".toList.contains following).getD true)))
    || (inFlow && ",?[]\x7b\x7d".toList.contains character)

/-- The number of leading characters that a plain scalar takes. -/
def plainLength (inFlow : Bool) : List Char → Nat
  | [] => 0
  | character :: rest =>
      if endsPlain inFlow character rest.head? then 0 else plainLength inFlow rest + 1

/-- The line breaks of blank lines inside a plain scalar; nothing when a document marker ends it. -/
def plainBreaks : Nat → Cursor → Option (List Char) × Cursor
  | 0, cursor => (some [], cursor)
  | steps + 1, cursor =>
      match cursor.peek with
      | some ' ' => plainBreaks steps cursor.advance
      | some character =>
          if isBreak character then
            let (lineBreak, next) := cursor.takeBreak
            if next.atDocumentMarker then (none, next)
            else
              let (breaks, after) := plainBreaks steps next
              (breaks.map (lineBreak ++ ·), after)
          else (some [], cursor)
      | none => (some [], cursor)

/-- The blanks after a piece of a plain scalar as they count if another piece follows, whether a
line ended in them, and the place after them; no blanks mean that the scalar ends. -/
def plainSpaces (cursor : Cursor) : List Char × Bool × Cursor :=
  let (blanks, atBreak) := cursor.takeWhile (· == ' ')
  match atBreak.peek with
  | some character =>
      if isBreak character then
        let (lineBreak, afterBreak) := atBreak.takeBreak
        if afterBreak.atDocumentMarker then ([], true, afterBreak)
        else
          match plainBreaks afterBreak.size afterBreak with
          | (none, after) => ([], true, after)
          | (some breaks, after) =>
              let joint := if lineBreak != ['\n'] then lineBreak
                else if breaks.isEmpty then [' '] else []
              (joint ++ breaks, true, after)
      else (blanks, false, atBreak)
  | none => (blanks, false, atBreak)

/-- Reads the pieces of a plain scalar after blanks that count before the next piece: the text,
whether a line ended after the last piece, and the place after it. -/
def plainPieces (inFlow : Bool) (indent : Int) :
    Nat → List Char → Bool → Cursor → List Char × Bool × Cursor
  | 0, _, lineEnded, cursor => ([], lineEnded, cursor)
  | steps + 1, pending, lineEnded, cursor =>
      let length := if cursor.peek == some '#' then 0 else plainLength inFlow cursor.rest
      if length == 0 then ([], lineEnded, cursor)
      else
        let piece := cursor.rest.take length
        let (spaces, lineEnded, next) := plainSpaces (cursor.advanceBy length)
        if spaces.isEmpty || next.peek == some '#'
            || (!inFlow && (next.column : Int) < indent) then
          (pending ++ piece, lineEnded, next)
        else
          let (text, lineEnded, after) := plainPieces inFlow indent steps spaces lineEnded next
          (pending ++ piece ++ text, lineEnded, after)

/-- Reads a plain scalar; `parent` is the indentation of the collection around it. -/
def plainScalar (inFlow : Bool) (parent : Int) (cursor : Cursor) : List Char × Bool × Cursor :=
  plainPieces inFlow (parent + 1) cursor.size [] false cursor

end Routebook.Yaml

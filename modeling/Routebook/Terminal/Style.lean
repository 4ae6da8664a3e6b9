import Routebook.Number.Decimal
import Routebook.Terminal.Dialect
import Routebook.Text.Blank
import Routebook.Text.Digit
import Routebook.Text.Lowercase
import Routebook.Text.Search

/-!
# Styles of the usual terminal

A style is a list of words: attributes, which may be denied, a colour, a colour of the background
and a link.  Its normal form names each of them once and in a fixed order.  A text that is no style
is its own normal form, but for blanks around it and the case of its letters.
-/

namespace Routebook.Terminal

set_option autoImplicit false

/-! ## Colours -/

/-- The names of colours without grades of grey. -/
def namedColours : List String :=
  ["default", "black", "red", "green", "yellow", "blue", "magenta", "cyan", "white", "bright_black",
   "bright_red", "bright_green", "bright_yellow", "bright_blue", "bright_magenta", "bright_cyan",
   "bright_white", "navy_blue", "dark_blue", "blue3", "blue1", "dark_green", "deep_sky_blue4",
   "dodger_blue3", "dodger_blue2", "green4", "spring_green4", "turquoise4", "deep_sky_blue3",
   "dodger_blue1", "green3", "spring_green3", "dark_cyan", "light_sea_green", "deep_sky_blue2",
   "deep_sky_blue1", "spring_green2", "cyan3", "dark_turquoise", "turquoise2", "green1",
   "spring_green1", "medium_spring_green", "cyan2", "cyan1", "dark_red", "deep_pink4", "purple4",
   "purple3", "blue_violet", "orange4", "medium_purple4", "slate_blue3", "royal_blue1",
   "chartreuse4", "dark_sea_green4", "pale_turquoise4", "steel_blue", "steel_blue3",
   "cornflower_blue", "chartreuse3", "cadet_blue", "sky_blue3", "steel_blue1", "pale_green3",
   "sea_green3", "aquamarine3", "medium_turquoise", "chartreuse2", "sea_green2", "sea_green1",
   "aquamarine1", "dark_slate_gray2", "dark_magenta", "dark_violet", "purple", "light_pink4",
   "plum4", "medium_purple3", "slate_blue1", "yellow4", "wheat4", "light_slate_grey",
   "light_slate_gray", "medium_purple", "light_slate_blue", "dark_olive_green3", "dark_sea_green",
   "light_sky_blue3", "sky_blue2", "dark_sea_green3", "dark_slate_gray3", "sky_blue1",
   "chartreuse1", "light_green", "pale_green1", "dark_slate_gray1", "red3", "medium_violet_red",
   "magenta3", "dark_orange3", "indian_red", "hot_pink3", "medium_orchid3", "medium_orchid",
   "medium_purple2", "dark_goldenrod", "light_salmon3", "rosy_brown", "medium_purple1", "gold3",
   "dark_khaki", "navajo_white3", "light_steel_blue3", "light_steel_blue", "yellow3",
   "dark_sea_green2", "light_cyan3", "light_sky_blue1", "green_yellow", "dark_olive_green2",
   "dark_sea_green1", "pale_turquoise1", "deep_pink3", "magenta2", "hot_pink2", "orchid",
   "medium_orchid1", "orange3", "light_pink3", "pink3", "plum3", "violet", "light_goldenrod3",
   "tan", "misty_rose3", "thistle3", "plum2", "khaki3", "light_goldenrod2", "light_yellow3",
   "light_steel_blue1", "yellow2", "dark_olive_green1", "honeydew2", "light_cyan1", "red1",
   "deep_pink2", "deep_pink1", "magenta1", "orange_red1", "indian_red1", "hot_pink", "dark_orange",
   "salmon1", "light_coral", "pale_violet_red1", "orchid2", "orchid1", "orange1", "sandy_brown",
   "light_salmon1", "light_pink1", "pink1", "plum1", "gold1", "navajo_white1", "misty_rose1",
   "thistle1", "yellow1", "light_goldenrod1", "khaki1", "wheat1", "cornsilk1"]

/-- The grades of grey that have names. -/
def greyGrades : List Nat :=
  [0, 3, 7, 11, 15, 19, 23, 27, 30, 35, 37, 39, 42, 46, 50, 53, 54, 58, 62, 63, 66, 69, 70, 74, 78,
   82, 84, 85, 89, 93, 100]

/-- The names of colours. -/
def colourNames : List String :=
  namedColours ++ greyGrades.flatMap fun grade => ["grey" ++ toString grade, "gray" ++ toString grade]

/-- What stands between parentheses behind a word, in a text that ends with them. -/
def argumentOf? (word text : List Char) : Option (List Char) :=
  match (Text.dropWord? (word ++ ['(']) text).map List.reverse with
  | some (')' :: reversed) => some reversed.reverse
  | _ => none

/-- Whether a number is one of a colour. -/
def isColourNumber (digits : List Char) : Bool := Number.digitsValue digits ≤ 255

/-- The normal form of a word for a colour, if it is one; three shares of which one is missing
cannot be read. -/
def colour? (word : List Char) : Except Failure (Option String) :=
  let lower := Text.lower word
  let name := String.ofList lower
  if colourNames.contains name then .ok (some name)
  else
    match lower, argumentOf? "color".toList lower, argumentOf? "rgb".toList (Text.asciiDigits lower) with
    | '#' :: digits, _, _ =>
        .ok (if digits.length == 6 && digits.all fun digit =>
          digit.isDigit || ('a' ≤ digit && digit ≤ 'f') then some name else none)
    | _, some digits, _ =>
        .ok (if !digits.isEmpty && digits.length ≤ 3 && digits.all Char.isDigit
          && isColourNumber digits then some name else none)
    | _, _, some argument =>
        let shares := Text.split ',' argument
        if argument.isEmpty || !argument.all fun digit => digit.isDigit || digit == ',' then .ok none
        else if shares.length != 3 then .ok none
        else if shares.any List.isEmpty then .error .badValue
        else .ok (if shares.all isColourNumber then some name else none)
    | _, _, none => .ok none

/-! ## Attributes -/

/-- The names of the attributes of a style, each with its short form. -/
def attributes : List (String × String) :=
  [("bold", "b"), ("dim", "d"), ("italic", "i"), ("underline", "u"), ("blink", "blink"),
   ("blink2", "blink2"), ("reverse", "r"), ("conceal", "c"), ("strike", "s"), ("underline2", "uu"),
   ("frame", "frame"), ("encircle", "encircle"), ("overline", "o")]

/-- The attribute that a word names. -/
def attribute? (word : String) : Option String :=
  (attributes.find? fun entry => entry.1 == word || entry.2 == word).map Prod.fst

/-! ## Styles -/

/-- A style: the attributes set or denied, the colours and the link. -/
structure Style where
  attributes : List (String × Bool)
  colour : Option String
  background : Option String
  link : Option String

/-- The style that sets nothing. -/
def Style.plain : Style := ⟨[], none, none, none⟩

/-- The style with an attribute set or denied, whatever was said of it before. -/
def Style.withAttribute (style : Style) (name : String) (flag : Bool) : Style :=
  { style with attributes := (name, flag) :: style.attributes }

/-- The style that words make; none if they make no style. -/
def Style.read (style : Style) : List (List Char) → Except Failure (Option Style)
  | [] => .ok (some style)
  | word :: rest =>
      let lower := String.ofList (Text.lower word)
      match lower, rest with
      | "on", [] | "not", [] | "link", [] => .ok none
      | "on", next :: rest => do
          match ← colour? next with
          | some name => Style.read { style with background := some name } rest
          | none => return none
      | "not", next :: rest =>
          match attribute? (String.ofList next) with
          | some name => Style.read (style.withAttribute name false) rest
          | none => .ok none
      | "link", next :: rest => Style.read { style with link := some (String.ofList next) } rest
      | _, rest =>
          match attribute? lower with
          | some name => Style.read (style.withAttribute name true) rest
          | none => do
              match ← colour? word with
              | some name => Style.read { style with colour := some name } rest
              | none => return none

/-- The words of the normal form of a style. -/
def Style.words (style : Style) : List String :=
  (Terminal.attributes.filterMap fun entry =>
    (style.attributes.find? fun given => given.1 == entry.1).map fun given =>
      if given.2 then entry.1 else "not " ++ entry.1)
  ++ style.colour.toList ++ (style.background.map ("on " ++ ·)).toList
  ++ (style.link.map ("link " ++ ·)).toList

/-- The normal form of a style. -/
def Style.text (style : Style) : String :=
  if style.words.isEmpty then "none" else " ".intercalate style.words

/-- The words of a text between blanks. -/
def wordsOf (text : List Char) : List (List Char) :=
  (Text.split ' ' (text.map fun character => if Text.isBlank character then ' ' else character)).filter
    fun word => !word.isEmpty

/-- The normal form of what is written as a style. -/
def normalStyle (written : List Char) : Except Failure String := do
  let trimmed := Text.trim written
  if trimmed == "none".toList then return "none"
  match ← Style.plain.read (wordsOf written) with
  | some style => return style.text
  | none => return String.ofList (Text.lower trimmed)

/-! ## Parameters of handlers -/

/-- Whether a character can stand in the name of a handler. -/
def isHandlerCharacter (character : Char) : Bool :=
  character.isAlphanum || character == '_' || character == '.'

/-- The text after blanks. -/
def skipSpaces (text : List Char) : List Char := text.dropWhile (· == ' ')

/-- The text behind a constant that it starts with: a number, a quoted text or a word. -/
def afterConstant? (text : List Char) : Option (List Char) :=
  match text with
  | quote :: rest =>
      if quote == '\'' || quote == '"' then
        let inner := rest.takeWhile fun character => character != quote && character != '\\'
        match rest.drop inner.length with
        | closing :: after => if closing == quote then some after else none
        | [] => none
      else
        let word := text.takeWhile isHandlerCharacter
        let isNumber := word.all Char.isDigit && (word == ['0'] || word.head? != some '0')
        if !word.isEmpty && (isNumber || ["True", "False", "None"].contains (String.ofList word)) then
          some (text.drop word.length)
        else none
  | [] => none

mutual
/-- The text behind a value that it starts with: a constant or values between parentheses. -/
def afterValue? : Nat → List Char → Option (List Char)
  | 0, _ => none
  | budget + 1, text =>
      match skipSpaces text with
      | '(' :: rest =>
          match skipSpaces rest with
          | ')' :: after => some (skipSpaces after)
          | inner =>
              match afterValues? budget inner with
              | some (')' :: after) => some (skipSpaces after)
              | _ => none
      | '-' :: rest =>
          if ((skipSpaces rest).head?.map Char.isDigit).getD false then
            (afterConstant? (skipSpaces rest)).map skipSpaces
          else none
      | constant => (afterConstant? constant).map skipSpaces

/-- The text behind values with commas between them, the last of which a comma may follow. -/
def afterValues? : Nat → List Char → Option (List Char)
  | 0, _ => none
  | budget + 1, text =>
      match afterValue? budget text with
      | some (',' :: rest) =>
          match skipSpaces rest with
          | [] => some []
          | ')' :: after => some (')' :: after)
          | more => afterValues? budget more
      | other => other
end

/-- Whether a text is a value, or values with commas between them. -/
def isLiteral (text : List Char) : Bool :=
  afterValues? (2 * text.length + 2) text == some []

/-- Whether the parameters of a handler have a value: a name alone or with values between
parentheses, or a value. -/
def evaluatesHandler (written : List Char) : Bool :=
  let parameters := Text.trim written
  match parameters.dropWhile isHandlerCharacter with
  | [] => true
  | arguments =>
      if arguments.head? == some '(' && arguments.getLast? == some ')' && !arguments.contains '\n' then
        isLiteral arguments
      else isLiteral parameters

/-! ## The dialect -/

/-- The dialect of the usual terminal. -/
@[reducible]
def Dialect.usual : Dialect where
  normalStyle := Terminal.normalStyle
  evaluates := evaluatesHandler
  normalStyle_diagnostic := by decide +kernel

end Routebook.Terminal

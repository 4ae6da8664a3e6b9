import Routebook.Text.Designation
import Routebook.Text.Encoding
import Routebook.Text.Escaped
import Routebook.Text.Search
import Routebook.Text.Utf7

/-!
# Encodings by name

The encodings that a sender can name, with the names they go by.
-/

namespace Routebook.Text

set_option autoImplicit false

variable [Halves]

/-! ## Encodings -/

/-- An encoding that can be named. -/
inductive Charset
  | units (encoding : Encoding)
  | eastAsian (encoding : EastAsian)
  | designated (profile : EscapeProfile)
  | tildes
  | utf7
  | escaped (raw : Bool)
  deriving DecidableEq, Repr

/-- The reader of an encoding that is read piece by piece. -/
def Charset.reader? : Charset → Option PieceReader
  | .units _ => none
  | .eastAsian encoding => some (.ofStep encoding.step)
  | .designated profile => some profile.reader
  | .tildes => some tildeReader
  | .utf7 => some utf7Reader
  | .escaped raw => some (.ofStep (escapedStep raw))

/-- Reads data, a replacement character standing for each damaged piece. -/
def Charset.decodeReplacing (charset : Charset) (bytes : List UInt8) : List Char :=
  match charset, charset.reader? with
  | .units encoding, _ => encoding.decodeReplacing bytes
  | _, some reader => reader.read bytes
  | _, none => []

/-- Reads data that is not damaged. -/
def Charset.decode? (charset : Charset) (bytes : List UInt8) : Option (List Char) :=
  match charset, charset.reader? with
  | .units encoding, _ => (encoding.decode bytes).toOption
  | _, some reader => reader.readStrictly? bytes
  | _, none => none

/-- Whether data is to start with a mark of the order of its bytes and does not. -/
def Charset.lacksMark (charset : Charset) (bytes : List UInt8) : Bool :=
  match charset with
  | .units encoding => encoding.lacksMark bytes
  | _ => false

/-- How many bytes of something unfinished are kept until more of it comes. -/
def unfinishedLimit : Nat := 8

/-- Whether more is left unfinished at the end of data than is kept. -/
def Charset.leavesTooMuch (charset : Charset) (bytes : List UInt8) : Bool :=
  match charset.reader? with
  | some reader => unfinishedLimit < reader.unfinished bytes
  | none => false

/-- Why no text can be read: most of these are about transformations that have names like encodings.
-/
inductive Unreadable
  /-- It lets no damage pass. -/
  | strictOnly
  /-- It takes text, not bytes. -/
  | textOnly
  /-- It reads nothing at all. -/
  | never
  /-- It is left with too much that is unfinished. -/
  | unfinished
  deriving DecidableEq, Repr

/-! ## Escape sequences -/

/-- The tables of the common Japanese encoding with escape sequences. -/
def japaneseTables : List (Char × Bool × Designated) :=
  [('B', true, .japanese), ('@', true, .japanese), ('J', false, .japaneseLatin)]

/-- The tables of the encoding for several languages. -/
def sharedTables : List (Char × Bool × Designated) :=
  japaneseTables ++ [('D', true, .japaneseSupplement), ('C', true, .korean), ('A', true, .chinese),
    ('A', false, .latin), ('F', false, .greek)]

/-- The tables of an edition of the extended Japanese characters. -/
def extendedTables (final : Char) (edition : Edition) : List (Char × Bool × Designated) :=
  [('B', true, .japanese), (final, true, .firstPlane edition), ('P', true, .secondPlane edition)]

/-! ## Names -/

/-- What an encoding is called: its own name and others, in lower case with `_` for `-`. -/
structure CharsetName where
  name : String
  aliases : List String
  charset : Except Unreadable Charset

/-- Encodings of whole code units and the pages of single bytes. -/
def unitNames : List CharsetName :=
  [⟨"utf_8", ["u8", "utf", "utf8", "utf8_ucs2", "utf8_ucs4", "cp65001"], .ok (.units .utf8)⟩,
   ⟨"utf_8_sig", [], .ok (.units .utf8Marked)⟩,
   ⟨"ascii", ["646", "ansi_x3.4_1968", "ansi_x3_4_1968", "ansi_x3.4_1986", "cp367", "csascii",
     "ibm367", "iso646_us", "iso_646.irv_1991", "iso_ir_6", "us", "us_ascii"],
     .ok (.units .ascii)⟩,
   ⟨"latin_1", ["8859", "cp819", "csisolatin1", "ibm819", "iso8859", "iso8859_1", "iso_8859_1",
     "iso_8859_1_1987", "iso_ir_100", "l1", "latin", "latin1"], .ok (.units .latin)⟩,
   ⟨"charmap", [], .ok (.units .latin)⟩,
   ⟨"utf_16", ["u16", "utf16"], .ok (.units .utf16Marked)⟩,
   ⟨"utf_16_le", ["unicodelittleunmarked", "utf_16le"], .ok (.units (.utf16 .little))⟩,
   ⟨"utf_16_be", ["unicodebigunmarked", "utf_16be"], .ok (.units (.utf16 .big))⟩,
   ⟨"utf_32", ["u32", "utf32"], .ok (.units .utf32Marked)⟩,
   ⟨"utf_32_le", ["utf_32le"], .ok (.units (.utf32 .little))⟩,
   ⟨"utf_32_be", ["utf_32be"], .ok (.units (.utf32 .big))⟩]
  ++ codePages.map fun page => ⟨page.name, page.aliases, .ok (.units (.page page))⟩

/-- East Asian encodings. -/
def eastAsianNames : List CharsetName :=
  [⟨"big5", ["big5_tw", "csbig5", "x_mac_trad_chinese"], .ok (.eastAsian .traditionalChinese)⟩,
   ⟨"big5hkscs", ["big5_hkscs", "hkscs"], .ok (.eastAsian .hongKong)⟩,
   ⟨"cp950", ["950", "ms950"], .ok (.eastAsian .vendorChinese)⟩,
   ⟨"gb2312", ["chinese", "csiso58gb231280", "euc_cn", "euccn", "eucgb2312_cn", "gb2312_1980",
     "gb2312_80", "iso_ir_58", "x_mac_simp_chinese"], .ok (.eastAsian .basicChinese)⟩,
   ⟨"gbk", ["936", "cp936", "ms936"], .ok (.eastAsian .commonChinese)⟩,
   ⟨"gb18030", ["gb18030_2000"], .ok (.eastAsian .nationalChinese)⟩,
   ⟨"hz", ["hzgb", "hz_gb", "hz_gb_2312"], .ok .tildes⟩,
   ⟨"shift_jis", ["csshiftjis", "shiftjis", "sjis", "s_jis", "x_mac_japanese"],
     .ok (.eastAsian .pairedJapanese)⟩,
   ⟨"cp932", ["932", "ms932", "mskanji", "ms_kanji"], .ok (.eastAsian .vendorJapanese)⟩,
   ⟨"euc_jp", ["eucjp", "ujis", "u_jis"], .ok (.eastAsian .shiftedJapanese)⟩,
   ⟨"shift_jisx0213", ["shiftjisx0213", "sjisx0213", "s_jisx0213"],
     .ok (.eastAsian (.extendedPaired .first))⟩,
   ⟨"shift_jis_2004", ["shiftjis2004", "sjis_2004", "s_jis_2004"],
     .ok (.eastAsian (.extendedPaired .second))⟩,
   ⟨"euc_jisx0213", ["eucjisx0213"], .ok (.eastAsian (.extendedShifted .first))⟩,
   ⟨"euc_jis_2004", ["jisx0213", "eucjis2004", "euc_jis2004"],
     .ok (.eastAsian (.extendedShifted .second))⟩,
   ⟨"iso2022_jp", ["csiso2022jp", "iso2022jp", "iso_2022_jp"],
     .ok (.designated ⟨japaneseTables, false, false⟩)⟩,
   ⟨"iso2022_jp_1", ["iso2022jp_1", "iso_2022_jp_1"],
     .ok (.designated ⟨japaneseTables ++ [('D', true, .japaneseSupplement)], false, false⟩)⟩,
   ⟨"iso2022_jp_2", ["iso2022jp_2", "iso_2022_jp_2"],
     .ok (.designated ⟨sharedTables, true, false⟩)⟩,
   ⟨"iso2022_jp_3", ["iso2022jp_3", "iso_2022_jp_3"],
     .ok (.designated ⟨extendedTables 'O' .first, false, false⟩)⟩,
   ⟨"iso2022_jp_2004", ["iso_2022_jp_2004", "iso2022jp_2004"],
     .ok (.designated ⟨extendedTables 'Q' .second, false, false⟩)⟩,
   ⟨"iso2022_jp_ext", ["iso2022jp_ext", "iso_2022_jp_ext"],
     .ok (.designated ⟨japaneseTables
       ++ [('D', true, .japaneseSupplement), ('I', false, .japaneseKana)], false, false⟩)⟩,
   ⟨"euc_kr", ["euckr", "korean", "ksc5601", "ks_c_5601", "ks_c_5601_1987", "ksx1001",
     "ks_x_1001", "x_mac_korean"], .ok (.eastAsian .commonKorean)⟩,
   ⟨"cp949", ["949", "ms949", "uhc"], .ok (.eastAsian .vendorKorean)⟩,
   ⟨"johab", ["cp1361", "ms1361"], .ok (.eastAsian .composedKorean)⟩,
   ⟨"iso2022_kr", ["csiso2022kr", "iso2022kr", "iso_2022_kr"],
     .ok (.designated ⟨[('C', true, .korean)], false, true⟩)⟩]

/-- Encodings in ASCII, and transformations that yield no text. -/
def transformationNames : List CharsetName :=
  [⟨"utf_7", ["u7", "utf7", "unicode_1_1_utf_7"], .ok .utf7⟩,
   ⟨"unicode_escape", [], .ok (.escaped false)⟩,
   ⟨"raw_unicode_escape", [], .ok (.escaped true)⟩,
   ⟨"base64_codec", ["base64", "base_64"], .error .strictOnly⟩,
   ⟨"bz2_codec", ["bz2"], .error .strictOnly⟩,
   ⟨"hex_codec", ["hex"], .error .strictOnly⟩,
   ⟨"quopri_codec", ["quopri", "quoted_printable", "quotedprintable"], .error .strictOnly⟩,
   ⟨"uu_codec", ["uu"], .error .strictOnly⟩,
   ⟨"zlib_codec", ["zip", "zlib"], .error .strictOnly⟩,
   ⟨"rot_13", ["rot13"], .error .textOnly⟩,
   ⟨"idna", [], .error .never⟩,
   ⟨"undefined", [], .error .never⟩]

/-- Everything that can be named. -/
def charsetNames : List CharsetName := unitNames ++ eastAsianNames ++ transformationNames

/-- The parts of a name between runs of punctuation; a point belongs to a part. -/
def nameParts (name : List Char) : List (List Char) :=
  let marked := name.map fun character =>
    if character.isAlphanum || character == '.' then character.toLower else '_'
  (split '_' marked).filter fun part => !part.isEmpty

/-- The encoding with the given name; case and the kind of punctuation between its parts do not
count, and a point is taken as punctuation only in a name that is not the encoding's own. -/
def Charset.named? (name : String) : Option (Except Unreadable Charset) :=
  let normal := ['_'].intercalate (nameParts name.toList)
  let isAlias := fun (text : List Char) (entry : CharsetName) =>
    entry.aliases.contains (String.ofList text)
  let pointless := normal.map fun character => if character == '.' then '_' else character
  let found := charsetNames.find? (isAlias normal)
    <|> charsetNames.find? (isAlias pointless)
    <|> charsetNames.find? fun entry => entry.name == String.ofList normal
  found.map CharsetName.charset

end Routebook.Text

import Routebook.Http.Percent
import Routebook.Text.Blank
import Routebook.Text.Digit
import Routebook.Text.HostLabel
import Routebook.Text.Lowercase
import Routebook.Text.Quoted

/-!
# Addresses of resources

An address has a scheme, user information, a host, a port, a path, a query and a fragment.  Reading
one brings its parts into a normal form: scheme and host in lower case, the default port dropped,
dot segments removed from the path, and every part percent-encoded where it has to be.
-/

namespace Routebook.Http

set_option autoImplicit false

variable [Runtime]

/-! ## Faults -/

/-- Why a text is not an address. -/
inductive UrlFault
  | tooLong
  | controlCharacter (character : Char) (index : Nat)
  | badPort (text : String)
  | badIpv4 (host : String)
  | badIpv6 (host : String)
  | badHost (host : String)
  | pathNotRooted
  | doubleSlash
  | leadingColon
  deriving DecidableEq, Repr

/-- A text between quotes, as it is shown in a message. -/
def shownText (text : String) : String := String.ofList (Text.quoted text.toList)

/-- The wording of a fault. -/
def UrlFault.message : UrlFault → String
  | .tooLong => "URL too long"
  | .controlCharacter character index =>
      "Invalid non-printable ASCII character in URL, " ++ shownText (String.singleton character)
        ++ " at position " ++ toString index ++ "."
  | .badPort text => "Invalid port: " ++ shownText text
  | .badIpv4 host => "Invalid IPv4 address: " ++ shownText host
  | .badIpv6 host => "Invalid IPv6 address: " ++ shownText host
  | .badHost host => "Invalid IDNA hostname: " ++ shownText host
  | .pathNotRooted => "For absolute URLs, path must be empty or begin with '/'"
  | .doubleSlash => "Relative URLs cannot have a path starting with '//'"
  | .leadingColon => "Relative URLs cannot have a path starting with ':'"

/-! ## Addresses -/

/-- An address in its parts. -/
structure Url where
  scheme : String
  userinfo : String
  host : String
  port : Option Int
  path : String
  query : Option String
  fragment : Option String
  deriving DecidableEq, Repr

/-- The longest address that is read. -/
def maxUrlLength : Nat := 65536

/-- The characters that are safe in every part. -/
def isPlainSafe (excluded : List Char) (character : Char) : Bool :=
  0x20 < character.toNat && character.toNat < 0x7F && !excluded.contains character

/-- The characters that are not safe in a query. -/
def queryUnsafe : List Char := ['"', '#', '<', '>']

/-- The characters that are not safe in a path. -/
def pathUnsafe : List Char := queryUnsafe ++ ['?', '\x60', '\x7b', '\x7d']

/-- The characters that are not safe in user information. -/
def userinfoUnsafe : List Char :=
  pathUnsafe ++ ['/', ';', '=', '@', '[', '\\', ']', '^', '|']

/-- The characters that are not safe in a fragment. -/
def fragmentUnsafe : List Char := ['"', '<', '>', '\x60']

/-- The characters that are safe in a host. -/
def hostSafe : List Char :=
  "!$&'()*+,;=\"\x60\x7b\x7d%|\\".toList

/-! ## Hosts -/

/-- Whether a text is runs of digits separated by a number of single characters. -/
def isDigitGroups : Nat → List Char → Bool
  | _, [] => false
  | groups, first :: rest =>
      first.isDigit
        && ((groups == 0 && rest.isEmpty) || isDigitGroups groups rest
          || (match groups, rest with
            | fewer + 1, _ :: next => isDigitGroups fewer next
            | _, _ => false))

/-- Whether a text is one part of a dotted address: up to three digits, no leading zero, below 256.
-/
def isOctet (text : List Char) : Bool :=
  !text.isEmpty && text.length ≤ 3 && text.all Char.isDigit
    && (text.length == 1 || text.head? != some '0') && Number.digitsValue text < 256

/-- Whether a text is a dotted address. -/
def isIpv4 (text : List Char) : Bool :=
  let parts := Text.split '.' text
  parts.length == 4 && parts.all isOctet

/-- Whether a text is one group of an address in hexadecimal groups. -/
def isHexGroup (text : List Char) : Bool :=
  !text.isEmpty && text.length ≤ 4 && text.all fun digit => (Json.hexDigit? digit).isSome

/-- Whether groups separated by colons, with at most one gap of zeros, make a whole address. -/
def isHexGroups (groups : List (List Char)) : Bool :=
  let last := groups.getLast?.getD []
  -- A dotted address at the end stands for two groups.
  let expanded := if last.contains '.' then groups.dropLast ++ [['0'], ['0']] else groups
  let dottedFits := !last.contains '.' || isIpv4 last
  let inner := (expanded.drop 1).dropLast
  let gaps := inner.count []
  let edgesFit :=
    (expanded.head? != some [] || (inner.head? == some []))
      && (expanded.getLast? != some [] || (inner.getLast? == some []))
  let present := expanded.filter (!·.isEmpty)
  dottedFits && 3 ≤ groups.length && expanded.length ≤ 9 && present.all isHexGroup && edgesFit
    && (if gaps == 0 then expanded.length == 8 && present.length == 8
      else gaps == 1 && present.length ≤ 7
        || (gaps == 1 && expanded.all List.isEmpty))

/-- Whether a text is an address in hexadecimal groups, with an optional zone. -/
def isIpv6 (text : List Char) : Bool :=
  match Text.cut '%' text with
  | (address, none) => isHexGroups (Text.split ':' address)
  | (address, some zone) =>
      !zone.isEmpty && !zone.contains '%' && isHexGroups (Text.split ':' address)

/-- The normal form of a host. -/
def encodeHost (host : List Char) : Except UrlFault (List Char) :=
  if host.isEmpty then .ok []
  else if isDigitGroups 3 host then
    if isIpv4 host then .ok host else .error (.badIpv4 (String.ofList host))
  else if host.head? == some '[' && host.getLast? == some ']' && 2 ≤ host.length then
    let inner := (host.drop 1).dropLast
    if isIpv6 inner then .ok inner else .error (.badIpv6 (String.ofList host))
  else if host.all fun character => character.toNat < 0x80 then
    .ok (quoteKeeping hostSafe.contains (host.map Char.toLower))
  else
    match Text.asciiHost (Text.lower host) with
    | .ok encoded => .ok encoded
    | .error _ => .error (.badHost (String.ofList host))

/-! ## Ports and paths -/

/-- The integer that a text is: blanks around it, a sign, and single underscores between digits are
allowed. -/
def looseInteger? (text : List Char) : Option Int :=
  let trimmed := Text.asciiDigits (Text.trim text)
  let (negative, unsigned) := match trimmed with
    | '-' :: rest => (true, rest)
    | '+' :: rest => (false, rest)
    | rest => (false, rest)
  let groups := Text.split '_' unsigned
  if (groups.all fun group => !group.isEmpty && group.all Char.isDigit)
      && groups.flatten.length ≤ Number.digitLimit then
    let size : Int := Number.digitsValue groups.flatten
    some (if negative then -size else size)
  else none

/-- The ports that are left out, by scheme. -/
def defaultPorts : List (String × Int) :=
  [("ftp", 21), ("http", 80), ("https", 443), ("ws", 80), ("wss", 443)]

/-- The default port of a scheme. -/
def defaultPort? (scheme : String) : Option Int :=
  (defaultPorts.find? fun entry => entry.1 == scheme).map Prod.snd

/-- The normal form of a port. -/
def normalizePort (scheme : String) (text : List Char) : Except UrlFault (Option Int) :=
  if text.isEmpty then .ok none
  else
    match looseInteger? text with
    | none => .error (.badPort (String.ofList text))
    | some port => .ok (if defaultPort? scheme == some port then none else some port)

/-- The segments of a path without dots, and without what two dots undo. -/
def dropDots : List (List Char) → List (List Char) → List (List Char)
  | kept, [] => kept.reverse
  | kept, segment :: rest =>
      if segment == ['.'] then dropDots kept rest
      else if segment == ['.', '.'] then
        dropDots (if kept.isEmpty || kept == [[]] then kept else kept.tail) rest
      else dropDots (segment :: kept) rest

/-- A path without dot segments. -/
def normalizePath (path : List Char) : List Char :=
  let segments := Text.split '/' path
  if segments.contains ['.'] || segments.contains ['.', '.'] then
    ['/'].intercalate (dropDots [] segments)
  else path

/-! ## Reading -/

/-- The parts of an address as written. -/
structure UrlText where
  scheme : List Char
  authority : List Char
  path : List Char
  query : Option (List Char)
  fragment : Option (List Char)

/-- Whether a character can stand in a scheme. -/
def isSchemeCharacter (character : Char) : Bool :=
  character.isAlphanum || character == '+' || character == '.' || character == '-'

/-- Splits off a scheme. -/
def takeScheme (text : List Char) : List Char × List Char :=
  let scheme := text.takeWhile isSchemeCharacter
  match text.drop scheme.length with
  | ':' :: rest =>
      if (scheme.head?.map Char.isAlpha).getD true then (scheme, rest) else ([], text)
  | _ => ([], text)

/-- The parts of a text taken as an address. -/
def splitUrl (text : List Char) : UrlText :=
  let (beforeFragment, fragment) := Text.cut '#' text
  let (beforeQuery, query) := Text.cut '?' beforeFragment
  let (scheme, afterScheme) := takeScheme beforeQuery
  match afterScheme with
  | '/' :: '/' :: rest =>
      let authority := rest.takeWhile (· != '/')
      ⟨scheme, authority, rest.drop authority.length, query, fragment⟩
  | path => ⟨scheme, [], path, query, fragment⟩

/-- The text before the last occurrence of a character, if there is one, and the text after it. -/
def cutLast (separator : Char) (text : List Char) : Option (List Char) × List Char :=
  let (after, before) := Text.cut separator text.reverse
  (before.map List.reverse, after.reverse)

/-- User information, host and port of an authority, as written. -/
def splitAuthority (authority : List Char) : List Char × List Char × List Char :=
  let (userinfo, rest) := cutLast '@' authority
  let (host, afterHost) := match rest with
    | '[' :: _ =>
        match cutLast ']' rest with
        | (some inner, after) => (inner ++ [']'], after)
        | (none, _) => (rest.takeWhile (· != ':'), rest.dropWhile (· != ':'))
    | _ => (rest.takeWhile (· != ':'), rest.dropWhile (· != ':'))
  let port := match afterHost with
    | ':' :: digits => digits
    | digits => digits
  (userinfo.getD [], host, port)

/-- Checks that a path fits the parts before it. -/
def checkPath (hasScheme hasAuthority : Bool) (path : List Char) : Except UrlFault Unit :=
  if hasAuthority then
    if path.isEmpty || path.head? == some '/' then .ok () else .error .pathNotRooted
  else if hasScheme then .ok ()
  else
    match path with
    | '/' :: '/' :: _ => .error .doubleSlash
    | ':' :: _ => .error .leadingColon
    | _ => .ok ()

/-- The normal form of an address from its parts as written. -/
def assemble (scheme userinfo host port path : List Char) (query fragment : Option (List Char)) :
    Except UrlFault Url := do
  let lowerScheme := scheme.map Char.toLower
  let quotedUserinfo := quoteKeeping (isPlainSafe userinfoUnsafe) userinfo
  let encodedHost ← encodeHost host
  let number ← normalizePort (String.ofList scheme) port
  let hasScheme := !lowerScheme.isEmpty
  let hasAuthority := !quotedUserinfo.isEmpty || !encodedHost.isEmpty || number.isSome
  checkPath hasScheme hasAuthority path
  let normalPath := if hasScheme || hasAuthority then normalizePath path else path
  return {
    scheme := String.ofList lowerScheme
    userinfo := String.ofList quotedUserinfo
    host := String.ofList encodedHost
    port := number
    path := String.ofList (quoteKeeping (isPlainSafe pathUnsafe) normalPath)
    query := query.map fun text => String.ofList (quoteKeeping (isPlainSafe queryUnsafe) text)
    fragment := fragment.map fun text =>
      String.ofList (quoteKeeping (isPlainSafe fragmentUnsafe) text) }

/-- Reads an address. -/
def Url.parse (text : String) : Except UrlFault Url := do
  let characters := text.toList
  if maxUrlLength < characters.length then throw .tooLong
  let isControl := fun character : Char => character.toNat < 0x20 || character.toNat == 0x7F
  match characters.find? isControl with
  | some character =>
      throw (.controlCharacter character (characters.takeWhile (!isControl ·)).length)
  | none =>
      let parts := splitUrl characters
      let (userinfo, host, port) := splitAuthority parts.authority
      assemble parts.scheme userinfo host port parts.path parts.query parts.fragment

namespace Url

/-! ## Writing -/

/-- A host as it stands in an address. -/
def bracketedHost (url : Url) : String :=
  if url.host.toList.contains ':' then "[" ++ url.host ++ "]" else url.host

/-- Host and port. -/
def netloc (url : Url) : String :=
  url.bracketedHost ++ (match url.port with
    | none => ""
    | some port => ":" ++ toString port)

/-- User information, host and port. -/
def authority (url : Url) : String :=
  (if url.userinfo.isEmpty then "" else url.userinfo ++ "@") ++ url.netloc

/-- The text of an address. -/
def text (url : Url) : String :=
  (if url.scheme.isEmpty then "" else url.scheme ++ ":")
    ++ (if url.authority.isEmpty then "" else "//" ++ url.authority)
    ++ url.path
    ++ (match url.query with
      | none => ""
      | some query => "?" ++ query)
    ++ (match url.fragment with
      | none => ""
      | some fragment => "#" ++ fragment)

/-! ## Parts -/

/-- Whether an address names a scheme and a host. -/
def isAbsolute (url : Url) : Bool := !url.scheme.isEmpty && !url.host.isEmpty

/-- The port that a request goes to, if it is known. -/
def effectivePort (url : Url) : Option Int :=
  match url.port with
  | some port => some port
  | none => defaultPort? url.scheme

/-- Whether two addresses have the same scheme, host and port. -/
def sameOrigin (first second : Url) : Bool :=
  first.scheme == second.scheme && first.host == second.host
    && first.effectivePort == second.effectivePort

/-- Whether an address is the encrypted counterpart of a plain one. -/
def isSecureCounterpart (plain secure : Url) : Bool :=
  plain.host == secure.host && plain.scheme == "http" && plain.effectivePort == some 80
    && secure.scheme == "https" && secure.effectivePort == some 443

/-- User name and password. -/
def credentials (url : Url) : String × String :=
  let (name, password) := Text.cut ':' url.userinfo.toList
  (String.ofList (unquote name), String.ofList (unquote (password.getD [])))

/-- The address of a request to a given address: one without scheme or host is taken as a path. -/
def forRequest (url : Url) : Except UrlFault Url :=
  if url.isAbsolute then .ok url
  else
    let path := url.path.toList
    let rooted := '/' :: path.dropWhile (· == '/')
    assemble [] [] [] [] rooted (url.query.map String.toList) none

/-! ## Queries -/

/-- The entries of the query, keys once in order of first appearance with their values in order. -/
def parameters (url : Url) : List (String × List String) :=
  (decodeForm (url.query.getD "").toList).foldl (fun grouped (name, value) =>
    if grouped.any fun entry => entry.1 == name then
      grouped.map fun entry => if entry.1 == name then (name, entry.2 ++ [value]) else entry
    else grouped ++ [(name, [value])]) []

/-- An address with other query entries, in normal form; without any entry it has no query. -/
def withParameters (url : Url) (parameters : List (String × List String)) :
    Except UrlFault Url := do
  let entries := parameters.flatMap fun entry => entry.2.map fun value => (entry.1, value)
  let query := if parameters.isEmpty then none else some (encodeForm entries)
  if maxUrlLength < (query.getD []).length then throw .tooLong
  let port := match url.port with
    | none => []
    | some number => (toString number).toList
  assemble url.scheme.toList url.userinfo.toList url.bracketedHost.toList port url.path.toList query
    (url.fragment.map String.toList)

/-- An address with the given query entries written over its own. -/
def mergeParameters (url : Url) (override : List (String × List String)) : Except UrlFault Url :=
  let merged := override.foldl (fun entries (name, values) =>
    if entries.any fun entry => entry.1 == name then
      entries.map fun entry => if entry.1 == name then (name, values) else entry
    else entries ++ [(name, values)]) url.parameters
  url.withParameters merged

end Url

/-! ## Resolving references -/

/-- An address in the parts that resolving a reference works on. -/
structure Reference where
  scheme : List Char
  authority : List Char
  path : List Char
  parameters : List Char
  query : List Char
  fragment : List Char

/-- The parts of a text taken as a reference; the parameters of the last segment stand apart. -/
def Reference.read (text : List Char) : Reference :=
  let parts := splitUrl text
  let (directory, last) := cutLast '/' parts.path
  let (name, parameters) := Text.cut ';' last
  let path := match directory with
    | some inner => inner ++ '/' :: name
    | none => name
  ⟨parts.scheme, parts.authority, path, parameters.getD [], parts.query.getD [],
    parts.fragment.getD []⟩

/-- The text of a reference; empty parts are left out. -/
def Reference.write (reference : Reference) : List Char :=
  let path := reference.path
    ++ (if reference.parameters.isEmpty then [] else ';' :: reference.parameters)
  let startsTwice := path.take 2 == ['/', '/']
  let located :=
    if !reference.authority.isEmpty || (!reference.scheme.isEmpty && !startsTwice) then
      '/' :: '/' :: reference.authority
        ++ (if !path.isEmpty && path.head? != some '/' then '/' :: path else path)
    else path
  (if reference.scheme.isEmpty then [] else reference.scheme ++ [':']) ++ located
    ++ (if reference.query.isEmpty then [] else '?' :: reference.query)
    ++ (if reference.fragment.isEmpty then [] else '#' :: reference.fragment)

/-- The segments of a resolved path: dots are dropped, and two dots drop the segment before them. -/
def resolveSegments : List (List Char) → List (List Char) → List (List Char)
  | kept, [] => kept.reverse
  | kept, segment :: rest =>
      if segment == ['.', '.'] then resolveSegments kept.tail rest
      else if segment == ['.'] then resolveSegments kept rest
      else resolveSegments (segment :: kept) rest

/-- A path resolved against the path of a base. -/
def resolvePath (base path : List Char) : List Char :=
  let baseSegments := Text.split '/' base
  let directory := if baseSegments.getLast? == some [] then baseSegments else baseSegments.dropLast
  let segments :=
    if path.head? == some '/' then Text.split '/' path
    else
      match directory ++ Text.split '/' path with
      | [] => []
      | [single] => [single]
      | first :: rest =>
          first :: (rest.dropLast.filter (!·.isEmpty)) ++ rest.getLast?.toList
  let resolved := resolveSegments [] segments
  let last := segments.getLast?.getD []
  let closed := if last == ['.'] || last == ['.', '.'] then resolved ++ [[]] else resolved
  let joined := ['/'].intercalate closed
  if joined.isEmpty then ['/'] else joined

/-- A reference resolved against a base address. -/
def resolveReference (base reference : List Char) : List Char :=
  if base.isEmpty then reference
  else if reference.isEmpty then base
  else
    let from_ := Reference.read base
    let to_ := Reference.read reference
    let scheme := if to_.scheme.isEmpty then from_.scheme else to_.scheme
    if scheme != from_.scheme || !(scheme == "http".toList || scheme == "https".toList) then
      reference
    else if !to_.authority.isEmpty then { to_ with scheme := scheme }.write
    else
      let located := { to_ with scheme := scheme, authority := from_.authority }
      if to_.path.isEmpty && to_.parameters.isEmpty then
        { located with
          path := from_.path
          parameters := from_.parameters
          query := if to_.query.isEmpty then from_.query else to_.query }.write
      else { located with path := resolvePath from_.path to_.path }.write

end Routebook.Http

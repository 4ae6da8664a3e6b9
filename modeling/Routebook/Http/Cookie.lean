import Routebook.Http.Clock
import Routebook.Http.CookieDate
import Routebook.Http.Header

/-!
# Cookies

A response may leave cookies that later requests of the same exchange bring along.  A cookie belongs
to a domain and a path; it may be kept for encrypted connections or certain ports, and one whose
date has passed is taken away.
-/

namespace Routebook.Http

set_option autoImplicit false

variable [Runtime]

/-! ## Where a request goes -/

/-- What cookies see of a request. -/
structure Visit where
  /-- The host as written, with any user information. -/
  host : List Char
  /-- The port as written, if it is one; requests without a port count as those to port 80. -/
  port : Option (List Char)
  path : List Char
  isSecure : Bool

/-- The host by which a request counts: one without a dot is local. -/
def Visit.effectiveHost (visit : Visit) : List Char :=
  if visit.host.contains '.' then visit.host else visit.host ++ ".local".toList

/-- The port by which a request counts. -/
def Visit.effectivePort (visit : Visit) : List Char := visit.port.getD "80".toList

/-- The characters besides letters and digits that stand for themselves in the path of a cookie. -/
def cookiePathSafe : List Char := "%/;:@&=+$,!~*'()".toList

/-- A path with escapes in upper case. -/
def raiseEscapes : List Char → List Char
  | '%' :: first :: second :: rest =>
      if startsWithEscape ['%', first, second] then
        '%' :: first.toUpper :: second.toUpper :: raiseEscapes rest
      else '%' :: raiseEscapes (first :: second :: rest)
  | character :: rest => character :: raiseEscapes rest
  | [] => []
termination_by path => path.length

/-- A path as cookies compare it. -/
def cookiePath (path : List Char) : List Char :=
  raiseEscapes (path.flatMap fun character =>
    if Uri.isUnreserved character || cookiePathSafe.contains character then [character]
    else Uri.percentCharacter character)

/-- A text without the port at its end. -/
def dropPort (text : List Char) : List Char :=
  let (digits, rest) := takeRun Char.isDigit text.reverse
  match digits, rest with
  | _ :: _, ':' :: host => host.reverse
  | _, _ => text

/-- What cookies see of a request to an address with the given fields. -/
def Visit.ofRequest (url : Url) (headers : Headers) : Visit :=
  let authority := url.authority.toList
  let host := if authority.isEmpty then ((headers.get? "host").getD "").toList else authority
  let port := match Text.cut ':' (unquote authority) with
    | (_, none) => some "80".toList
    | (_, some port) => if (looseInteger? port).isSome then some port else none
  let path := cookiePath url.path.toList
  { host := (dropPort host).map Char.toLower
    port := port
    path := if path.head? == some '/' then path else '/' :: path
    isSecure := url.scheme == "https" || url.scheme == "wss" }

/-! ## Cookies -/

/-- A cookie. -/
structure Cookie where
  name : List Char
  value : Option (List Char)
  domain : List Char
  path : List Char
  /-- The ports to which the cookie goes, if it is bound to any. -/
  ports : Option (List Char)
  isSecure : Bool
  /-- Whether the domain matters when the cookie is about to be sent. -/
  isBound : Bool

/-- The text of a cookie in a request. -/
def Cookie.text (cookie : Cookie) : List Char :=
  match cookie.value with
  | none => cookie.name
  | some value => cookie.name ++ '=' :: value

/-- The cookies of an exchange, by domain and by path, each in order of first use. -/
abbrev CookieJar := List (List Char × List (List Char × List Cookie))

/-- A table with the entry at a key changed, or with a new one at its end. -/
def changeAt {α : Type} (key : List Char) (change : List α → List α) :
    List (List Char × List α) → List (List Char × List α)
  | [] => [(key, change [])]
  | (present, entry) :: rest =>
      if present == key then (present, change entry) :: rest
      else (present, entry) :: changeAt key change rest

/-- The cookies with one put in place of the one with its name, or at the end. -/
def putCookie (cookie : Cookie) : List Cookie → List Cookie
  | [] => [cookie]
  | present :: rest =>
      if present.name == cookie.name then cookie :: rest else present :: putCookie cookie rest

/-- A jar with a cookie in it. -/
def CookieJar.put (jar : CookieJar) (cookie : Cookie) : CookieJar :=
  changeAt cookie.domain (changeAt cookie.path (putCookie cookie)) jar

/-- A jar without the cookie of a domain, path and name. -/
def CookieJar.discard (jar : CookieJar) (domain path name : List Char) : CookieJar :=
  jar.map fun (owner, paths) =>
    if owner == domain then
      (owner, paths.map fun (place, cookies) =>
        if place == path then (place, cookies.filter fun cookie => cookie.name != name)
        else (place, cookies))
    else (owner, paths)

/-! ## Sending cookies -/

/-- Whether a domain starts with a dot. -/
def isDotted (domain : List Char) : Bool := domain.head? == some '.'

/-- A domain with a dot in front. -/
def withDot (domain : List Char) : List Char :=
  if isDotted domain then domain else '.' :: domain

/-- Whether cookies of a domain may go where a request goes. -/
def Visit.fitsDomain (visit : Visit) (domain : List Char) : Bool :=
  let wanted := if domain.isEmpty then [] else withDot domain
  Text.endsWith wanted (withDot visit.host)
    || Text.endsWith wanted (withDot visit.effectiveHost)

/-- Whether cookies of a path may go where a request goes. -/
def Visit.fitsPath (visit : Visit) (path : List Char) : Bool :=
  match Text.dropWord? path visit.path with
  | none => false
  | some rest => rest.isEmpty || path.getLast? == some '/' || rest.head? == some '/'

/-- Whether a cookie may go where a request goes, apart from its path. -/
def Visit.admits (visit : Visit) (cookie : Cookie) : Bool :=
  let portFits := match cookie.ports with
    | none | some [] => true
    | some ports => (Text.split ',' ports).contains visit.effectivePort
  let wanted := if cookie.domain.isEmpty then [] else withDot cookie.domain
  (!cookie.isSecure || visit.isSecure) && portFits
    && (!cookie.isBound || Text.endsWith wanted ('.' :: visit.effectiveHost))

/-- The cookies that go with a request, those with the longest path first. -/
def CookieJar.admitted (jar : CookieJar) (visit : Visit) : List Cookie :=
  let fitting := jar.flatMap fun (domain, paths) =>
    if visit.fitsDomain domain then
      paths.flatMap fun (path, cookies) =>
        if visit.fitsPath path then cookies.filter visit.admits else []
    else []
  fitting.mergeSort fun first second => second.path.length ≤ first.path.length

/-- The fields of a request with the cookies that go with it. -/
def CookieJar.addTo (jar : CookieJar) (url : Url) (headers : Headers) : Headers :=
  match jar.admitted (.ofRequest url headers) with
  | [] => headers
  | cookies =>
      let text := "; ".toList.intercalate (cookies.map Cookie.text)
      headers.set (.ofText "Cookie" (String.ofList text))

/-! ## Reading cookies -/

/-- A cookie as a response describes it: its name and value, and its attributes in order. -/
structure CookieText where
  name : List Char
  value : Option (List Char)
  attributes : List (List Char × Option (List Char))

/-- What can be told from the attributes of a cookie. -/
structure CookieTraits where
  version : Option (List Char)
  domain : Option (List Char)
  path : Option (List Char)
  /-- The ports; an attribute without a value stands for the port of the request. -/
  ports : Option (Option (List Char))
  isSecure : Option Bool
  /-- The time at which the cookie ends, in seconds from the start of 1970. -/
  ending : Option Int
  /-- Whether the ending comes from an age. -/
  isAged : Bool

/-- The pieces of a cookie between semicolons: a name and a value each, blanks aside. -/
def cookiePieces (field : List Char) : List (List Char × Option (List Char)) :=
  (Text.split ';' field).map fun piece =>
    let (name, value) := Text.cut '=' (Text.trim piece)
    (Text.trim name, value.map Text.trim)

/-- A text without a quote at either end. -/
def stripQuotes (text : List Char) : List Char :=
  let opened := match text with
    | '"' :: rest => rest
    | _ => text
  if opened.getLast? == some '"' then opened.dropLast else opened

/-- The cookie that a field describes, if its first piece has a name. -/
def readCookieText (field : List Char) : Option CookieText :=
  match cookiePieces field with
  | (name, value) :: attributes =>
      if name.isEmpty then none
      else
        some ⟨name, value, (attributes.filter fun entry => !entry.1.isEmpty).map fun entry =>
          (entry.1.map Char.toLower, entry.2)⟩
  | [] => none

/-- What reading an attribute comes to: the traits, or a cookie that does not count, or a response
none of whose cookies count. -/
inductive TraitFault
  | cookie
  | response
  deriving DecidableEq, Repr

/-- The end that an attribute gives: a date, or nothing if the date is none. -/
def readEnding (clock : Clock) (value : List Char) : Except TraitFault (Option Int) :=
  match readCookieDate clock.year (stripQuotes value) with
  | none => .error .response
  | some ending => .ok ending

/-- The value of an attribute that must have one. -/
def requireValue (value : Option (List Char)) : Except TraitFault (List Char) :=
  match value with
  | some text => .ok text
  | none => .error .cookie

/-- The traits with one more attribute; of several values of an attribute the first one counts, and
an age counts more than a date. -/
def CookieTraits.add (clock : Clock) (traits : CookieTraits) (entry : List Char × Option (List Char)) :
    Except TraitFault CookieTraits := do
  let (name, value) := entry
  match String.ofList name with
  | "version" =>
      if traits.version.isSome then return traits
      return { traits with version := some (stripQuotes (← requireValue value)) }
  | "domain" =>
      if traits.domain.isSome then return traits
      return { traits with domain := some ((← requireValue value).map Char.toLower) }
  | "path" =>
      if traits.path.isSome then return traits
      return { traits with path := some (← requireValue value) }
  | "port" =>
      if traits.ports.isSome then return traits
      return { traits with ports := some value }
  | "secure" =>
      if traits.isSecure.isSome then return traits
      return { traits with isSecure := some ((value.map fun text => !text.isEmpty).getD true) }
  | "expires" =>
      if traits.ending.isSome || traits.isAged then return traits
      match value with
      | none => return traits
      | some text => return { traits with ending := ← readEnding clock text }
  | "max-age" =>
      match value with
      | none => throw .response
      | some text =>
          match looseInteger? text with
          | none => throw .cookie
          | some age =>
              return { traits with ending := some (clock.seconds + age), isAged := true }
  | _ => return traits

/-- The traits of a cookie. -/
def CookieText.traits (clock : Clock) (text : CookieText) : Except TraitFault CookieTraits :=
  text.attributes.foldlM (CookieTraits.add clock) ⟨none, none, none, none, none, none, false⟩

/-- Checks that the dates of a cookie can be read. -/
def CookieText.checkDates (clock : Clock) (text : CookieText) : Except TraitFault Unit :=
  text.attributes.forM fun (name, value) =>
    match String.ofList name, value with
    | "expires", some date => (readEnding clock date).map fun _ => ()
    | _, _ => .ok ()

/-- The traits of the cookies that count, in order. -/
def readCookies (clock : Clock) (fields : List (List Char)) :
    Except TraitFault (List (CookieText × CookieTraits)) := do
  let texts := fields.filterMap readCookieText
  texts.forM (CookieText.checkDates clock)
  let read ← texts.mapM fun text =>
    match text.traits clock with
    | .ok traits => Except.ok (some (text, traits))
    | .error .cookie => .ok none
    | .error .response => .error .response
  return read.filterMap id

/-! ## Accepting cookies -/

/-- The path of a cookie that names none: that of the request up to its last slash, which belongs to
it except in cookies of version zero. -/
def defaultPath (visit : Visit) (version : Int) : List Char :=
  let folder := (visit.path.reverse.dropWhile (· != '/')).reverse
  let path := if version == 0 then folder.dropLast else folder
  if path.isEmpty then ['/'] else path

/-- Whether a request may set cookies for a domain that the cookie names. -/
def Visit.maySet (visit : Visit) (isBound : Bool) (domain : List Char) : Bool :=
  let host := visit.effectiveHost
  let undotted := domain.drop 1
  let fits := Text.endsWith domain host || Text.endsWith (undotted ++ ".local".toList) host
    || isDotted host || Text.endsWith domain ('.' :: host)
  (undotted.contains '.' || Text.endsWith ".local".toList host) && (!isBound || fits)

/-- Whether ports that a cookie names hold that of a request; all up to it must be numbers. -/
def Visit.isAmong (visit : Visit) : List (List Char) → Bool
  | [] => false
  | port :: rest =>
      (looseInteger? port).isSome && (port == visit.effectivePort || visit.isAmong rest)

/-- What comes of a cookie: it ends at once, it is kept, it does not count, or no cookie counts. -/
inductive CookieFate
  | ended (domain path name : List Char)
  | kept (cookie : Cookie)
  | ignored
  | unreadable

/-- The version of a cookie, if it is a number. -/
def CookieTraits.versionNumber? (traits : CookieTraits) : Option Int :=
  looseInteger? (traits.version.getD ['0'])

/-- Whether a time is too far away to be told in floating point. -/
def isBeyondTime (time : Int) : Bool := (Number.Binary64.ofInt time).isInfinite

/-- What comes of a cookie in the response to a request. -/
def Visit.judge (clock : Clock) (visit : Visit) (text : CookieText) (traits : CookieTraits) :
    CookieFate :=
  match traits.versionNumber? with
  | none => .ignored
  | some version =>
      let path := match traits.path with
        | none | some [] => defaultPath visit version
        | some path => cookiePath path
      let domain := match traits.domain with
        | none => visit.effectiveHost
        | some domain => withDot domain
      let ports := match traits.ports with
        | none => none
        | some none => visit.port
        | some (some ports) => some (ports.filter (!Text.isBlank ·))
      let isBound := version == 0 || version == 1
      let hasEnded := match traits.ending with
        | none => false
        | some ending => ending ≤ clock.seconds
      if hasEnded then .ended domain path text.name
      else if (traits.ending.map isBeyondTime).getD false then .unreadable
      else
        let domainFits := traits.domain.isNone || visit.maySet isBound domain
        let portFits := match traits.ports with
          | some (some _) => visit.isAmong (Text.split ',' (ports.getD []))
          | _ => true
        if version ≤ 1 && domainFits && portFits then
          .kept ⟨text.name, text.value, domain, path, ports, traits.isSecure.getD false, isBound⟩
        else .ignored

/-- The jar with what comes of the cookies of a response, one after another, and the cookies to be
kept, unless no cookie counts. -/
def judgeAll (clock : Clock) (visit : Visit) :
    CookieJar → List (CookieText × CookieTraits) → CookieJar × Option (List Cookie)
  | jar, [] => (jar, some [])
  | jar, (text, traits) :: rest =>
      match visit.judge clock text traits with
      | .ended domain path name => judgeAll clock visit (jar.discard domain path name) rest
      | .ignored => judgeAll clock visit jar rest
      | .unreadable => (jar, none)
      | .kept cookie =>
          let (left, kept) := judgeAll clock visit jar rest
          (left, kept.map (cookie :: ·))

/-- The jar after a response to a request: cookies that have ended are taken away, and then those to
be kept are put in. -/
def CookieJar.take (clock : Clock) (jar : CookieJar) (url : Url) (asked answered : Headers) :
    CookieJar :=
  let fields := (answered.texts.filter fun entry => entry.1 == "set-cookie").map fun entry =>
    entry.2.toList
  let visit := Visit.ofRequest url asked
  match readCookies clock fields with
  | .error _ => jar
  | .ok cookies =>
      let (left, kept) := judgeAll clock visit jar cookies
      (kept.getD []).foldl CookieJar.put left

end Routebook.Http

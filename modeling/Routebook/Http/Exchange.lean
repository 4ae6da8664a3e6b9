import Routebook.Http.Coding
import Routebook.Http.Cookie
import Routebook.Http.Request
import Routebook.Session

/-!
# Exchanges

Sending a request, and following the replies that refer to another address until one does not.  A
redirected request may change its method and lose its body; it takes its credentials along only
while it stays at the same origin, and it brings the cookies that earlier replies left.
-/

namespace Routebook.Http

set_option autoImplicit false

variable [Runtime]

/-- How many redirects are followed. -/
def maxRedirects : Nat := 20

/-- The report of too many redirects. -/
def tooManyRedirects : String := "Exceeded maximum allowed redirects."

/-- The report of an address whose scheme is not one of the web. -/
def unsupportedScheme (scheme : String) : String :=
  if scheme.isEmpty then "Request URL is missing an 'http://' or 'https://' protocol."
  else "Request URL has an unsupported protocol '" ++ scheme ++ "://'."

/-! ## Credentials -/

/-- The characters of base sixty-four, by number. -/
def base64Character (number : Nat) : Char :=
  if number < 26 then Char.ofNat ('A'.toNat + number)
  else if number < 52 then Char.ofNat ('a'.toNat + number - 26)
  else if number < 62 then Char.ofNat ('0'.toNat + number - 52)
  else if number == 62 then '+' else '/'

/-- Bytes written as base sixty-four. -/
def base64Encode : List UInt8 → List Char
  | [] => []
  | [first] =>
      let bits := first.toNat
      [base64Character (bits / 4), base64Character (bits % 4 * 16), '=', '=']
  | [first, second] =>
      let bits := first.toNat * 256 + second.toNat
      [base64Character (bits / 1024), base64Character (bits / 16 % 64),
        base64Character (bits % 16 * 4), '=']
  | first :: second :: third :: rest =>
      let bits := first.toNat * 65536 + second.toNat * 256 + third.toNat
      base64Character (bits / 262144) :: base64Character (bits / 4096 % 64)
        :: base64Character (bits / 64 % 64) :: base64Character (bits % 64) :: base64Encode rest

/-- The fields of a request with the credentials of its address, if it has any. -/
def authorize (url : Url) (headers : Headers) : Headers :=
  let (name, password) := url.credentials
  if name.isEmpty && password.isEmpty then headers
  else
    let token := base64Encode (Text.utf8Encode (name ++ ":" ++ password).toList)
    headers.set (.ofText "Authorization" ("Basic " ++ String.ofList token))

/-! ## Redirects -/

/-- The method of a redirected request. -/
def redirectMethod (method : String) (status : Nat) : String :=
  if (status == 302 || status == 303) && method != "HEAD" then "GET"
  else if status == 301 && method == "POST" then "GET"
  else method

/-- The report of an address in a reply that cannot be read. -/
def badLocation (fault : UrlFault) : String :=
  "Invalid URL in location header: " ++ fault.message ++ "."

/-- An address with the host of another one. -/
def Url.withHost (url : Url) (host : String) : Except UrlFault Url := do
  checkPath true true url.path.toList
  return { url with host := host }

/-- A fault of an address as a failure. -/
def urlFailure {α : Type} : Except UrlFault α → Except Failure α
  | .ok value => .ok value
  | .error fault => .error (.malformedUrl fault.message)

/-- The address of a redirected request; its text is resolved against the address that was asked. -/
def redirectUrl (current : Url) (location : Url) : Except Failure Url := do
  if !location.scheme.isEmpty then location.requireHost
  let hosted ←
    if !location.scheme.isEmpty && location.host.isEmpty then do
      current.requireHost
      urlFailure (location.withHost current.host)
    else pure location
  let resolved ←
    if hosted.isAbsolute then pure hosted
    else
      urlFailure (Url.parse (String.ofList
        (resolveReference current.text.toList hosted.text.toList)))
  let fragment := current.fragment.getD ""
  if !fragment.isEmpty && (resolved.fragment.getD "").isEmpty then
    let text := unquote fragment.toList
    return { resolved with
      fragment := some (String.ofList (quoteKeeping (isPlainSafe fragmentUnsafe) text)) }
  else return resolved

/-- The fields of a redirected request. -/
def redirectHeaders (request : Request) (method : String) (url : Url) : Headers :=
  let headers :=
    if url.sameOrigin request.url then request.headers
    else
      let kept := if request.url.isSecureCounterpart url then request.headers
        else request.headers.erase "authorization"
      kept.set (.ofText "Host" url.netloc)
  let described :=
    if method != request.method && method == "GET" then
      (headers.erase "content-length").erase "transfer-encoding"
    else headers
  described.erase "cookie"

/-- The request that a reply refers to, with the cookies that go with it. -/
def redirect (request : Request) (cookies : CookieJar) (status : Nat) (location : Url) :
    Except Failure Request := do
  let method := redirectMethod request.method status
  let url ← redirectUrl request.url location
  if url.scheme == request.url.scheme then
    url.requireHost
    request.url.requireHost
  else
    request.url.requireHost
    url.requireHost
  let headers := cookies.addTo url (redirectHeaders request method url)
  if method != request.method && method == "GET" then
    Request.make method url headers .nothing
  else return { request with method, url, headers }

/-! ## Sending -/

/-- Sends one request: the response, or the report of what went wrong on the way. -/
def sendOnce (timeout : Value) (request : Request) : Action (Except String Response) := do
  if request.url.scheme != "http" && request.url.scheme != "https" then
    return .error (unsupportedScheme request.url.scheme)
  match request.body.fault with
  | some fault => throw fault
  | none =>
      Action.recordSent
        { method := request.method
          url := request.url.text
          headers := request.headers
          body := request.body.bytes
          timeout := timeout }
      match ← Action.nextReply with
      | .failure reason => return .error reason
      | .unmade cause => throw cause
      | .response content => return content.decoded.mapError Compression.Fault.message

/-- What a request that was sent leads to. -/
inductive Hop
  /-- The end of the exchange. -/
  | final (outcome : Except String Response)
  /-- A response that refers to another address, with the cookies so far and the next request. -/
  | onward (response : Response) (cookies : CookieJar) (next : Request)

/-- Sends a request and reads from the response where it leads. -/
def hop (timeout : Value) (jar : CookieJar) (request : Request) : Action Hop := do
  match ← sendOnce timeout request with
  | .error reason => return .final (.error reason)
  | .ok response =>
      let cookies := jar.take (← get).clock request.url request.headers response.headers
      match isRedirect response.status, response.headers.get? "location" with
      | true, some location =>
          match Url.parse location with
          | .error fault => return .final (.error (badLocation fault))
          | .ok url =>
              return .onward response cookies
                (← Action.ofExcept (redirect request cookies response.status url))
      | _, _ => return .final (.ok response)

/-- Sends a request and follows redirects as often as a bound allows; the cookies that responses
leave go along. -/
def follow (timeout : Value) (followRedirects : Bool) :
    Nat → CookieJar → Request → Action (Except String Response)
  | left, jar, request => do
      match ← hop timeout jar request with
      | .final outcome => return outcome
      | .onward response cookies next =>
          if !followRedirects then return .ok response
          match left with
          | 0 => return .error tooManyRedirects
          | fewer + 1 => follow timeout followRedirects fewer cookies next

/-- Sends a request with the credentials of its address. -/
def exchange (timeout : Value) (followRedirects : Bool) (request : Request) :
    Action (Except String Response) :=
  follow timeout followRedirects maxRedirects []
    { request with headers := authorize request.url request.headers }

end Routebook.Http

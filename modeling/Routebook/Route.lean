import Routebook.Config.Basic
import Routebook.Transport
import Routebook.Uri
import Routebook.Value.Copy

/-!
# Routes

A route is a function that a client calls: it builds the address from the arguments, lays the
options of the call over its own, and hands the finished options to its transport.  Its own options
are an object that nobody else holds, and every call works on a fresh copy of it.
-/

namespace Routebook

set_option autoImplicit false

variable [Runtime]

/-- A callable route. -/
structure Route where
  root : String
  pattern : Pattern
  method : Method
  transport : Transport
  /-- The request options, an object of the route's own. -/
  options : Handle
  /-- Whether response bodies are decoded from JSON for callbacks. -/
  parseJson : Bool
  /-- Whether the values in an address are encoded. -/
  encodeValues : Bool
  name : String
  deriving Repr

/-- The arguments of a call by their names; those that are not given are missing. -/
structure CallArguments where
  pathArguments : Option Handle
  body : Option Handle
  options : Option Handle
  callback : Option Handle
  deriving Repr

namespace CallArguments

/-- A call without arguments. -/
def none : CallArguments := ⟨.none, .none, .none, .none⟩

/-- The arguments with one more, unless there is no such name. -/
def add (arguments : CallArguments) (field : String × Handle) : Except Failure CallArguments :=
  match field.1 with
  | "path_args" => .ok { arguments with pathArguments := some field.2 }
  | "body" => .ok { arguments with body := some field.2 }
  | "request_options" => .ok { arguments with options := some field.2 }
  | "callback" => .ok { arguments with callback := some field.2 }
  | _ => .error .wrongType

/-- The arguments given by name. -/
def ofFields (fields : List (String × Handle)) : Except Failure CallArguments :=
  fields.foldlM add none

/-- The arguments given by position: a body comes second where the method carries one, the callback
comes last, and options may stand before it. -/
def ofPositions (route : String) (takesBody : Bool) (arguments : List Handle) :
    Except Failure CallArguments :=
  match takesBody, arguments with
  | true, [path, body, callback] => .ok ⟨some path, some body, .none, some callback⟩
  | true, [path, body, options, callback] => .ok ⟨some path, some body, some options, some callback⟩
  | false, [path, callback] => .ok ⟨some path, .none, .none, some callback⟩
  | false, [path, options, callback] => .ok ⟨some path, .none, some options, some callback⟩
  | _, _ => .error (.problem (.argumentCount route takesBody arguments.length))

end CallArguments

namespace Route

/-- Makes a route with a copy of the given options, if they can be copied; one without a name is
named by its path. -/
def make (root : String) (pattern : Pattern) (method : Method) (transport : Transport)
    (options : Entries) (parseJson encodeValues : Bool) (name : String) : Action Route := do
  Action.ofExcept (Value.mapping options).requireCopyable
  let session ← get
  let (handle, store) := session.store.load (.mapping options)
  set { session with store := store }
  return { root, pattern, method, transport, options := handle, parseJson, encodeValues
           name := if name.isEmpty then pattern.literalPath else name }

/-- Whether two routes are the same one. -/
def isSame (first second : Route) : Bool :=
  match first.options, second.options with
  | .object firstIndex, .object secondIndex => firstIndex == secondIndex
  | _, _ => false

/-- A route as a value. -/
def value (route : Route) : Value := .route route.method.name route.name

/-- The entries of the options of a route. -/
def currentOptions (route : Route) (store : Store) : Entries :=
  match store.read route.options with
  | .mapping entries => entries
  | _ => []

/-- The value that an argument stands for; null if it is not given. -/
def argumentValue (argument : Option Handle) : Action Value := do
  match argument with
  | none => return .null
  | some handle => return (← get).store.read handle

/-- Builds the address of a call. -/
def buildUri (route : Route) (pathArguments : Option Handle) : Action Uri.Resolution := do
  let arguments ← argumentValue pathArguments
  Action.ofExcept (Uri.build route.root route.pattern route.encodeValues arguments)

/-- The entries with those of another mapping written over them, in order. -/
def overlayHandles (base override : List (Value × Handle)) : List (Value × Handle) :=
  override.foldl (fun entries entry => Store.insertEntry entry.1 entry.2 entries) base

/-- The entries that a call adds to the options of the route. -/
def callEntries (options : Option Handle) : Action (List (Value × Handle)) := do
  match options with
  | none => return []
  | some handle => Action.ofExcept ((← get).store.optionalEntriesOf handle)

/-- A fresh copy of the entries of the route's options, if they can be copied. -/
def copyOptions (route : Route) : Action (List (Value × Handle)) := do
  let session ← get
  Action.ofExcept (session.store.read route.options).requireCopyable
  let (copy, store) := session.store.copy route.options
  set { session with store := store }
  match store.content? copy with
  | some (.mapping entries) => return entries
  | _ => return []

/-- Builds the options that a call hands to the transport: a new object with the route's options,
the options of the call over them, and then the address, the method and, where the method carries
one, the body. -/
def buildRequest (route : Route) (arguments : CallArguments) : Action (Handle × String) := do
  if arguments.body.isSome && !route.method.hasBody then
    throw (.problem (.bodyRefused route.method.name route.name))
  let own ← copyOptions route
  let layered := overlayHandles own (← callEntries arguments.options)
  let address := (← route.buildUri arguments.pathArguments).uri
  let addressed := Store.insertEntry (.text "uri") (.atom (.text address)) layered
  let named := Store.insertEntry (.text "method") (.atom (.text route.method.name)) addressed
  let finished :=
    if route.method.hasBody then
      Store.insertEntry (.text "body") (arguments.body.getD (.atom .null)) named
    else named
  let session ← get
  let (handle, store) := session.store.make (.mapping finished)
  set { session with store := store }
  return (handle, address)

/-- The callback that the transport gets: one that decodes bodies if the route decodes them. -/
def callbackFor (route : Route) (callback : Option Callback) : Option Callback :=
  if route.parseJson then callback.map .decoding else callback

/-- Calls a route. -/
def call (route : Route) (arguments : CallArguments) : Action Value := do
  let (options, address) ← route.buildRequest arguments
  let callback := arguments.callback.bind Callback.ofHandle
  Action.debug (route.method.name ++ " " ++ address)
  route.transport.call options (route.callbackFor callback)

/-- Calls a route with arguments given by position. -/
def callPositions (route : Route) (arguments : List Handle) : Action Value := do
  route.call (← Action.ofExcept
    (CallArguments.ofPositions route.name route.method.hasBody arguments))

end Route

end Routebook

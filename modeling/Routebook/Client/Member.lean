import Routebook.Client

/-!
# Members of a client

What a client answers to besides the names of its routes: members that every client has, some of
which can be called.  A route's name wins over any of them.  One of these members makes the client
anew from any mapping, so that afterwards it holds what it was given in place of its routes.
-/

namespace Routebook

set_option autoImplicit false

variable [Runtime]

/-! ## What a client holds -/

/-- What a client holds: the routes that it was compiled with, or what it was given since. -/
inductive Table
  | compiled (client : Client)
  | given (entries : List (Value × Handle))
  deriving Repr

/-- What a client holds at one name. -/
inductive Held
  | compiled (route : Route)
  | other (handle : Handle)

namespace Held

/-- What is held, as a value. -/
def value (store : Store) : Held → Value
  | .compiled route => route.value
  | .other handle => store.read handle

/-- The route that is held; nothing else has the members of a route. -/
def asRoute : Held → Except Failure Route
  | .compiled route => .ok route
  | .other _ => .error .missingAttribute

/-- Calls what is held. -/
def call (held : Held) (arguments : List Handle) : Action Value := do
  match held with
  | .compiled route => route.callPositions arguments
  | .other handle =>
      let values := arguments.map (← get).store.read
      match Callback.ofHandle handle with
      | some callback => callback.call values
      | none => throw .wrongType

end Held

namespace Table

/-- What is held at a key. -/
def at? (table : Table) (key : Value) : Option Held :=
  match table, key with
  | .compiled client, .text name => (client.route? name).map .compiled
  | .compiled _, _ => none
  | .given entries, key => (Store.lookupEntry key entries).map .other

/-- What is held at a key, which has to be there. -/
def item (table : Table) (key : Value) : Except Failure Held :=
  match table.at? key with
  | some held => .ok held
  | none => .error .missingKey

/-- What is held at a value, if a value can be a key. -/
def lookup (table : Table) (key : Value) : Except Failure (Option Held) :=
  if key.isHashable then .ok (table.at? key) else .error .wrongType

/-- The keys with what is held at them, as values. -/
def entries (table : Table) (store : Store) : Entries :=
  match table with
  | .compiled client => client.routes.map fun entry => (.text entry.1, entry.2.value)
  | .given entries => store.readEntries entries

/-- A key that is a text. -/
def keyName : Value → Except Failure String
  | .text name => .ok name
  | _ => .error .wrongType

/-- The keys as names, if they are texts. -/
def names (table : Table) : Except Failure (List String) :=
  match table with
  | .compiled client => .ok client.names
  | .given entries => entries.mapM fun entry => keyName entry.1

/-- The text of a client. -/
def text (table : Table) : Except Failure String := do
  return "GeneratedClient(" ++ ", ".intercalate (← table.names) ++ ")"

/-- What a client holds once it has been made anew from an object. -/
def ofHandle (store : Store) (handle : Handle) : Except Failure Table := do
  return .given (Route.overlayHandles [] (← store.entriesOf handle))

/-! ## Members -/

/-- The members that are a client's own methods. -/
def methodNames : List String :=
  ["__class_getitem__", "__contains__", "__delattr__", "__dir__", "__eq__", "__getattr__",
   "__getattribute__", "__getitem__", "__init__", "__iter__", "__len__", "__repr__", "__setattr__",
   "__subclasshook__", "get", "items", "keys", "values"]

/-- The members that compare a client or show it the way any value is. -/
def wrapperNames : List String :=
  ["__ge__", "__gt__", "__le__", "__lt__", "__ne__", "__str__"]

/-- The members that every value has. -/
def builtinNames : List String :=
  ["__format__", "__getstate__", "__init_subclass__", "__new__", "__reduce__", "__reduce_ex__",
   "__sizeof__"]

/-- The member that makes a client anew. -/
def makingName : String := "__init__"

/-- The member that is what a client holds, as a mapping. -/
def mappingName : String := "_routes"

/-- The members that hold a value, for a client with the given entries. -/
def heldMembers (entries : Entries) : List (String × Value) :=
  [("__abstractmethods__", .foreign "frozenset"),
   ("__class__", .foreign "ABCMeta"),
   ("__hash__", .null),
   ("__orig_bases__", .tuple [.foreign "GenericAlias"]),
   ("__reversed__", .null),
   ("__slots__", .tuple [.text mappingName]),
   ("_abc_impl", .foreign "_abc_data"),
   (mappingName, .mapping entries)]

/-- The members that describe a client in words. -/
def descriptiveNames : List String := ["__doc__", "__module__"]

/-- The names of all members, those held among them, in the order of their code points. -/
def memberNames (table : Table) : Except Failure (List String) := do
  let names := (← table.names) ++ methodNames ++ wrapperNames ++ builtinNames
    ++ (heldMembers []).map Prod.fst ++ descriptiveNames
  return (names.mergeSort fun first second => decide (first ≤ second)).eraseDups

/-- A member that every client has, for a client with the given entries. -/
def commonMember (entries : Entries) (name : String) : Except Failure Value :=
  if methodNames.contains name then .ok (.foreign "method")
  else if wrapperNames.contains name then .ok (.foreign "method-wrapper")
  else if builtinNames.contains name then .ok (.foreign "builtin_function_or_method")
  else
    match (heldMembers entries).find? fun entry => entry.1 == name with
    | some (_, value) => .ok value
    | none => .error (.unknownRoute name)

/-- A member of a client: what it holds at the name, or else a member that every client has. -/
def member (table : Table) (store : Store) (name : String) : Except Failure Value :=
  match table.at? (.text name) with
  | some held => .ok (held.value store)
  | none => commonMember (table.entries store) name

/-! ## Calls -/

/-- The answer of a comparison that a client does not take part in. -/
def noComparison : Value := .foreign "NotImplementedType"

/-- Whether a client with the given entries holds the same as a value, if the value is a mapping. -/
def agreesWith? (entries : Entries) : Value → Option Bool
  | .mapping others => some (Value.same (.mapping entries) (.mapping others))
  | _ => none

/-- Calls a member that every client has and that leaves the client as it is. -/
def callMethod (table : Table) (store : Store) (name : String) (arguments : List Value) :
    Except Failure Value :=
  let entries := table.entries store
  match name, arguments with
  | "keys", [] => .ok (.list (entries.map Prod.fst))
  | "values", [] => .ok (.list (entries.map Prod.snd))
  | "items", [] => .ok (.list (entries.map fun entry => .tuple [entry.1, entry.2]))
  | "get", [key] => return ((← table.lookup key).map (Held.value store)).getD .null
  | "get", [key, default] => return ((← table.lookup key).map (Held.value store)).getD default
  | "__len__", [] => .ok (.int entries.length)
  | "__repr__", [] | "__str__", [] | "__format__", [.text ""] => table.text.map .text
  | "__dir__", [] => table.memberNames.map fun names => .list (names.map .text)
  | "__iter__", [] => .ok (.foreign "dict_keyiterator")
  | "__sizeof__", [] => .ok (.int 24)
  | "__getstate__", [] =>
      .ok (.tuple [.null, .mapping [(.text mappingName, .mapping entries)]])
  | "__init_subclass__", [] => .ok .null
  | "__class_getitem__", [_] => .ok (.foreign "GenericAlias")
  | "__class__", [.mapping _] => .ok (.foreign "GeneratedClient")
  | "__contains__", [key] => return .truth (← table.lookup key).isSome
  | "__getitem__", [key] => do
      match ← table.lookup key with
      | some held => return held.value store
      | none => throw .missingKey
  | "__getattribute__", [.text text] => table.member store text
  | "__getattr__", [text] => .error (.unknownRoute text.display)
  | "__setattr__", [_, _] | "__delattr__", [_] => .error Client.changeMember
  | "__eq__", [other] => .ok ((agreesWith? entries other).elim noComparison .truth)
  | "__ne__", [other] =>
      .ok ((agreesWith? entries other).elim noComparison fun same => .truth !same)
  | "__ge__", [_] | "__gt__", [_] | "__le__", [_] | "__lt__", [_] | "__subclasshook__", [_] =>
      .ok noComparison
  | _, _ =>
      match commonMember entries name with
      | .ok _ => .error .wrongType
      | .error failure => .error failure

/-- Calls a member that every client has: the result, and what the client holds afterwards. -/
def callCommon (table : Table) (store : Store) (name : String) (arguments : List Handle) :
    Except Failure (Value × Table) :=
  if name == makingName then
    match arguments with
    | [handle] => return (.null, ← ofHandle store handle)
    | _ => throw .wrongType
  else return (← table.callMethod store name (arguments.map store.read), table)

/-- Calls a member of a client: the result, and what the client holds afterwards. -/
def callMember (table : Table) (name : String) (arguments : List Handle) :
    Action (Value × Table) := do
  match table.at? (.text name) with
  | some held => return (← held.call arguments, table)
  | none => Action.ofExcept (table.callCommon (← get).store name arguments)

/-- An attempt to write an option of the route at a name. -/
def changeOption (table : Table) (name : String) : Failure :=
  match (table.item (.text name)).bind Held.asRoute with
  | .ok _ => .wrongType
  | .error failure => failure

end Table

end Routebook

import Routebook.Config.Schema
import Routebook.Route

/-!
# Clients

A client is made from a configuration: every declared route is compiled in turn, and of several
routes of one name the last is kept at the place of the first.  The set of routes is fixed from then
on, and routes are reached by name.
-/

namespace Routebook

set_option autoImplicit false

variable [Runtime]

/-- A client: its routes by name. -/
structure Client where
  routes : List (String × Route)
  deriving Repr

namespace Client

/-! ## Compilation -/

/-- The route of a name in a list of routes. -/
def find? (name : String) (routes : List (String × Route)) : Option Route :=
  (routes.find? fun entry => entry.1 == name).map Prod.snd

/-- The routes with one more: in place of the one of the same name, or at the end. -/
def bind (name : String) (route : Route) : List (String × Route) → List (String × Route)
  | [] => [(name, route)]
  | entry :: rest =>
      if entry.1 == name then (name, route) :: rest else entry :: bind name route rest

/-- The transport of a client: the given one, with the default options of the configuration. -/
def resolveTransport (config : ClientConfig) (transport : Transport) : Action Transport :=
  match config.requestDefaults with
  | none => pure transport
  | some options => transport.withDefaults options

/-- Compiles one declared route. -/
def compileRoute (config : ClientConfig) (transport : Transport) (routes : List (String × Route))
    (definition : RouteDefinition) : Action (List (String × Route)) := do
  match find? definition.name routes with
  | none => pure ()
  | some previous =>
      Action.debug ("Route '" ++ definition.name ++ "' (" ++ definition.method.name
        ++ ") replaces " ++ previous.method.name ++ " route of the same name")
  let route ← Route.make config.root definition.pattern definition.method transport
    definition.requestOptions config.parseJson config.encodeValues definition.name
  Action.debug ("Compiled " ++ definition.method.name ++ " " ++ definition.name ++ " -> "
    ++ definition.template)
  return bind definition.name route routes

/-- Makes a client of a configuration. -/
def create (config : ClientConfig) (transport : Transport) : Action Client := do
  let active ← resolveTransport config transport
  let routes ← config.routes.foldlM (compileRoute config active) []
  return ⟨routes⟩

/-! ## Reading -/

/-- The names of the routes, in order. -/
def names (client : Client) : List String := client.routes.map Prod.fst

/-- The route of a name. -/
def route? (client : Client) (name : String) : Option Route := find? name client.routes

/-- The route of a name, which has to be there. -/
def route (client : Client) (name : String) : Except Failure Route :=
  match client.route? name with
  | some route => .ok route
  | none => .error .missingKey

/-- Whether a client has exactly the given routes, in any order. -/
def hasRoutes (client : Client) (routes : List (String × Route)) : Bool :=
  client.routes.length == routes.length && client.routes.all fun entry =>
    match find? entry.1 routes with
    | some other => entry.2.isSame other
    | none => false

/-! ## Changing -/

/-- An attempt to write or remove a member of a client. -/
def changeMember : Failure := .clientFrozen

/-- An attempt to write or remove a route of a client by its key. -/
def changeItem : Failure := .wrongType

end Client

end Routebook

import Routebook.Method
import Routebook.Template
import Routebook.Value.Basic

/-!
# Client configurations

A configuration names the root of an API, a few switches, default request options, and for every
method the routes declared under it.  A route is a template, alone or with request options of its
own.
-/

namespace Routebook

set_option autoImplicit false

/-- A declared route: a template, or a template with request options. -/
inductive RouteEntry
  | template (text : String)
  | detailed (pathPattern : String) (requestOptions : Entries)
  deriving Repr

/-- The template of a declared route. -/
def RouteEntry.text : RouteEntry → String
  | .template text => text
  | .detailed pathPattern _ => pathPattern

/-- The request options of a declared route. -/
def RouteEntry.options : RouteEntry → Entries
  | .template _ => []
  | .detailed _ requestOptions => requestOptions

/-- The routes declared under each method, in the order of declaration. -/
structure Declarations where
  delete : List (String × RouteEntry)
  get : List (String × RouteEntry)
  head : List (String × RouteEntry)
  patch : List (String × RouteEntry)
  post : List (String × RouteEntry)
  put : List (String × RouteEntry)
  deriving Repr

/-- The routes declared under a method. -/
def Declarations.under (declarations : Declarations) : Method → List (String × RouteEntry)
  | .delete => declarations.delete
  | .get => declarations.get
  | .head => declarations.head
  | .patch => declarations.patch
  | .post => declarations.post
  | .put => declarations.put

/-- A client configuration. -/
structure ClientConfig where
  root : String
  parseJson : Bool
  encodeValues : Bool
  requestDefaults : Option Entries
  declarations : Declarations
  deriving Repr

/-- A route to be compiled. -/
structure RouteDefinition where
  method : Method
  name : String
  template : String
  requestOptions : Entries
  deriving Repr

/-- The parsed template of a route to be compiled. -/
def RouteDefinition.pattern (definition : RouteDefinition) : Pattern :=
  Template.parse definition.template

/-- The declared routes in the order of compilation. -/
def ClientConfig.routes (config : ClientConfig) : List RouteDefinition :=
  Method.all.flatMap fun method =>
    (config.declarations.under method).map fun declared =>
      { method := method
        name := declared.1
        template := declared.2.text
        requestOptions := declared.2.options }

end Routebook

/-!
# Request methods

The methods that routes are declared under, in the order in which they are compiled.
-/

namespace Routebook

set_option autoImplicit false

/-- A request method. -/
inductive Method
  | delete
  | get
  | head
  | patch
  | post
  | put
  deriving DecidableEq, Repr

namespace Method

/-- The methods in the order of compilation. -/
def all : List Method := [.delete, .get, .head, .patch, .post, .put]

/-- The name of a method as a configuration key. -/
def key : Method → String
  | .delete => "delete"
  | .get => "get"
  | .head => "head"
  | .patch => "patch"
  | .post => "post"
  | .put => "put"

/-- The name of a method as it stands in a request. -/
def name : Method → String
  | .delete => "DELETE"
  | .get => "GET"
  | .head => "HEAD"
  | .patch => "PATCH"
  | .post => "POST"
  | .put => "PUT"

/-- Whether requests with this method carry a body. -/
def hasBody : Method → Bool
  | .patch | .post | .put => true
  | .delete | .get | .head => false

/-- The method with the given name; the case of its letters does not count. -/
def named? (text : String) : Option Method :=
  all.find? fun method => method.key == text.toLower

end Method

end Routebook

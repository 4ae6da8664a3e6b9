import Routebook.Calendar
import Routebook.Failure
import Routebook.Http.Message
import Routebook.Number.Binary64

/-!
# Dynamic values

Configurations, arguments, request options and decoded bodies are made of the values below.  A
mapping is the list of its entries in the order of insertion; writing to a key that is present keeps
its place and its spelling, and writing to a new key appends.  Two keys are the same when they are
equal as values: a number equals every number of the same size, and the truth values equal one and
zero.

A document can describe containers that contain themselves.  Such a container is a knot: a list of
containers with links between them, and the number of the one that is meant.  Opening a knot gives
its outermost layer as an ordinary container whose items may be knots again.
-/

namespace Routebook

set_option autoImplicit false

/-- The brackets around the items of a container. -/
inductive Brackets
  | square
  | curly
  | round
  deriving DecidableEq, Repr

/-- A dynamic value. -/
inductive Value
  | null
  | truth (flag : Bool)
  | int (value : Int)
  | float (value : Number.Binary64)
  | text (value : String)
  | bytes (value : List UInt8)
  | list (items : List Value)
  | tuple (items : List Value)
  | set (items : List Value)
  | mapping (entries : List (Value × Value))
  | date (value : Date)
  | moment (value : Moment)
  /-- A problem handed to a callback. -/
  | problem (cause : Problem)
  /-- A response handed to a callback. -/
  | response (content : Http.Response)
  /-- A route function, by its method and name. -/
  | route (method name : String)
  /-- Any other object, by the name of its type. -/
  | foreign (typeName : String)
  /-- One of several containers that contain one another, by its number. -/
  | knot (containers : List Value) (index : Nat)
  /-- Inside a knot, the container of a number. -/
  | link (index : Nat) (brackets : Brackets)
  deriving Repr

/-- The entries of a mapping. -/
abbrev Entries := List (Value × Value)

instance : Inhabited Value := ⟨.null⟩

namespace Value

/-! ## Containers that contain themselves -/

/-- An item of a container of a knot, as it is outside of the knot. -/
def untie (containers : List Value) : Value → Value
  | .link index _ => .knot containers index
  | other => other

/-- A value with its outermost layer in the open. -/
def opened : Value → Value
  | .knot containers index =>
      match containers[index]? with
      | some (.list items) => .list (items.map (untie containers))
      | some (.tuple items) => .tuple (items.map (untie containers))
      | some (.mapping entries) =>
          .mapping (entries.map fun entry => (entry.1, untie containers entry.2))
      | _ => .null
  | other => other

/-! ## Kinds -/

/-- The name of a value's type. -/
def typeName (value : Value) : String :=
  match value.opened with
  | .null => "NoneType"
  | .truth _ => "bool"
  | .int _ => "int"
  | .float _ => "float"
  | .text _ => "str"
  | .bytes _ => "bytes"
  | .list _ => "list"
  | .tuple _ => "tuple"
  | .set _ => "set"
  | .mapping _ => "dict"
  | .date _ => "date"
  | .moment _ => "datetime"
  | .problem _ => "Exception"
  | .response _ => "Response"
  | .route _ _ => "RouteFunction"
  | .foreign name => name
  | .knot _ _ | .link _ _ => "object"

/-- Whether a value counts as true where a condition is expected: empty and zero values do not. -/
def isTruthy : Value → Bool
  | .null => false
  | .truth flag => flag
  | .int value => value != 0
  | .float value => !value.isZero
  | .text value => !value.isEmpty
  | .bytes value => !value.isEmpty
  | .list items => !items.isEmpty
  | .tuple items => !items.isEmpty
  | .set items => !items.isEmpty
  | .mapping entries => !entries.isEmpty
  | .date _ | .moment _ | .problem _ | .response _ | .route _ _ | .foreign _ => true
  | .knot _ _ | .link _ _ => true

mutual
/-- Whether a value can be a key: the mutable containers cannot, and a tuple can if its items can.
-/
def isHashable : Value → Bool
  | .list _ | .set _ | .mapping _ | .knot _ _ | .link _ _ => false
  | .tuple items => allHashable items
  | _ => true

/-- Whether all values of a list can be keys. -/
def allHashable : List Value → Bool
  | [] => true
  | item :: rest => isHashable item && allHashable rest
end

/-! ## Equality -/

mutual
/-- Whether two values are equal; numbers and truth values are compared by size, whatever their
types. -/
def same : Value → Value → Bool
  | .null, .null => true
  | .truth first, .truth second => first == second
  | .truth first, .int second => (if first then 1 else 0) == second
  | .int first, .truth second => first == (if second then 1 else 0)
  | .truth first, .float second => second.equalsInt (if first then 1 else 0)
  | .float first, .truth second => first.equalsInt (if second then 1 else 0)
  | .int first, .int second => first == second
  | .int first, .float second => second.equalsInt first
  | .float first, .int second => first.equalsInt second
  | .float first, .float second => first.sameValue second
  | .text first, .text second => first == second
  | .bytes first, .bytes second => first == second
  | .list first, .list second => sameItems first second
  | .tuple first, .tuple second => sameItems first second
  | .set first, .set second => first.length == second.length && sameMembers first second
  | .mapping first, .mapping second => first.length == second.length && sameEntries first second
  | .date first, .date second => first == second
  | .moment first, .moment second => first == second
  | .problem first, .problem second => first == second
  | .response first, .response second => first == second
  | .route method name, .route otherMethod otherName => method == otherMethod && name == otherName
  | .foreign first, .foreign second => first == second
  | _, _ => false

/-- Whether two lists have equal items in the same places. -/
def sameItems : List Value → List Value → Bool
  | [], [] => true
  | first :: firstRest, second :: secondRest => same first second && sameItems firstRest secondRest
  | _, _ => false

/-- Whether every value of the first list equals one of the second. -/
def sameMembers : List Value → List Value → Bool
  | [], _ => true
  | first :: rest, others => others.any (fun other => same first other) && sameMembers rest others

/-- Whether every entry of the first list has an equal entry in the second. -/
def sameEntries : List (Value × Value) → List (Value × Value) → Bool
  | [], _ => true
  | (key, value) :: rest, others =>
      others.any (fun other => same key other.1 && same value other.2) && sameEntries rest others
end

/-! ## Entries of mappings -/

/-- The value at a key. -/
def lookup (key : Value) : Entries → Option Value
  | [] => none
  | entry :: rest => if same key entry.1 then some entry.2 else lookup key rest

/-- The value at a text key. -/
def lookupText (key : String) (entries : Entries) : Option Value :=
  lookup (.text key) entries

/-- The entries with a value written at a key. -/
def insert (key value : Value) : Entries → Entries
  | [] => [(key, value)]
  | entry :: rest =>
      if same key entry.1 then (entry.1, value) :: rest else entry :: insert key value rest

/-- The entries with a value written at a text key. -/
def insertText (key : String) (value : Value) (entries : Entries) : Entries :=
  insert (.text key) value entries

/-- The entries of the first mapping with those of the second written over them, in order. -/
def overlay (base override : Entries) : Entries :=
  override.foldl (fun entries entry => insert entry.1 entry.2 entries) base

/-- The entries obtained by writing the given pairs one after another. -/
def ofPairs (pairs : List (Value × Value)) : Entries :=
  overlay [] pairs

/-- The values without later repetitions. -/
def distinct (items : List Value) : List Value :=
  (items.foldl (fun kept item => if kept.any (same item) then kept else item :: kept) []).reverse

/-! ## Conversion to a mapping -/

/-- The items that iteration over a value yields, if it can be iterated over. -/
def items? (value : Value) : Option (List Value) :=
  match value.opened with
  | .text value => some (value.toList.map fun character => .text (String.singleton character))
  | .bytes value => some (value.map fun byte => .int byte.toNat)
  | .list items | .tuple items | .set items => some items
  | .mapping entries => some (entries.map Prod.fst)
  | _ => none

/-- The pair that an item of a list of pairs stands for. -/
def pairOf (item : Value) : Except Failure (Value × Value) :=
  match item.items? with
  | none => .error .wrongType
  | some [key, value] => if key.isHashable then .ok (key, value) else .error .wrongType
  | some _ => .error .badValue

/-- The entries of a value taken as a mapping: a mapping itself, or any sequence of pairs. -/
def toEntries (value : Value) : Except Failure Entries :=
  match value.opened with
  | .mapping entries => .ok entries
  | other =>
      match other.items? with
      | none => .error .wrongType
      | some items => (items.mapM pairOf).map ofPairs

/-- The entries of a value taken as an optional mapping: a value that counts as false has none. -/
def toOptionalEntries (value : Value) : Except Failure Entries :=
  if value.isTruthy then value.toEntries else .ok []

end Value

end Routebook

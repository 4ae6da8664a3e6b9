import Routebook.Yaml.Object

/-!
# The value of a YAML text

The objects that the nodes of a document stand for are read out as one value.  A container that can
be reached from itself becomes a knot of all containers on the way.
-/

namespace Routebook.Yaml

set_option autoImplicit false

variable [Runtime]

namespace Assembly

/-! ## Containers that contain one another -/

/-- The objects inside an object. -/
def inside (assembly : Assembly) (index : Nat) : List Nat :=
  match assembly.object? index with
  | some (.list items) => items
  | some (.pair key value) => [key, value]
  | some (.set members) => members
  | some (.mapping entries) => entries.map Prod.snd
  | _ => []

/-- Adds to the objects found those that are pending and everything inside them. -/
def reach (assembly : Assembly) : Nat → List Nat → List Nat → List Nat
  | 0, _, found => found
  | _, [], found => found
  | steps + 1, index :: pending, found =>
      if found.contains index then reach assembly steps pending found
      else reach assembly steps (assembly.inside index ++ pending) (index :: found)

/-- The objects inside every object, at any depth. -/
def reached (assembly : Assembly) : Array (List Nat) :=
  let indices := List.range assembly.objects.size
  let steps := indices.foldl (fun total index => total + (assembly.inside index).length) 1
  (indices.map fun index => assembly.reach steps (assembly.inside index) []).toArray

/-- For every object the objects that contain it and that it contains; none if it does not contain
itself. -/
def knots (assembly : Assembly) : Array (List Nat) :=
  let reached := assembly.reached
  let holds := fun (outer inner : Nat) => (reached[outer]?.getD []).contains inner
  ((List.range assembly.objects.size).map fun index =>
    (reached[index]?.getD []).filter fun other => holds other index).toArray

/-! ## Reading out -/

/-- The brackets around the items of an object. -/
def bracketsOf (assembly : Assembly) (index : Nat) : Brackets :=
  match assembly.object? index with
  | some (.mapping _) => .curly
  | some (.pair _ _) => .round
  | _ => .square

/-- The value of an object, given those of the objects inside it. -/
def valueOf {Effect : Type → Type} [Monad Effect] (assembly : Assembly)
    (part : Nat → Effect Value) (index : Nat) : Effect Value :=
  match assembly.object? index with
  | some (.scalar value _) => pure value
  | some (.list items) => return .list (← items.mapM part)
  | some (.pair key value) => return .tuple [← part key, ← part value]
  | some (.set members) => return .set (← members.mapM part)
  | some (.mapping entries) =>
      return .mapping (← entries.mapM fun (key, value) => return (← part key, ← part value))
  | none => pure .null

/-- Reads out an object; the values read so far are kept, so that every object is read once. -/
def readOut (assembly : Assembly) (knots : Array (List Nat)) :
    Nat → Nat → StateM (Array (Option Value)) Value
  | 0, _ => pure .null
  | steps + 1, index => do
      match (← get)[index]?.join with
      | some value => return value
      | none =>
          let knot := knots[index]?.getD []
          let part := fun (member : Nat) =>
            match knot.idxOf? member with
            | some position => pure (Value.link position (assembly.bracketsOf member))
            | none => readOut assembly knots steps member
          let value ←
            match knot.idxOf? index with
            | none => assembly.valueOf part index
            | some position => do
                return .knot (← knot.mapM (assembly.valueOf part)) position
          modify (·.setIfInBounds index (some value))
          return value

/-- The value of an object. -/
def value (assembly : Assembly) (isRecursive : Bool) (index : Nat) : Value :=
  let count := assembly.objects.size
  let knots := if isRecursive then assembly.knots else #[]
  ((assembly.readOut knots (count + 1) index).run (Array.replicate count none)).1

end Assembly

/-- The value of a text: that of its only document, or null if it holds none. -/
def parse (text : String) : Except Fault Value := do
  match ← Graph.ofTokens (Token.ofText text.toList) with
  | none => return .null
  | some graph => return (← Assembly.ofGraph graph).value graph.isRecursive graph.root

end Routebook.Yaml

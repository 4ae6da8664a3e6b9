import Routebook.Yaml.Node
import Routebook.Yaml.ScalarValue

/-!
# What the nodes of a YAML text stand for

A node is assembled by its tag.  A scalar is read when it is met; a container is empty when it is
met and is filled later, after all containers met before it, so that of several faults the one at
the outermost level is reported, and of those the first, and so that a container may hold itself.
Filling a mapping first merges others into it.  Both that and the marking of own scalars change the
nodes, which shows where a node is mentioned again.
-/

namespace Routebook.Yaml

set_option autoImplicit false

/-! ## Nodes by number -/

/-- Whether a node has a tag. -/
def hasTag (nodes : Array Node) (tag : String) (index : Nat) : Bool :=
  (nodes[index]?.map fun node => node.tag == tag).getD false

/-- The entries of a mapping; other nodes have none. -/
def entriesOf (nodes : Array Node) (index : Nat) : List (Nat × Nat) :=
  match nodes[index]?.map Node.content with
  | some (.mapping entries) => entries
  | _ => []

/-- The nodes with other entries in one of them. -/
def setEntries (nodes : Array Node) (index : Nat) (entries : List (Nat × Nat)) : Array Node :=
  nodes.modify index fun node => { node with content := .mapping entries }

/-- The nodes with those among the given ones that mark an own scalar turned into texts. -/
def unmark (nodes : Array Node) (keys : List Nat) : Array Node :=
  keys.foldl (fun changed key =>
    if hasTag changed valueTag key then
      changed.modify key fun node => { node with tag := textTag }
    else changed) nodes

/-- The text of a node where a scalar is expected: a mapping may hold its own scalar, under the
first key that marks one. -/
def ownScalar (nodes : Array Node) : Nat → Nat → Except Fault String
  | 0, _ => .error (.failure .tooDeep)
  | steps + 1, index =>
      match nodes[index]?.map Node.content with
      | some (.scalar text) => .ok text
      | some (.mapping entries) =>
          match entries.find? fun entry => hasTag nodes valueTag entry.1 with
          | some entry => ownScalar nodes steps entry.2
          | none => .error (.malformed .wrongNode)
      | _ => .error (.malformed .wrongNode)

/-! ## Merging -/

/-- The number of keys that merge other mappings in. -/
def mergeKeyCount (nodes : Array Node) : Nat :=
  nodes.foldl (fun total node =>
    match node.content with
    | .mapping entries =>
        total + entries.countP fun entry => hasTag nodes mergeTag entry.1
    | _ => total) 0

/-- Merges into a mapping what its merge keys from a position on ask for, and puts it before its own
entries together with what has been merged already.  A merge key is removed before what it asks for
is looked at, and of several mappings in a sequence the last one comes first. -/
def mergeFrom : Nat → Array Node → Nat → Nat → List (Nat × Nat) → Except Fault (Array Node)
  | steps, nodes, index, position, merged =>
      let rest := (entriesOf nodes index).drop position
      let own := rest.takeWhile fun entry => !hasTag nodes mergeTag entry.1
      let unmarked := unmark nodes (own.map Prod.fst)
      match steps, rest.drop own.length with
      | _, [] | 0, _ =>
          .ok (if merged.isEmpty then unmarked
            else setEntries unmarked index (merged ++ entriesOf unmarked index))
      | steps + 1, (_, value) :: _ =>
          let here := position + own.length
          let removed := setEntries unmarked index ((entriesOf unmarked index).eraseIdx here)
          match removed[value]?.map Node.content with
          | some (.mapping _) => do
              let changed ← mergeFrom steps removed value 0 []
              mergeFrom steps changed index here (merged ++ entriesOf changed value)
          | some (.sequence items) => do
              let (changed, found) ← items.foldlM (fun (changed, found) item =>
                match changed[item]?.map Node.content with
                | some (.mapping _) => do
                    let next ← mergeFrom steps changed item 0 []
                    return (next, entriesOf next item ++ found)
                | _ => throw (Fault.malformed .wrongNode)) (removed, [])
              mergeFrom steps changed index here (merged ++ found)
          | _ => .error (.malformed .wrongNode)

/-! ## Objects -/

/-- What a node stands for: the value of a scalar, or a container of other nodes. -/
inductive Object
  /-- Scalars of the same identity are one object, however they compare. -/
  | scalar (value : Value) (identity : Nat)
  | list (items : List Nat)
  /-- A key with its value, in a list of such pairs; it stands for no node. -/
  | pair (key value : Nat)
  | set (members : List Nat)
  | mapping (entries : List (Nat × Nat))

/-- Whether a tag is that of a list of pairs. -/
def isPairsTag (tag : String) : Bool := tag == standardTag "omap" || tag == standardTag "pairs"

/-- The empty container of a type. -/
def emptyContainer? (tag : String) : Option Object :=
  if tag == sequenceTag || isPairsTag tag then some (.list [])
  else if tag == mappingTag then some (.mapping [])
  else if tag == standardTag "set" then some (.set [])
  else none

/-- The state of the assembly: the nodes as they are by now, the objects of the nodes met so far,
and the containers that are still to be filled, the last one first. -/
structure Assembly where
  nodes : Array Node
  /-- The objects by the numbers of their nodes, and then those that stand for no node. -/
  objects : Array (Option Object)
  waiting : List Nat
  /-- A bound on the number of merge keys. -/
  mergeKeys : Nat

namespace Assembly

/-- The state before any node is met. -/
def start (nodes : Array Node) : Assembly :=
  { nodes, objects := Array.replicate nodes.size none, waiting := []
    mergeKeys := mergeKeyCount nodes }

/-- The object of a node, if it has been met. -/
def object? (assembly : Assembly) (index : Nat) : Option Object :=
  assembly.objects[index]?.join

/-- The state with an object for a node. -/
def put (assembly : Assembly) (index : Nat) (object : Object) : Assembly :=
  { assembly with objects := assembly.objects.setIfInBounds index (some object) }

/-- The value of a scalar.  A date or a time has to be written as a scalar itself. -/
def readScalar (assembly : Assembly) (index : Nat) (node : Node) : Except Fault Object := do
  match scalarReader? node.tag with
  | none => throw (.malformed (.unknownTag node.tag))
  | some reader =>
      let text ← ownScalar assembly.nodes (assembly.nodes.size + 1) index
      match node.content with
      | .scalar _ => pure ()
      | _ => if node.tag == timestampTag then throw (.failure .wrongType)
      let value ← reader text
      -- All mentions of the undefined number by its own word are one object.
      let shared := node.tag == standardTag "float" && isUndefinedScalar text
      return .scalar value (if shared then assembly.nodes.size else index)

/-- Meets a node: a scalar is read, and a container is left to be filled. -/
def meet (assembly : Assembly) (index : Nat) : Except Fault Assembly := do
  match assembly.object? index, assembly.nodes[index]? with
  | none, some node =>
      match emptyContainer? node.tag with
      | some container =>
          return { assembly.put index container with waiting := index :: assembly.waiting }
      | none => return assembly.put index (← assembly.readScalar index node)
  | _, _ => return assembly

/-! ## Filling containers -/

/-- Whether two keys are the same: one object, or equal values. -/
def sameKey (assembly : Assembly) (first second : Nat) : Bool :=
  match assembly.object? first, assembly.object? second with
  | some (.scalar value identity), some (.scalar other otherIdentity) =>
      identity == otherIdentity || value.same other
  | _, _ => false

/-- The entries with a value written at a key. -/
def insertEntry (assembly : Assembly) (key value : Nat) : List (Nat × Nat) → List (Nat × Nat)
  | [] => [(key, value)]
  | entry :: rest =>
      if assembly.sameKey key entry.1 then (entry.1, value) :: rest
      else entry :: insertEntry assembly key value rest

/-- Meets the keys and values of a mapping in turn; only scalars can be keys. -/
def meetEntries (assembly : Assembly) (entries : List (Nat × Nat)) :
    Except Fault (Assembly × List (Nat × Nat)) :=
  entries.foldlM (fun (met, settled) (key, value) => do
    let withKey ← met.meet key
    match withKey.object? key with
    | some (.scalar _ _) => pure ()
    | _ => throw (Fault.malformed .unhashableKey)
    let withValue ← withKey.meet value
    return (withValue, withValue.insertEntry key value settled)) (assembly, [])

/-- The state with an object that stands for no node, and its number. -/
def push (assembly : Assembly) (object : Object) : Assembly × Nat :=
  ({ assembly with objects := assembly.objects.push (some object) }, assembly.objects.size)

/-- Makes pairs of a sequence of mappings with one entry each, and meets their keys and values. -/
def meetPairs (assembly : Assembly) (items : List Nat) : Except Fault (Assembly × List Nat) :=
  items.foldlM (fun (met, pairs) item => do
    match met.nodes[item]?.map Node.content with
    | some (.mapping [(key, value)]) =>
        let (next, pair) := (← (← met.meet key).meet value).push (.pair key value)
        return (next, pairs ++ [pair])
    | _ => throw (Fault.malformed .wrongNode)) (assembly, [])

/-- The entries of a mapping after merging, keys and values met. -/
def mergedEntries (assembly : Assembly) (index : Nat) :
    Except Fault (Assembly × List (Nat × Nat)) := do
  let nodes ← mergeFrom assembly.mergeKeys assembly.nodes index 0 []
  { assembly with nodes := nodes }.meetEntries (entriesOf nodes index)

/-- Fills the container of a node, which has to be of the kind that its tag names. -/
def fill (assembly : Assembly) (index : Nat) : Except Fault Assembly := do
  match assembly.object? index, assembly.nodes[index]? with
  | some (.list _), some ⟨tag, .sequence items⟩ =>
      if isPairsTag tag then
        let (met, pairs) ← assembly.meetPairs items
        return met.put index (.list pairs)
      else return (← items.foldlM meet assembly).put index (.list items)
  | some (.mapping _), some ⟨_, .mapping _⟩ =>
      let (met, entries) ← assembly.mergedEntries index
      return met.put index (.mapping entries)
  | some (.set _), some ⟨_, .mapping _⟩ =>
      let (met, entries) ← assembly.mergedEntries index
      return met.put index (.set (entries.map Prod.fst))
  | _, _ => throw (.malformed .wrongNode)

/-- Fills the waiting containers, and then those that were met in doing so, until none is left. -/
def fillAll : Nat → Assembly → Except Fault Assembly
  | 0, assembly => .ok assembly
  | steps + 1, assembly =>
      match assembly.waiting.reverse with
      | [] => .ok assembly
      | batch => do fillAll steps (← batch.foldlM fill { assembly with waiting := [] })

/-- Assembles the nodes of a document. -/
def ofGraph (graph : Graph) : Except Fault Assembly := do
  fillAll (graph.nodes.size + 1) (← (start graph.nodes).meet graph.root)

end Assembly

end Routebook.Yaml

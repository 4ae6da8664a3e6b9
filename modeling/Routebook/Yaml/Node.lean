import Routebook.Yaml.Tag
import Routebook.Yaml.Token

/-!
# The nodes of a YAML text

The tokens of a document form a table of nodes: scalars, and sequences and mappings that hold other
nodes by their numbers.  An alias is another mention of the node that was anchored under its name
before, also inside that node itself.
-/

namespace Routebook.Yaml

set_option autoImplicit false

variable [Runtime]

/-- What a node holds; other nodes stand in it by their numbers. -/
inductive Node.Content
  | scalar (text : String)
  | sequence (items : List Nat)
  | mapping (entries : List (Nat × Nat))
  deriving Repr

/-- A node with its tag. -/
structure Node where
  tag : String
  content : Node.Content
  deriving Repr

/-- The nodes of a document. -/
structure Graph where
  /-- The nodes by number. -/
  nodes : Array Node
  /-- The number of the outermost node. -/
  root : Nat
  /-- Whether a node is mentioned inside itself. -/
  isRecursive : Bool
  deriving Repr

namespace Graph

/-! ## The state of the reading -/

/-- The tokens to be read, the nodes so far, and what the names in the tokens stand for. -/
structure Reading where
  tokens : List Token
  nodes : Array Node
  /-- The anchored nodes. -/
  anchors : List (String × Nat)
  /-- The expansions of tag handles. -/
  handles : List (String × String)
  /-- The collections around the place of the reading, the innermost first. -/
  around : List Nat
  isRecursive : Bool

/-- The state before the first node of a document. -/
def Reading.start (handles : List (String × String)) (tokens : List Token) : Reading :=
  { tokens, nodes := #[], anchors := [], handles, around := [], isRecursive := false }

/-- The state after the first token. -/
def Reading.next (reading : Reading) : Reading :=
  { reading with tokens := reading.tokens.tail }

/-- The fault of a place where another token is required. -/
def Reading.refuse {α : Type} (reading : Reading) (complaint : Complaint) : Except Fault α :=
  match reading.tokens with
  | .broken fault :: _ => .error fault
  | _ => .error (.malformed complaint)

/-- Whether the next token is one of those given. -/
def Reading.at (reading : Reading) (expected : List Token) : Bool :=
  match reading.tokens with
  | token :: _ => expected.contains token
  | [] => false

/-! ## Properties of nodes -/

/-- The properties of a node: its anchor and its tag. -/
structure Properties where
  anchor : Option String
  tag : Option String

/-- The properties of a node that has none. -/
def Properties.empty : Properties := ⟨none, none⟩

/-- The tag that a handle and a suffix stand for. -/
def Reading.expandTag (reading : Reading) (handle : Option String) (suffix : String) :
    Except Fault String :=
  match handle with
  | none => .ok suffix
  | some name =>
      match reading.handles.find? fun entry => entry.1 == name with
      | some entry => .ok (entry.2 ++ suffix)
      | none => reading.refuse .undefinedHandle

/-- Reads the properties before a node, in either order. -/
def Reading.properties (reading : Reading) : Except Fault (Properties × Reading) :=
  match reading.tokens with
  | .anchor name :: .tag handle suffix :: rest => do
      let tag ← reading.expandTag handle suffix
      return (⟨some name, some tag⟩, { reading with tokens := rest })
  | .tag handle suffix :: .anchor name :: rest => do
      let tag ← reading.expandTag handle suffix
      return (⟨some name, some tag⟩, { reading with tokens := rest })
  | .anchor name :: rest => .ok (⟨some name, none⟩, { reading with tokens := rest })
  | .tag handle suffix :: _ => do
      let tag ← reading.next.expandTag handle suffix
      return (⟨none, some tag⟩, reading.next)
  | _ => .ok (.empty, reading)

/-- Whether a node has any properties. -/
def Properties.isGiven (properties : Properties) : Bool :=
  properties.anchor.isSome || properties.tag.isSome

/-- The tag that is given, if it names a type. -/
def Properties.explicitTag? (properties : Properties) : Option String :=
  match properties.tag with
  | some "!" => none
  | other => other

/-- The tag of a scalar. -/
def Properties.scalarTag (properties : Properties) (text : String) (plain : Bool) : String :=
  match properties.explicitTag? with
  | some tag => tag
  | none => if plain || properties.tag.isSome then resolveScalar text else textTag

/-- Requires that there is a token to be read and that the anchor of the node here is a new one. -/
def Reading.requireNew (reading : Reading) (anchor : Option String) : Except Fault Unit :=
  match reading.tokens, anchor with
  | .broken fault :: _, _ => .error fault
  | _, none => .ok ()
  | _, some name =>
      if reading.anchors.any fun entry => entry.1 == name then .error (.malformed .repeatedAnchor)
      else .ok ()

/-! ## Adding nodes -/

/-- The state with one more node, which the next free number stands for. -/
def Reading.add (reading : Reading) (anchor : Option String) (node : Node) : Nat × Reading :=
  let index := reading.nodes.size
  (index, { reading with
    nodes := reading.nodes.push node
    anchors := match anchor with
      | none => reading.anchors
      | some name => (name, index) :: reading.anchors })

/-- Adds a scalar. -/
def Reading.leaf (reading : Reading) (properties : Properties) (text : String) (plain : Bool) :
    Nat × Reading :=
  reading.add properties.anchor ⟨properties.scalarTag text plain, .scalar text⟩

/-- Adds an empty scalar for a place where a node could stand. -/
def Reading.absent (reading : Reading) : Nat × Reading :=
  reading.leaf .empty "" true

/-- Adds a collection; its number is known before its content is read. -/
def Reading.collection (reading : Reading) (properties : Properties) (tag : String)
    (readContent : Reading → Except Fault (Node.Content × Reading)) :
    Except Fault (Nat × Reading) := do
  if Runtime.yamlDepth ≤ reading.around.length then throw (.failure .tooDeep)
  let full := properties.explicitTag?.getD tag
  let (index, begun) := reading.add properties.anchor ⟨full, .sequence []⟩
  let (content, after) ← readContent { begun with around := index :: reading.around }
  return (index, { after with
    nodes := after.nodes.setIfInBounds index ⟨full, content⟩
    around := reading.around })

/-! ## Nodes -/

mutual
/-- Reads a node.  In a block context block collections can stand here; as the key or value of a
block mapping also a sequence that is not indented. -/
def read (block indentless : Bool) : Nat → Reading → Except Fault (Nat × Reading)
  | 0, reading => reading.refuse .nodeExpected
  | steps + 1, reading =>
      match reading.tokens with
      | .reference name :: rest =>
          match reading.anchors.find? fun entry => entry.1 == name with
          | some (_, index) =>
              .ok (index, { reading with
                tokens := rest
                isRecursive := reading.isRecursive || reading.around.contains index })
          | none => .error (.malformed .undefinedAlias)
      | _ => do
          let (properties, reading) ← reading.properties
          reading.requireNew properties.anchor
          let empty := fun (_ : Unit) =>
            if properties.isGiven then .ok (reading.leaf properties "" true)
            else reading.refuse .nodeExpected
          match reading.tokens with
          | .scalar text plain :: _ => return reading.next.leaf properties text plain
          | .blockEntry :: _ =>
              if indentless then
                reading.collection properties sequenceTag fun begun => do
                  let (items, after) ← readIndentless steps begun
                  return (.sequence items, after)
              else empty ()
          | .flowSequenceStart :: _ =>
              reading.next.collection properties sequenceTag fun begun => do
                let (items, after) ← readFlowSequence true steps begun
                return (.sequence items, after)
          | .flowMappingStart :: _ =>
              reading.next.collection properties mappingTag fun begun => do
                let (entries, after) ← readFlowMapping true steps begun
                return (.mapping entries, after)
          | .blockSequenceStart :: _ =>
              if block then
                reading.next.collection properties sequenceTag fun begun => do
                  let (items, after) ← readBlockSequence steps begun
                  return (.sequence items, after)
              else empty ()
          | .blockMappingStart :: _ =>
              if block then
                reading.next.collection properties mappingTag fun begun => do
                  let (entries, after) ← readBlockMapping steps begun
                  return (.mapping entries, after)
              else empty ()
          | _ => empty ()

/-- Reads a node unless one of the given tokens says that its place is empty. -/
def readUnless (block indentless : Bool) (ends : List Token) :
    Nat → Reading → Except Fault (Nat × Reading)
  | 0, reading => reading.refuse .nodeExpected
  | steps + 1, reading =>
      if reading.at ends then .ok reading.absent else read block indentless steps reading

/-- Reads the items of a block sequence. -/
def readBlockSequence : Nat → Reading → Except Fault (List Nat × Reading)
  | 0, reading => reading.refuse .blockEndExpected
  | steps + 1, reading =>
      if reading.at [.blockEntry] then do
        let (item, after) ← readUnless true false [.blockEntry, .blockEnd] steps reading.next
        let (items, final) ← readBlockSequence steps after
        return (item :: items, final)
      else if reading.at [.blockEnd] then .ok ([], reading.next)
      else reading.refuse .blockEndExpected

/-- Reads the items of a sequence that is not indented. -/
def readIndentless : Nat → Reading → Except Fault (List Nat × Reading)
  | 0, reading => reading.refuse .blockEndExpected
  | steps + 1, reading =>
      if reading.at [.blockEntry] then do
        let (item, after) ←
          readUnless true false [.blockEntry, .key, .value, .blockEnd] steps reading.next
        let (items, final) ← readIndentless steps after
        return (item :: items, final)
      else .ok ([], reading)

/-- Reads the value of a key, if one is given. -/
def readValue (block : Bool) (ends : List Token) : Nat → Reading → Except Fault (Nat × Reading)
  | 0, reading => reading.refuse .nodeExpected
  | steps + 1, reading =>
      if reading.at [.value] then readUnless block block ends steps reading.next
      else .ok reading.absent

/-- Reads the entries of a block mapping. -/
def readBlockMapping : Nat → Reading → Except Fault (List (Nat × Nat) × Reading)
  | 0, reading => reading.refuse .blockEndExpected
  | steps + 1, reading =>
      if reading.at [.key] then do
        let ends := [.key, .value, .blockEnd]
        let (key, afterKey) ← readUnless true true ends steps reading.next
        let (value, after) ← readValue true ends steps afterKey
        let (entries, final) ← readBlockMapping steps after
        return ((key, value) :: entries, final)
      else if reading.at [.blockEnd] then .ok ([], reading.next)
      else reading.refuse .blockEndExpected

/-- Reads the items of a flow sequence; an item with a key is a mapping of one entry. -/
def readFlowSequence (first : Bool) : Nat → Reading → Except Fault (List Nat × Reading)
  | 0, reading => reading.refuse .flowEndExpected
  | steps + 1, reading =>
      if reading.at [.flowSequenceEnd] then .ok ([], reading.next)
      else if !first && !reading.at [.flowEntry] then reading.refuse .flowEndExpected
      else
        let here := if first then reading else reading.next
        if here.at [.flowSequenceEnd] then .ok ([], here.next)
        else do
          let (item, after) ←
            if here.at [.key] then
              here.next.collection .empty mappingTag fun begun => do
                let (key, afterKey) ←
                  readUnless false false [.value, .flowEntry, .flowSequenceEnd] steps begun
                let (value, after) ← readValue false [.flowEntry, .flowSequenceEnd] steps afterKey
                return (.mapping [(key, value)], after)
            else read false false steps here
          let (items, final) ← readFlowSequence false steps after
          return (item :: items, final)

/-- Reads the entries of a flow mapping; a node without a mark is a key without a value. -/
def readFlowMapping (first : Bool) : Nat → Reading → Except Fault (List (Nat × Nat) × Reading)
  | 0, reading => reading.refuse .flowEndExpected
  | steps + 1, reading =>
      if reading.at [.flowMappingEnd] then .ok ([], reading.next)
      else if !first && !reading.at [.flowEntry] then reading.refuse .flowEndExpected
      else
        let here := if first then reading else reading.next
        if here.at [.flowMappingEnd] then .ok ([], here.next)
        else do
          let (entry, after) ←
            if here.at [.key] then do
              let (key, afterKey) ←
                readUnless false false [.value, .flowEntry, .flowMappingEnd] steps here.next
              let (value, after) ← readValue false [.flowEntry, .flowMappingEnd] steps afterKey
              pure ((key, value), after)
            else do
              let (key, afterKey) ← read false false steps here
              let (value, after) := afterKey.absent
              pure ((key, value), after)
          let (entries, final) ← readFlowMapping false steps after
          return (entry :: entries, final)
end

/-! ## Documents -/

/-- The handles that every document knows. -/
def defaultHandles : List (String × String) :=
  [("!", "!"), ("!!", standardTag "")]

/-- Reads the directives before a document: the handles that they define, and the tokens after them.
-/
def readDirectives :
    Bool → List (String × String) → List Token → Except Fault (List (String × String) × List Token)
  | hasVersion, handles, .directive (.version major _) :: rest =>
      if hasVersion then .error (.malformed .repeatedDirective)
      else if major != 1 then .error (.malformed .unsupportedVersion)
      else readDirectives true handles rest
  | hasVersion, handles, .directive (.tagHandle handle expansion) :: rest =>
      if handles.any fun entry => entry.1 == handle then .error (.malformed .repeatedDirective)
      else readDirectives hasVersion ((handle, expansion) :: handles) rest
  | hasVersion, handles, .directive .other :: rest => readDirectives hasVersion handles rest
  | _, handles, tokens => .ok (handles ++ defaultHandles, tokens)

/-- Reads the content of a document. -/
def readContent (handles : List (String × String)) (tokens : List Token) :
    Except Fault (Graph × List Token) := do
  let (root, after) ← read true false (4 * tokens.length + 8) (Reading.start handles tokens)
  return (⟨after.nodes, root, after.isRecursive⟩, after.tokens)

/-- A document without content. -/
def blank : Graph := ⟨(Reading.start [] []).absent.2.nodes, 0, false⟩

/-- The tokens after the markers of the end of a document. -/
def skipDocumentEnds : List Token → List Token
  | .documentEnd :: rest => skipDocumentEnds rest
  | tokens => tokens

/-- Requires that no further document follows. -/
def requireEnd (tokens : List Token) : Except Fault Unit :=
  match skipDocumentEnds tokens with
  | .streamEnd :: _ | [] => .ok ()
  | others => do
      let (_, afterDirectives) ← readDirectives false [] others
      match afterDirectives with
      | .broken fault :: _ => throw fault
      | _ => throw (.malformed .severalDocuments)

/-- Whether a document without content is followed by the given tokens. -/
def endsDocument : List Token → Bool
  | .directive _ :: _ | .documentStart :: _ | .documentEnd :: _ | .streamEnd :: _ => true
  | _ => false

/-- The nodes of the only document of a text; nothing if the text holds no document. -/
def ofTokens (tokens : List Token) : Except Fault (Option Graph) :=
  match tokens with
  | .streamEnd :: _ | [] => .ok none
  | .directive _ :: _ | .documentStart :: _ => do
      let (handles, afterDirectives) ← readDirectives false [] tokens
      match afterDirectives with
      | .documentStart :: content =>
          if endsDocument content then do
            requireEnd content
            return some blank
          else do
            let (graph, after) ← readContent handles content
            requireEnd after
            return some graph
      | .broken fault :: _ => throw fault
      | _ => throw (.malformed .documentStartExpected)
  | _ => do
      let (graph, after) ← readContent defaultHandles tokens
      requireEnd after
      return some graph

end Graph

end Routebook.Yaml

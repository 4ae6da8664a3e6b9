import Routebook.Value.Basic

/-!
# Shared objects

Lists, tuples and mappings that a caller builds are objects: the same object can be reached on
several ways, and a change made on one way is seen on every other.  A store holds the objects by
number.  An object refers only to objects made before it, so reading one out as a value always ends.
-/

namespace Routebook

set_option autoImplicit false

/-- A value, or an object by its number. -/
inductive Handle
  | atom (value : Value)
  | object (index : Nat)
  deriving Repr

instance : Inhabited Handle := ⟨.atom .null⟩

/-- What an object holds. -/
inductive Content
  | list (items : List Handle)
  | tuple (items : List Handle)
  | mapping (entries : List (Value × Handle))
  deriving Repr

/-- The objects made so far, by number. -/
structure Store where
  contents : Array Content
  deriving Repr

namespace Store

/-- A store without objects. -/
def empty : Store := ⟨#[]⟩

/-- What a handle leads to: a value, or the content of an object. -/
def content? (store : Store) : Handle → Option Content
  | .atom _ => none
  | .object index => store.contents[index]?

/-! ## Reading -/

/-- The value of a handle, with a bound on the depth of the reading. -/
def readWithin (store : Store) : Nat → Handle → Value
  | _, .atom value => value
  | 0, .object _ => .null
  | depth + 1, .object index =>
      match store.contents[index]? with
      | none => .null
      | some (.list items) => .list (items.map (readWithin store depth))
      | some (.tuple items) => .tuple (items.map (readWithin store depth))
      | some (.mapping entries) =>
          .mapping (entries.map fun entry => (entry.1, readWithin store depth entry.2))

/-- The value of a handle at this moment. -/
def read (store : Store) (handle : Handle) : Value :=
  readWithin store (store.contents.size + 1) handle

/-- The values of the entries of a mapping at this moment. -/
def readEntries (store : Store) (entries : List (Value × Handle)) : Entries :=
  entries.map fun entry => (entry.1, store.read entry.2)

/-! ## Making -/

/-- Makes an object. -/
def make (store : Store) (content : Content) : Handle × Store :=
  (.object store.contents.size, ⟨store.contents.push content⟩)

mutual
/-- Makes objects for a value and everything inside it. -/
def load (store : Store) : Value → Handle × Store
  | .list items =>
      let (handles, loaded) := loadItems store items
      loaded.make (.list handles)
  | .tuple items =>
      let (handles, loaded) := loadItems store items
      loaded.make (.tuple handles)
  | .mapping entries =>
      let (handles, loaded) := loadEntries store entries
      loaded.make (.mapping handles)
  | value => (.atom value, store)

/-- Makes objects for the items of a list. -/
def loadItems (store : Store) : List Value → List Handle × Store
  | [] => ([], store)
  | item :: rest =>
      let (handle, loaded) := load store item
      let (handles, final) := loadItems loaded rest
      (handle :: handles, final)

/-- Makes objects for the values of the entries of a mapping. -/
def loadEntries (store : Store) : List (Value × Value) → List (Value × Handle) × Store
  | [] => ([], store)
  | entry :: rest =>
      let (handle, loaded) := load store entry.2
      let (handles, final) := loadEntries loaded rest
      ((entry.1, handle) :: handles, final)
end

/-- Makes a copy of a handle that shares no object with it. -/
def copy (store : Store) (handle : Handle) : Handle × Store :=
  store.load (store.read handle)

/-! ## Changing -/

/-- The entries with a handle written at a key. -/
def insertEntry (key : Value) (handle : Handle) : List (Value × Handle) → List (Value × Handle)
  | [] => [(key, handle)]
  | entry :: rest =>
      if Value.same key entry.1 then (entry.1, handle) :: rest
      else entry :: insertEntry key handle rest

/-- The handle at a key. -/
def lookupEntry (key : Value) : List (Value × Handle) → Option Handle
  | [] => none
  | entry :: rest => if Value.same key entry.1 then some entry.2 else lookupEntry key rest

/-- Writes a value at a key of a mapping; anything but a mapping is left as it is. -/
def assign (store : Store) (target : Handle) (key value : Value) : Store :=
  match target with
  | .atom _ => store
  | .object index =>
      match store.contents[index]? with
      | some (.mapping entries) =>
          ⟨store.contents.setIfInBounds index (.mapping (insertEntry key (.atom value) entries))⟩
      | _ => store

/-! ## Mappings -/

/-- The items that a handle can be iterated over for. -/
def items? (store : Store) (handle : Handle) : Option (List Handle) :=
  match handle, store.content? handle with
  | _, some (.list items) => some items
  | _, some (.tuple items) => some items
  | _, some (.mapping entries) => some (entries.map fun entry => .atom entry.1)
  | .atom value, none => value.items?.map fun items => items.map .atom
  | .object _, none => none

/-- The pair that an item of a list of pairs stands for. -/
def pairOf (store : Store) (item : Handle) : Except Failure (Value × Handle) :=
  match store.items? item with
  | none => .error .wrongType
  | some [key, value] =>
      let name := store.read key
      if name.isHashable then .ok (name, value) else .error .wrongType
  | some _ => .error .badValue

/-- The entries of a handle taken as a mapping: a mapping itself, or any sequence of pairs. -/
def entriesOf (store : Store) (handle : Handle) : Except Failure (List (Value × Handle)) :=
  match store.content? handle with
  | some (.mapping entries) => .ok entries
  | _ =>
      match store.items? handle with
      | none => .error .wrongType
      | some items => items.mapM (store.pairOf ·)

/-- The entries of a handle taken as an optional mapping: what counts as false has none. -/
def optionalEntriesOf (store : Store) (handle : Handle) : Except Failure (List (Value × Handle)) :=
  if (store.read handle).isTruthy then store.entriesOf handle else .ok []

end Store

end Routebook

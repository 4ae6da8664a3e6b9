import Routebook.Store

/-!
# Reading and making objects

An object refers only to objects made before it (`Store.Sound`).  In a sound store the value of an
object depends on the objects up to its own number alone (`Store.Shared.read`), so it stays as
objects are added.  Loading a value adds objects that refer to one another only, and reading them
gives the value back (`Store.load_loaded`).
-/

namespace Routebook

set_option autoImplicit false

/-! ## Sound stores -/

/-- Whether a handle leads to an object with a number between two bounds, if to any. -/
def Handle.Within (low high : Nat) : Handle → Prop
  | .atom _ => True
  | .object index => low ≤ index ∧ index < high

instance (low high : Nat) (handle : Handle) : Decidable (handle.Within low high) :=
  match handle with
  | .atom _ => .isTrue trivial
  | .object index => inferInstanceAs (Decidable (low ≤ index ∧ index < high))

theorem Handle.Within.mono {low high wideLow wideHigh : Nat} {handle : Handle}
    (within : handle.Within low high) (lower : wideLow ≤ low) (higher : high ≤ wideHigh) :
    handle.Within wideLow wideHigh := by
  cases handle with
  | atom value => trivial
  | object index => exact ⟨Nat.le_trans lower within.1, Nat.lt_of_lt_of_le within.2 higher⟩

/-- The handles that an object holds. -/
def Content.handles : Content → List Handle
  | .list items | .tuple items => items
  | .mapping entries => entries.map Prod.snd

/-- The value of an object, given how the handles in it are read. -/
def Content.value (read : Handle → Value) : Content → Value
  | .list items => .list (items.map read)
  | .tuple items => .tuple (items.map read)
  | .mapping entries => .mapping (entries.map fun entry => (entry.1, read entry.2))

/-- The value of an object depends on how the handles in it are read alone. -/
theorem Content.value_congr {content : Content} {read other : Handle → Value}
    (same : ∀ handle ∈ content.handles, read handle = other handle) :
    content.value read = content.value other := by
  cases content with
  | list items => exact congrArg Value.list (List.map_congr_left same)
  | tuple items => exact congrArg Value.tuple (List.map_congr_left same)
  | mapping entries =>
      refine congrArg Value.mapping (List.map_congr_left fun entry present => ?_)
      rw [same entry.2 (List.mem_map_of_mem present)]

namespace Store

/-- The number of objects. -/
def size (store : Store) : Nat := store.contents.size

/-- Every object refers only to objects made before it. -/
def Sound (store : Store) : Prop :=
  ∀ (index : Nat) (content : Content), store.contents[index]? = some content →
    ∀ handle ∈ content.handles, Handle.Within 0 index handle

theorem sound_empty : empty.Sound := fun _ _ held => nomatch held

/-- The objects with numbers between two bounds refer only to earlier ones between them. -/
def Enclosed (low high : Nat) (store : Store) : Prop :=
  ∀ (index : Nat) (content : Content), low ≤ index → index < high →
    store.contents[index]? = some content →
      ∀ handle ∈ content.handles, Handle.Within low index handle

theorem Enclosed.mono {low high less : Nat} {store : Store} (enclosed : store.Enclosed low high)
    (lower : less ≤ high) : store.Enclosed low less :=
  fun index content above below => enclosed index content above (Nat.lt_of_lt_of_le below lower)

theorem Sound.enclosed {store : Store} (sound : store.Sound) (bound : Nat) :
    store.Enclosed 0 bound :=
  fun index content _ _ held => sound index content held

/-- Two stores have the same objects with numbers below a bound. -/
def AgreeBelow (bound : Nat) (first second : Store) : Prop :=
  ∀ index : Nat, index < bound → first.contents[index]? = second.contents[index]?

theorem AgreeBelow.symm {bound : Nat} {first second : Store} (agree : AgreeBelow bound first second) :
    AgreeBelow bound second first := fun index below => (agree index below).symm

theorem AgreeBelow.trans {bound : Nat} {first second third : Store}
    (agree : AgreeBelow bound first second) (other : AgreeBelow bound second third) :
    AgreeBelow bound first third :=
  fun index below => (agree index below).trans (other index below)

theorem AgreeBelow.mono {low high : Nat} {first second : Store}
    (agree : AgreeBelow high first second) (lower : low ≤ high) : AgreeBelow low first second :=
  fun index below => agree index (Nat.lt_of_lt_of_le below lower)

/-- A store that has all objects of another one is not smaller. -/
theorem AgreeBelow.size_le {first second : Store} (agree : AgreeBelow first.size first second) :
    first.size ≤ second.size := by
  rcases Nat.lt_or_ge second.size first.size with smaller | fits
  · have present := agree second.size smaller
    have beyond : second.contents[second.size]? = none := Array.getElem?_eq_none (Nat.le_refl _)
    rw [beyond, Array.getElem?_eq_getElem smaller] at present
    cases present
  · exact fits

/-- A sound store and another one that have the same objects with numbers below a bound. -/
structure Shared (bound : Nat) (first second : Store) : Prop where
  sound : first.Sound
  agree : AgreeBelow bound first second
  fits : bound ≤ first.size
  otherFits : bound ≤ second.size

/-- A store shares all its objects with a store that was made from it by adding more. -/
theorem Shared.of_agree {store larger : Store} (sound : store.Sound)
    (agree : AgreeBelow store.size store larger) : Shared store.size store larger :=
  ⟨sound, agree, Nat.le_refl _, agree.size_le⟩

/-! ## Reading -/

theorem readWithin_atom (store : Store) (depth : Nat) (value : Value) :
    store.readWithin depth (.atom value) = value := by
  cases depth <;> rfl

theorem readWithin_object (store : Store) (depth index : Nat) :
    store.readWithin (depth + 1) (.object index) =
      match store.contents[index]? with
      | none => .null
      | some content => content.value (store.readWithin depth) := by
  rw [readWithin]
  cases store.contents[index]? with
  | none => rfl
  | some content => cases content <;> rfl

/-- A reading that is deep enough depends on the objects alone that the object can lead to: earlier
ones, among those that refer to one another only. -/
theorem readWithin_enclosed {first second : Store} {low : Nat} (bound : Nat)
    (enclosed : first.Enclosed low bound)
    (agree : ∀ index : Nat, low ≤ index → index < bound →
      first.contents[index]? = second.contents[index]?) {depth other : Nat} (deep : bound ≤ depth)
    (otherDeep : bound ≤ other) {handle : Handle} (within : handle.Within low bound) :
    first.readWithin depth handle = second.readWithin other handle := by
  induction bound using Nat.strongRecOn generalizing depth other handle with
  | ind bound inductionHypothesis =>
      cases handle with
      | atom value => rw [readWithin_atom, readWithin_atom]
      | object index =>
          obtain ⟨above, below⟩ := within
          obtain ⟨depth, rfl⟩ := Nat.exists_eq_succ_of_ne_zero (Nat.ne_of_gt
            (Nat.lt_of_lt_of_le (Nat.zero_lt_of_lt below) deep))
          obtain ⟨other, rfl⟩ := Nat.exists_eq_succ_of_ne_zero (Nat.ne_of_gt
            (Nat.lt_of_lt_of_le (Nat.zero_lt_of_lt below) otherDeep))
          have inner : ∀ child : Handle, child.Within low index →
              first.readWithin depth child = second.readWithin other child :=
            fun child inside => inductionHypothesis index below (enclosed.mono (Nat.le_of_lt below))
              (fun earlier reached before => agree earlier reached (Nat.lt_trans before below))
              (Nat.le_of_lt_succ (Nat.lt_of_lt_of_le below deep))
              (Nat.le_of_lt_succ (Nat.lt_of_lt_of_le below otherDeep)) inside
          rw [readWithin_object, readWithin_object, ← agree index above below]
          cases held : first.contents[index]? with
          | none => rfl
          | some content =>
              exact Content.value_congr fun child present =>
                inner child (enclosed index content above below held child present)

/-- In a sound store a reading that is deep enough depends on the objects up to the number of the
object alone. -/
theorem readWithin_congr {first second : Store} (sound : first.Sound) (bound : Nat)
    (agree : AgreeBelow bound first second) {depth other : Nat} (deep : bound ≤ depth)
    (otherDeep : bound ≤ other) {handle : Handle} (within : handle.Within 0 bound) :
    first.readWithin depth handle = second.readWithin other handle :=
  readWithin_enclosed bound (sound.enclosed bound) (fun index _ below => agree index below) deep
    otherDeep within

/-- **The value of a handle depends on the objects that it leads to alone.** -/
theorem Shared.read {bound : Nat} {first second : Store} (shared : Shared bound first second)
    {handle : Handle} (within : handle.Within 0 bound) : first.read handle = second.read handle :=
  readWithin_congr shared.sound bound shared.agree (Nat.le_succ_of_le shared.fits)
    (Nat.le_succ_of_le shared.otherFits) within

/-- Reading a handle of a store stays the same as objects are added. -/
theorem read_of_agree {store larger : Store} (sound : store.Sound)
    (agree : AgreeBelow store.size store larger) {low : Nat} {handle : Handle}
    (within : handle.Within low store.size) : larger.read handle = store.read handle :=
  ((Shared.of_agree sound agree).read (within.mono (Nat.zero_le _) (Nat.le_refl _))).symm

/-- An object is read by reading the handles in it. -/
theorem read_object {store : Store} (sound : store.Sound) {index : Nat} {content : Content}
    (held : store.contents[index]? = some content) :
    store.read (.object index) = content.value store.read := by
  have inside : index < store.size := (Array.getElem?_eq_some_iff.mp held).1
  rw [read, readWithin_object, held]
  refine Content.value_congr fun child present => ?_
  exact readWithin_congr sound index (fun _ _ => rfl) (Nat.le_of_lt inside)
    (Nat.le_succ_of_le (Nat.le_of_lt inside)) (sound index content held child present)

/-! ## Making -/

theorem size_make (store : Store) (content : Content) :
    (store.make content).2.size = store.size + 1 :=
  Array.size_push _

theorem agree_make (store : Store) (content : Content) :
    AgreeBelow store.size store (store.make content).2 := by
  intro index below
  rw [make, Array.getElem?_push]
  exact (if_neg (Nat.ne_of_lt below)).symm

theorem getElem?_make (store : Store) (content : Content) :
    (store.make content).2.contents[store.size]? = some content :=
  Array.getElem?_push_size

/-- An object whose parts are there can be made. -/
theorem Sound.make {store : Store} (sound : store.Sound) {content : Content}
    (within : ∀ handle ∈ content.handles, handle.Within 0 store.size) :
    (store.make content).2.Sound := by
  intro index held present
  rcases Nat.lt_trichotomy index store.size with below | rfl | above
  · rw [← agree_make store content index below] at present
    exact sound index held present
  · rw [getElem?_make] at present
    cases present
    exact within
  · have beyond : (store.make content).2.contents[index]? = none :=
      Array.getElem?_eq_none (by rw [← size, size_make]; exact above)
    rw [beyond] at present
    cases present

/-- An object that is made is read by reading the handles in it as before. -/
theorem read_make {store : Store} (sound : store.Sound) {content : Content}
    (within : ∀ handle ∈ content.handles, handle.Within 0 store.size) :
    (store.make content).2.read (store.make content).1 = content.value store.read := by
  refine (read_object (sound.make within) (getElem?_make store content)).trans ?_
  exact Content.value_congr fun handle present =>
    read_of_agree sound (agree_make store content) (within handle present)

/-! ## Loading -/

/-- The handles that were loaded for some values: they lead to new objects, which read as the
values, while all other objects stay. -/
structure Loaded (store : Store) (values : List Value) (handles : List Handle) (loaded : Store) :
    Prop where
  agree : AgreeBelow store.size store loaded
  sound : loaded.Sound
  within : ∀ handle ∈ handles, handle.Within store.size loaded.size
  read : handles.map loaded.read = values

namespace Loaded

variable {store loaded final : Store} {values : List Value} {handles : List Handle}

theorem nil (sound : store.Sound) : Loaded store [] [] store :=
  ⟨fun _ _ => rfl, sound, nofun, rfl⟩

theorem atom (sound : store.Sound) (value : Value) : Loaded store [value] [.atom value] store :=
  ⟨fun _ _ => rfl, sound, by simp [Handle.Within], by simp [Store.read, readWithin_atom]⟩

theorem cons {value : Value} {handle : Handle} (first : Loaded store [value] [handle] loaded)
    (rest : Loaded loaded values handles final) :
    Loaded store (value :: values) (handle :: handles) final := by
  have grown := first.agree.size_le
  have within := first.within handle (List.mem_singleton_self _)
  refine ⟨first.agree.trans (rest.agree.mono grown), rest.sound, ?_, ?_⟩
  · intro other present
    rcases List.mem_cons.mp present with rfl | later
    · exact within.mono (Nat.le_refl _) rest.agree.size_le
    · exact (rest.within other later).mono grown (Nat.le_refl _)
  · rw [List.map_cons, rest.read, read_of_agree first.sound rest.agree within]
    exact congrArg (· :: values) (List.cons.inj first.read).1

/-- A container is made of handles that were loaded. -/
theorem made {content : Content} (parts : Loaded store values handles loaded)
    (held : content.handles = handles) :
    Loaded store [content.value loaded.read] [(loaded.make content).1]
      (loaded.make content).2 := by
  have grown := parts.agree.size_le
  have within : ∀ handle ∈ content.handles, handle.Within 0 loaded.size := by
    intro handle present
    rw [held] at present
    exact (parts.within handle present).mono (Nat.zero_le _) (Nat.le_refl _)
  refine ⟨parts.agree.trans ((agree_make loaded content).mono grown), parts.sound.make within,
    ?_, ?_⟩
  · intro handle present
    rw [List.mem_singleton.mp present, size_make]
    exact ⟨grown, Nat.lt_succ_self _⟩
  · rw [List.map_singleton, read_make parts.sound within]

end Loaded

/-- Entries are determined by their keys and their values. -/
theorem readEntries_eq {store : Store} {handles : List (Value × Handle)} {entries : Entries}
    (keys : handles.map Prod.fst = entries.map Prod.fst)
    (values : (handles.map Prod.snd).map store.read = entries.map Prod.snd) :
    store.readEntries handles = entries := by
  induction handles generalizing entries with
  | nil => exact (List.map_eq_nil_iff.mp keys.symm).symm
  | cons first rest inductionHypothesis =>
      cases entries with
      | nil => cases keys
      | cons entry entries =>
          obtain ⟨key, otherKeys⟩ := List.cons.inj keys
          obtain ⟨value, otherValues⟩ := List.cons.inj values
          have same : (first.1, store.read first.2) = entry := Prod.ext key value
          rw [readEntries, List.map_cons, same]
          exact congrArg (entry :: ·) (inductionHypothesis otherKeys otherValues)

/-- A relation between values, the handles loaded for them and the stores before and after, that is
closed under the ways in which loading makes objects. -/
structure LoadingRelation (related : Store → List Value → List Handle → Store → Prop) : Prop where
  nil : ∀ store, related store [] [] store
  atom : ∀ store value, related store [value] [.atom value] store
  cons : ∀ {store loaded final : Store} {value : Value} {handle : Handle} {values : List Value}
    {handles : List Handle}, related store [value] [handle] loaded →
      related loaded values handles final →
        related store (value :: values) (handle :: handles) final
  list : ∀ {store loaded : Store} {items : List Value} {handles : List Handle},
    related store items handles loaded →
      related store [.list items] [(loaded.make (.list handles)).1]
        (loaded.make (.list handles)).2
  tuple : ∀ {store loaded : Store} {items : List Value} {handles : List Handle},
    related store items handles loaded →
      related store [.tuple items] [(loaded.make (.tuple handles)).1]
        (loaded.make (.tuple handles)).2
  mapping : ∀ {store loaded : Store} {entries : Entries} {handles : List (Value × Handle)},
    handles.map Prod.fst = entries.map Prod.fst →
      related store (entries.map Prod.snd) (handles.map Prod.snd) loaded →
        related store [.mapping entries] [(loaded.make (.mapping handles)).1]
          (loaded.make (.mapping handles)).2

/-- A relation that is closed under the ways in which loading makes objects holds of loading. -/
theorem LoadingRelation.load {related : Store → List Value → List Handle → Store → Prop}
    (closed : LoadingRelation related) :
    (∀ (store : Store) (value : Value),
      related store [value] [(store.load value).1] (store.load value).2) ∧
    (∀ (store : Store) (entries : List (Value × Value)),
      (store.loadEntries entries).1.map Prod.fst = entries.map Prod.fst ∧
        related store (entries.map Prod.snd) ((store.loadEntries entries).1.map Prod.snd)
          (store.loadEntries entries).2) ∧
    (∀ (store : Store) (items : List Value),
      related store items (store.loadItems items).1 (store.loadItems items).2) := by
  refine load.mutual_induct _ _ _ ?list ?tuple ?mapping ?other ?noItems ?moreItems ?noEntries
    ?moreEntries
  case list =>
    intro store items handles loaded run parts
    rw [run] at parts
    rw [Store.load, run]
    exact closed.list parts
  case tuple =>
    intro store items handles loaded run parts
    rw [run] at parts
    rw [Store.load, run]
    exact closed.tuple parts
  case mapping =>
    intro store entries handles loaded run parts
    rw [run] at parts
    rw [Store.load, run]
    exact closed.mapping parts.1 parts.2
  case other =>
    intro store value noList noTuple noMapping
    cases value with
    | list items => exact absurd rfl (noList items)
    | tuple items => exact absurd rfl (noTuple items)
    | mapping entries => exact absurd rfl (noMapping entries)
    | _ => exact closed.atom store _
  case noItems =>
    intro store
    exact closed.nil store
  case moreItems =>
    intro store item rest handle loaded first handles final others head tail
    rw [first] at head
    rw [others] at tail
    rw [loadItems, first]
    dsimp only
    rw [others]
    exact closed.cons head tail
  case noEntries =>
    intro store
    exact ⟨rfl, closed.nil store⟩
  case moreEntries =>
    intro store entry rest handle loaded first handles final others head tail
    rw [first] at head
    rw [others] at tail
    rw [loadEntries, first]
    dsimp only
    rw [others]
    exact ⟨congrArg (entry.1 :: ·) tail.1, closed.cons head tail.2⟩

theorem loadingRelation_loaded : LoadingRelation fun store values handles loaded =>
    store.Sound → Loaded store values handles loaded where
  nil _ sound := Loaded.nil sound
  atom _ value sound := Loaded.atom sound value
  cons first rest sound := (first sound).cons (rest (first sound).sound)
  list {_ loaded items handles} parts sound := by
    have made := (parts sound).made (rfl : (Content.list handles).handles = handles)
    rw [Content.value, (parts sound).read] at made
    exact made
  tuple {_ loaded items handles} parts sound := by
    have made := (parts sound).made (rfl : (Content.tuple handles).handles = handles)
    rw [Content.value, (parts sound).read] at made
    exact made
  mapping {_ loaded entries handles} keys parts sound := by
    have made := (parts sound).made
      (rfl : (Content.mapping handles).handles = handles.map Prod.snd)
    have same : (Content.mapping handles).value loaded.read = .mapping entries :=
      congrArg Value.mapping (readEntries_eq keys (parts sound).read)
    rw [same] at made
    exact made

/-- **Loading a value adds objects that read as the value.** -/
theorem load_loaded :
    (∀ (store : Store) (value : Value), store.Sound →
      Loaded store [value] [(store.load value).1] (store.load value).2) ∧
    (∀ (store : Store) (entries : List (Value × Value)), store.Sound →
      ((store.loadEntries entries).1.map Prod.fst = entries.map Prod.fst ∧
        Loaded store (entries.map Prod.snd) ((store.loadEntries entries).1.map Prod.snd)
          (store.loadEntries entries).2)) ∧
    (∀ (store : Store) (items : List Value), store.Sound →
      Loaded store items (store.loadItems items).1 (store.loadItems items).2) := by
  obtain ⟨values, entries, items⟩ := loadingRelation_loaded.load
  exact ⟨values, fun store given sound => ⟨(entries store given).1, (entries store given).2 sound⟩,
    items⟩

end Store

end Routebook

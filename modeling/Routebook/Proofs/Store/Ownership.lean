import Routebook.Proofs.Store.Entries

/-!
# Objects of one's own

Objects that were loaded refer to one another only (`Store.Loading`).  A holding is a range of
objects that nothing else leads to: it stays intact as objects are made and changed by anybody who
does not hold one of its objects (`Holding.Intact.make`, `Holding.Intact.replace`), and whoever
starts outside of it never gets into it (`Holding.Intact.closed`).  As long as it is intact its
objects read as they did when it was made (`Holding.Intact.read`).
-/

namespace Routebook

set_option autoImplicit false

/-! ## Handles outside of a range -/

/-- Whether a handle leads to no object with a number between two bounds. -/
def Handle.Outside (low high : Nat) : Handle → Prop
  | .atom _ => True
  | .object index => index < low ∨ high ≤ index

instance (low high : Nat) (handle : Handle) : Decidable (handle.Outside low high) :=
  match handle with
  | .atom _ => .isTrue trivial
  | .object index => inferInstanceAs (Decidable (index < low ∨ high ≤ index))

/-- A handle to an object that was made earlier is outside. -/
theorem Handle.Within.outside_below {first bound low : Nat} (high : Nat) {handle : Handle}
    (within : handle.Within first bound) (earlier : bound ≤ low) : handle.Outside low high := by
  cases handle with
  | atom value => trivial
  | object index => exact .inl (Nat.lt_of_lt_of_le within.2 earlier)

/-- A handle to an object that was made later is outside. -/
theorem Handle.Within.outside_above {start bound high : Nat} (low : Nat) {handle : Handle}
    (within : handle.Within start bound) (later : high ≤ start) : handle.Outside low high := by
  cases handle with
  | atom value => trivial
  | object index => exact .inr (Nat.le_trans later within.1)

/-! ## Loading apart -/

namespace Store

/-- Every object refers only to objects that are there. -/
def Whole (store : Store) : Prop :=
  ∀ (index : Nat) (content : Content), store.contents[index]? = some content →
    ∀ handle ∈ content.handles, Handle.Within 0 store.size handle

theorem Sound.whole {store : Store} (sound : store.Sound) : store.Whole :=
  fun index content held handle present =>
    (sound index content held handle present).mono (Nat.le_refl _)
      (Nat.le_of_lt (Array.getElem?_eq_some_iff.mp held).1)

/-- Handles of objects that were added to a store and that refer to one another only. -/
structure Loading (store : Store) (handles : List Handle) (loaded : Store) : Prop where
  agree : AgreeBelow store.size store loaded
  enclosed : loaded.Enclosed store.size loaded.size
  within : ∀ handle ∈ handles, handle.Within store.size loaded.size

namespace Loading

variable {store loaded final : Store} {handles : List Handle}

theorem nil (store : Store) : Loading store [] store where
  agree _ _ := rfl
  enclosed _ _ above below := absurd above (Nat.not_le.mpr below)
  within := nofun

theorem subset {others : List Handle} (loading : Loading store handles loaded)
    (among : ∀ handle ∈ others, handle ∈ handles) : Loading store others loaded :=
  ⟨loading.agree, loading.enclosed, fun handle present => loading.within handle (among handle present)⟩

theorem append {others : List Handle} (first : Loading store handles loaded)
    (rest : Loading loaded others final) : Loading store (handles ++ others) final := by
  have grown := first.agree.size_le
  have size := rest.agree.size_le
  refine ⟨first.agree.trans (rest.agree.mono grown), ?_, ?_⟩
  · intro index content above below held handle present
    rcases Nat.lt_or_ge index loaded.size with early | late
    · rw [← rest.agree index early] at held
      exact first.enclosed index content above early held handle present
    · exact (rest.enclosed index content late below held handle present).mono grown (Nat.le_refl _)
  · intro handle present
    rcases List.mem_append.mp present with early | late
    · exact (first.within handle early).mono (Nat.le_refl _) size
    · exact (rest.within handle late).mono grown (Nat.le_refl _)

/-- An object that is made of new handles is new itself. -/
theorem make (parts : Loading store handles loaded) {content : Content}
    (held : content.handles = handles) :
    Loading store [(loaded.make content).1] (loaded.make content).2 := by
  have grown := parts.agree.size_le
  refine ⟨parts.agree.trans ((agree_make loaded content).mono grown), ?_, ?_⟩
  · intro index other above below found handle present
    rw [size_make] at below
    rcases Nat.lt_or_eq_of_le (Nat.le_of_lt_succ below) with early | rfl
    · rw [← agree_make loaded content index early] at found
      exact parts.enclosed index other above early found handle present
    · rw [getElem?_make] at found
      cases found
      rw [held] at present
      exact parts.within handle present
  · intro handle present
    rw [List.mem_singleton.mp present, size_make]
    exact ⟨grown, Nat.lt_succ_self _⟩

end Loading

/-- **Loading a value adds objects that refer to one another only.** -/
theorem loading_load (store : Store) (value : Value) :
    Loading store [(store.load value).1] (store.load value).2 := by
  have closed : LoadingRelation fun store _ handles loaded => Loading store handles loaded :=
    { nil := Loading.nil
      atom := fun store value => ⟨fun _ _ => rfl, (Loading.nil store).enclosed, by simp [Handle.Within]⟩
      cons := fun first rest => first.append rest
      list := fun parts => parts.make rfl
      tuple := fun parts => parts.make rfl
      mapping := fun _ parts => parts.make rfl }
  exact closed.load.1 store value

end Store

/-! ## Holdings -/

/-- The objects with numbers between two bounds, as a store has them. -/
structure Holding where
  low : Nat
  high : Nat
  original : Store

namespace Holding

/-- Whether a handle leads to no object of a holding. -/
def Excludes (holding : Holding) (handle : Handle) : Prop :=
  handle.Outside holding.low holding.high

instance (holding : Holding) (handle : Handle) : Decidable (holding.Excludes handle) :=
  inferInstanceAs (Decidable (handle.Outside holding.low holding.high))

/-- A store has the objects of a holding as they were, and no other object leads to them. -/
structure Intact (holding : Holding) (store : Store) : Prop where
  same : ∀ index : Nat, holding.low ≤ index → index < holding.high →
    store.contents[index]? = holding.original.contents[index]?
  apart : ∀ {index : Nat} {content : Content}, holding.Excludes (.object index) →
    store.contents[index]? = some content → ∀ handle ∈ content.handles, holding.Excludes handle
  fits : holding.high ≤ store.size

/-- The objects that were added to a store, as a holding. -/
def added (store larger : Store) : Holding := ⟨store.size, larger.size, larger⟩

/-- Objects that were added and refer to one another only are a holding of their own. -/
theorem intact_added {store larger : Store} {handles : List Handle} (whole : store.Whole)
    (loading : Store.Loading store handles larger) : (added store larger).Intact larger where
  same _ _ _ := rfl
  apart {index content} outside held handle present := by
    rcases outside with below | beyond
    · rw [← loading.agree index below] at held
      exact (whole index content held handle present).outside_below _ (Nat.le_refl _)
    · exact absurd (Array.getElem?_eq_some_iff.mp held).1 (Nat.not_lt.mpr beyond)
  fits := Nat.le_refl _

namespace Intact

variable {holding : Holding} {store : Store}

/-- **What starts outside of a holding does not get into it.** -/
theorem closed (intact : holding.Intact store) : store.Closed holding.Excludes where
  atom _ := trivial
  object outside held := intact.apart outside held

/-- **The objects of a holding read as they did.** -/
theorem read (intact : holding.Intact store) (fits : holding.high ≤ holding.original.size)
    (enclosed : holding.original.Enclosed holding.low holding.high) {handle : Handle}
    (within : handle.Within holding.low holding.high) :
    store.read handle = holding.original.read handle :=
  (Store.readWithin_enclosed holding.high enclosed
    (fun index above below => (intact.same index above below).symm) (Nat.le_succ_of_le fits)
    (Nat.le_succ_of_le intact.fits) within).symm

/-- Making an object of handles outside of a holding leaves the holding intact. -/
theorem make (intact : holding.Intact store) {content : Content}
    (outside : ∀ handle ∈ content.handles, holding.Excludes handle) :
    holding.Intact (store.make content).2 ∧ holding.Excludes (store.make content).1 := by
  have agree := Store.agree_make store content
  refine ⟨⟨?_, ?_, Nat.le_trans intact.fits agree.size_le⟩, .inr intact.fits⟩
  · intro index above below
    rw [← agree index (Nat.lt_of_lt_of_le below intact.fits)]
    exact intact.same index above below
  · intro index other free held handle present
    have inside : index < (store.make content).2.size := (Array.getElem?_eq_some_iff.mp held).1
    rw [Store.size_make] at inside
    rcases Nat.lt_or_eq_of_le (Nat.le_of_lt_succ inside) with early | rfl
    · rw [← agree index early] at held
      exact intact.apart free held handle present
    · rw [Store.getElem?_make] at held
      cases held
      exact outside handle present

/-- Loading a value leaves a holding intact. -/
theorem load (intact : holding.Intact store) (value : Value) :
    holding.Intact (store.load value).2 ∧ holding.Excludes (store.load value).1 := by
  have loading := Store.loading_load store value
  have grown := loading.agree.size_le
  have new : ∀ {bound : Nat} {handle : Handle}, handle.Within store.size bound →
      holding.Excludes handle := fun within => within.outside_above _ intact.fits
  refine ⟨⟨?_, ?_, Nat.le_trans intact.fits grown⟩,
    new (loading.within _ (List.mem_singleton_self _))⟩
  · intro index above below
    rw [← loading.agree index (Nat.lt_of_lt_of_le below intact.fits)]
    exact intact.same index above below
  · intro index content free held handle present
    rcases Nat.lt_or_ge index store.size with early | late
    · rw [← loading.agree index early] at held
      exact intact.apart free held handle present
    · exact new (loading.enclosed index content late (Array.getElem?_eq_some_iff.mp held).1 held
        handle present)

end Intact

end Holding

/-! ## Changing objects -/

/-- Gives an object another content; anything else is left as it is. -/
def Store.replace (store : Store) (target : Handle) (content : Content) : Store :=
  match target with
  | .atom _ => store
  | .object index => ⟨store.contents.setIfInBounds index content⟩

namespace Holding.Intact

variable {holding : Holding} {store : Store}

/-- Changing an object outside of a holding into one of handles outside of it leaves the holding
intact. -/
theorem replace (intact : holding.Intact store) {target : Handle} (free : holding.Excludes target)
    {content : Content} (outside : ∀ handle ∈ content.handles, holding.Excludes handle) :
    holding.Intact (store.replace target content) := by
  cases target with
  | atom value => exact intact
  | object changed =>
      refine ⟨fun index above below => ?_, ?_, ?_⟩
      · have other : changed ≠ index := by
          rintro rfl
          rcases free with lower | higher
          · exact absurd lower (Nat.not_lt.mpr above)
          · exact absurd below (Nat.not_lt.mpr higher)
        rw [← intact.same index above below]
        exact Array.getElem?_setIfInBounds_ne other
      · intro index other apart held handle present
        by_cases same : changed = index
        · subst same
          have inside : changed < store.contents.size := by
            have bound := (Array.getElem?_eq_some_iff.mp held).1
            rwa [Store.replace, Array.size_setIfInBounds] at bound
          rw [Store.replace, Array.getElem?_setIfInBounds_self_of_lt inside] at held
          cases held
          exact outside handle present
        · rw [Store.replace, Array.getElem?_setIfInBounds_ne same] at held
          exact intact.apart apart held handle present
      · rw [Store.size, Store.replace, Array.size_setIfInBounds]
        exact intact.fits

/-- Writing to a mapping outside of a holding leaves the holding intact. -/
theorem assign (intact : holding.Intact store) {target : Handle} (free : holding.Excludes target)
    (key value : Value) : holding.Intact (store.assign target key value) := by
  cases target with
  | atom other => exact intact
  | object index =>
      unfold Store.assign
      dsimp only
      split
      · rename_i entries held
        refine intact.replace free fun handle present => ?_
        rcases Store.mem_insertEntry present with rfl | old
        · trivial
        · exact intact.apart free held handle old
      · exact intact

end Holding.Intact

end Routebook

import Routebook.Proofs.Outcome
import Routebook.Proofs.Store.Writing
import Routebook.Route

/-!
# Entries of handles

Entries that are written and then read are the values written into the entries read
(`Store.readEntries_insertEntry`), and a name leads to the handle that was written last
(`Store.lookupEntry_overlayHandles`).  The entries that a handle stands for depend on the objects
that it leads to alone (`Store.Shared.optionalEntriesOf`), and they stay in every range of handles
that objects do not lead out of (`Store.Closed.optionalEntriesOf`).
-/

namespace Routebook

set_option autoImplicit false

namespace Store

/-! ## Reading entries -/

theorem readEntries_insertEntry (store : Store) (key : Value) (handle : Handle)
    (entries : List (Value × Handle)) :
    store.readEntries (insertEntry key handle entries)
      = Value.insert key (store.read handle) (store.readEntries entries) := by
  induction entries with
  | nil => rfl
  | cons entry rest inductionHypothesis =>
      have first : store.readEntries (entry :: rest)
          = (entry.1, store.read entry.2) :: store.readEntries rest := rfl
      rw [first, insertEntry, Value.insert]
      split
      · rfl
      · exact congrArg ((entry.1, store.read entry.2) :: ·) inductionHypothesis

theorem readEntries_overlayHandles (store : Store) (base override : List (Value × Handle)) :
    store.readEntries (Route.overlayHandles base override)
      = Value.overlay (store.readEntries base) (store.readEntries override) := by
  induction override generalizing base with
  | nil => rfl
  | cons entry rest inductionHypothesis =>
      refine (inductionHypothesis (insertEntry entry.1 entry.2 base)).trans ?_
      rw [readEntries_insertEntry]
      rfl

theorem mem_overlayHandles {base override : List (Value × Handle)} {handle : Handle}
    (present : handle ∈ (Route.overlayHandles base override).map Prod.snd) :
    handle ∈ base.map Prod.snd ∨ handle ∈ override.map Prod.snd := by
  induction override generalizing base with
  | nil => exact .inl present
  | cons entry rest inductionHypothesis =>
      rcases inductionHypothesis present with written | later
      · rcases mem_insertEntry written with rfl | old
        · exact .inr List.mem_cons_self
        · exact .inl old
      · exact .inr (List.mem_cons_of_mem _ later)

/-! ## Finding entries -/

theorem mem_of_lookupEntry {name : Value} {entries : List (Value × Handle)} {handle : Handle}
    (found : lookupEntry name entries = some handle) : handle ∈ entries.map Prod.snd := by
  induction entries with
  | nil => cases found
  | cons entry rest inductionHypothesis =>
      rw [lookupEntry] at found
      split at found
      · cases found
        exact List.mem_cons_self
      · exact List.mem_cons_of_mem _ (inductionHypothesis found)

/-- A text is the same key as itself alone. -/
theorem same_text {name : String} {key : Value} :
    Value.same (.text name) key = true ↔ key = .text name := by
  cases key with
  | text other =>
      rw [Value.same, beq_iff_eq, Value.text.injEq]
      exact eq_comm
  | _ => simp only [Value.same, Bool.false_eq_true, reduceCtorEq]

theorem same_text_right {name : String} {key : Value} :
    Value.same key (.text name) = true ↔ key = .text name := by
  cases key with
  | text other => simp only [Value.same, beq_iff_eq, Value.text.injEq]
  | _ => simp only [Value.same, Bool.false_eq_true, reduceCtorEq]

/-- A name leads to the handle that was written at it, and otherwise where it led before. -/
theorem lookupEntry_insertEntry (name : String) (key : Value) (handle : Handle)
    (entries : List (Value × Handle)) :
    lookupEntry (.text name) (insertEntry key handle entries)
      = if Value.same (.text name) key then some handle else lookupEntry (.text name) entries := by
  induction entries with
  | nil => rfl
  | cons entry rest inductionHypothesis =>
      rw [insertEntry]
      split
      · rename_i same
        have alike : Value.same (.text name) entry.1 = Value.same (.text name) key := by
          rw [Bool.eq_iff_iff, same_text, same_text]
          constructor
          · intro named
            rw [named] at same
            exact same_text_right.mp same
          · intro named
            rw [named] at same
            exact same_text.mp same
        rw [lookupEntry, lookupEntry, alike]
        split <;> rfl
      · rename_i different
        rw [lookupEntry, lookupEntry, inductionHypothesis]
        split
        · rename_i named
          rw [if_neg]
          intro same
          rw [same_text.mp named, same_text.mp same] at different
          exact different (same_text.mpr rfl)
        · rfl

/-- Writing the same once more changes nothing. -/
theorem insertEntry_insertEntry (name : String) (handle : Handle)
    (entries : List (Value × Handle)) :
    insertEntry (.text name) handle (insertEntry (.text name) handle entries)
      = insertEntry (.text name) handle entries := by
  induction entries with
  | nil =>
      rw [insertEntry, insertEntry, if_pos (same_text.mpr rfl)]
  | cons entry rest inductionHypothesis =>
      rw [insertEntry]
      split
      · rename_i same
        rw [insertEntry, if_pos same]
      · rename_i different
        rw [insertEntry, if_neg different, inductionHypothesis]

theorem written_written (name : String) (value : Value) (content : Option Content) :
    written (.text name) value (written (.text name) value content)
      = written (.text name) value content := by
  cases content with
  | none => rfl
  | some content =>
      cases content with
      | list items | tuple items => rfl
      | mapping entries =>
          exact congrArg (some ∘ Content.mapping)
            (insertEntry_insertEntry name (.atom value) entries)

theorem lookup_readEntries (store : Store) (name : Value) (entries : List (Value × Handle)) :
    Value.lookup name (store.readEntries entries)
      = (lookupEntry name entries).map store.read := by
  induction entries with
  | nil => rfl
  | cons entry rest inductionHypothesis =>
      have first : store.readEntries (entry :: rest)
          = (entry.1, store.read entry.2) :: store.readEntries rest := rfl
      rw [first, Value.lookup, lookupEntry]
      split
      · rfl
      · exact inductionHypothesis

theorem lookupEntry_append (name : Value) (first second : List (Value × Handle)) :
    lookupEntry name (first ++ second)
      = (lookupEntry name first).or (lookupEntry name second) := by
  induction first with
  | nil => rfl
  | cons entry rest inductionHypothesis =>
      rw [List.cons_append, lookupEntry, lookupEntry]
      split
      · rfl
      · exact inductionHypothesis

/-- A name leads to the same handle last when another name is written. -/
theorem lookupEntry_reverse_insertEntry {name : String} {key : Value}
    (different : ¬Value.same (.text name) key) (handle : Handle)
    (entries : List (Value × Handle)) :
    lookupEntry (.text name) (insertEntry key handle entries).reverse
      = lookupEntry (.text name) entries.reverse := by
  induction entries with
  | nil =>
      rw [insertEntry, List.reverse_singleton, lookupEntry, if_neg different]
      rfl
  | cons entry rest inductionHypothesis =>
      rw [insertEntry]
      split
      · rename_i same
        have other : ¬Value.same (.text name) entry.1 := by
          intro named
          rw [same_text.mp named, same_text_right] at same
          rw [same, same_text] at different
          exact different rfl
        rw [List.reverse_cons, List.reverse_cons, lookupEntry_append, lookupEntry_append]
        exact congrArg _ ((if_neg other).trans (if_neg other).symm)
      · rw [List.reverse_cons, List.reverse_cons, lookupEntry_append, lookupEntry_append,
          inductionHypothesis]

/-- In entries laid over others a name leads to its last handle in the upper layer, if any. -/
theorem lookupEntry_overlayHandles (name : String) (base override : List (Value × Handle)) :
    lookupEntry (.text name) (Route.overlayHandles base override)
      = (lookupEntry (.text name) override.reverse).or (lookupEntry (.text name) base) := by
  induction override generalizing base with
  | nil => rfl
  | cons entry rest inductionHypothesis =>
      refine (inductionHypothesis (insertEntry entry.1 entry.2 base)).trans ?_
      rw [List.reverse_cons, lookupEntry_append, Option.or_assoc, lookupEntry_insertEntry]
      refine congrArg _ ?_
      rw [lookupEntry]
      split <;> rfl

/-! ## Values that give objects away -/

/-- Only a text itself reads as a text. -/
theorem eq_atom_of_read_eq_text {store : Store} {handle : Handle} {text : String}
    (reads : store.read handle = .text text) : handle = .atom (.text text) := by
  cases handle with
  | atom value =>
      rw [read, readWithin_atom] at reads
      rw [reads]
  | object index =>
      rw [read, readWithin_object] at reads
      cases held : store.contents[index]? with
      | none =>
          rw [held] at reads
          cases reads
      | some content =>
          rw [held] at reads
          cases content <;> cases reads

/-- If entries read as before after a text was written into them, the text was there before. -/
theorem insertEntry_eq_of_readEntries_eq {first second : Store} {name text : String}
    {entries : List (Value × Handle)}
    (same : second.readEntries (insertEntry (.text name) (.atom (.text text)) entries)
      = first.readEntries entries) :
    insertEntry (.text name) (.atom (.text text)) entries = entries := by
  induction entries with
  | nil => cases same
  | cons entry rest inductionHypothesis =>
      rw [insertEntry] at same ⊢
      split at same
      · rename_i named
        rw [if_pos named]
        obtain ⟨written, -⟩ := List.cons.inj same
        have reads : first.read entry.2 = .text text := (congrArg Prod.snd written).symm
        rw [← eq_atom_of_read_eq_text reads]
      · rename_i different
        rw [if_neg different]
        exact congrArg (entry :: ·) (inductionHypothesis (List.cons.inj same).2)

/-! ## The entries of a handle -/

/-- A range of handles that objects in it do not lead out of. -/
structure Closed (store : Store) (range : Handle → Prop) : Prop where
  atom : ∀ value, range (.atom value)
  object : ∀ {index : Nat} {content : Content}, range (.object index) →
    store.contents[index]? = some content → ∀ handle ∈ content.handles, range handle

/-- In a sound store no object leads to later ones. -/
theorem Sound.closed {store : Store} (sound : store.Sound) (bound : Nat) :
    store.Closed (Handle.Within 0 bound) where
  atom _ := trivial
  object within held handle present :=
    (sound _ _ held handle present).mono (Nat.le_refl _) (Nat.le_of_lt within.2)

namespace Closed

variable {store : Store} {range : Handle → Prop} {handle : Handle}

theorem content? (closed : store.Closed range) (start : range handle) {content : Content}
    (held : store.content? handle = some content) {inner : Handle}
    (present : inner ∈ content.handles) : range inner := by
  cases handle with
  | atom value => cases held
  | object index => exact closed.object start held inner present

theorem items? (closed : store.Closed range) (start : range handle) {items : List Handle}
    (found : store.items? handle = some items) {item : Handle} (present : item ∈ items) :
    range item := by
  unfold Store.items? at found
  split at found
  · rename_i held
    cases found
    exact closed.content? start held present
  · rename_i held
    cases found
    exact closed.content? start held present
  · cases found
    obtain ⟨entry, -, rfl⟩ := List.mem_map.mp present
    exact closed.atom entry.1
  · obtain ⟨values, -, rfl⟩ := Option.map_eq_some_iff.mp found
    obtain ⟨value, -, rfl⟩ := List.mem_map.mp present
    exact closed.atom value
  · cases found

theorem pairOf (closed : store.Closed range) (start : range handle) {pair : Value × Handle}
    (paired : store.pairOf handle = .ok pair) : range pair.2 := by
  unfold Store.pairOf at paired
  split at paired
  · cases paired
  · rename_i key value found
    dsimp only at paired
    split at paired
    · cases paired
      exact closed.items? start found (List.mem_cons_of_mem _ List.mem_cons_self)
    · cases paired
  · cases paired

theorem entriesOf (closed : store.Closed range) (start : range handle)
    {entries : List (Value × Handle)} (found : store.entriesOf handle = .ok entries)
    {inner : Handle} (present : inner ∈ entries.map Prod.snd) : range inner := by
  unfold Store.entriesOf at found
  split at found
  · rename_i held
    cases found
    exact closed.content? start held present
  · split at found
    · cases found
    · rename_i items listed
      obtain ⟨entry, among, rfl⟩ := List.mem_map.mp present
      obtain ⟨item, inside, paired⟩ := Outcome.exists_of_mem_mapM found among
      exact closed.pairOf (closed.items? start listed inside) paired

/-- The entries of a handle in a range are in the range. -/
theorem optionalEntriesOf (closed : store.Closed range) (start : range handle)
    {entries : List (Value × Handle)} (found : store.optionalEntriesOf handle = .ok entries)
    {inner : Handle} (present : inner ∈ entries.map Prod.snd) : range inner := by
  rw [Store.optionalEntriesOf] at found
  split at found
  · exact closed.entriesOf start found present
  · cases found
    cases present

end Closed

section Sharing

variable {first second : Store} {bound : Nat} {handle : Handle}

theorem Shared.content? (shared : Shared bound first second) (within : handle.Within 0 bound) :
    first.content? handle = second.content? handle := by
  cases handle with
  | atom value => rfl
  | object index => exact shared.agree index within.2

theorem Shared.items? (shared : Shared bound first second) (within : handle.Within 0 bound) :
    first.items? handle = second.items? handle := by
  unfold Store.items?
  rw [shared.content? within]

theorem Shared.pairOf (shared : Shared bound first second) (within : handle.Within 0 bound) :
    first.pairOf handle = second.pairOf handle := by
  unfold Store.pairOf
  rw [← shared.items? within]
  cases found : first.items? handle with
  | none => rfl
  | some items =>
      match items with
      | [key, value] =>
          have inner : key.Within 0 bound :=
            (shared.sound.closed bound).items? within found List.mem_cons_self
          simp only [shared.read inner]
      | [] | [_] | _ :: _ :: _ :: _ => rfl

theorem Shared.entriesOf (shared : Shared bound first second) (within : handle.Within 0 bound) :
    first.entriesOf handle = second.entriesOf handle := by
  unfold Store.entriesOf
  rw [← shared.content? within, ← shared.items? within]
  split
  · rfl
  · cases found : first.items? handle with
    | none => rfl
    | some items =>
        exact Outcome.mapM_congr fun item present =>
          shared.pairOf ((shared.sound.closed bound).items? within found present)

/-- **The entries of an optional mapping depend on the objects that its handle leads to alone.** -/
theorem Shared.optionalEntriesOf (shared : Shared bound first second)
    (within : handle.Within 0 bound) :
    first.optionalEntriesOf handle = second.optionalEntriesOf handle := by
  rw [Store.optionalEntriesOf, Store.optionalEntriesOf, shared.read within,
    shared.entriesOf within]

/-- The entries of a mapping are its own. -/
theorem optionalEntriesOf_mapping {store : Store} (sound : store.Sound) {index : Nat}
    {entries : List (Value × Handle)}
    (held : store.contents[index]? = some (.mapping entries)) :
    store.optionalEntriesOf (.object index) = .ok entries := by
  have reads : store.read (.object index) = .mapping (store.readEntries entries) :=
    read_object sound held
  have content : store.content? (.object index) = some (.mapping entries) := held
  rw [Store.optionalEntriesOf, reads, Store.entriesOf, content]
  cases entries <;> rfl

theorem Shared.readEntries (shared : Shared bound first second)
    {entries : List (Value × Handle)}
    (within : ∀ inner ∈ entries.map Prod.snd, inner.Within 0 bound) :
    first.readEntries entries = second.readEntries entries :=
  List.map_congr_left fun entry present => by
    rw [shared.read (within entry.2 (List.mem_map_of_mem present))]

end Sharing

end Store

end Routebook

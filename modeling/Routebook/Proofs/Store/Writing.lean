import Routebook.Proofs.Store.Reading

/-!
# Writing to objects

Writing a value at a key of a mapping changes that mapping alone, and it changes it in the same way
in all stores that agree on it (`Store.AgreeBelow.assign`).
-/

namespace Routebook

set_option autoImplicit false

namespace Store

/-- What a store holds at a number after a value is written at a key of the mapping there. -/
def written (key value : Value) : Option Content → Option Content
  | some (.mapping entries) => some (.mapping (insertEntry key (.atom value) entries))
  | other => other

theorem getElem?_assign (store : Store) (target : Handle) (key value : Value) (index : Nat) :
    (store.assign target key value).contents[index]? =
      match target with
      | .atom _ => store.contents[index]?
      | .object written =>
          if index = written then Store.written key value store.contents[index]?
          else store.contents[index]? := by
  cases target with
  | atom other => rfl
  | object target =>
      rw [assign]
      dsimp only
      by_cases same : index = target
      · subst same
        rw [if_pos rfl]
        cases held : store.contents[index]? with
        | none => exact held
        | some content =>
            cases content with
            | list items | tuple items => exact held
            | mapping entries =>
                exact Array.getElem?_setIfInBounds_self_of_lt
                  (Array.getElem?_eq_some_iff.mp held).1
      · rw [if_neg same]
        split
        · exact Array.getElem?_setIfInBounds_ne (Ne.symm same)
        · rfl

/-- Nothing is written to anything but a mapping. -/
theorem assign_eq_self {store : Store} {target : Handle}
    (other : ∀ entries, store.content? target ≠ some (.mapping entries)) (key value : Value) :
    store.assign target key value = store := by
  cases target with
  | atom value => rfl
  | object index =>
      rw [assign]
      split
      · rename_i entries held
        exact absurd held (other entries)
      · rfl

theorem size_assign (store : Store) (target : Handle) (key value : Value) :
    (store.assign target key value).size = store.size := by
  cases target with
  | atom other => rfl
  | object index =>
      rw [assign]
      split
      · exact Array.size_setIfInBounds
      · rfl

/-- Writing to objects beyond a bound changes nothing below it. -/
theorem agree_assign (store : Store) {low high : Nat} {target : Handle}
    (within : target.Within low high) (key value : Value) :
    AgreeBelow low (store.assign target key value) store := by
  intro index below
  rw [getElem?_assign]
  cases target with
  | atom other => rfl
  | object changed => exact if_neg (Nat.ne_of_lt (Nat.lt_of_lt_of_le below within.1))

/-- Stores that agree still do when the same is written to both. -/
theorem AgreeBelow.assign {bound : Nat} {first second : Store} (agree : AgreeBelow bound first second)
    (target : Handle) (key value : Value) :
    AgreeBelow bound (first.assign target key value) (second.assign target key value) := by
  intro index below
  rw [getElem?_assign, getElem?_assign, agree index below]

/-- An entry that is written is there besides the handles that were there. -/
theorem mem_insertEntry {key : Value} {handle other : Handle} {entries : List (Value × Handle)}
    (present : other ∈ (insertEntry key handle entries).map Prod.snd) :
    other = handle ∨ other ∈ entries.map Prod.snd := by
  induction entries with
  | nil => exact .inl (List.mem_singleton.mp present)
  | cons entry rest inductionHypothesis =>
      rw [insertEntry] at present
      split at present
      · rcases List.mem_cons.mp present with same | later
        · exact .inl same
        · exact .inr (List.mem_cons_of_mem _ later)
      · rcases List.mem_cons.mp present with same | later
        · exact .inr (same ▸ List.mem_cons_self)
        · rcases inductionHypothesis later with same | old
          · exact .inl same
          · exact .inr (List.mem_cons_of_mem _ old)

theorem Sound.assign {store : Store} (sound : store.Sound) (target : Handle) (key value : Value) :
    (store.assign target key value).Sound := by
  intro index content held handle present
  rw [getElem?_assign] at held
  cases target with
  | atom other => exact sound index content held handle present
  | object changed =>
      dsimp only at held
      split at held
      · cases old : store.contents[index]? with
        | none =>
            rw [old] at held
            cases held
        | some before =>
            rw [old] at held
            cases before with
            | list items | tuple items =>
                cases held
                exact sound index _ old handle present
            | mapping entries =>
                cases held
                rcases mem_insertEntry present with rfl | kept
                · trivial
                · exact sound index _ old handle kept
      · exact sound index content held handle present

end Store

end Routebook

import Routebook.Proofs.Value.Key

/-!
# Mappings laid over one another

A key leads to what was written at it last (`Value.lookup_overlay`).  Laying mappings over one
another is associative, the order of the keys and their spelling included (`Value.overlay_assoc`),
and the empty mapping is neutral on both sides.  The keys may be of any types: all that is needed of
equality is that it is symmetric and transitive on them.
-/

namespace Routebook.Value

set_option autoImplicit false

/-! ## Mappings -/

/-- Entries of a mapping: values that can be keys, no two of which are the same. -/
structure Keyed (entries : Entries) : Prop where
  hashable : ∀ entry ∈ entries, entry.1.isHashable = true
  distinct : entries.Pairwise fun first second => ¬same first.1 second.1 = true

instance (entries : Entries) : Decidable (Keyed entries) :=
  decidable_of_iff ((∀ entry ∈ entries, entry.1.isHashable = true) ∧
      entries.Pairwise fun first second => ¬same first.1 second.1 = true)
    ⟨fun both => ⟨both.1, both.2⟩, fun keyed => ⟨keyed.hashable, keyed.distinct⟩⟩

theorem Keyed.nil : Keyed [] := ⟨nofun, .nil⟩

theorem Keyed.head {entry : Value × Value} {rest : Entries} (keyed : Keyed (entry :: rest)) :
    entry.1.isHashable = true := keyed.hashable entry List.mem_cons_self

theorem Keyed.tail {entry : Value × Value} {rest : Entries} (keyed : Keyed (entry :: rest)) :
    Keyed rest where
  hashable other present := keyed.hashable other (List.mem_cons_of_mem _ present)
  distinct := (List.pairwise_cons.mp keyed.distinct).2

theorem Keyed.apart {entry : Value × Value} {rest : Entries} (keyed : Keyed (entry :: rest)) :
    ∀ other ∈ rest, ¬same entry.1 other.1 = true := (List.pairwise_cons.mp keyed.distinct).1

section Keys

variable {key other third : Value}

/-- Of two keys that are the same both are the same as a third one, or neither. -/
theorem same_congr (hashable : key.isHashable = true) (otherHashable : other.isHashable = true)
    (equal : same key other = true) : same key third = same other third := by
  have back : same other key = true := same_comm key other hashable ▸ equal
  rw [Bool.eq_iff_iff]
  exact ⟨same_trans other key third otherHashable back, same_trans key other third hashable equal⟩

/-- A key that is the same as none of some others leads nowhere among them. -/
theorem lookup_eq_none_iff {entries : Entries} :
    lookup key entries = none ↔ ∀ entry ∈ entries, ¬same key entry.1 = true := by
  induction entries with
  | nil => exact ⟨fun _ => nofun, fun _ => rfl⟩
  | cons entry rest inductionHypothesis =>
      rw [lookup, List.forall_mem_cons]
      split
      · rename_i equal
        exact ⟨nofun, fun apart => absurd equal apart.1⟩
      · rename_i different
        rw [inductionHypothesis]
        exact ⟨fun apart => ⟨different, apart⟩, fun apart => apart.2⟩

end Keys

/-! ## Writing -/

section Writing

variable {key other value written : Value} {entries : Entries}

/-- The keys after an entry is written are those from before, and perhaps its own. -/
theorem keys_insert {property : Value → Prop} (keys : ∀ entry ∈ entries, property entry.1)
    (own : property key) : ∀ entry ∈ insert key value entries, property entry.1 := by
  induction entries with
  | nil =>
      intro entry present
      rw [List.mem_singleton.mp present]
      exact own
  | cons first rest inductionHypothesis =>
      rw [List.forall_mem_cons] at keys
      rw [insert]
      split
      · exact List.forall_mem_cons.mpr keys
      · exact List.forall_mem_cons.mpr ⟨keys.1, inductionHypothesis keys.2⟩

theorem hashable_insert (hashable : ∀ entry ∈ entries, entry.1.isHashable = true)
    (own : key.isHashable = true) :
    ∀ entry ∈ insert key value entries, entry.1.isHashable = true :=
  @keys_insert key value entries (·.isHashable = true) hashable own

/-- A key leads to what was written at it, and any other one where it led before. -/
theorem lookup_insert (hashable : ∀ entry ∈ entries, entry.1.isHashable = true)
    (own : key.isHashable = true) (asked : other.isHashable = true) :
    lookup other (insert key value entries)
      = if same other key then some value else lookup other entries := by
  induction entries with
  | nil => rfl
  | cons entry rest inductionHypothesis =>
      rw [List.forall_mem_cons] at hashable
      rw [insert]
      split
      · rename_i equal
        have alike : same other entry.1 = same other key := by
          rw [same_comm other entry.1 asked, same_comm other key asked,
            same_congr own hashable.1 equal]
        rw [lookup, lookup, alike]
        split <;> rfl
      · rename_i different
        rw [lookup, lookup, inductionHypothesis hashable.2]
        split
        · rename_i equal
          rw [if_neg]
          intro same
          rw [same_congr asked own same] at equal
          exact different equal
        · rfl

/-- Writing keeps the keys of a mapping apart. -/
theorem Keyed.insert (keyed : Keyed entries) (own : key.isHashable = true) :
    Keyed (Value.insert key value entries) := by
  refine ⟨hashable_insert keyed.hashable own, ?_⟩
  induction entries with
  | nil => exact List.pairwise_singleton _ _
  | cons entry rest inductionHypothesis =>
      rw [Value.insert]
      split
      · exact List.pairwise_cons.mpr ⟨keyed.apart, keyed.tail.distinct⟩
      · rename_i different
        refine List.pairwise_cons.mpr ⟨?_, inductionHypothesis keyed.tail⟩
        rw [← lookup_eq_none_iff, lookup_insert keyed.tail.hashable own keyed.head, if_neg,
          lookup_eq_none_iff.mpr keyed.apart]
        rwa [same_comm entry.1 key keyed.head]

/-- What is written at a key replaces what was written at the same one. -/
theorem insert_insert (hashable : ∀ entry ∈ entries, entry.1.isHashable = true)
    (own : key.isHashable = true) (asked : other.isHashable = true)
    (equal : same key other = true) :
    insert key value (insert other written entries) = insert other value entries := by
  induction entries with
  | nil => exact if_pos equal
  | cons entry rest inductionHypothesis =>
      rw [List.forall_mem_cons] at hashable
      have alike : same key entry.1 = same other entry.1 := same_congr own asked equal
      rw [insert, insert]
      split
      · rename_i found
        exact if_pos (alike.trans found)
      · rename_i different
        rw [insert, alike, if_neg different, inductionHypothesis hashable.2]

/-- Writing at two different keys, one of which is there, does not depend on the order. -/
theorem insert_comm (hashable : ∀ entry ∈ entries, entry.1.isHashable = true)
    (own : key.isHashable = true) (asked : other.isHashable = true)
    (different : ¬same key other = true) (there : (lookup key entries).isSome) :
    insert key value (insert other written entries)
      = insert other written (insert key value entries) := by
  induction entries with
  | nil => cases there
  | cons entry rest inductionHypothesis =>
      rw [List.forall_mem_cons] at hashable
      rw [lookup] at there
      by_cases found : same key entry.1 = true
      · have apart : ¬same other entry.1 = true := by
          rw [same_comm other entry.1 asked, ← same_congr own hashable.1 found]
          exact different
        rw [insert, if_neg apart, insert, if_pos found, insert, if_pos found, insert, if_neg apart]
      · rw [if_neg found] at there
        by_cases met : same other entry.1 = true
        · rw [insert, if_pos met, insert, if_neg found, insert, if_neg found, insert, if_pos met]
        · rw [insert, if_neg met, insert, if_neg found, insert, if_neg found, insert, if_neg met,
            inductionHypothesis hashable.2 there]

/-- Writing at a key that is there does not depend on how the key is spelled. -/
theorem insert_congr (own : key.isHashable = true) (asked : other.isHashable = true)
    (equal : same key other = true) (there : (lookup key entries).isSome) :
    insert key value entries = insert other value entries := by
  induction entries with
  | nil => cases there
  | cons entry rest inductionHypothesis =>
      have alike : same key entry.1 = same other entry.1 := same_congr own asked equal
      rw [lookup] at there
      rw [insert, insert, alike]
      split
      · rfl
      · rename_i different
        rw [alike, if_neg different] at there
        rw [inductionHypothesis there]

/-- Writing what a key leads to already changes nothing. -/
theorem insert_of_lookup (found : lookup key entries = some value) :
    insert key value entries = entries := by
  induction entries with
  | nil => cases found
  | cons entry rest inductionHypothesis =>
      rw [lookup] at found
      rw [insert]
      split
      · rename_i equal
        rw [if_pos equal] at found
        rw [← Option.some.inj found]
      · rename_i different
        rw [if_neg different] at found
        rw [inductionHypothesis found]

end Writing

/-! ## Layers -/

section Layers

variable {key value written : Value} {base middle override : Entries}

theorem overlay_nil (base : Entries) : overlay base [] = base := rfl

theorem overlay_cons (base : Entries) (entry : Value × Value) (rest : Entries) :
    overlay base (entry :: rest) = overlay (insert entry.1 entry.2 base) rest := rfl

/-- Every key of two mappings laid over one another is a key of one of them. -/
theorem keys_overlay {property : Value → Prop} (lower : ∀ entry ∈ base, property entry.1)
    (upper : ∀ entry ∈ override, property entry.1) :
    ∀ entry ∈ overlay base override, property entry.1 := by
  induction override generalizing base with
  | nil => exact lower
  | cons entry rest inductionHypothesis =>
      rw [List.forall_mem_cons] at upper
      exact inductionHypothesis (keys_insert lower upper.1) upper.2

theorem hashable_overlay (hashable : ∀ entry ∈ base, entry.1.isHashable = true)
    (upper : ∀ entry ∈ override, entry.1.isHashable = true) :
    ∀ entry ∈ overlay base override, entry.1.isHashable = true :=
  @keys_overlay base override (·.isHashable = true) hashable upper

/-- A mapping with others laid over it is a mapping. -/
theorem Keyed.overlay (keyed : Keyed base)
    (upper : ∀ entry ∈ override, entry.1.isHashable = true) :
    Keyed (Value.overlay base override) := by
  induction override generalizing base with
  | nil => exact keyed
  | cons entry rest inductionHypothesis =>
      rw [List.forall_mem_cons] at upper
      exact inductionHypothesis (keyed.insert upper.1) upper.2

/-- **In mappings laid over one another a key leads where it leads in the upper one, if it is
there.** -/
theorem lookup_overlay (hashable : ∀ entry ∈ base, entry.1.isHashable = true)
    (upper : Keyed override) (own : key.isHashable = true) :
    lookup key (overlay base override) = (lookup key override).or (lookup key base) := by
  induction override generalizing base with
  | nil => rfl
  | cons entry rest inductionHypothesis =>
      rw [overlay_cons, inductionHypothesis (hashable_insert hashable upper.head) upper.tail,
        lookup_insert hashable upper.head own, lookup]
      split
      · rename_i equal
        have alone : lookup key rest = none := by
          rw [lookup_eq_none_iff]
          intro other present
          rw [same_congr own upper.head equal]
          exact upper.apart other present
        rw [alone]
        rfl
      · rfl

/-- A key that is in neither of two mappings is written behind them. -/
theorem insert_of_lookup_eq_none {entries : Entries} (absent : lookup key entries = none) :
    insert key value entries = entries ++ [(key, value)] := by
  induction entries with
  | nil => rfl
  | cons entry rest inductionHypothesis =>
      rw [lookup] at absent
      split at absent
      · cases absent
      · rename_i different
        rw [insert, if_neg different, inductionHypothesis absent, List.cons_append]

/-- A mapping without any key of another one is followed by it. -/
theorem overlay_of_distinct (keyed : Keyed (base ++ override)) :
    overlay base override = base ++ override := by
  induction override generalizing base with
  | nil => exact (List.append_nil base).symm
  | cons entry rest inductionHypothesis =>
      have absent : lookup entry.1 base = none := by
        rw [lookup_eq_none_iff]
        intro other present
        rw [same_comm entry.1 other.1 (keyed.hashable entry (by simp))]
        exact (List.pairwise_append.mp keyed.distinct).2.2 other present entry List.mem_cons_self
      rw [overlay_cons, insert_of_lookup_eq_none absent, inductionHypothesis]
      · rw [List.append_assoc, List.singleton_append]
      · rwa [List.append_assoc, List.singleton_append]

/-- Written one after another the entries of a mapping give the mapping. -/
theorem ofPairs_of_keyed (keyed : Keyed base) : ofPairs base = base :=
  @overlay_of_distinct [] base keyed

/-- A key that the upper layer does not have can be written before it is laid over. -/
theorem insert_overlay_of_absent (hashable : ∀ entry ∈ base, entry.1.isHashable = true)
    (upper : ∀ entry ∈ override, entry.1.isHashable = true) (own : key.isHashable = true)
    (absent : lookup key override = none) (there : (lookup key base).isSome) :
    insert key value (overlay base override) = overlay (insert key value base) override := by
  induction override generalizing base with
  | nil => rfl
  | cons entry rest inductionHypothesis =>
      rw [lookup_eq_none_iff, List.forall_mem_cons] at absent
      rw [List.forall_mem_cons] at upper
      rw [overlay_cons, overlay_cons, inductionHypothesis (hashable_insert hashable upper.1)
        upper.2 (lookup_eq_none_iff.mpr absent.2), insert_comm hashable own upper.1 absent.1 there]
      rw [lookup_insert hashable upper.1 own, if_neg absent.1]
      exact there

/-- What is written over two layers replaces what was written at the key of the lower one. -/
theorem insert_overlay_insert (hashable : ∀ entry ∈ base, entry.1.isHashable = true)
    (upper : ∀ entry ∈ override, entry.1.isHashable = true) (own : key.isHashable = true)
    (reflexive : same key key = true) (there : (lookup key base).isSome) :
    insert key value (overlay (insert key written base) override)
      = insert key value (overlay base override) := by
  induction override generalizing base with
  | nil => exact insert_insert hashable own own reflexive
  | cons entry rest inductionHypothesis =>
      rw [List.forall_mem_cons] at upper
      have present : (lookup key (insert entry.1 entry.2 base)).isSome := by
        rw [lookup_insert hashable upper.1 own]
        split
        · rfl
        · exact there
      rw [overlay_cons, overlay_cons]
      by_cases equal : same key entry.1 = true
      · rw [insert_insert hashable upper.1 own (same_comm key entry.1 own ▸ equal),
          insert_congr own upper.1 equal there]
      · rw [← insert_comm hashable own upper.1 equal there]
        exact inductionHypothesis (hashable_insert hashable upper.1) upper.2 present

/-- Writing into the upper layer is writing into the whole. -/
theorem overlay_insert (hashable : ∀ entry ∈ base, entry.1.isHashable = true)
    (upper : Keyed override) (own : key.isHashable = true) :
    overlay base (insert key value override) = insert key value (overlay base override) := by
  induction override generalizing base with
  | nil => rfl
  | cons entry rest inductionHypothesis =>
      rw [insert]
      split
      · rename_i equal
        have absent : lookup key rest = none := by
          rw [lookup_eq_none_iff]
          intro other present
          rw [same_congr own upper.head equal]
          exact upper.apart other present
        have there : (lookup key (insert entry.1 entry.2 base)).isSome := by
          rw [lookup_insert hashable upper.head own, if_pos equal]
          rfl
        rw [overlay_cons, overlay_cons, insert_overlay_of_absent
          (hashable_insert hashable upper.head) upper.tail.hashable own absent there,
          insert_insert hashable own upper.head equal]
      · rw [overlay_cons, overlay_cons]
        exact inductionHypothesis (hashable_insert hashable upper.head) upper.tail

/-- **Laying mappings over one another is associative, the order and the spelling of the keys
included.** -/
theorem overlay_assoc (hashable : ∀ entry ∈ base, entry.1.isHashable = true)
    (middleKeyed : Keyed middle) (upper : ∀ entry ∈ override, entry.1.isHashable = true) :
    overlay (overlay base middle) override = overlay base (overlay middle override) := by
  induction override generalizing middle with
  | nil => rfl
  | cons entry rest inductionHypothesis =>
      rw [List.forall_mem_cons] at upper
      rw [overlay_cons, overlay_cons, ← overlay_insert hashable middleKeyed upper.1]
      exact inductionHypothesis (middleKeyed.insert upper.1) upper.2

end Layers

end Routebook.Value

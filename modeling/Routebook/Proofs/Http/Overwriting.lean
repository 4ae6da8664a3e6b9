import Routebook.Proofs.Http.Address

/-!
# Query entries written over others

Merging query entries into an address groups the entries that it has by their names and writes the
given ones over them, each at the place of its name or behind all others.  If no name occurs twice
on either side, what comes out is the entries of the address with the given values in place of their
own, and then the given entries of other names (`Http.decodeForm_queryOf_merged`).
-/

namespace Routebook.Http

set_option autoImplicit false

/-! ## Writing over entries -/

/-- An entry with a name and its single value. -/
def single (entry : String × String) : String × List String := (entry.1, [entry.2])

/-- Entries with the values of a name in place of those it has, or behind them. -/
def writeValues (entries : List (String × List String)) (entry : String × List String) :
    List (String × List String) :=
  if entries.any fun present => present.1 == entry.1 then
    entries.map fun present => if present.1 == entry.1 then entry else present
  else entries ++ [entry]

/-- Entries with others written over them: those that are there keep their places, and the new ones
follow in their order. -/
def overwrite (own override : List (String × String)) : List (String × String) :=
  (own.map fun entry => (entry.1, (override.lookup entry.1).getD entry.2))
    ++ override.filter fun entry => !(own.map Prod.fst).contains entry.1

variable {own override : List (String × String)}

theorem overwrite_nil_left (override : List (String × String)) : overwrite [] override = override :=
  List.filter_eq_self.mpr fun _ _ => rfl

theorem overwrite_nil_right (own : List (String × String)) : overwrite own [] = own := by
  have same : own.map (fun entry => (entry.1, (List.lookup entry.1 []).getD entry.2)) = own :=
    List.map_id own
  rw [overwrite, same]
  exact List.append_nil own

section Lookup

variable {name : String} {entry : String × String}

theorem lookup_eq_none (absent : name ∉ override.map Prod.fst) : override.lookup name = none := by
  rw [List.lookup_eq_none_iff]
  intro entry present
  rw [bne_iff_ne]
  rintro rfl
  exact absent (List.mem_map_of_mem present)

theorem lookup_of_eq (same : name = entry.1) (rest : List (String × String)) :
    List.lookup name (entry :: rest) = some entry.2 := by
  rw [List.lookup_cons, beq_iff_eq.mpr same]

theorem lookup_of_ne (other : name ≠ entry.1) (rest : List (String × String)) :
    List.lookup name (entry :: rest) = rest.lookup name := by
  rw [List.lookup_cons, beq_eq_false_iff_ne.mpr other]

theorem ne_of_not_mem {present : String × String} (absent : entry.1 ∉ own.map Prod.fst)
    (inside : present ∈ own) : present.1 ≠ entry.1 :=
  fun same => absent (same ▸ List.mem_map_of_mem inside)

end Lookup

section One

variable {entry : String × String}

/-- An entry of a name that is there is written in its place. -/
theorem overwrite_of_mem (there : entry.1 ∈ own.map Prod.fst) :
    overwrite own [entry]
      = own.map fun present => (present.1, (List.lookup present.1 [entry]).getD present.2) := by
  rw [overwrite, List.filter_cons_of_neg (by simpa using there), List.filter_nil, List.append_nil]

/-- An entry of a new name is written behind the others. -/
theorem overwrite_of_not_mem (absent : entry.1 ∉ own.map Prod.fst) :
    overwrite own [entry] = own ++ [entry] := by
  rw [overwrite, List.filter_cons_of_pos (by simpa using absent), List.filter_nil]
  congr 1
  refine (List.map_congr_left fun present inside => ?_).trans (List.map_id own)
  rw [lookup_of_ne (ne_of_not_mem absent inside)]
  rfl

/-- Of entries that are written over others the first can be written first. -/
theorem overwrite_overwrite (new : entry.1 ∉ override.map Prod.fst) :
    overwrite (overwrite own [entry]) override = overwrite own (entry :: override) := by
  have alone := lookup_eq_none new
  by_cases there : entry.1 ∈ own.map Prod.fst
  · rw [overwrite_of_mem there, overwrite, overwrite,
      List.filter_cons_of_neg (by simpa using there), List.map_map, List.map_map]
    congr 1
    refine List.map_congr_left fun present _ => congrArg (present.1, ·) ?_
    dsimp only [Function.comp]
    by_cases same : present.1 = entry.1
    · rw [lookup_of_eq same, lookup_of_eq same, same, alone]
      rfl
    · rw [lookup_of_ne same, lookup_of_ne same]
      rfl
  · have others : override.filter (fun present => !((own ++ [entry]).map Prod.fst).contains present.1)
        = override.filter fun present => !(own.map Prod.fst).contains present.1 := by
      refine List.filter_congr fun present inside => ?_
      have other : present.1 ≠ entry.1 := ne_of_not_mem new inside
      simp [other]
    rw [overwrite_of_not_mem there, overwrite, overwrite, others,
      List.filter_cons_of_pos (by simpa using there), List.map_append, List.append_assoc]
    congr 1
    · refine List.map_congr_left fun present inside => congrArg (present.1, ·) ?_
      rw [lookup_of_ne (ne_of_not_mem there inside)]
    · rw [List.map_singleton, alone]
      rfl

/-- Writing the values of one name is writing its entry over the others. -/
theorem writeValues_single (own : List (String × String)) (entry : String × String) :
    writeValues (own.map single) (single entry) = (overwrite own [entry]).map single := by
  have any : ((own.map single).any fun present => present.1 == (single entry).1) = true
      ↔ entry.1 ∈ own.map Prod.fst := by
    rw [List.any_map, List.any_eq_true, List.mem_map]
    simp only [Function.comp, single, beq_iff_eq]
  unfold writeValues
  split
  · rename_i there
    rw [overwrite_of_mem (any.mp there), List.map_map, List.map_map]
    refine List.map_congr_left fun present _ => ?_
    by_cases same : present.1 = entry.1
    · refine (if_pos (beq_iff_eq.mpr same)).trans ?_
      dsimp only [Function.comp, single]
      rw [lookup_of_eq same, same, Option.getD_some]
    · refine (if_neg fun equal => same (beq_iff_eq.mp equal)).trans ?_
      dsimp only [Function.comp, single]
      rw [lookup_of_ne same]
      rfl
  · rename_i absent
    rw [overwrite_of_not_mem fun there => absent (any.mpr there), List.map_append]
    rfl

end One

/-- **Writing values over others, one name after another, writes all entries over the others.** -/
theorem foldl_writeValues (distinct : (override.map Prod.fst).Nodup) :
    (override.map single).foldl writeValues (own.map single) = (overwrite own override).map single := by
  induction override generalizing own with
  | nil => rw [overwrite_nil_right]; rfl
  | cons entry rest inductionHypothesis =>
      rw [List.map_cons, List.nodup_cons] at distinct
      rw [List.map_cons, List.foldl_cons, writeValues_single, inductionHypothesis distinct.2,
        overwrite_overwrite distinct.1]

/-! ## Grouping -/

/-- Grouped entries with one more value. -/
def gather (grouped : List (String × List String)) (entry : String × String) :
    List (String × List String) :=
  if grouped.any fun present => present.1 == entry.1 then
    grouped.map fun present => if present.1 == entry.1 then (entry.1, present.2 ++ [entry.2])
      else present
  else grouped ++ [(entry.1, [entry.2])]

/-- Entries of different names are groups of their own. -/
theorem foldl_gather {grouped : List (String × List String)}
    (distinct : (own.map Prod.fst).Nodup)
    (apart : ∀ entry ∈ own, entry.1 ∉ grouped.map Prod.fst) :
    own.foldl gather grouped = grouped ++ own.map single := by
  induction own generalizing grouped with
  | nil => exact (List.append_nil grouped).symm
  | cons entry rest inductionHypothesis =>
      rw [List.map_cons, List.nodup_cons] at distinct
      rw [List.forall_mem_cons] at apart
      have behind : gather grouped entry = grouped ++ [single entry] := by
        unfold gather
        rw [if_neg]
        · rfl
        · intro present
          obtain ⟨other, inside, same⟩ := List.any_eq_true.mp present
          exact apart.1 (beq_iff_eq.mp same ▸ List.mem_map_of_mem inside)
      rw [List.foldl_cons, behind, inductionHypothesis distinct.2, List.append_assoc]
      · rfl
      · intro other inside
        rw [List.map_append, List.mem_append, not_or]
        refine ⟨apart.2 other inside, fun same => ?_⟩
        exact ne_of_not_mem distinct.1 inside (List.mem_singleton.mp same)

theorem parameters_eq {url : Url} (decoded : decodeForm (url.query.getD "").toList = own)
    (distinct : (own.map Prod.fst).Nodup) : url.parameters = own.map single := by
  have grouped : url.parameters = (decodeForm (url.query.getD "").toList).foldl gather [] := rfl
  rw [grouped, decoded, foldl_gather distinct fun _ _ => List.not_mem_nil, List.nil_append]

/-! ## Merging -/

theorem flatMap_single (entries : List (String × String)) :
    ((entries.map single).flatMap fun entry => entry.2.map fun value => (entry.1, value))
      = entries := by
  rw [List.flatMap_map]
  exact List.flatMap_singleton' entries

/-- **Entries that are merged into an address are written over those that it has.** -/
theorem queryOf_merged {text : String} {url merged : Url} (reading : Url.parse text = .ok url)
    (entries : decodeForm (quoteKeeping (isPlainSafe queryUnsafe) (queryOf text)) = own)
    (distinct : (own.map Prod.fst).Nodup) (separate : (override.map Prod.fst).Nodup)
    (merging : url.mergeParameters (override.map single) = .ok merged) :
    queryOf merged.text = encodeForm (overwrite own override) := by
  rw [← query_of_parse reading] at entries
  have written : url.mergeParameters (override.map single)
      = url.withParameters ((override.map single).foldl writeValues url.parameters) := rfl
  rw [written, parameters_eq entries distinct, foldl_writeValues separate] at merging
  rw [queryOf_text_of_withParameters (plain_of_parse reading) merging, flatMap_single]

end Routebook.Http

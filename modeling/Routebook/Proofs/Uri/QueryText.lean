import Routebook.Proofs.Http.Address
import Routebook.Proofs.Store.Entries
import Routebook.Proofs.Uri.Base
import Routebook.Proofs.Value.Overlay

/-!
# The query of a built address

The keys of the arguments of a call may be values of any kind, but only the arguments with texts for
keys have a part in the address (`Uri.uri_of_build`).  Where the values are encoded, the names in
the query are plain and neither the root nor the path holds a mark, the query of the address is the
text of a form: the names of the query arguments with their values, in their order
(`Uri.queryOf_reportOf`).
-/

namespace Routebook.Uri

set_option autoImplicit false

/-! ## Arguments with texts for keys -/

/-- The arguments whose keys are texts. -/
def named (arguments : Entries) : List (String × Value) :=
  arguments.filterMap fun argument =>
    match argument.1 with
    | .text name => some (name, argument.2)
    | _ => none

/-- The keys of a mapping are different texts where they are texts. -/
theorem nodup_named {arguments : Entries} (keyed : Value.Keyed arguments) :
    ((named arguments).map Prod.fst).Nodup := by
  induction arguments with
  | nil => exact List.nodup_nil
  | cons argument rest inductionHypothesis =>
      have others := inductionHypothesis keyed.tail
      obtain ⟨key, value⟩ := argument
      cases key with
      | text name =>
          refine List.nodup_cons.mpr ⟨fun present => ?_, others⟩
          obtain ⟨entry, among, same⟩ := List.mem_map.mp present
          obtain ⟨other, inside, selected⟩ := List.mem_filterMap.mp among
          have equal : other.1 = .text name := by
            split at selected
            · rename_i found textual
              cases selected
              exact textual.trans (congrArg Value.text same)
            · cases selected
          exact keyed.apart other inside (Store.same_text.mpr equal)
      | _ => exact others

theorem mem_named {arguments : Entries} {argument : String × Value} :
    argument ∈ named arguments ↔ (Value.text argument.1, argument.2) ∈ arguments := by
  rw [named, List.mem_filterMap]
  constructor
  · rintro ⟨⟨key, value⟩, given, selected⟩
    cases key with
    | text name =>
        cases selected
        exact given
    | _ => cases selected
  · intro given
    exact ⟨_, given, rfl⟩

/-- A text of unreserved characters is its own encoded form. -/
theorem percentEncode_of_unreserved {text : List Char}
    (plain : ∀ character ∈ text, isUnreserved character = true) : percentEncode text = text := by
  induction text with
  | nil => rfl
  | cons character rest inductionHypothesis =>
      rw [List.forall_mem_cons] at plain
      have single : percentCharacter character = [character] := if_pos plain.1
      have others : rest.flatMap percentCharacter = rest := inductionHypothesis plain.2
      rw [percentEncode, List.flatMap_cons, single, others, List.singleton_append]

variable [Runtime]

section Running

variable {pattern : Pattern} {encode : Bool}

/-- Arguments whose keys are no texts are left out, and nothing else comes of them. -/
theorem exists_foldl_placed (arguments : Entries) (progress : Progress) (ignored : List Value) :
    ∃ left, arguments.foldl (Progress.placed pattern encode) { progress with ignored := ignored }
      = { (textEntries (named arguments)).foldl (Progress.placed pattern encode) progress with
          ignored := left } := by
  induction arguments generalizing progress ignored with
  | nil => exact ⟨ignored, rfl⟩
  | cons argument rest inductionHypothesis =>
      obtain ⟨key, value⟩ := argument
      cases key with
      | text name =>
          have step : ∃ others,
              Progress.placed pattern encode { progress with ignored := ignored } (.text name, value)
                = { progress.placed pattern encode (.text name, value) with
                    ignored := others } := by
            rw [placed_text, placed_text]
            cases pattern.role name with
            | path => exact ⟨ignored, rfl⟩
            | query => exact ⟨ignored, rfl⟩
            | unused => exact ⟨ignored ++ [.text name], rfl⟩
          obtain ⟨others, same⟩ := step
          rw [List.foldl_cons, same]
          exact inductionHypothesis (progress.placed pattern encode (.text name, value)) others
      | _ => exact inductionHypothesis progress _

end Running

section Built

variable {root : String} {pattern : Pattern} {encode : Bool} {value : Value} {arguments : Entries}
  {resolution : Resolution}

theorem build_eq_of_argued (argued : argumentEntries value = .ok arguments) :
    build root pattern encode value = build root pattern encode (.mapping arguments) := by
  rw [build, argued]
  rfl

/-- The query arguments of an address that was built have a text. -/
theorem renderable_of_build (argued : argumentEntries value = .ok arguments)
    (built : build root pattern encode value = .ok resolution) :
    ∀ argument ∈ pattern.playing .query (named arguments), Renderable encode argument.2 := by
  intro argument plays
  obtain ⟨given, asks⟩ := pattern.mem_playing.mp plays
  rw [build_eq_of_argued argued] at built
  refine (build_eq_ok_iff.mp built).1 _ (mem_named.mp given) ?_
  rw [Pattern.roleOf, asks]
  decide

/-- **The address of a call is that of its arguments with texts for keys.** -/
theorem uri_of_build (argued : argumentEntries value = .ok arguments)
    (built : build root pattern encode value = .ok resolution) :
    resolution.uri = (reportOf root pattern encode (named arguments)).uri := by
  rw [build_eq_of_argued argued] at built
  have finished := (build_eq_ok_iff.mp built).2
  have reported := finish_final root pattern encode (named arguments)
  obtain ⟨left, same⟩ := @exists_foldl_placed _ pattern encode arguments
    (Progress.start root pattern) []
  have final : Progress.final root pattern encode arguments
      = { Progress.final root pattern encode (textEntries (named arguments)) with ignored := left } :=
    same
  rw [uri_of_finish finished, uri_of_finish reported, final]

end Built

/-! ## The text of the query -/

section Asking

variable {root : String} {pattern : Pattern} {arguments : List (String × Value)}

/-- The names and the texts of the arguments that go to the query. -/
def asked (pattern : Pattern) (arguments : List (String × Value)) : List (String × String) :=
  (pattern.playing .query arguments).map fun argument => (argument.1, stringified argument.2)

theorem keys_asked (pattern : Pattern) (arguments : List (String × Value)) :
    (asked pattern arguments).map Prod.fst = (pattern.playing .query arguments).map Prod.fst := by
  rw [asked, List.map_map]
  rfl

theorem nodup_asked {arguments : Entries} (keyed : Value.Keyed arguments) (pattern : Pattern) :
    ((asked pattern (named arguments)).map Prod.fst).Nodup := by
  rw [keys_asked]
  exact (nodup_named keyed).sublist (List.filter_sublist.map _)

/-- An address goes on like its root, unless that starts with a dollar sign. -/
theorem exists_cons_pathPart {first : Char} {rest : List Char} (start : root.toList = first :: rest)
    (plain : first ≠ '$') (encode : Bool) (supplied : List (String × Value)) :
    ∃ more, pathPart root pattern encode supplied = first :: more := by
  have joined : ∃ more,
      joinCharacters root.toList pattern.literalPath.toList = first :: more := by
    obtain ⟨before, part, ends⟩ := exists_base_eq root.toList
    rw [joinCharacters_eq, base, start]
    split <;> exact ⟨_, rfl⟩
  obtain ⟨more, whole⟩ := joined
  rw [pathPart, whole]
  clear whole
  induction supplied generalizing more with
  | nil => exact ⟨more, rfl⟩
  | cons argument others inductionHypothesis =>
      have kept : substitute argument.1 (rendered encode argument.2) (first :: more)
          = first :: substitute argument.1 (rendered encode argument.2) more :=
        Text.replaceAll_cons fun after same => plain (List.cons.inj same).1
      rw [substituteAll_cons, kept]
      exact inductionHypothesis _

/-- A name of unreserved characters stands in the query as in a form, and so does its entry. -/
theorem map_queryEntries (plainNames : ∀ name ∈ pattern.queryNames, ∀ character ∈ name.toList,
      isUnreserved character = true)
    (renderable : ∀ argument ∈ pattern.playing .query arguments, Renderable true argument.2) :
    (queryEntries true (pattern.playing .query arguments)).map
        (fun entry => entry.1.toList ++ '=' :: entry.2)
      = (asked pattern arguments).map (Http.writtenEntry percentCharacter) := by
  rw [queryEntries, asked, List.map_map, List.map_map]
  refine List.map_congr_left fun argument present => ?_
  have declared := pattern.mem_queryNames_of_role (pattern.mem_playing.mp present).2
  have name := percentEncode_of_unreserved (plainNames argument.1 declared)
  rw [percentEncode] at name
  simp only [Function.comp, Http.writtenEntry, (renderable argument present).rendered_eq, if_true,
    percentEncode, name]

/-- **The query of an address with encoded values is the text of a form with the query arguments.**
-/
theorem queryOf_reportOf (plainRoot : ∀ mark ∈ Text.partMarks, mark ∉ root.toList)
    (plainPath : ∀ mark ∈ Text.partMarks, mark ∉ pattern.literalPath.toList)
    (plainNames : ∀ name ∈ pattern.queryNames, ∀ character ∈ name.toList,
      isUnreserved character = true)
    (renderable : ∀ argument ∈ pattern.playing .query arguments, Renderable true argument.2) :
    Http.queryOf (reportOf root pattern true arguments).uri
      = Http.written percentCharacter (asked pattern arguments) := by
  have path : ∀ mark ∈ Text.partMarks,
      mark ∉ pathPart root pattern true (pattern.playing .path arguments) := by
    intro mark own
    have reserved : isUnreserved mark = false ∧ mark ≠ '%' ∧ mark ≠ '/' := by
      rcases Text.mem_partMarks.mp own with rfl | rfl <;> decide
    exact not_mem_pathPart_of_not_mem reserved.1 reserved.2.1 reserved.2.2 (plainRoot mark own)
      (plainPath mark own) _
  have entries := map_queryEntries plainNames renderable
  have uri : (reportOf root pattern true arguments).uri.toList
      = pathPart root pattern true (pattern.playing .path arguments)
        ++ queryPart (queryEntries true (pattern.playing .query arguments)) :=
    String.toList_ofList
  rw [Http.queryOf, uri, queryPart]
  split
  · rename_i empty
    have none : asked pattern arguments = [] := by
      rw [empty] at entries
      exact (List.map_eq_nil_iff.mp entries.symm)
    rw [List.append_nil, Text.cut_of_not_mem (path '#' (by decide)),
      Text.cut_of_not_mem (path '?' (by decide)), none]
    rfl
  · have number : '#' ∉ pathPart root pattern true (pattern.playing .path arguments)
        ++ '?' :: ['&'].intercalate ((asked pattern arguments).map
          (Http.writtenEntry percentCharacter)) := by
      rw [List.mem_append, List.mem_cons, not_or, not_or]
      refine ⟨path '#' (by decide), by decide, ?_⟩
      refine Text.not_mem_intercalate (by decide) fun piece present => ?_
      obtain ⟨entry, -, rfl⟩ := List.mem_map.mp present
      exact Http.coding_percentCharacter.not_mem_writtenEntry (by decide) (by decide) (by decide)
        (by decide) entry
    rw [entries, Text.cut_of_not_mem number, Text.cut_append (path '?' (by decide))]
    rfl

end Asking

end Routebook.Uri

import Routebook.Proofs.Http.Form
import Routebook.Proofs.Text.Host

/-!
# Queries of addresses

In an address that has been read no part before the query holds one of the marks in front of a query
or a fragment (`Http.plain_of_parse`): they are escaped in the user information and in the path, and
the scheme and the host are taken from a text without them.  So the query stands in the text of an
address where it stood in the text that was read, quoted (`Http.queryOf_text_of_parse`), and the
text of an address with other query entries has the form of these entries for its query
(`Http.queryOf_text_of_withParameters`).
-/

namespace Routebook.Http

set_option autoImplicit false

/-! ## Assembling -/

variable {scheme userinfo host port path : List Char} {query fragment : Option (List Char)}
  {url : Url}

/-- An address that has the given parts in their normal form. -/
structure Assembled (scheme userinfo host path : List Char) (query fragment : Option (List Char))
    (url : Url) : Prop where
  scheme : url.scheme.toList = scheme.map Char.toLower
  userinfo : url.userinfo.toList = quoteKeeping (isPlainSafe userinfoUnsafe) userinfo
  host : encodeHost host = .ok url.host.toList
  path : ∃ normal, url.path.toList = quoteKeeping (isPlainSafe pathUnsafe) normal
  query : url.query = query.map fun text =>
    String.ofList (quoteKeeping (isPlainSafe queryUnsafe) text)
  fragment : url.fragment = fragment.map fun text =>
    String.ofList (quoteKeeping (isPlainSafe fragmentUnsafe) text)

theorem assembled_of_assemble
    (assembling : assemble scheme userinfo host port path query fragment = .ok url) :
    Assembled scheme userinfo host path query fragment url := by
  obtain ⟨encoded, hosting, further⟩ := Outcome.exists_of_bind assembling
  obtain ⟨number, -, rest⟩ := Outcome.exists_of_bind further
  obtain ⟨_, -, made⟩ := Outcome.exists_of_bind rest
  cases made
  have same : encodeHost host = .ok (String.ofList encoded).toList := by
    rw [String.toList_ofList]
    exact hosting
  exact ⟨String.toList_ofList, String.toList_ofList, same, ⟨_, String.toList_ofList⟩, rfl, rfl⟩

theorem Assembled.toList_query (assembled : Assembled scheme userinfo host path query fragment url) :
    (url.query.getD "").toList = quoteKeeping (isPlainSafe queryUnsafe) (query.getD []) := by
  rw [assembled.query]
  cases query with
  | none => rfl
  | some text => exact String.toList_ofList

/-! ## Parts without marks -/

section Marks

variable {mark : Char}

theorem not_mem_quoteKeeping {isSafe : Char → Bool} (reserved : Uri.isUnreserved mark = false)
    (noPercent : mark ≠ '%') (escaped : isSafe mark = false) (text : List Char) :
    mark ∉ quoteKeeping isSafe text := by
  induction text with
  | nil => exact List.not_mem_nil
  | cons character rest inductionHypothesis =>
      rw [quoteKeeping]
      split
      · rename_i kept
        rw [List.mem_cons, not_or]
        refine ⟨?_, inductionHypothesis⟩
        rintro rfl
        have plain : startsWithEscape (mark :: rest) = false := by
          unfold startsWithEscape
          split
          · rename_i same
            exact absurd (List.cons.inj same).1 noPercent
          · rfl
        rw [plain, reserved, escaped] at kept
        cases kept
      · rename_i encoded
        have unkept : ¬Uri.isUnreserved character = true := fun unreserved =>
          encoded (by rw [unreserved, Bool.or_true, Bool.true_or])
        rw [List.mem_append, not_or]
        refine ⟨?_, inductionHypothesis⟩
        have escapes := not_mem_percentCharacter reserved noPercent character
        rwa [Uri.percentCharacter, if_neg unkept] at escapes

theorem mark_not_mem_quoteKeeping {isSafe : Char → Bool} (own : mark ∈ Text.partMarks)
    (question : isSafe '?' = false) (number : isSafe '#' = false) (text : List Char) :
    mark ∉ quoteKeeping isSafe text :=
  Text.not_mem_of_marks own (not_mem_quoteKeeping (by decide) (by decide) question text)
    (not_mem_quoteKeeping (by decide) (by decide) number text)

/-- The host of an address has no mark that the host it is made from lacks. -/
theorem not_mem_encodeHost {encoded : List Char} (own : mark ∈ Text.partMarks) (absent : mark ∉ host)
    (encoding : encodeHost host = .ok encoded) : mark ∉ encoded := by
  unfold encodeHost at encoding
  dsimp only at encoding
  split at encoding
  · cases encoding
    exact List.not_mem_nil
  split at encoding
  · split at encoding <;> cases encoding
    exact absent
  split at encoding
  · split at encoding <;> cases encoding
    exact fun present => absent (List.mem_of_mem_drop (List.dropLast_subset _ present))
  split at encoding
  · cases encoding
    exact mark_not_mem_quoteKeeping own (by decide) (by decide) _
  · split at encoding
    · rename_i name ascii
      cases encoding
      exact Text.not_mem_asciiHost own (Text.not_mem_lower own absent) ascii
    · cases encoding

end Marks

/-- No part of an address before its query has one of the marks in front of a query or a fragment.
-/
structure Url.Plain (url : Url) : Prop where
  scheme : ∀ mark ∈ Text.partMarks, mark ∉ url.scheme.toList
  userinfo : ∀ mark ∈ Text.partMarks, mark ∉ url.userinfo.toList
  host : ∀ mark ∈ Text.partMarks, mark ∉ url.host.toList
  path : ∀ mark ∈ Text.partMarks, mark ∉ url.path.toList

theorem Assembled.plain (assembled : Assembled scheme userinfo host path query fragment url)
    (plainScheme : ∀ mark ∈ Text.partMarks, mark ∉ scheme)
    (plainHost : ∀ mark ∈ Text.partMarks, mark ∉ host) : url.Plain where
  scheme mark own present := by
    rw [assembled.scheme] at present
    obtain ⟨character, inside, same⟩ := List.mem_map.mp present
    refine Text.toLower_ne own (fun equal => plainScheme mark own ?_) same.symm
    rwa [equal]
  userinfo mark own := by
    rw [assembled.userinfo]
    exact mark_not_mem_quoteKeeping own (by decide) (by decide) _
  host mark own := not_mem_encodeHost own (plainHost mark own) assembled.host
  path mark own := by
    obtain ⟨normal, same⟩ := assembled.path
    rw [same]
    exact mark_not_mem_quoteKeeping own (by decide) (by decide) _

/-! ## Taking a text apart -/

theorem cut_fst_subset (separator : Char) (text : List Char) : (Text.cut separator text).1 ⊆ text := by
  obtain ⟨rest, whole⟩ := Text.cut_fst_prefix separator text
  intro character present
  rw [whole]
  exact List.mem_append_left _ present

theorem cut_snd_subset {separator : Char} {text after : List Char}
    (found : (Text.cut separator text).2 = some after) : after ⊆ text := by
  by_cases present : separator ∈ text
  · obtain ⟨before, rest, rfl, absent⟩ := List.eq_append_cons_of_mem present
    rw [Text.cut_append absent] at found
    cases found
    exact fun character inside => List.mem_append_right _ (List.mem_cons_of_mem _ inside)
  · rw [Text.cut_of_not_mem present] at found
    cases found

theorem takeScheme_subset (text : List Char) :
    (takeScheme text).1 ⊆ text ∧ (takeScheme text).2 ⊆ text := by
  unfold takeScheme
  dsimp only
  split
  · rename_i rest dropped
    split
    · have after : ':' :: rest ⊆ text := dropped ▸ List.drop_subset _ _
      exact ⟨List.takeWhile_subset _, List.subset_of_cons_subset after⟩
    · exact ⟨List.nil_subset _, List.Subset.refl _⟩
  · exact ⟨List.nil_subset _, List.Subset.refl _⟩

/-- Scheme and authority stand before the marks of query and fragment. -/
theorem splitUrl_subset (text : List Char) :
    (splitUrl text).scheme ⊆ (Text.cut '?' (Text.cut '#' text).1).1 ∧
      (splitUrl text).authority ⊆ (Text.cut '?' (Text.cut '#' text).1).1 := by
  obtain ⟨scheme, after⟩ := takeScheme_subset (Text.cut '?' (Text.cut '#' text).1).1
  unfold splitUrl
  dsimp only
  split
  · rename_i rest slashes
    rw [slashes] at after
    refine ⟨scheme, List.Subset.trans (List.takeWhile_subset _) ?_⟩
    exact List.subset_of_cons_subset (List.subset_of_cons_subset after)
  · exact ⟨scheme, List.nil_subset _⟩

theorem splitUrl_marked (text : List Char) :
    (splitUrl text).query = (Text.cut '?' (Text.cut '#' text).1).2 ∧
      (splitUrl text).fragment = (Text.cut '#' text).2 := by
  unfold splitUrl
  dsimp only
  split <;> exact ⟨rfl, rfl⟩

theorem cutLast_subset (separator : Char) (text : List Char) :
    (∀ before, (cutLast separator text).1 = some before → before ⊆ text) ∧
      (cutLast separator text).2 ⊆ text := by
  unfold cutLast
  dsimp only
  constructor
  · intro before found
    obtain ⟨reversed, cut, rfl⟩ := Option.map_eq_some_iff.mp found
    exact fun character inside =>
      List.mem_reverse.mp (cut_snd_subset cut (List.mem_reverse.mp inside))
  · exact fun character inside =>
      List.mem_reverse.mp (cut_fst_subset separator _ (List.mem_reverse.mp inside))

/-- The host of an authority is made of its characters, a bracket that ends it apart. -/
theorem host_splitAuthority_subset (authority : List Char) :
    (splitAuthority authority).2.1 ⊆ ']' :: authority := by
  have located : (cutLast '@' authority).2 ⊆ authority := (cutLast_subset '@' authority).2
  have plain : (cutLast '@' authority).2.takeWhile (· != ':') ⊆ ']' :: authority :=
    List.Subset.trans (List.takeWhile_subset _)
      (List.Subset.trans located (List.subset_cons_self _ _))
  unfold splitAuthority
  dsimp only
  split
  · rename_i rest bracket
    split
    · rename_i inner after found
      have inside : inner ⊆ authority := by
        refine List.Subset.trans ?_ located
        exact (cutLast_subset ']' _).1 inner (congrArg Prod.fst found)
      exact List.append_subset.mpr
        ⟨List.Subset.trans inside (List.subset_cons_self _ _), by simp⟩
    · exact plain
  · exact plain

/-! ## Reading -/

/-- An address that has been read is assembled from the parts of its text. -/
theorem exists_assemble_of_parse {text : String} (reading : Url.parse text = .ok url) :
    ∃ userinfo port, assemble (splitUrl text.toList).scheme userinfo
      (splitAuthority (splitUrl text.toList).authority).2.1 port (splitUrl text.toList).path
      (splitUrl text.toList).query (splitUrl text.toList).fragment = .ok url := by
  unfold Url.parse at reading
  dsimp only at reading
  split at reading
  · cases reading
  · split at reading
    · cases reading
    · rcases located : splitAuthority (splitUrl text.toList).authority with ⟨userinfo, host, port⟩
      rw [located] at reading
      exact ⟨userinfo, port, reading⟩

/-- The text after the first question mark of an address, up to its fragment. -/
def queryOf (text : String) : List Char :=
  ((Text.cut '?' (Text.cut '#' text.toList).1).2).getD []

section Reading

variable {text : String}

theorem exists_assembled_of_parse (reading : Url.parse text = .ok url) :
    ∃ userinfo path, Assembled (splitUrl text.toList).scheme userinfo
      (splitAuthority (splitUrl text.toList).authority).2.1 path
      (Text.cut '?' (Text.cut '#' text.toList).1).2 (Text.cut '#' text.toList).2 url := by
  obtain ⟨userinfo, port, assembling⟩ := exists_assemble_of_parse reading
  obtain ⟨query, fragment⟩ := splitUrl_marked text.toList
  rw [query, fragment] at assembling
  exact ⟨userinfo, _, assembled_of_assemble assembling⟩

/-- **An address that has been read has no mark before its query.** -/
theorem plain_of_parse (reading : Url.parse text = .ok url) : url.Plain := by
  obtain ⟨userinfo, path, assembled⟩ := exists_assembled_of_parse reading
  obtain ⟨scheme, authority⟩ := splitUrl_subset text.toList
  have before : ∀ mark ∈ Text.partMarks,
      mark ∉ (Text.cut '?' (Text.cut '#' text.toList).1).1 := by
    intro mark own
    exact Text.not_mem_of_marks own (Text.not_mem_cut_fst _ _)
      fun present => Text.not_mem_cut_fst '#' text.toList (cut_fst_subset _ _ present)
  refine assembled.plain (fun mark own present => before mark own (scheme present)) ?_
  intro mark own present
  rcases List.mem_cons.mp (host_splitAuthority_subset _ present) with rfl | inside
  · exact absurd own (by decide)
  · exact before mark own (authority inside)

/-- The query of an address that has been read is that of its text, quoted. -/
theorem query_of_parse (reading : Url.parse text = .ok url) :
    (url.query.getD "").toList = quoteKeeping (isPlainSafe queryUnsafe) (queryOf text) := by
  obtain ⟨userinfo, path, assembled⟩ := exists_assembled_of_parse reading
  exact assembled.toList_query

end Reading

/-! ## Writing -/

theorem not_mem_toString {mark : Char} (own : mark ∈ Text.partMarks) (number : Int) :
    mark ∉ (toString number).toList := by
  have digits (size : Nat) : mark ∉ size.repr.toList := by
    rw [Nat.repr_eq_ofList_toDigits, String.toList_ofList]
    intro present
    have digit := Nat.isDigit_of_mem_toDigits (by decide) (by decide) present
    rcases Text.mem_partMarks.mp own with rfl | rfl <;> exact absurd digit (by decide)
  have minus : mark ∉ "-".toList := Text.not_mem_of_marks own (by decide) (by decide)
  rw [Int.toString_eq_repr, Int.repr_eq_if]
  split
  · exact digits _
  · rw [String.toList_append, List.mem_append, not_or]
    exact ⟨minus, digits _⟩

namespace Url

/-- The text of an address before its query. -/
def head (url : Url) : String :=
  (if url.scheme.isEmpty then "" else url.scheme ++ ":")
    ++ (if url.authority.isEmpty then "" else "//" ++ url.authority) ++ url.path

/-- The text of an address from its fragment on. -/
def tail (url : Url) : String :=
  match url.fragment with
  | none => ""
  | some fragment => "#" ++ fragment

namespace Plain

variable {mark : Char} (plain : url.Plain) (own : mark ∈ Text.partMarks)

include plain own

theorem bracketedHost : mark ∉ url.bracketedHost.toList := by
  have opening : mark ∉ "[".toList := Text.not_mem_of_marks own (by decide) (by decide)
  have closing : mark ∉ "]".toList := Text.not_mem_of_marks own (by decide) (by decide)
  unfold Url.bracketedHost
  split
  · simp only [String.toList_append, List.mem_append, not_or]
    exact ⟨⟨opening, plain.host mark own⟩, closing⟩
  · exact plain.host mark own

theorem authority : mark ∉ url.authority.toList := by
  have sign : mark ∉ "@".toList := Text.not_mem_of_marks own (by decide) (by decide)
  have colon : mark ∉ ":".toList := Text.not_mem_of_marks own (by decide) (by decide)
  unfold Url.authority Url.netloc
  simp only [String.toList_append, List.mem_append, not_or]
  refine ⟨?_, plain.bracketedHost own, ?_⟩
  · split
    · exact List.not_mem_nil
    · simp only [String.toList_append, List.mem_append, not_or]
      exact ⟨plain.userinfo mark own, sign⟩
  · split
    · exact List.not_mem_nil
    · simp only [String.toList_append, List.mem_append, not_or]
      exact ⟨colon, not_mem_toString own _⟩

theorem head : mark ∉ url.head.toList := by
  have colon : mark ∉ ":".toList := Text.not_mem_of_marks own (by decide) (by decide)
  have slashes : mark ∉ "//".toList := Text.not_mem_of_marks own (by decide) (by decide)
  unfold Url.head
  simp only [String.toList_append, List.mem_append, not_or]
  refine ⟨⟨?_, ?_⟩, plain.path mark own⟩
  · split
    · exact List.not_mem_nil
    · simp only [String.toList_append, List.mem_append, not_or]
      exact ⟨plain.scheme mark own, colon⟩
  · split
    · exact List.not_mem_nil
    · simp only [String.toList_append, List.mem_append, not_or]
      exact ⟨slashes, plain.authority own⟩

end Plain

end Url

/-- **The query of an address without other marks is the query of its text.** -/
theorem queryOf_text (plain : url.Plain) (unmarked : '#' ∉ (url.query.getD "").toList) :
    queryOf url.text = (url.query.getD "").toList := by
  have question := plain.head (show '?' ∈ Text.partMarks by decide)
  have number := plain.head (show '#' ∈ Text.partMarks by decide)
  -- Up to the fragment the text is the head with the query behind it.
  have parted : (Text.cut '#' url.text.toList).1
      = url.head.toList ++ (url.query.elim "" ("?" ++ ·)).toList := by
    have before : '#' ∉ url.head.toList ++ (url.query.elim "" ("?" ++ ·)).toList := by
      rw [List.mem_append, not_or]
      refine ⟨number, ?_⟩
      cases queried : url.query with
      | none => exact List.not_mem_nil
      | some query =>
          rw [queried] at unmarked
          simpa using unmarked
    have whole : url.text.toList
        = (url.head.toList ++ (url.query.elim "" ("?" ++ ·)).toList) ++ url.tail.toList := by
      have parts : url.text = url.head ++ (url.query.elim "" ("?" ++ ·)) ++ url.tail := by
        unfold Url.text Url.head Url.tail
        cases url.query <;> rfl
      rw [parts, String.toList_append, String.toList_append]
    rw [whole]
    unfold Url.tail
    cases url.fragment with
    | none => rw [String.toList_empty, List.append_nil, Text.cut_of_not_mem before]
    | some fragment =>
        have mark : ("#" ++ fragment).toList = '#' :: fragment.toList := String.toList_append
        rw [mark, Text.cut_append before]
  rw [queryOf, parted]
  cases url.query with
  | none =>
      have empty : ((none : Option String).elim "" ("?" ++ ·)).toList = [] := rfl
      rw [empty, List.append_nil, Text.cut_of_not_mem question]
      rfl
  | some query =>
      have mark : ((some query).elim "" ("?" ++ ·)).toList = '?' :: query.toList :=
        String.toList_append
      rw [mark, Text.cut_append question]
      rfl

theorem Assembled.queryOf_text (assembled : Assembled scheme userinfo host path query fragment url)
    (plain : url.Plain) :
    queryOf url.text = quoteKeeping (isPlainSafe queryUnsafe) (query.getD []) := by
  rw [Http.queryOf_text plain, assembled.toList_query]
  rw [assembled.toList_query]
  exact not_mem_quoteKeeping (by decide) (by decide) (by decide) _

/-- **An address that has been read keeps the query of its text, quoted.** -/
theorem queryOf_text_of_parse {text : String} (reading : Url.parse text = .ok url) :
    queryOf url.text = quoteKeeping (isPlainSafe queryUnsafe) (queryOf text) := by
  obtain ⟨userinfo, path, assembled⟩ := exists_assembled_of_parse reading
  exact assembled.queryOf_text (plain_of_parse reading)

/-- **An address with other query entries has their form for its query.** -/
theorem queryOf_text_of_withParameters {changed : Url} {parameters : List (String × List String)}
    (plain : url.Plain) (building : url.withParameters parameters = .ok changed) :
    queryOf changed.text
      = encodeForm (parameters.flatMap fun entry => entry.2.map fun value => (entry.1, value)) := by
  unfold Url.withParameters at building
  dsimp only at building
  generalize asked : (parameters.flatMap fun entry => entry.2.map fun value => (entry.1, value))
    = entries at building ⊢
  generalize queried : (if parameters.isEmpty then none else some (encodeForm entries)) = query
    at building
  split at building
  · cases building
  · have assembled := assembled_of_assemble building
    rw [assembled.queryOf_text (assembled.plain plain.scheme fun mark own =>
      plain.bracketedHost own), ← queried]
    split
    · rename_i none
      rw [List.isEmpty_iff.mp none] at asked
      rw [← asked]
      rfl
    · exact quoteKeeping_written coding_formCharacter entries

end Routebook.Http

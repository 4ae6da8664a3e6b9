import Routebook.Http.Percent
import Routebook.Proofs.Outcome
import Routebook.Proofs.Text.Utf8
import Routebook.Proofs.Uri.Resolution

/-!
# Reading a query back

The query of an address is read by taking the text after the first question mark apart at the
ampersands, and each piece at its first equals sign (`Uri.decodeQuery`).  With encoded values
nothing that is put into an address can be taken for one of these marks, so the path holds no
question mark and the pieces are the entries that were written; their values are escapes of the
bytes of the given texts.  What is read is therefore what was given (`Uri.decodeQuery_build`).
-/

namespace Routebook

set_option autoImplicit false

/-! ## Escapes -/

namespace Http

theorem hexDigit?_upperHexDigit {number : Nat} (small : number < 16) :
    Json.hexDigit? (Uri.upperHexDigit number) = some number := by
  have digits : ∀ digit : Fin 16,
      Json.hexDigit? (Uri.upperHexDigit digit) = some digit.val := by decide
  exact digits ⟨number, small⟩

/-- An escaped byte is read as that byte. -/
theorem unquoteBytes_percentByte (byte : UInt8) (rest : List Char) :
    unquoteBytes (Uri.percentByte byte ++ rest) = byte :: unquoteBytes rest := by
  have bound : byte.toNat < 256 := byte.toNat_lt
  have number : Json.hexNumber? [Uri.upperHexDigit (byte.toNat / 16),
      Uri.upperHexDigit (byte.toNat % 16)] = some byte.toNat := by
    simp only [Json.hexNumber?, List.foldlM_cons, List.foldlM_nil,
      hexDigit?_upperHexDigit (show byte.toNat / 16 < 16 by omega),
      hexDigit?_upperHexDigit (show byte.toNat % 16 < 16 by omega)]
    change some ((0 * 16 + byte.toNat / 16) * 16 + byte.toNat % 16) = some byte.toNat
    rw [Nat.zero_mul, Nat.zero_add, Nat.div_add_mod']
  simp only [Uri.percentByte, List.cons_append, List.nil_append]
  rw [unquoteBytes, number]
  simp

theorem unquoteBytes_cons {character : Char} (plain : character ≠ '%') (rest : List Char) :
    unquoteBytes (character :: rest) = Text.utf8Bytes character ++ unquoteBytes rest := by
  rw [unquoteBytes]
  intro first second tail same
  exact absurd same plain

/-- Escaped bytes are read as these bytes. -/
theorem unquoteBytes_flatMap (bytes : List UInt8) (rest : List Char) :
    unquoteBytes (bytes.flatMap Uri.percentByte ++ rest) = bytes ++ unquoteBytes rest := by
  induction bytes with
  | nil => rfl
  | cons byte bytes inductionHypothesis =>
      rw [List.flatMap_cons, List.append_assoc, unquoteBytes_percentByte, inductionHypothesis,
        List.cons_append]

/-- A character as it stands in an encoded text is read as its bytes. -/
theorem unquoteBytes_percentCharacter (character : Char) (rest : List Char) :
    unquoteBytes (Uri.percentCharacter character ++ rest)
      = Text.utf8Bytes character ++ unquoteBytes rest := by
  rw [Uri.percentCharacter]
  by_cases kept : Uri.isUnreserved character = true
  · have plain : character ≠ '%' := by
      rintro rfl
      exact absurd kept (by decide)
    rw [if_pos kept, List.singleton_append, unquoteBytes_cons plain]
  · rw [if_neg kept, unquoteBytes_flatMap]

/-- **The escapes of an encoded text are its bytes.** -/
theorem unquoteBytes_percentEncode (text : List Char) :
    unquoteBytes (Uri.percentEncode text) = Text.utf8Encode text := by
  induction text with
  | nil => rw [Uri.percentEncode, List.flatMap_nil, unquoteBytes, Text.utf8Encode, List.flatMap_nil]
  | cons character text inductionHypothesis =>
      have written : Uri.percentEncode (character :: text)
          = Uri.percentCharacter character ++ Uri.percentEncode text := List.flatMap_cons
      have bytes : Text.utf8Encode (character :: text)
          = Text.utf8Bytes character ++ Text.utf8Encode text := List.flatMap_cons
      rw [written, bytes, unquoteBytes_percentCharacter, inductionHypothesis]

end Http

namespace Uri

/-! ## Reading -/

/-- The text of an encoded value. -/
def decodeValue (text : List Char) : Except Text.Undecodable String :=
  (Text.utf8Decode (Http.unquoteBytes text)).map String.ofList

/-- The entry that a piece of a query is: the text before its first equals sign, and the value after
it. -/
def decodePiece (piece : List Char) : Except Text.Undecodable (String × String) :=
  let (key, value) := Text.cut '=' piece
  (decodeValue (value.getD [])).map fun text => (String.ofList key, text)

/-- The entries of the query of an address; there are none without a question mark. -/
def decodeQuery (address : String) : Except Text.Undecodable (List (String × String)) :=
  match (Text.cut '?' address.toList).2 with
  | none => .ok []
  | some query => (Text.split '&' query).mapM decodePiece

theorem decodeValue_percentEncode (text : String) :
    decodeValue (percentEncode text.toList) = .ok text := by
  rw [decodeValue, Http.unquoteBytes_percentEncode, Text.utf8Decode_utf8Encode]
  exact congrArg Except.ok String.ofList_toList

/-- The path of a pattern ends before the first question mark. -/
theorem not_mem_literalPath (template : String) :
    '?' ∉ (Template.parse template).literalPath.toList := by
  have path : (Template.parse template).literalPath.toList
      = (Text.cut '?' template.toList).1 := String.toList_ofList
  rw [path]
  exact Text.not_mem_cut_fst _ _

/-- After a path without question marks there is one exactly when the query has entries. -/
theorem mem_append_queryPart {path : List Char} (plainPath : '?' ∉ path)
    (entries : List (String × List Char)) :
    '?' ∈ path ++ queryPart entries ↔ entries ≠ [] := by
  by_cases empty : entries = []
  · simp [queryPart, empty, plainPath]
  · simp [queryPart, empty]

section Runtimes

variable [Runtime]

/-- The piece of an entry is read as the entry. -/
theorem decodePiece_entry {key : String} (plain : '=' ∉ key.toList) {value : Value}
    (renderable : Renderable true value) :
    decodePiece (key.toList ++ '=' :: rendered true value) = .ok (key, stringified value) := by
  have decoded := decodeValue_percentEncode (stringified value)
  rw [decodePiece, Text.cut_append plain]
  simp only [Option.getD_some, renderable.rendered_eq, if_true, decoded, Except.map,
    String.ofList_toList]

/-! ## Marks in an address -/

/-- A reserved character other than the percent sign is in no encoded value. -/
theorem not_mem_rendered {character : Char} (reserved : isUnreserved character = false)
    (noPercent : character ≠ '%') (value : Value) : character ∉ rendered true value := by
  intro present
  rcases mem_rendered present with unreserved | percent
  · rw [reserved] at unreserved
    cases unreserved
  · exact noPercent percent

/-- Substitutions bring no character that the values lack. -/
theorem not_mem_substituteAll {character : Char} {encode : Bool}
    {arguments : List (String × Value)} {address : List Char} (absent : character ∉ address)
    (foreign : ∀ argument ∈ arguments, character ∉ rendered encode argument.2) :
    character ∉ substituteAll encode arguments address := by
  induction arguments generalizing address with
  | nil => exact absent
  | cons argument arguments inductionHypothesis =>
      rw [List.forall_mem_cons] at foreign
      exact inductionHypothesis (Text.not_mem_replaceAll absent foreign.1) foreign.2

/-- A reserved character that is neither a percent sign nor a slash comes into a path from the root
or from the pattern alone when the values are encoded. -/
theorem not_mem_pathPart_of_not_mem {character : Char} (reserved : isUnreserved character = false)
    (noPercent : character ≠ '%') (noSlash : character ≠ '/') {root : String} {pattern : Pattern}
    (plainRoot : character ∉ root.toList) (plainPath : character ∉ pattern.literalPath.toList)
    (supplied : List (String × Value)) : character ∉ pathPart root pattern true supplied := by
  refine not_mem_substituteAll ?_ fun argument _ =>
    not_mem_rendered reserved noPercent argument.2
  unfold joinCharacters
  dsimp only
  split <;> split <;> simp_all

/-- The path of an address has no question mark when the root has none and the values are encoded.
-/
theorem not_mem_pathPart {root : String} (plainRoot : '?' ∉ root.toList) (template : String)
    (supplied : List (String × Value)) :
    '?' ∉ pathPart root (Template.parse template) true supplied :=
  not_mem_pathPart_of_not_mem (by decide) (by decide) (by decide) plainRoot
    (not_mem_literalPath template) supplied

/-! ## Queries that are read back -/

/-- Entries whose keys have neither mark are read as they were given. -/
theorem mapM_decodePiece {arguments : List (String × Value)}
    (plain : ∀ argument ∈ arguments, '=' ∉ argument.1.toList)
    (renderable : ∀ argument ∈ arguments, Renderable true argument.2) :
    ((queryEntries true arguments).map fun entry => entry.1.toList ++ '=' :: entry.2).mapM
        decodePiece
      = .ok (arguments.map fun argument => (argument.1, stringified argument.2)) := by
  rw [queryEntries, List.map_map, List.mapM_map]
  exact Outcome.mapM_eq_ok fun argument given =>
    decodePiece_entry (plain argument given) (renderable argument given)

/-- After a path without question marks the entries are read as they were given, when no key has a
mark of the query. -/
theorem decodeQuery_append_queryPart {path : List Char} (plainPath : '?' ∉ path)
    {arguments : List (String × Value)}
    (plainKeys : ∀ argument ∈ arguments, '&' ∉ argument.1.toList ∧ '=' ∉ argument.1.toList)
    (renderable : ∀ argument ∈ arguments, Renderable true argument.2) :
    decodeQuery (String.ofList (path ++ queryPart (queryEntries true arguments)))
      = .ok (arguments.map fun argument => (argument.1, stringified argument.2)) := by
  rw [decodeQuery, String.toList_ofList]
  cases arguments with
  | nil =>
      have empty : queryPart (queryEntries true []) = [] := rfl
      rw [empty, List.append_nil, Text.cut_of_not_mem plainPath]
      rfl
  | cons argument arguments =>
      have full : queryEntries true (argument :: arguments) ≠ [] := List.cons_ne_nil _ _
      have separate : ∀ piece ∈ (queryEntries true (argument :: arguments)).map fun entry =>
          entry.1.toList ++ '=' :: entry.2, '&' ∉ piece := by
        intro piece present
        simp only [queryEntries, List.map_map] at present
        obtain ⟨argument, given, rfl⟩ := List.mem_map.mp present
        have value : '&' ∉ rendered true argument.2 :=
          not_mem_rendered (by decide) (by decide) argument.2
        simp [(plainKeys argument given).1, value]
      have read := mapM_decodePiece (fun argument given => (plainKeys argument given).2) renderable
      rw [queryPart, if_neg full, Text.cut_append plainPath]
      dsimp only
      rw [Text.split_intercalate (by simp [queryEntries]) separate, read]

/-- **With encoded values a query is read back as it was given.**  An address is built exactly when
the arguments that are used have whole texts.  There is a question mark in it exactly when an
argument goes to the query, and the entries of the query are the keys and the texts of these
arguments in their order; no value adds, removes or changes an entry. -/
theorem decodeQuery_build {root : String} (plainRoot : '?' ∉ root.toList) (template : String)
    {arguments : List (String × Value)}
    (plainKeys : ∀ argument ∈ (Template.parse template).playing .query arguments,
      '&' ∉ argument.1.toList ∧ '=' ∉ argument.1.toList) :
    ((∃ resolution,
        build root (Template.parse template) true (.mapping (textEntries arguments))
          = .ok resolution) ↔
      ∀ argument ∈ arguments, (Template.parse template).role argument.1 ≠ .unused →
        ∃ text, stringify argument.2 = .ok text ∧ Text.isWhole text.toList = true) ∧
    ∀ resolution,
      build root (Template.parse template) true (.mapping (textEntries arguments))
        = .ok resolution →
      ('?' ∈ resolution.uri.toList
        ↔ ∃ argument ∈ arguments, (Template.parse template).role argument.1 = .query) ∧
      ∃ entries,
        ((Template.parse template).playing .query arguments).mapM (fun argument =>
          (stringify argument.2).map fun text => (argument.1, text)) = .ok entries ∧
        decodeQuery resolution.uri = .ok entries := by
  constructor
  · rw [exists_build_textEntries_iff]
    simp only [renderable_iff, forall_const]
  · intro resolution built
    obtain ⟨renderable, rfl⟩ :=
      (build_eq_ok_iff_reportOf root (Template.parse template) true arguments).mp built
    have texts : ∀ argument ∈ (Template.parse template).playing .query arguments,
        Renderable true argument.2 := by
      intro argument plays
      obtain ⟨given, asks⟩ := (Pattern.mem_playing _).mp plays
      exact renderable argument given (by simp [asks])
    have plainPath := not_mem_pathPart plainRoot template
      ((Template.parse template).playing .path arguments)
    refine ⟨?_, _, Outcome.mapM_eq_ok fun argument plays => ?_,
      decodeQuery_append_queryPart plainPath plainKeys texts⟩
    · have asked : queryEntries true ((Template.parse template).playing .query arguments) ≠ []
          ↔ ∃ argument ∈ arguments, (Template.parse template).role argument.1 = .query := by
        simp only [queryEntries, ne_eq, List.map_eq_nil_iff, ← Pattern.mem_playing]
        constructor
        · exact List.exists_mem_of_ne_nil _
        · rintro ⟨argument, present⟩
          exact List.ne_nil_of_mem present
      rw [← asked, ← mem_append_queryPart plainPath, reportOf, assemble, String.toList_ofList]
    · rw [(texts argument plays).stringify]
      rfl

end Runtimes

/-- Arguments whose texts are full of the marks of a query. -/
def markedArguments : List (String × Value) :=
  [("q", .text "a&b=c?d#e+%41 é€😀"), ("id", .text "?q=1&x=2"), ("", .truth true)]

section Usual

attribute [local instance] Runtime.usual

/-- The marks in the texts are not taken for those of the query. -/
theorem decodeQuery_build_marked :
    ∃ resolution,
      build "http://h" (Template.parse "/$\x7bid\x7d?q|") true (.mapping (textEntries markedArguments))
        = .ok resolution ∧
      '?' ∈ resolution.uri.toList ∧
      decodeQuery resolution.uri
        = .ok [("q", "a&b=c?d#e+%41 é€😀"), ("", "true")] := by
  have plainRoot : '?' ∉ "http://h".toList := by decide
  have plainKeys : ∀ argument ∈
      (Template.parse "/$\x7bid\x7d?q|").playing .query markedArguments,
      '&' ∉ argument.1.toList ∧ '=' ∉ argument.1.toList := by decide +kernel
  have asked : ∃ argument ∈ markedArguments,
      (Template.parse "/$\x7bid\x7d?q|").role argument.1 = .query := by decide +kernel
  obtain ⟨builds, reads⟩ := decodeQuery_build plainRoot _ plainKeys
  obtain ⟨resolution, built⟩ := builds.mpr <| by
    have renderable : ∀ argument ∈ markedArguments, Renderable true argument.2 := by decide +kernel
    intro argument given _
    simpa using renderable_iff.mp (renderable argument given)
  obtain ⟨marked, entries, texts, read⟩ := reads resolution built
  have given : (((Template.parse "/$\x7bid\x7d?q|").playing .query markedArguments).mapM
      fun argument => (stringify argument.2).map fun text => (argument.1, text)).toOption
        = some [("q", "a&b=c?d#e+%41 é€😀"), ("", "true")] := by decide +kernel
  rw [texts] at given
  rw [Option.some.inj given] at read
  exact ⟨resolution, built, marked.mpr asked, read⟩

example : (build "http://h" (Template.parse "/$\x7bid\x7d?q|") true
    (.mapping (textEntries markedArguments))).toOption.map Resolution.uri
      = some ("http://h/%3Fq%3D1%26x%3D2?q=a%26b%3Dc%3Fd%23e%2B%2541%20%C3%A9%E2%82%AC%F0%9F%98%80"
        ++ "&=true") := by
  decide +kernel

end Usual

end Uri

end Routebook

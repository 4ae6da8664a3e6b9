import Routebook.Http.Url
import Routebook.Proofs.Uri.Query

/-!
# Forms that are read back

The text of a form is made of escapes, unreserved characters and the marks between them, whether its
spaces are written as plus signs or as escapes (`Http.FormCoding`).  Such a text is read as the
entries it was written from (`Http.decodeForm_written`), and quoting a query keeps it as it is
(`Http.quoteKeeping_written`).
-/

namespace Routebook.Http

set_option autoImplicit false

/-! ## Codings -/

/-- A way to write the characters of a form: as in an address, but perhaps with a plus sign for a
space. -/
def FormCoding (piece : Char → List Char) : Prop :=
  ∀ character, piece character = Uri.percentCharacter character ∨
    character = ' ' ∧ piece character = ['+']

/-- A character as it stands in a form. -/
def formCharacter (character : Char) : List Char :=
  if character == ' ' then ['+'] else Uri.percentCharacter character

theorem coding_percentCharacter : FormCoding Uri.percentCharacter := fun _ => .inl rfl

theorem coding_formCharacter : FormCoding formCharacter := by
  intro character
  by_cases space : character = ' '
  · exact .inr ⟨space, if_pos (beq_iff_eq.mpr space)⟩
  · exact .inl (if_neg fun same => space (beq_iff_eq.mp same))

/-- A plus sign in a form stands for a space. -/
def plusToSpace (character : Char) : Char := if character == '+' then ' ' else character

theorem map_plusToSpace {text : List Char} (absent : '+' ∉ text) :
    text.map plusToSpace = text := by
  refine (List.map_congr_left fun character present => ?_).trans (List.map_id text)
  refine if_neg fun same => absent ?_
  rwa [← beq_iff_eq.mp same]

theorem not_mem_percentEncode {mark : Char} (reserved : Uri.isUnreserved mark = false)
    (noPercent : mark ≠ '%') (text : List Char) : mark ∉ Uri.percentEncode text := by
  intro present
  rcases Uri.mem_percentEncode present with unreserved | percent
  · rw [reserved] at unreserved
    cases unreserved
  · exact noPercent percent

theorem not_mem_percentCharacter {mark : Char} (reserved : Uri.isUnreserved mark = false)
    (noPercent : mark ≠ '%') (character : Char) : mark ∉ Uri.percentCharacter character := by
  have single : Uri.percentEncode [character] = Uri.percentCharacter character :=
    List.append_nil _
  exact single ▸ not_mem_percentEncode reserved noPercent [character]

section Pieces

variable {piece : Char → List Char} (coding : FormCoding piece)

include coding

/-- No other mark stands in what is written. -/
theorem FormCoding.not_mem_flatMap {mark : Char} (reserved : Uri.isUnreserved mark = false)
    (noPercent : mark ≠ '%') (noPlus : mark ≠ '+') (text : List Char) :
    mark ∉ text.flatMap piece := by
  intro present
  obtain ⟨character, -, written⟩ := List.mem_flatMap.mp present
  rcases coding character with escaped | ⟨-, plus⟩
  · rw [escaped] at written
    exact not_mem_percentCharacter reserved noPercent character written
  · rw [plus, List.mem_singleton] at written
    exact noPlus written

/-- A character of a form is read as its bytes. -/
theorem FormCoding.unquoteBytes_append (character : Char) (rest : List Char) :
    unquoteBytes ((piece character).map plusToSpace ++ rest)
      = Text.utf8Bytes character ++ unquoteBytes rest := by
  rcases coding character with escaped | ⟨rfl, plus⟩
  · rw [escaped, map_plusToSpace (not_mem_percentCharacter (by decide) (by decide) character),
      unquoteBytes_percentCharacter]
  · rw [plus]
    exact unquoteBytes_cons (by decide) rest

theorem FormCoding.unquoteBytes_flatMap (text : List Char) :
    unquoteBytes ((text.flatMap piece).map plusToSpace) = Text.utf8Encode text := by
  induction text with
  | nil => rw [List.flatMap_nil, List.map_nil, unquoteBytes, Text.utf8Encode, List.flatMap_nil]
  | cons character text inductionHypothesis =>
      have bytes : Text.utf8Encode (character :: text)
          = Text.utf8Bytes character ++ Text.utf8Encode text := List.flatMap_cons
      rw [List.flatMap_cons, List.map_append, coding.unquoteBytes_append, inductionHypothesis,
        bytes]

/-- **A text that is written into a form is read back.** -/
theorem FormCoding.formDecode_flatMap (text : List Char) :
    formDecode (text.flatMap piece) = text := by
  have bytes := coding.unquoteBytes_flatMap text
  rw [formDecode, unquote]
  refine (congrArg Text.utf8DecodeReplacing bytes).trans ?_
  exact Text.utf8DecodeReplacing_utf8Encode text

end Pieces

/-! ## Entries -/

/-- An entry of a form as it is written. -/
def writtenEntry (piece : Char → List Char) (entry : String × String) : List Char :=
  entry.1.toList.flatMap piece ++ '=' :: entry.2.toList.flatMap piece

/-- The text of a form with the given entries. -/
def written (piece : Char → List Char) (entries : List (String × String)) : List Char :=
  ['&'].intercalate (entries.map (writtenEntry piece))

theorem encodeForm_eq (entries : List (String × String)) :
    encodeForm entries = written formCharacter entries := rfl

section Entries

variable {piece : Char → List Char} (coding : FormCoding piece)

include coding

theorem FormCoding.not_mem_writtenEntry {mark : Char} (reserved : Uri.isUnreserved mark = false)
    (noPercent : mark ≠ '%') (noPlus : mark ≠ '+') (noEquals : mark ≠ '=')
    (entry : String × String) : mark ∉ writtenEntry piece entry := by
  have absent := coding.not_mem_flatMap reserved noPercent noPlus
  rw [writtenEntry, List.mem_append, List.mem_cons, not_or, not_or]
  exact ⟨absent _, noEquals, absent _⟩

theorem FormCoding.decodeEntry_writtenEntry (entry : String × String) :
    decodeEntry (writtenEntry piece entry) = entry := by
  have plain : '=' ∉ entry.1.toList.flatMap piece :=
    coding.not_mem_flatMap (by decide) (by decide) (by decide) _
  rw [decodeEntry, writtenEntry, Text.cut_append plain]
  dsimp only
  rw [Option.getD_some, coding.formDecode_flatMap, coding.formDecode_flatMap, String.ofList_toList,
    String.ofList_toList]

/-- **The text of a form is read as the entries that it was written from.** -/
theorem decodeForm_written (entries : List (String × String)) :
    decodeForm (written piece entries) = entries := by
  cases entries with
  | nil => rfl
  | cons entry rest =>
      have separate : ∀ text ∈ (entry :: rest).map (writtenEntry piece), '&' ∉ text := by
        intro text present
        obtain ⟨one, -, rfl⟩ := List.mem_map.mp present
        exact coding.not_mem_writtenEntry (by decide) (by decide) (by decide) (by decide) one
      have full : ∀ text ∈ (entry :: rest).map (writtenEntry piece), (!text.isEmpty) = true := by
        intro text present
        obtain ⟨one, -, rfl⟩ := List.mem_map.mp present
        simp [writtenEntry]
      have nonempty : (entry :: rest).map (writtenEntry piece) ≠ [] := List.cons_ne_nil _ _
      rw [decodeForm, written, Text.split_intercalate nonempty separate,
        List.filter_eq_self.mpr full, List.map_map]
      refine (List.map_congr_left fun one _ => ?_).trans (List.map_id _)
      exact coding.decodeEntry_writtenEntry one

end Entries

/-! ## Quoting -/

/-- Whether quoting keeps a text, whatever follows it. -/
def Kept (isSafe : Char → Bool) (text : List Char) : Prop :=
  ∀ rest, quoteKeeping isSafe (text ++ rest) = text ++ quoteKeeping isSafe rest

namespace Kept

variable {isSafe : Char → Bool} {text other : List Char}

theorem quoteKeeping_eq (kept : Kept isSafe text) : quoteKeeping isSafe text = text := by
  have whole := kept []
  rwa [List.append_nil, quoteKeeping, List.append_nil] at whole

theorem nil : Kept isSafe [] := fun _ => rfl

theorem append (first : Kept isSafe text) (second : Kept isSafe other) :
    Kept isSafe (text ++ other) := by
  intro rest
  rw [List.append_assoc, first, second, List.append_assoc]

theorem singleton {character : Char}
    (allowed : Uri.isUnreserved character = true ∨ isSafe character = true) :
    Kept isSafe [character] := by
  intro rest
  have kept : (startsWithEscape (character :: rest) || Uri.isUnreserved character
      || isSafe character) = true := by
    rcases allowed with unreserved | safe
    · rw [unreserved, Bool.or_true, Bool.true_or]
    · rw [safe, Bool.or_true]
  rw [List.singleton_append, quoteKeeping, if_pos kept, List.singleton_append]

theorem flatMap {item : Type} {items : List item} {form : item → List Char}
    (each : ∀ one ∈ items, Kept isSafe (form one)) : Kept isSafe (items.flatMap form) := by
  induction items with
  | nil => exact nil
  | cons one rest inductionHypothesis =>
      rw [List.forall_mem_cons] at each
      rw [List.flatMap_cons]
      exact each.1.append (inductionHypothesis each.2)

theorem intercalate {separator : List Char} {pieces : List (List Char)}
    (between : Kept isSafe separator) (each : ∀ piece ∈ pieces, Kept isSafe piece) :
    Kept isSafe (separator.intercalate pieces) := by
  induction pieces with
  | nil => exact nil
  | cons piece rest inductionHypothesis =>
      rw [List.forall_mem_cons] at each
      cases rest with
      | nil =>
          rw [List.intercalate_singleton]
          exact each.1
      | cons next rest =>
          rw [List.intercalate_cons_cons]
          exact (each.1.append between).append (inductionHypothesis each.2)

/-- An escape is kept. -/
theorem percentByte (byte : UInt8) : Kept isSafe (Uri.percentByte byte) := by
  intro rest
  have bound : byte.toNat < 256 := byte.toNat_lt
  have high : byte.toNat / 16 < 16 := by omega
  have low : byte.toNat % 16 < 16 := by omega
  have escape : startsWithEscape ('%' :: Uri.upperHexDigit (byte.toNat / 16)
      :: Uri.upperHexDigit (byte.toNat % 16) :: rest) = true := by
    rw [startsWithEscape, hexDigit?_upperHexDigit high, hexDigit?_upperHexDigit low]
    rfl
  have first : Kept isSafe [Uri.upperHexDigit (byte.toNat / 16)] :=
    singleton (.inl (Uri.isUnreserved_upperHexDigit high))
  have second : Kept isSafe [Uri.upperHexDigit (byte.toNat % 16)] :=
    singleton (.inl (Uri.isUnreserved_upperHexDigit low))
  have digits := (first.append second) rest
  simp only [Uri.percentByte, List.cons_append, List.nil_append] at digits ⊢
  rw [quoteKeeping, escape, digits]
  rfl

theorem percentCharacter (character : Char) : Kept isSafe (Uri.percentCharacter character) := by
  rw [Uri.percentCharacter]
  split
  · exact singleton (.inl ‹_›)
  · exact flatMap fun byte _ => percentByte byte

end Kept

/-- **Quoting a query keeps the text of a form.** -/
theorem quoteKeeping_written {piece : Char → List Char} (coding : FormCoding piece)
    (entries : List (String × String)) :
    quoteKeeping (isPlainSafe queryUnsafe) (written piece entries) = written piece entries := by
  have characters : ∀ character, Kept (isPlainSafe queryUnsafe) (piece character) := by
    intro character
    rcases coding character with escaped | ⟨-, plus⟩
    · rw [escaped]
      exact Kept.percentCharacter character
    · rw [plus]
      exact Kept.singleton (.inr (by decide))
  have texts (text : List Char) : Kept (isPlainSafe queryUnsafe) (text.flatMap piece) :=
    Kept.flatMap fun character _ => characters character
  refine Kept.quoteKeeping_eq (Kept.intercalate (Kept.singleton (.inr (by decide))) ?_)
  intro text present
  obtain ⟨entry, -, rfl⟩ := List.mem_map.mp present
  have equals : Kept (isPlainSafe queryUnsafe) ['='] := Kept.singleton (.inr (by decide))
  exact (texts _).append (equals.append (texts _))

end Routebook.Http

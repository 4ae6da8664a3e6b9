import Routebook.Json.Reader
import Routebook.Proofs.Text.Search

/-!
# The limits of the reader

The reader refuses a document for two reasons besides the grammar: an integer with too many digits,
and containers nested too deeply.  Both can be seen in the text.  A document refused for its digits
holds more of them in a row than the limit (`Json.holdsLongInteger_of_parse`), and one refused for
its depth has more opening brackets than there is room for (`Json.openings_of_parse`); the same
holds of the text that bytes are read as (`Json.readDocument_of_parseBytes`).  In the other
direction, brackets that only open are refused as soon as they pass the limit
(`Json.parse_brackets`).
-/

namespace Routebook.Json

set_option autoImplicit false

variable {α β : Type} {room : Nat} {text rest : List Char}

/-! ## What a reading says about the text -/

/-- Whether a character opens a container. -/
def opens (character : Char) : Bool := character == '[' || character == '\x7b'

/-- The number of brackets in a text that open a container. -/
def openings (text : List Char) : Nat := text.countP opens

/-- Whether more digits stand in a row than are read as an integer. -/
def HoldsLongInteger (text : List Char) : Prop :=
  ∃ digits, digits <:+: text ∧ (∀ digit ∈ digits, digit.isDigit = true) ∧
    Number.digitLimit < digits.length

/-- What the result of a reading with room for some containers says about the text. -/
def Reads (room : Nat) (text : List Char) : Except Stop (α × List Char) → Prop
  | .ok (_, rest) => rest <:+ text
  | .error .tooManyDigits => HoldsLongInteger text
  | .error .tooDeep => room < openings text
  | .error (.malformed _ _) => True

theorem openings_le_of_suffix (later : rest <:+ text) : openings rest ≤ openings text :=
  later.sublist.countP_le

theorem openings_cons {bracket : Char} (opened : opens bracket = true) :
    openings (bracket :: text) = openings text + 1 :=
  List.countP_cons_of_pos opened

theorem HoldsLongInteger.of_suffix (later : rest <:+ text) (holds : HoldsLongInteger rest) :
    HoldsLongInteger text := by
  obtain ⟨digits, inside, all, long⟩ := holds
  exact ⟨digits, inside.trans later.isInfix, all, long⟩

/-- What holds of the end of a text holds of the text. -/
theorem Reads.of_suffix {result : Except Stop (α × List Char)} (later : rest <:+ text)
    (reads : Reads room rest result) : Reads room text result := by
  cases result with
  | ok pair => exact List.IsSuffix.trans reads later
  | error stop =>
      cases stop with
      | malformed reason remaining => trivial
      | tooManyDigits => exact HoldsLongInteger.of_suffix later reads
      | tooDeep => exact Nat.lt_of_lt_of_le reads (openings_le_of_suffix later)

/-- What follows a reading starts at the end of the text that the reading left. -/
theorem Reads.bind {first : Except Stop (α × List Char)}
    {next : α × List Char → Except Stop (β × List Char)} (reads : Reads room text first)
    (goesOn : ∀ value rest, rest <:+ text → Reads room text (next (value, rest))) :
    Reads room text (first >>= next) := by
  cases first with
  | ok pair => exact goesOn pair.1 pair.2 reads
  | error stop => cases stop <;> exact reads

/-- What is made of the value of a reading does not matter. -/
theorem Reads.map {result : Except Stop (α × List Char)} (reads : Reads room text result)
    (change : α → β) :
    Reads room text (do let (value, rest) ← result; return (change value, rest)) :=
  Reads.bind reads fun _ _ later => later

/-- Opening a container takes up room for one, and without room for it the reading fails. -/
theorem Reads.of_opened {result : Except Stop (α × List Char)} {bracket : Char}
    (opened : opens bracket = true) (reads : room ≠ 0 → Reads (room - 1) text result) :
    Reads room (bracket :: text) (if room == 0 then .error .tooDeep else result) := by
  have counted : openings (bracket :: text) = openings text + 1 := openings_cons opened
  have inside : text <:+ bracket :: text := List.suffix_cons _ _
  split
  · rename_i full
    have none : room = 0 := by simpa using full
    change room < openings (bracket :: text)
    omega
  · rename_i remains
    have inner := reads (by simpa using remains)
    cases result with
    | ok pair => exact List.IsSuffix.trans inner inside
    | error stop =>
        cases stop with
        | malformed reason remaining => trivial
        | tooManyDigits => exact HoldsLongInteger.of_suffix inside inner
        | tooDeep =>
            have fewer : room - 1 < openings text := inner
            change room < openings (bracket :: text)
            omega

/-! ## Numbers and words -/

theorem takeWhole_append (text : List Char) : (takeWhole text).1 ++ (takeWhole text).2 = text := by
  unfold takeWhole
  split
  · rfl
  · exact List.takeWhile_append_dropWhile

theorem isDigit_of_mem_takeWhole {digit : Char} (inside : digit ∈ (takeWhole text).1) :
    digit.isDigit = true := by
  unfold takeWhole at inside
  split at inside
  · rw [List.mem_singleton.mp inside]
    rfl
  · exact List.all_eq_true.mp List.all_takeWhile digit inside

theorem takeFraction_suffix (text : List Char) : (takeFraction text).2 <:+ text := by
  unfold takeFraction
  split
  · dsimp only
    split
    · exact List.suffix_refl _
    · exact (List.dropWhile_suffix _).trans (List.suffix_cons _ _)
  · exact List.suffix_refl _

theorem takeExponent_suffix (text : List Char) : (takeExponent text).2 <:+ text := by
  have digits : ∀ (sign : Int) (tail : List Char), tail <:+ text →
      ((if (tail.takeWhile Char.isDigit).isEmpty then (none, text)
        else (some (sign * (Number.digitsValue (tail.takeWhile Char.isDigit) : Int)),
          tail.dropWhile Char.isDigit) : Option Int × List Char)).2 <:+ text := by
    intro sign tail later
    split
    · exact List.suffix_refl _
    · exact (List.dropWhile_suffix _).trans later
  cases text with
  | nil => exact List.suffix_refl _
  | cons letter rest =>
      unfold takeExponent
      dsimp only
      split
      · split
        · exact digits 1 _ ⟨[_, _], rfl⟩
        · exact digits (-1) _ ⟨[_, _], rfl⟩
        · exact digits 1 _ (List.suffix_cons _ _)
      · exact List.suffix_refl _

theorem reads_readNumber? {negative : Bool} {result : Except Stop (Value × List Char)}
    (read : readNumber? negative text = some result) : Reads room text result := by
  have whole := takeWhole_append text
  have inside : (takeWhole text).2 <:+ text := ⟨_, whole⟩
  have later : (takeExponent (takeFraction (takeWhole text).2).2).2 <:+ text :=
    (takeExponent_suffix _).trans ((takeFraction_suffix _).trans inside)
  unfold readNumber? at read
  dsimp only at read
  split at read
  · cases read
  · split at read
    · split at read
      · rename_i long
        cases read
        exact ⟨(takeWhole text).1, ⟨[], _, whole⟩, fun digit => isDigit_of_mem_takeWhole, long⟩
      · cases read
        exact later
    · cases read
      exact later

/-- A number is read, or else the text is refused as no value. -/
theorem reads_readNumber?_getD (negative : Bool) (reason : Reason) (remaining : Nat) :
    Reads room text ((readNumber? negative text).getD (.error (.malformed reason remaining))) := by
  cases read : readNumber? negative text with
  | none => trivial
  | some result => exact reads_readNumber? read

theorem suffix_of_readWord? {value : Value} (read : readWord? text = some (value, rest)) :
    rest <:+ text := by
  obtain ⟨entry, present, found⟩ := List.exists_of_findSome?_eq_some read
  obtain ⟨after, dropped, same⟩ := Option.map_eq_some_iff.mp found
  cases same
  exact ⟨entry.1, (Text.dropWord?_eq_some_iff.mp dropped).symm⟩

/-! ## Blanks and places -/

theorem skipBlanks_suffix (text : List Char) : skipBlanks text <:+ text :=
  List.dropWhile_suffix _

/-- Finding the place of a refusal does not turn one into a refusal at a limit. -/
theorem eq_error_of_located {result : Except Stop Value} {stop : Stop}
    (limit : stop = .tooManyDigits ∨ stop = .tooDeep)
    (refused : located text result = .error (stop.locate text)) : result = .error stop := by
  cases result with
  | ok value => cases refused
  | error found =>
      have same : found.locate text = stop.locate text := Except.error.inj refused
      rcases limit with rfl | rfl <;> cases found <;> first | rfl | cases same

/-! ## Texts -/

theorem reads_codeUnit (text : List Char) : Reads room text (codeUnit text) := by
  unfold codeUnit
  dsimp only
  split
  · split
    · exact ⟨[_, _, _, _], rfl⟩
    · trivial
  · trivial

variable [Runtime]

theorem reads_joinHalves (code : Nat) (text : List Char) :
    Reads room text (joinHalves code text) := by
  unfold joinHalves
  split
  · split
    · rename_i tail
      have after : tail <:+ '\\' :: 'u' :: tail := ⟨['\\', 'u'], rfl⟩
      split
      · exact List.suffix_refl _
      · refine Reads.bind (Reads.of_suffix after (reads_codeUnit tail)) fun trailing rest later => ?_
        dsimp only
        split
        · exact later
        · exact List.suffix_refl _
    · exact List.suffix_refl _
  · split
    · exact List.suffix_refl _
    · exact List.suffix_refl _

theorem reads_readText (opening budget : Nat) (text : List Char) :
    Reads room text (readText opening budget text) := by
  fun_induction readText opening budget text with
  | case1 | case2 | case3 | case6 | case8 => trivial
  | case4 budget rest => exact List.suffix_cons _ _
  | case5 budget rest inductionHypothesis =>
      have inside : rest <:+ '\\' :: 'u' :: rest := ⟨['\\', 'u'], rfl⟩
      refine Reads.of_suffix inside ?_
      refine Reads.bind (reads_codeUnit rest) fun code after later => ?_
      refine Reads.of_suffix later (Reads.bind (reads_joinHalves code after) ?_)
      intro character after later
      exact Reads.of_suffix later (Reads.map (inductionHypothesis after) (character :: ·))
  | case7 budget letter rest differs character escaped inductionHypothesis =>
      have inside : rest <:+ '\\' :: letter :: rest := ⟨['\\', letter], rfl⟩
      refine Reads.of_suffix inside ?_
      exact Reads.map inductionHypothesis (character :: ·)
  | case9 budget character rest _ _ _ _ _ inductionHypothesis =>
      refine Reads.of_suffix (List.suffix_cons _ _) ?_
      exact Reads.map inductionHypothesis (character :: ·)

/-! ## Values -/

section Steps

variable {budget : Nat}

theorem reads_readValue_succ
    (items : ∀ room text, Reads room text (readItems room budget text))
    (members : ∀ room text, Reads room text (readMembers room budget text))
    (room : Nat) (text : List Char) : Reads room text (readValue room (budget + 1) text) := by
  unfold readValue
  split
  · trivial
  · trivial
  · rename_i rest same
    refine Reads.of_suffix (List.suffix_cons _ _) ?_
    exact Reads.map (reads_readText _ _ rest) fun content => Value.text (String.ofList content)
  · rename_i rest same
    cases same
    refine Reads.of_opened rfl fun _ => ?_
    have skipped := skipBlanks_suffix rest
    split
    · rename_i after closed
      rw [closed] at skipped
      exact (List.suffix_cons _ _).trans skipped
    · exact Reads.of_suffix skipped (Reads.map (items _ _) Value.list)
  · rename_i rest same
    cases same
    refine Reads.of_opened rfl fun _ => ?_
    have skipped := skipBlanks_suffix rest
    split
    · rename_i after closed
      rw [closed] at skipped
      exact (List.suffix_cons _ _).trans skipped
    · exact Reads.of_suffix skipped
        (Reads.map (members _ _) fun members => Value.mapping (Value.ofPairs members))
  · split
    · rename_i found read
      exact suffix_of_readWord? read
    · dsimp only
      split
      · exact Reads.of_suffix (List.suffix_cons _ _) (reads_readNumber?_getD true _ _)
      · exact reads_readNumber?_getD false _ _

theorem reads_readItems_succ
    (values : ∀ room text, Reads room text (readValue room budget text))
    (items : ∀ room text, Reads room text (readItems room budget text))
    (room : Nat) (text : List Char) : Reads room text (readItems room (budget + 1) text) := by
  unfold readItems
  refine Reads.bind (values room text) fun item after later => ?_
  dsimp only
  have skipped : skipBlanks after <:+ text := (skipBlanks_suffix after).trans later
  split
  · rename_i rest closed
    rw [closed] at skipped
    exact (List.suffix_cons _ _).trans skipped
  · rename_i rest separated
    rw [separated] at skipped
    have inner : skipBlanks rest <:+ text :=
      (skipBlanks_suffix rest).trans ((List.suffix_cons _ _).trans skipped)
    exact Reads.of_suffix inner (Reads.map (items room _) (item :: ·))
  · trivial

/-- Behind the colon of a member stand its value and the members after it. -/
theorem reads_member {name : Value}
    (values : ∀ room text, Reads room text (readValue room budget text))
    (members : ∀ room text, Reads room text (readMembers room budget text))
    (room : Nat) (text : List Char) :
    Reads room text (do
      let (value, after) ← readValue room budget text
      let member := (name, value)
      match skipBlanks after with
      | '\x7d' :: rest => return ([member], rest)
      | ',' :: rest => do
          let (members, final) ← readMembers room budget (skipBlanks rest)
          return (member :: members, final)
      | other => throw (.malformed .commaExpected other.length)) := by
  refine Reads.bind (values room text) fun value after later => ?_
  dsimp only
  have skipped : skipBlanks after <:+ text := (skipBlanks_suffix after).trans later
  split
  · rename_i rest closed
    rw [closed] at skipped
    exact (List.suffix_cons _ _).trans skipped
  · rename_i rest separated
    rw [separated] at skipped
    have next : skipBlanks rest <:+ text :=
      (skipBlanks_suffix rest).trans ((List.suffix_cons _ _).trans skipped)
    exact Reads.of_suffix next (Reads.map (members room _) ((name, value) :: ·))
  · trivial

theorem reads_readMembers_succ
    (values : ∀ room text, Reads room text (readValue room budget text))
    (members : ∀ room text, Reads room text (readMembers room budget text))
    (room : Nat) (text : List Char) : Reads room text (readMembers room (budget + 1) text) := by
  unfold readMembers
  split
  · trivial
  · rename_i content same
    cases same
    refine Reads.of_suffix (List.suffix_cons _ _) (Reads.bind (reads_readText _ _ content) ?_)
    intro name afterName later
    dsimp only
    have skipped : skipBlanks afterName <:+ content := (skipBlanks_suffix _).trans later
    split
    · rename_i afterColon separated
      rw [separated] at skipped
      have value : skipBlanks afterColon <:+ content :=
        (skipBlanks_suffix _).trans ((List.suffix_cons _ _).trans skipped)
      exact Reads.of_suffix value (reads_member values members room _)
    · trivial
  · trivial

end Steps

/-- **The result of a reading reflects the text, whatever is read.** -/
theorem reads_all (budget : Nat) :
    (∀ room text, Reads room text (readValue room budget text)) ∧
      (∀ room text, Reads room text (readItems room budget text)) ∧
      (∀ room text, Reads room text (readMembers room budget text)) := by
  induction budget with
  | zero =>
      refine ⟨fun room text => ?_, fun room text => ?_, fun room text => ?_⟩
      · unfold readValue
        trivial
      · unfold readItems
        trivial
      · unfold readMembers
        trivial
  | succ budget inductionHypothesis =>
      obtain ⟨values, items, members⟩ := inductionHypothesis
      exact ⟨reads_readValue_succ items members, reads_readItems_succ values items,
        reads_readMembers_succ values members⟩

/-! ## Documents -/

/-- A document is the value that was read, if only blanks come after it. -/
theorem readDocument_of_ok {found : Value × List Char}
    (read : readValue Runtime.jsonDepth (2 * text.length + 2) (skipBlanks text) = .ok found) :
    readDocument text = match skipBlanks found.2 with
      | [] => .ok found.1
      | extra => .error (.malformed .extraData extra.length) := by
  unfold readDocument
  rw [read]
  rfl

theorem readDocument_of_error {stop : Stop}
    (read : readValue Runtime.jsonDepth (2 * text.length + 2) (skipBlanks text) = .error stop) :
    readDocument text = .error stop := by
  unfold readDocument
  rw [read]
  rfl

/-- What the result of a reading of a whole document says about its text. -/
theorem reads_readDocument (text : List Char) :
    Reads Runtime.jsonDepth text ((readDocument text).map fun value => (value, [])) := by
  have within : Reads Runtime.jsonDepth (skipBlanks text)
      (readValue Runtime.jsonDepth (2 * text.length + 2) (skipBlanks text)) :=
    (reads_all (2 * text.length + 2)).1 Runtime.jsonDepth (skipBlanks text)
  cases read : readValue Runtime.jsonDepth (2 * text.length + 2) (skipBlanks text) with
  | error stop =>
      rw [read] at within
      rw [readDocument_of_error read]
      exact Reads.of_suffix (α := Value) (skipBlanks_suffix text) within
  | ok pair =>
      rw [readDocument_of_ok read]
      split
      · exact List.nil_suffix
      · trivial

/-- A text that is refused at a limit is refused as a document. -/
theorem readDocument_of_parse {text : String} {stop : Stop}
    (limit : stop = .tooManyDigits ∨ stop = .tooDeep)
    (refused : parse text = .error (stop.locate text.toList)) :
    readDocument text.toList = .error stop := by
  have stopped := eq_error_of_located limit refused
  unfold refuseMark at stopped
  split at stopped
  · rcases limit with rfl | rfl <;> cases stopped
  · exact stopped

/-- **A document refused for its digits has too many of them in a row.** -/
theorem holdsLongInteger_of_parse {text : String}
    (refused : parse text = .error .tooManyDigits) : HoldsLongInteger text.toList := by
  have reads := reads_readDocument text.toList
  rwa [readDocument_of_parse (.inl rfl) refused] at reads

/-- **A document refused for its depth has too many opening brackets.** -/
theorem openings_of_parse {text : String} (refused : parse text = .error .tooDeep) :
    Runtime.jsonDepth < openings text.toList := by
  have reads := reads_readDocument text.toList
  rwa [readDocument_of_parse (.inr rfl) refused] at reads

/-- Bytes that are refused at a limit are refused as the document that they are the text of. -/
theorem readDocument_of_parseBytes {bytes : List UInt8} {stop : Stop}
    (limit : stop = .tooManyDigits ∨ stop = .tooDeep)
    (refused : parseBytes bytes = .error (stop.locate [])) :
    ∃ text, (Text.Encoding.detect bytes).decodeWith true bytes = .ok text ∧
      readDocument text = .error stop := by
  unfold parseBytes at refused
  split at refused
  · rcases limit with rfl | rfl <;> cases refused
  · rename_i text decoded
    have same : located text (readDocument text) = .error (stop.locate text) := by
      rcases limit with rfl | rfl <;> exact refused
    exact ⟨text, decoded, eq_error_of_located limit same⟩

/-- Bytes refused for their digits are a text with too many of them in a row. -/
theorem holdsLongInteger_of_parseBytes {bytes : List UInt8}
    (refused : parseBytes bytes = .error .tooManyDigits) :
    ∃ text, (Text.Encoding.detect bytes).decodeWith true bytes = .ok text ∧
      HoldsLongInteger text := by
  obtain ⟨text, decoded, read⟩ := readDocument_of_parseBytes (.inl rfl) refused
  have reads := reads_readDocument text
  rw [read] at reads
  exact ⟨text, decoded, reads⟩

/-- Bytes refused for their depth are a text with too many opening brackets. -/
theorem openings_of_parseBytes {bytes : List UInt8} (refused : parseBytes bytes = .error .tooDeep) :
    ∃ text, (Text.Encoding.detect bytes).decodeWith true bytes = .ok text ∧
      Runtime.jsonDepth < openings text := by
  obtain ⟨text, decoded, read⟩ := readDocument_of_parseBytes (.inr rfl) refused
  have reads := reads_readDocument text
  rw [read] at reads
  exact ⟨text, decoded, reads⟩

theorem readItems_eq_error {budget : Nat} {stop : Stop}
    (failed : readValue room budget text = .error stop) :
    readItems room (budget + 1) text = .error stop := by
  unfold readItems
  rw [failed]
  rfl

theorem readValue_eq_error {budget : Nat} {stop : Stop}
    (failed : readItems room budget ('[' :: text) = .error stop) :
    readValue (room + 1) (budget + 1) ('[' :: '[' :: text) = .error stop := by
  unfold readValue
  change (readItems room budget ('[' :: text) >>= fun found =>
    pure (Value.list found.1, found.2)) = _
  rw [failed]
  rfl

/-- Brackets that only open are refused as soon as there is no more room. -/
theorem readValue_brackets (room extra more : Nat) :
    readValue room (2 * room + 1 + extra) (List.replicate (room + 1 + more) '[')
      = .error .tooDeep := by
  induction room with
  | zero =>
      rw [show 2 * 0 + 1 + extra = extra + 1 by omega, show 0 + 1 + more = more + 1 by omega,
        List.replicate_succ]
      unfold readValue
      rfl
  | succ room inductionHypothesis =>
      have first : List.replicate (room + 1 + more) '[' = '[' :: List.replicate (room + more) '[' := by
        rw [show room + 1 + more = (room + more) + 1 by omega, List.replicate_succ]
      rw [first] at inductionHypothesis
      have deeper := readValue_eq_error (readItems_eq_error inductionHypothesis)
      rw [show 2 * (room + 1) + 1 + extra = 2 * room + 1 + extra + 1 + 1 by omega,
        show room + 1 + 1 + more = (room + 1 + more) + 1 by omega, List.replicate_succ, first]
      exact deeper

/-- **Brackets that only open are refused for their depth beyond the limit.** -/
theorem parse_brackets {count : Nat} (many : Runtime.jsonDepth < count) :
    parse (String.ofList (List.replicate count '[')) = .error .tooDeep := by
  obtain ⟨more, rfl⟩ := Nat.exists_eq_add_of_lt many
  have deep := readValue_brackets Runtime.jsonDepth (2 * more + 3) more
  have first : List.replicate (Runtime.jsonDepth + more + 1) '['
      = '[' :: List.replicate (Runtime.jsonDepth + more) '[' := List.replicate_succ
  have length : 2 * (Runtime.jsonDepth + more + 1) + 2
      = 2 * Runtime.jsonDepth + 1 + (2 * more + 3) := by omega
  rw [show Runtime.jsonDepth + 1 + more = Runtime.jsonDepth + more + 1 by omega, ← length] at deep
  unfold parse readDocument
  rw [String.toList_ofList, List.length_replicate]
  have skipped : skipBlanks (List.replicate (Runtime.jsonDepth + more + 1) '[')
      = List.replicate (Runtime.jsonDepth + more + 1) '[' := by
    rw [first]
    rfl
  have unmarked : refuseMark (List.replicate (Runtime.jsonDepth + more + 1) '[') = .ok () := by
    rw [first]
    rfl
  rw [skipped, unmarked, deep]
  rfl

end Routebook.Json

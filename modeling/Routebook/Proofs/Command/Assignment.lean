import Routebook.Command.Assignment
import Routebook.Proofs.Client.Declared
import Routebook.Proofs.Json.Integer
import Routebook.Proofs.Outcome
import Routebook.Proofs.Transport.Decoding
import Routebook.Proofs.Uri.Resolution

/-!
# Assignments in addresses

A text that is assigned on a command line is decoded where it is JSON, and a value is written into
an address by its text.  For a text that is no JSON, for the three words and for the notation of an
integer (`Assignment.Plain`) this comes back to the text itself, so the address of a call is built
as from the texts alone: each key once, at the place of its first assignment, with the text of its
last (`Assignment.bound`).  The exceptions are the texts that the reader refuses at one of its
limits: one of them and there are no arguments at all (`Assignment.decoding_unseen_iff`).
-/

namespace Routebook

set_option autoImplicit false

section Runtimes

variable [Runtime]

/-! ## Writing entries one after another -/

namespace Value

section Changing

variable (change : Value → Value)

/-- Entries with their values changed. -/
def mapValues (entries : Entries) : Entries := entries.map fun entry => (entry.1, change entry.2)

omit [Runtime] in
theorem mapValues_insert (key value : Value) (entries : Entries) :
    mapValues change (insert key value entries)
      = insert key (change value) (mapValues change entries) := by
  induction entries with
  | nil => rfl
  | cons entry rest inductionHypothesis =>
      have first : mapValues change (entry :: rest)
          = (entry.1, change entry.2) :: mapValues change rest := rfl
      rw [insert, first, insert]
      split
      · rfl
      · exact congrArg (_ :: ·) inductionHypothesis

omit [Runtime] in
/-- Values can be changed before or after the entries are written. -/
theorem mapValues_ofPairs (pairs : List (Value × Value)) :
    mapValues change (ofPairs pairs) = ofPairs (mapValues change pairs) := by
  have folded : ∀ base : Entries, mapValues change (overlay base pairs)
      = overlay (mapValues change base) (mapValues change pairs) := by
    induction pairs with
    | nil => exact fun base => rfl
    | cons pair pairs inductionHypothesis =>
        intro base
        have step := inductionHypothesis (insert pair.1 pair.2 base)
        rw [mapValues_insert] at step
        exact step
  exact folded []

end Changing

omit [Runtime] in
/-- Writing at a name keeps its place among distinct names, or puts it at the end. -/
theorem insert_names {names : List String} (distinct : names.Nodup) (name : String)
    (value : Value) (valueAt : String → Value) :
    insert (.text name) value (names.map fun other => (.text other, valueAt other))
      = (if name ∈ names then names else names ++ [name]).map fun other =>
          (.text other, if name = other then value else valueAt other) := by
  induction names with
  | nil => simp [insert]
  | cons first rest inductionHypothesis =>
      obtain ⟨fresh, distinct⟩ := List.nodup_cons.mp distinct
      rw [List.map_cons, insert]
      by_cases same : name = first
      · subst same
        have others : rest.map (fun other => (Value.text other, valueAt other))
            = rest.map fun other => (Value.text other, if name = other then value
                else valueAt other) := by
          refine List.map_congr_left fun other present => ?_
          rw [if_neg]
          rintro rfl
          exact fresh present
        rw [if_pos (Store.same_text.mpr rfl), if_pos List.mem_cons_self, List.map_cons,
          if_pos rfl, others]
      · have different : ¬Value.same (.text name) (.text first) = true := by
          rw [Store.same_text, Value.text.injEq]
          exact fun equal => same equal.symm
        rw [if_neg different, inductionHypothesis distinct]
        simp only [List.mem_cons, same, false_or]
        split <;> simp [same]

end Value

/-! ## Addresses and the texts of values -/

namespace Uri

/-- The text of a value in place of the value, if it has one. -/
def inText (value : Value) : Value :=
  match stringify value with
  | .ok text => .text text
  | .error _ => value

theorem inText_of_stringify {value : Value} {text : String} (written : stringify value = .ok text) :
    inText value = .text text := by
  rw [inText, written]

/-- In an address a value stands for its text. -/
theorem renderValue_inText (encode : Bool) (value : Value) :
    renderValue encode (inText value) = renderValue encode value := by
  unfold inText
  cases written : stringify value with
  | ok text =>
      dsimp only
      rw [renderValue, renderValue, written, stringify_text]
  | error failure => rfl

/-- Entries with the texts of their values in place of the values. -/
def inTexts (entries : Entries) : Entries := Value.mapValues inText entries

theorem resolve_inText (pattern : Pattern) (encode : Bool) (progress : Progress)
    (entry : Value × Value) :
    progress.resolve pattern encode (entry.1, inText entry.2)
      = progress.resolve pattern encode entry := by
  unfold Progress.resolve
  rw [renderValue_inText]

/-- **An address depends on the texts of the values alone.** -/
theorem build_inTexts (root : String) (pattern : Pattern) (encode : Bool) (entries : Entries) :
    build root pattern encode (.mapping (inTexts entries))
      = build root pattern encode (.mapping entries) := by
  have ran : Progress.run root pattern encode (inTexts entries)
      = Progress.run root pattern encode entries := by
    rw [Progress.run, Progress.run, inTexts, Value.mapValues, List.foldlM_map]
    exact congrArg (fun step => entries.foldlM step (Progress.start root pattern))
      (funext fun progress => funext fun entry => resolve_inText pattern encode progress entry)
  change Progress.run root pattern encode (inTexts entries) >>= Progress.finish
    = Progress.run root pattern encode entries >>= Progress.finish
  rw [ran]

end Uri

namespace Assignment

/-- The text that is assigned to a key last. -/
def lastText (key : String) (pairs : List (String × String)) : String :=
  ((pairs.filter fun pair => pair.1 == key).getLast?.map Prod.snd).getD ""

/-- Each key once, at the place of its first assignment, with the text of its last. -/
def bound (pairs : List (String × String)) : List (String × Value) :=
  (pairs.map Prod.fst).eraseDups.map fun key => (key, .text (lastText key pairs))

omit [Runtime] in
theorem lastText_append_singleton (key : String) (pairs : List (String × String))
    (pair : String × String) :
    lastText key (pairs ++ [pair]) = if pair.1 = key then pair.2 else lastText key pairs := by
  unfold lastText
  rw [List.filter_append]
  by_cases named : pair.1 = key
  · have kept : [pair].filter (·.1 == key) = [pair] :=
      List.filter_cons_of_pos (beq_iff_eq.mpr named)
    rw [if_pos named, kept, List.getLast?_concat]
    rfl
  · have dropped : [pair].filter (·.1 == key) = [] :=
      List.filter_cons_of_neg (by simpa using named)
    rw [if_neg named, dropped, List.append_nil]

omit [Runtime] in
/-- The text that a key is bound to is one that is assigned, if any is. -/
theorem exists_of_lastText (key : String) (pairs : List (String × String)) :
    lastText key pairs = "" ∨ ∃ pair ∈ pairs, pair.2 = lastText key pairs := by
  unfold lastText
  cases last : (pairs.filter fun pair => pair.1 == key).getLast? with
  | none => exact .inl rfl
  | some pair =>
      exact .inr ⟨pair, (List.mem_filter.mp (List.mem_of_getLast? last)).1, rfl⟩

/-- The entries that assign texts. -/
def textPairs (pairs : List (String × String)) : Entries :=
  pairs.map fun pair => (.text pair.1, .text pair.2)

omit [Runtime] in
/-- One more assignment writes its text at its key. -/
theorem insert_bound (pairs : List (String × String)) (pair : String × String) :
    Value.insert (.text pair.1) (.text pair.2) (Uri.textEntries (bound pairs))
      = Uri.textEntries (bound (pairs ++ [pair])) := by
  have entries : ∀ pairs, Uri.textEntries (bound pairs)
      = (pairs.map Prod.fst).eraseDups.map fun key => (.text key, .text (lastText key pairs)) :=
    fun pairs => List.map_map
  rw [entries, entries, List.map_append, List.map_singleton, eraseDups_append_singleton,
    Value.insert_names (Template.nodup_eraseDups _)]
  refine List.map_congr_left fun key _ => ?_
  rw [lastText_append_singleton]
  split <;> rfl

omit [Runtime] in
/-- **Texts assigned one after another bind every key once.** -/
theorem overlay_bound (earlier later : List (String × String)) :
    Value.overlay (Uri.textEntries (bound earlier)) (textPairs later)
      = Uri.textEntries (bound (earlier ++ later)) := by
  induction later generalizing earlier with
  | nil => rw [List.append_nil]; rfl
  | cons pair later inductionHypothesis =>
      have step := inductionHypothesis (earlier ++ [pair])
      rw [List.append_assoc, List.singleton_append, ← insert_bound] at step
      exact step

omit [Runtime] in
theorem ofPairs_textPairs (pairs : List (String × String)) :
    Value.ofPairs (textPairs pairs) = Uri.textEntries (bound pairs) := overlay_bound [] pairs

/-! ## Decoding -/

/-- The word that assigns a text to a key. -/
def word (pair : String × String) : String :=
  String.ofList (pair.1.toList ++ '=' :: pair.2.toList)

/-- A text that is its own decoding as far as addresses can tell: it is no JSON, or one of the three
words, or the notation of an integer that is not too long to be read. -/
inductive Plain (text : String) : Prop
  | undecodable (refused : ∀ value, Json.parse text ≠ .ok value)
  | word (among : text ∈ ["true", "false", "null"])
  | integer {value : Int} (written : Json.IntegerNotation value text.toList)
      (few : Json.digitCount text.toList ≤ Number.digitLimit)

/-- The failure of the reader at a limit that it meets in a text. -/
def refusal? (text : String) : Option Failure := Body.refusal? (.text text)

/-- A text that is refused has too many digits in a row, or is nested too deeply. -/
theorem passesLimit_of_refusal? {text : String} {failure : Failure}
    (refused : refusal? text = some failure) : Body.PassesLimit text.toList failure := by
  obtain ⟨read, same, passes⟩ := Body.passesLimit_of_refusal? refused
  cases same
  exact passes

/-- Brackets that only open are refused for their depth. -/
theorem refusal?_brackets {count : Nat} (many : Runtime.jsonDepth < count) :
    refusal? (String.ofList (List.replicate count '[')) = some .tooDeep := by
  rw [refusal?, Body.refusal?, Json.parse_brackets many]
  rfl

/-- What a text is decoded to: its value if it is JSON, and otherwise itself. -/
def decoded (text : String) : Value := (Json.parse text).toOption.getD (.text text)

/-- A text is refused at a limit of the reader, or else it is decoded. -/
theorem parseValue_eq (text : String) :
    parseValue text = (refusal? text).elim (.ok (decoded text)) .error := by
  have reading : refusal? text = Body.limitFailure? (Json.parse text) := rfl
  unfold parseValue decoded
  rw [reading]
  cases Json.parse text with
  | ok value => rfl
  | error fault => cases fault <;> rfl

theorem parseValue_of_accepted {text : String} (accepted : refusal? text = none) :
    parseValue text = .ok (decoded text) := by
  rw [parseValue_eq, accepted]
  rfl

theorem parseValue_of_refused {text : String} {failure : Failure}
    (refused : refusal? text = some failure) : parseValue text = .error failure := by
  rw [parseValue_eq, refused]
  rfl

/-- **A plain text is the text of what it is decoded to.** -/
theorem stringify_decoded {text : String} (plain : Plain text) :
    Uri.stringify (decoded text) = .ok text := by
  unfold decoded
  cases plain with
  | undecodable refused =>
      cases parsed : Json.parse text with
      | ok value => exact absurd parsed (refused value)
      | error fault => exact Uri.stringify_text text
  | word among =>
      simp only [List.mem_cons, List.not_mem_nil, or_false] at among
      rcases among with rfl | rfl | rfl <;> rfl
  | integer written few =>
      rw [written.parse, if_neg (Nat.not_lt.mpr few)]
      exact written.asText few

/-! ## Lists of assignments -/

/-- Whether a text can be assigned to: it is not empty and has no equals sign. -/
def IsKey (key : String) : Prop := key ≠ "" ∧ '=' ∉ key.toList

section Words

variable (flag : String) {pair : String × String}

/-- An assignment to a key is refused at a limit of the reader, or else it is read as the key and
what the text is decoded to. -/
theorem parseOne_word (key : IsKey pair.1) :
    parseOne flag (word pair)
      = (refusal? pair.2).elim (.ok (.text pair.1, decoded pair.2)) .error := by
  have cut : Text.cut '=' (word pair).toList = (pair.1.toList, some pair.2.toList) := by
    rw [word, String.toList_ofList, Text.cut_append key.2]
  obtain ⟨first, rest, present⟩ := List.exists_cons_of_ne_nil
    (show pair.1.toList ≠ [] from fun empty => key.1 (String.toList_eq_nil_iff.mp empty))
  unfold parseOne
  rw [cut, present]
  dsimp only
  rw [← present, String.ofList_toList, String.ofList_toList, parseValue_eq]
  cases refusal? pair.2 <;> rfl

theorem exists_parseOne_word_iff (key : IsKey pair.1) :
    (∃ entry, parseOne flag (word pair) = .ok entry) ↔ refusal? pair.2 = none := by
  rw [parseOne_word flag key]
  cases refusal? pair.2 with
  | none => exact iff_of_true ⟨_, rfl⟩ rfl
  | some failure => exact iff_of_false nofun nofun

theorem parseOne_word_eq_error_iff {failure : Failure} (key : IsKey pair.1) :
    parseOne flag (word pair) = .error failure ↔ refusal? pair.2 = some failure := by
  rw [parseOne_word flag key]
  cases refusal? pair.2 with
  | none => exact iff_of_false nofun nofun
  | some other => exact Except.error.injEq other failure ▸ (Option.some_inj).symm

end Words

section Lists

variable (flag : String) {pairs : List (String × String)}

/-- Assignments are read if the reader accepts every text. -/
theorem mapM_parseOne (keys : ∀ pair ∈ pairs, IsKey pair.1)
    (accepted : ∀ pair ∈ pairs, refusal? pair.2 = none) :
    (pairs.map word).mapM (parseOne flag)
      = .ok (pairs.map fun pair => (.text pair.1, decoded pair.2)) := by
  rw [List.mapM_map]
  refine Outcome.mapM_eq_ok fun pair present => ?_
  rw [Function.comp_apply, parseOne_word flag (keys pair present), accepted pair present]
  rfl

/-- Assignments are read exactly when the reader accepts every text. -/
theorem parse_words_iff (keys : ∀ pair ∈ pairs, IsKey pair.1) :
    (∃ entries, parse flag (pairs.map word) = .ok entries)
      ↔ ∀ pair ∈ pairs, refusal? pair.2 = none := by
  constructor
  · rintro ⟨entries, read⟩ pair present
    obtain ⟨others, run, -⟩ := Outcome.exists_of_bind read
    rw [List.mapM_map] at run
    have each := Outcome.exists_mapM_eq_ok_iff.mp ⟨others, run⟩
    exact (exists_parseOne_word_iff flag (keys pair present)).mp (each pair present)
  · intro accepted
    exact ⟨_, by rw [parse, mapM_parseOne flag keys accepted]; rfl⟩

/-- A text that is refused leaves no assignments. -/
theorem parse_word_of_refused {pair : String × String} {failure : Failure} (key : IsKey pair.1)
    (refused : refusal? pair.2 = some failure) : parse flag [word pair] = .error failure := by
  rw [parse, List.mapM_cons, parseOne_word flag key, refused]
  rfl

/-- **In an address plain assignments are the texts that they bind.** -/
theorem build_of_parse {entries : Entries} (keys : ∀ pair ∈ pairs, IsKey pair.1)
    (plain : ∀ pair ∈ pairs, Plain pair.2)
    (read : parse flag (pairs.map word) = .ok entries) (root : String) (pattern : Pattern)
    (encode : Bool) :
    Uri.build root pattern encode (.mapping entries)
      = Uri.build root pattern encode (.mapping (Uri.textEntries (bound pairs))) := by
  have accepted := (parse_words_iff flag keys).mp ⟨entries, read⟩
  rw [parse, mapM_parseOne flag keys accepted] at read
  cases read
  have texts : Uri.inTexts (pairs.map fun pair => (.text pair.1, decoded pair.2))
      = textPairs pairs := by
    rw [Uri.inTexts, Value.mapValues, List.map_map]
    refine List.map_congr_left fun pair present => ?_
    exact congrArg (Value.text pair.1, ·)
      (Uri.inText_of_stringify (stringify_decoded (plain pair present)))
  have written : Uri.inTexts (Value.ofPairs (pairs.map fun pair => (.text pair.1, decoded pair.2)))
      = Value.ofPairs (Uri.inTexts (pairs.map fun pair => (.text pair.1, decoded pair.2))) :=
    Value.mapValues_ofPairs Uri.inText _
  rw [← Uri.build_inTexts, written, texts, ofPairs_textPairs]

/-- An address can be built from the texts that are bound, if these are whole where they are
encoded. -/
theorem exists_build_bound {encode : Bool}
    (whole : encode = true → ∀ pair ∈ pairs, Text.isWhole pair.2.toList = true) (root : String)
    (pattern : Pattern) :
    ∃ resolution, Uri.build root pattern encode (.mapping (Uri.textEntries (bound pairs)))
      = .ok resolution := by
  refine ⟨_, Uri.build_eq_reportOf root pattern encode fun argument given _ => ?_⟩
  obtain ⟨key, -, rfl⟩ := List.mem_map.mp given
  refine Uri.renderable_text_iff.mpr fun encodes => ?_
  rcases exists_of_lastText key pairs with empty | ⟨pair, present, same⟩
  · rw [empty]
    rfl
  · rw [← same]
    exact whole encodes pair present

end Lists

/-- **In an address nothing shows of the decoding of plain assignments, exactly as long as the
reader refuses none of their texts.**  A text that is refused has too many digits in a row or is
nested too deeply; it is not kept as a text, and there are no arguments.  The address is that of the
texts, with all of its report; there is one unless a text holds a lone half and values are encoded.
-/
theorem decoding_unseen_iff (flag : String) {pairs : List (String × String)}
    (keys : ∀ pair ∈ pairs, IsKey pair.1) (plain : ∀ pair ∈ pairs, Plain pair.2) :
    (∀ pair ∈ pairs,
      ((∃ value, parseValue pair.2 = .ok value ∧ Uri.stringify value = .ok pair.2)
        ↔ refusal? pair.2 = none) ∧
      ∀ failure, refusal? pair.2 = some failure →
        parseValue pair.2 = .error failure ∧ Body.PassesLimit pair.2.toList failure) ∧
    ((∃ entries, parse flag (pairs.map word) = .ok entries)
      ↔ ∀ pair ∈ pairs, refusal? pair.2 = none) ∧
    ∀ entries, parse flag (pairs.map word) = .ok entries →
      ∀ (root : String) (pattern : Pattern) (encode : Bool),
        Uri.build root pattern encode (.mapping entries)
          = Uri.build root pattern encode (.mapping (Uri.textEntries (bound pairs))) ∧
        ((encode = true → ∀ pair ∈ pairs, Text.isWhole pair.2.toList = true) → ∃ resolution,
          Uri.build root pattern encode (.mapping entries) = .ok resolution ∧
          Uri.build root pattern encode (.mapping (Uri.textEntries (bound pairs)))
            = .ok resolution) := by
  refine ⟨fun pair present => ⟨⟨?_, fun accepted => ?_⟩, fun failure refused => ?_⟩,
    parse_words_iff flag keys, fun entries read root pattern encode => ?_⟩
  · rintro ⟨value, read, -⟩
    rw [parseValue_eq] at read
    cases refused : refusal? pair.2 with
    | none => rfl
    | some failure =>
        rw [refused] at read
        cases read
  · exact ⟨_, parseValue_of_accepted accepted, stringify_decoded (plain pair present)⟩
  · exact ⟨parseValue_of_refused refused, passesLimit_of_refusal? refused⟩
  · have same := build_of_parse flag keys plain read root pattern encode
    refine ⟨same, fun whole => ?_⟩
    obtain ⟨resolution, built⟩ := exists_build_bound whole root pattern
    exact ⟨resolution, same.trans built, built⟩

end Assignment

end Runtimes

/-! ## Keys that come again -/

namespace Assignment

attribute [local instance] Runtime.usual

/-- Assignments to keys that come again: an integer, a text that is no JSON, a word, an equals sign
in a text. -/
def repeated : List (String × String) :=
  [("id", "7"), ("q", "007"), ("id", "-12"), ("q", "true"), ("x", "a=b")]

/-- Every key is bound once, to the text that it is assigned last. -/
theorem decoding_unseen_iff_repeated :
    bound repeated = [("id", .text "-12"), ("q", .text "true"), ("x", .text "a=b")] ∧
      ∃ entries resolution, parse "--arg" (repeated.map word) = .ok entries ∧
        Uri.build "http://h" (Template.parse "/$\x7bid\x7d?$\x7bq\x7d") true (.mapping entries)
          = .ok resolution ∧
        Uri.build "http://h" (Template.parse "/$\x7bid\x7d?$\x7bq\x7d") true
            (.mapping (Uri.textEntries (bound repeated))) = .ok resolution := by
  have keys : ∀ pair ∈ repeated, IsKey pair.1 := by
    simp only [repeated, List.forall_mem_cons]
    exact ⟨⟨by decide, by decide⟩, ⟨by decide, by decide⟩, ⟨by decide, by decide⟩,
      ⟨by decide, by decide⟩, ⟨by decide, by decide⟩, nofun⟩
  have seven : Json.IntegerNotation _ "7".toList := .whole (show Number.WholeDigits ['7'] by decide)
  have twelve : Json.IntegerNotation _ "-12".toList :=
    .negative (show Number.WholeDigits ['1', '2'] by decide) (by decide)
  have leadingZeros : ∀ value, Json.parse "007" ≠ .ok value := nofun
  have letters : ∀ value, Json.parse "a=b" ≠ .ok value := nofun
  have plain : ∀ pair ∈ repeated, Plain pair.2 := by
    simp only [repeated, List.forall_mem_cons]
    exact ⟨.integer seven (by decide), .undecodable leadingZeros, .integer twelve (by decide),
      .word (by decide), .undecodable letters, nofun⟩
  obtain ⟨-, reads, builds⟩ := decoding_unseen_iff "--arg" keys plain
  obtain ⟨entries, read⟩ := reads.mpr (by decide)
  have whole : ∀ pair ∈ repeated, Text.isWhole pair.2.toList = true := by decide
  obtain ⟨resolution, built⟩ := (builds entries read "http://h"
    (Template.parse "/$\x7bid\x7d?$\x7bq\x7d") true).2 fun _ => whole
  exact ⟨rfl, entries, resolution, read, built⟩

/-- Brackets that only open are no JSON, but they are not kept as a text: there are no arguments to
build an address from. -/
theorem not_decoding_unseen_brackets :
    IsKey "id" ∧ Plain (String.ofList (List.replicate 1000 '[')) ∧
      parseValue (String.ofList (List.replicate 1000 '[')) = .error .tooDeep ∧
      parse "--arg" [word ("id", String.ofList (List.replicate 1000 '['))] = .error .tooDeep ∧
      ∃ resolution, Uri.build "http://h" (Template.parse "/$\x7bid\x7d") false
        (.mapping (Uri.textEntries (bound [("id", String.ofList (List.replicate 1000 '['))])))
          = .ok resolution := by
  have key : IsKey "id" := ⟨by decide, by decide⟩
  have refused : refusal? (String.ofList (List.replicate 1000 '[')) = some .tooDeep :=
    refusal?_brackets (by decide)
  refine ⟨key, .undecodable fun value => ?_, parseValue_of_refused refused,
    parse_word_of_refused "--arg" key refused, exists_build_bound (absurd · Bool.false_ne_true) _ _⟩
  rw [Json.parse_brackets (by decide)]
  exact nofun

end Assignment

end Routebook

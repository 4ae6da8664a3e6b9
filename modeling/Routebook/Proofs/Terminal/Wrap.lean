import Mathlib.Data.List.TakeDrop
import Mathlib.Data.List.TakeWhile
import Routebook.Proofs.Terminal.Markup
import Routebook.Terminal.Wrap
import Routebook.Text.Printable

/-!
# Lines that fit

A text that fits is laid out in one line, as it is but for blanks at its end
(`Terminal.Fits.wrap_eq`). Conversely a text that is laid out in one line stays as it is but for
such blanks (`Terminal.trimEnd_of_wrap_eq_singleton`): a line that does not fit is broken, and only
blanks are cut off. No line that is laid out is too wide (`Terminal.cells_le_of_mem_wrap`), and no
layout adds marks (`Terminal.marks_wrap_le`).
-/

namespace Routebook.Terminal

set_option autoImplicit false

/-! ## Widths of texts -/

theorem cells_append (front back : List Char) :
    Text.cells (front ++ back) = Text.cells front + Text.cells back := by
  have shifted : ∀ (text : List Char) (start : Nat),
      text.foldl (fun total character => total + Text.cellWidth character) start
        = start + Text.cells text := by
    intro text
    induction text with
    | nil => intro start; rfl
    | cons character rest inductionHypothesis =>
        intro start
        unfold Text.cells
        rw [List.foldl_cons, List.foldl_cons, inductionHypothesis, inductionHypothesis]
        omega
  unfold Text.cells
  rw [List.foldl_append, shifted]
  rfl

@[simp] theorem cells_nil : Text.cells [] = 0 := rfl

theorem cells_cons (character : Char) (rest : List Char) :
    Text.cells (character :: rest) = Text.cellWidth character + Text.cells rest := by
  rw [← List.singleton_append, cells_append]
  simp [Text.cells]

/-- A text is what is left without the blanks at its end, and these blanks. -/
theorem trimEnd_append_blanks (text : List Char) :
    ∃ blanks, text = Text.trimEnd text ++ blanks ∧ ∀ character ∈ blanks, Text.isBlank character := by
  refine ⟨(text.reverse.takeWhile Text.isBlank).reverse, ?_, fun character present => ?_⟩
  · rw [Text.trimEnd, ← List.reverse_append, List.takeWhile_append_dropWhile, List.reverse_reverse]
  · exact List.mem_takeWhile_imp (List.mem_reverse.mp present)

theorem cells_trimEnd_le (text : List Char) : Text.cells (Text.trimEnd text) ≤ Text.cells text := by
  obtain ⟨blanks, whole, -⟩ := trimEnd_append_blanks text
  have parts := congrArg Text.cells whole
  rw [cells_append] at parts
  omega

/-- Blanks at the end of a text do not count for what is left without them. -/
theorem trimEnd_append_of_blank (text : List Char) {blanks : List Char}
    (blank : ∀ character ∈ blanks, Text.isBlank character) :
    Text.trimEnd (text ++ blanks) = Text.trimEnd text := by
  rw [Text.trimEnd, List.reverse_append, List.dropWhile_append]
  have gone : blanks.reverse.dropWhile Text.isBlank = [] :=
    List.dropWhile_eq_nil_iff.mpr fun character present => blank character (List.mem_reverse.mp present)
  rw [gone]
  rfl

theorem trimEnd_append_visible (text : List Char) {last : Char} (visible : Text.isBlank last = false) :
    Text.trimEnd (text ++ [last]) = text ++ [last] := by
  simp [Text.trimEnd, visible]

/-- What is left of two texts is at most as wide as the first and what is left of the second. -/
theorem cells_trimEnd_append_le (front back : List Char) :
    Text.cells (Text.trimEnd (front ++ back))
      ≤ Text.cells front + Text.cells (Text.trimEnd back) := by
  obtain ⟨blanks, whole, blank⟩ := trimEnd_append_blanks back
  have same : Text.trimEnd (front ++ back) = Text.trimEnd (front ++ Text.trimEnd back) := by
    rw [← trimEnd_append_of_blank (front ++ Text.trimEnd back) blank, List.append_assoc, ← whole]
  rw [same, ← cells_append]
  exact cells_trimEnd_le _

/-! ## Printable texts -/

/-- A code point of a set lies in one of its ranges. -/
theorem exists_range_of_inRanges {ranges : List (Nat × Nat)} {code : Nat}
    (inside : Text.inRanges ranges code = true) :
    ∃ range ∈ ranges, range.1 ≤ code ∧ code ≤ range.2 := by
  induction ranges with
  | nil => cases inside
  | cons range rest inductionHypothesis =>
      rw [Text.inRanges] at inside
      split at inside
      · cases inside
      · rename_i above
        split at inside
        · rename_i below
          exact ⟨range, List.mem_cons_self, Nat.not_lt.mp above, below⟩
        · obtain ⟨other, present, bounds⟩ := inductionHypothesis inside
          exact ⟨other, .tail _ present, bounds⟩

/-- Of the blank characters only the space is printable. -/
theorem eq_space_of_isPrintable {character : Char} (printable : Text.isPrintable character = true)
    (blank : Text.isBlank character = true) : character = ' ' := by
  have hidden : ∀ range ∈ Text.blankRanges, ∀ code ∈ List.range' range.1 (range.2 + 1 - range.1),
      code = 0x20 ∨ (if code < 0x7F then decide (0x20 ≤ code)
        else !Text.inRanges Text.unprintableRanges code) = false := by
    decide +kernel
  obtain ⟨range, present, above, below⟩ := exists_range_of_inRanges blank
  have listed : character.toNat ∈ List.range' range.1 (range.2 + 1 - range.1) :=
    List.mem_range'_1.mpr ⟨above, by omega⟩
  rcases hidden range present _ listed with same | unprintable
  · exact Char.ext (UInt32.toNat_inj.mp same)
  · exact absurd printable (by rw [Text.isPrintable, unprintable]; exact Bool.false_ne_true)

/-- Whether a text consists of printable characters. -/
def Printable (text : List Char) : Prop := ∀ character ∈ text, Text.isPrintable character = true

instance (text : List Char) : Decidable (Printable text) := List.decidableBAll _ _

namespace Printable

variable {text : List Char} (printable : Printable text)

include printable

/-- A printable text has no control characters. -/
theorem code_le {character : Char} (present : character ∈ text) : 0x20 ≤ character.toNat := by
  have printed := printable character present
  rw [Text.isPrintable] at printed
  split at printed
  · exact of_decide_eq_true printed
  · omega

theorem unbroken : '\n' ∉ text := fun present => absurd (printable.code_le present) (by decide)

theorem tabless : '\t' ∉ text := fun present => absurd (printable.code_le present) (by decide)

theorem uncontrolled_eq : uncontrolled text = text := by
  refine List.filter_eq_self.mpr fun character present => ?_
  have above := printable.code_le present
  have absent : character.toNat ∉ [7, 8, 11, 12, 13] := by
    intro listed
    simp only [List.mem_cons, List.not_mem_nil, or_false] at listed
    omega
  simpa [isControl] using absent

end Printable

/-- Whether a text consists of printable characters and fits into a line. -/
structure Fits (width : Nat) (text : List Char) : Prop where
  printable : Printable text
  narrow : Text.cells text ≤ width

/-! ## Words -/

theorem flatten_pieceAfterBlank (line : List Char) : (pieceAfterBlank line).flatten = line := by
  fun_induction pieceAfterBlank line with
  | case1 => rfl
  | case2 character => rfl
  | case3 character next rest nothing inductionHypothesis =>
      rw [nothing] at inductionHypothesis
      cases inductionHypothesis
  | case4 character next rest piece pieces found blank inductionHypothesis =>
      rw [found] at inductionHypothesis
      rw [List.flatten_cons, inductionHypothesis]
      rfl
  | case5 character next rest piece pieces found joined inductionHypothesis =>
      rw [found] at inductionHypothesis
      rw [List.flatten_cons, List.cons_append, ← List.flatten_cons, inductionHypothesis]

/-- The words of a line make up the line, unless it is blank. -/
theorem flatten_words {line : List Char} (visible : line.all Text.isBlank = false) :
    (words line).flatten = line := by
  have whole := flatten_pieceAfterBlank line
  rw [words, visible]
  split
  · contradiction
  · split
    · rename_i first second rest found
      rw [found] at whole
      split
      · rw [← whole]
        simp
      · exact whole
    · exact whole

theorem words_of_blank {line : List Char} (blank : line.all Text.isBlank = true) : words line = [] := by
  rw [words, if_pos blank]

/-! ## Folding words -/

theorem foldWord_ne_nil (width used : Nat) (word : List Char) : foldWord width used word ≠ [] := by
  cases word with
  | nil => exact List.cons_ne_nil _ _
  | cons character rest =>
      rw [foldWord]
      split <;> split <;> exact List.cons_ne_nil _ _

/-- The pieces of a word make up the word. -/
theorem flatten_foldWord (width used : Nat) (word : List Char) :
    (foldWord width used word).flatten = word := by
  fun_induction foldWord width used word with
  | case1 => rfl
  | case2 used character rest own wide nothing inductionHypothesis =>
      rw [nothing] at inductionHypothesis
      rw [← inductionHypothesis]
      rfl
  | case3 used character rest own wide piece pieces found inductionHypothesis =>
      rw [found, List.flatten_cons] at inductionHypothesis
      rw [List.flatten_cons, List.flatten_cons, List.nil_append, List.cons_append, inductionHypothesis]
  | case4 used character rest own narrow nothing inductionHypothesis =>
      rw [nothing] at inductionHypothesis
      rw [← inductionHypothesis]
      rfl
  | case5 used character rest own narrow piece pieces found inductionHypothesis =>
      rw [found, List.flatten_cons] at inductionHypothesis
      rw [List.flatten_cons, List.cons_append, inductionHypothesis]

/-- A word that is folded into one piece fits. -/
theorem cells_le_of_foldWord_length {width used : Nat} {word : List Char}
    (fits : used ≤ width) (single : (foldWord width used word).length ≤ 1) :
    used + Text.cells word ≤ width := by
  induction word generalizing used with
  | nil => exact fits
  | cons character rest inductionHypothesis =>
      rw [foldWord] at single
      rw [cells_cons]
      split at single
      · split at single <;> simp at single
      · rename_i wide
        have narrow : used + Text.cellWidth character ≤ width := Nat.not_lt.mp wide
        split at single
        · rename_i nothing
          exact absurd nothing (foldWord_ne_nil _ _ _)
        · rename_i piece pieces found
          have fitsRest := inductionHypothesis narrow (by rw [found]; exact single)
          omega

/-! ## Breaking lines -/

/-- The text in the lines under construction. -/
def Layout.text (layout : Layout) : List Char := layout.finished.flatten ++ layout.current

theorem Layout.flatten_break (layout : Layout) : layout.break.flatten = layout.text := by
  rw [Layout.break, Layout.text]
  split
  · rename_i empty
    rw [List.isEmpty_iff.mp empty, List.append_nil]
  · simp

/-- A word is added at the end of the text. -/
theorem Layout.text_add (width : Nat) (folds : Bool) (layout : Layout) (word : List Char) :
    (layout.add width folds word).text = layout.text ++ word := by
  have begun : ∀ used, Layout.text ⟨layout.break, word, used⟩ = layout.text ++ word := by
    intro used
    rw [Layout.text, Layout.flatten_break]
  rw [Layout.add]
  dsimp only
  split
  · simp [Layout.text]
  · split
    · split
      · have pieces := foldWord_ne_nil width 0 word
        have whole := flatten_foldWord width 0 word
        rw [← List.dropLast_append_getLast pieces, List.flatten_append, List.flatten_singleton] at whole
        rw [Layout.text, List.flatten_append, Layout.flatten_break, List.append_assoc,
          List.getLast?_eq_some_getLast pieces, Option.getD_some, whole]
      · exact begun _
    · exact begun _

/-- The pieces of a line make up the line. -/
theorem flatten_breakLine (width : Nat) (folds : Bool) (line : List Char) :
    (breakLine width folds line).flatten = line := by
  have run : ∀ (found : List (List Char)) (layout : Layout),
      (found.foldl (Layout.add width folds) layout).text = layout.text ++ found.flatten := by
    intro found
    induction found with
    | nil =>
        intro layout
        exact (List.append_nil _).symm
    | cons word rest inductionHypothesis =>
        intro layout
        rw [List.foldl_cons, inductionHypothesis, Layout.text_add, List.append_assoc,
          List.flatten_cons]
  rw [breakLine]
  split
  · exact List.append_nil _
  · rename_i nonempty
    have visible : line.all Text.isBlank = false := by
      rw [Bool.eq_false_iff]
      intro blank
      exact nonempty (words_of_blank blank)
    have whole := run (words line) ⟨[], [], 0⟩
    rw [flatten_words visible, Layout.text] at whole
    rw [List.flatten_append, List.flatten_singleton]
    exact whole

/-- Whether the lines under construction are several, or a single one that fits but for blanks at
its end. -/
def Layout.Holds (width : Nat) (layout : Layout) : Prop :=
  layout.finished ≠ [] ∨
    layout.used = Text.cells layout.current ∧ Text.cells (Text.trimEnd layout.current) ≤ width

theorem Layout.break_ne_nil {layout : Layout} (begun : layout.finished ≠ [] ∨ layout.current ≠ []) :
    layout.break ≠ [] := by
  rw [Layout.break]
  split
  · rename_i empty
    rw [List.isEmpty_iff] at empty
    exact begun.resolve_right (fun nonempty => nonempty empty)
  · simp

/-- A word that does not fit into a line that holds something starts another line. -/
theorem Layout.Holds.add {width : Nat} {layout : Layout} (holds : layout.Holds width)
    (word : List Char) : (layout.add width true word).Holds width := by
  rw [Layout.add]
  dsimp only
  split
  · rename_i fits
    refine holds.imp_right fun ⟨used, _⟩ => ⟨by rw [used, cells_append], ?_⟩
    have narrow := cells_trimEnd_append_le layout.current word
    rw [used] at fits
    exact Nat.le_trans narrow fits
  · rename_i tooLong
    left
    split
    · rename_i wide
      rw [if_pos rfl]
      intro nothing
      have single : (foldWord width 0 word).length ≤ 1 := by
        have counted := congrArg List.length (List.append_eq_nil_iff.mp nothing).2
        rw [List.length_dropLast, List.length_nil] at counted
        omega
      have fits := cells_le_of_foldWord_length (Nat.zero_le width) single
      have trimmed := cells_trimEnd_le word
      omega
    · rename_i narrow
      apply Layout.break_ne_nil
      refine holds.imp_right fun ⟨used, _⟩ empty => ?_
      rw [used, empty, cells_nil] at tooLong
      omega

/-- A line broken into one piece stays as it is, and fits but for blanks at its end. -/
theorem eq_of_breakLine_eq_singleton {width : Nat} {line piece : List Char}
    (single : breakLine width true line = [piece]) :
    piece = line ∧ Text.cells (Text.trimEnd line) ≤ width := by
  have whole := flatten_breakLine width true line
  rw [single, List.flatten_singleton] at whole
  refine ⟨whole, ?_⟩
  have run : ∀ (found : List (List Char)) (layout : Layout), layout.Holds width →
      (found.foldl (Layout.add width true) layout).Holds width := by
    intro found
    induction found with
    | nil => exact fun _ holds => holds
    | cons word rest inductionHypothesis =>
        exact fun layout holds => inductionHypothesis _ (holds.add word)
  rw [breakLine] at single
  split at single
  · rename_i nothing
    cases blank : line.all Text.isBlank with
    | true =>
        have gone := trimEnd_append_of_blank [] (List.all_eq_true.mp blank)
        rw [List.nil_append] at gone
        rw [gone]
        exact Nat.zero_le _
    | false =>
        have made := flatten_words blank
        rw [nothing] at made
        rw [← made] at blank
        cases blank
  · obtain ⟨finished, current⟩ := List.append_inj' (single.trans (List.nil_append _).symm) rfl
    rcases run (words line) ⟨[], [], 0⟩ (.inr ⟨rfl, Nat.zero_le _⟩) with several | ⟨-, fits⟩
    · exact absurd finished several
    · rwa [List.singleton_inj.mp current, whole] at fits

theorem breakLine_ne_nil (width : Nat) (folds : Bool) (line : List Char) :
    breakLine width folds line ≠ [] := by
  rw [breakLine]
  split
  · exact List.cons_ne_nil _ _
  · simp

/-- Words that fit into a line together stand in it. -/
theorem foldl_add_of_fits {width : Nat} (folds : Bool) (found : List (List Char))
    {text : List Char} (fits : Text.cells (text ++ found.flatten) ≤ width) :
    found.foldl (Layout.add width folds) ⟨[], text, Text.cells text⟩
      = ⟨[], text ++ found.flatten, Text.cells (text ++ found.flatten)⟩ := by
  induction found generalizing text with
  | nil => rw [List.flatten_nil, List.append_nil, List.foldl_nil]
  | cons word rest inductionHypothesis =>
      have together : Text.cells text + Text.cells (Text.trimEnd word) ≤ width := by
        have trimmed := cells_trimEnd_le word
        rw [List.flatten_cons, cells_append, cells_append] at fits
        omega
      rw [List.flatten_cons, ← List.append_assoc] at fits ⊢
      rw [List.foldl_cons, Layout.add]
      dsimp only
      rw [if_pos together, ← cells_append]
      exact inductionHypothesis fits

/-- A line that fits is not broken. -/
theorem breakLine_of_fits {width : Nat} (folds : Bool) {line : List Char}
    (fits : Text.cells line ≤ width) : breakLine width folds line = [line] := by
  cases blank : line.all Text.isBlank with
  | true => rw [breakLine, words_of_blank blank]
  | false =>
      have whole := flatten_words blank
      rw [breakLine]
      split
      · rfl
      · have held := @foldl_add_of_fits width folds (words line) [] (by rwa [List.nil_append, whole])
        rw [List.nil_append, whole, cells_nil] at held
        rw [held]
        rfl

/-! ## Cutting lines -/

/-- Only blanks are dropped from a line. -/
theorem dropExcess_append_blanks (width : Nat) (line : List Char) :
    ∃ blanks, line = dropExcess width line ++ blanks ∧
      ∀ character ∈ blanks, Text.isBlank character := by
  have run := List.takeWhile_append_dropWhile (p := Text.isBlank) (l := line.reverse)
  let dropped := min (line.reverse.takeWhile Text.isBlank).length (line.length - width)
  have last : line.drop (line.length - dropped) = (line.reverse.take dropped).reverse := by
    rw [List.take_reverse, List.reverse_reverse]
  have blank : ∀ character ∈ line.reverse.take dropped, Text.isBlank character := by
    rw [← run, List.take_append_of_le_length (Nat.min_le_left _ _)]
    exact fun character present => List.mem_takeWhile_imp (List.mem_of_mem_take present)
  refine ⟨line.drop (line.length - dropped), (List.take_append_drop _ _).symm, ?_⟩
  rw [last]
  exact fun character present => blank character (List.mem_reverse.mp present)

theorem cells_dropExcess_le (width : Nat) (line : List Char) :
    Text.cells (dropExcess width line) ≤ Text.cells line := by
  obtain ⟨blanks, whole, -⟩ := dropExcess_append_blanks width line
  have parts := congrArg Text.cells whole
  rw [cells_append] at parts
  omega

/-- A line stays as it is when it has no more characters than fit, or ends in something else than a
blank. -/
theorem dropExcess_eq_self_iff {width : Nat} {line : List Char} :
    dropExcess width line = line
      ↔ line.length ≤ width ∨ line.getLast?.any Text.isBlank = false := by
  have visible : (line.reverse.takeWhile Text.isBlank).length = 0
      ↔ line.getLast?.any Text.isBlank = false := by
    rw [← List.head?_reverse]
    cases line.reverse with
    | nil => simp
    | cons last rest => cases blank : Text.isBlank last <;> simp [blank]
  have shorter : (line.reverse.takeWhile Text.isBlank).length ≤ line.length := by
    rw [← @List.length_reverse _ line]
    exact (List.takeWhile_prefix _).length_le
  rw [dropExcess, List.take_eq_self_iff, ← visible]
  omega

/-- The longest start of a line that fits holds a text at its start that fits. -/
theorem fit_append {width : Nat} {front : List Char} (fits : Text.cells front ≤ width)
    (back : List Char) : fit width (front ++ back) = front ++ fit (width - Text.cells front) back := by
  induction front generalizing width with
  | nil => rfl
  | cons character front inductionHypothesis =>
      rw [cells_cons] at fits ⊢
      have first : Text.cellWidth character ≤ width := by omega
      rw [List.cons_append, fit, if_pos first, inductionHypothesis (by omega), Nat.sub_sub,
        List.cons_append]

theorem fit_of_blank (width : Nat) {blanks : List Char}
    (blank : ∀ character ∈ blanks, Text.isBlank character) :
    ∀ character ∈ fit width blanks, Text.isBlank character := by
  induction blanks generalizing width with
  | nil => nofun
  | cons first rest inductionHypothesis =>
      rw [List.forall_mem_cons] at blank
      rw [fit]
      split
      · exact List.forall_mem_cons.mpr ⟨blank.1, inductionHypothesis _ blank.2⟩
      · split
        · nofun
        · intro character present
          rw [List.mem_singleton.mp present]
          decide

/-- Cutting a line that fits but for blanks at its end takes blanks only. -/
theorem trimEnd_truncate {width : Nat} {line : List Char}
    (fits : Text.cells (Text.trimEnd line) ≤ width) :
    Text.trimEnd (truncate width false line) = Text.trimEnd line := by
  rw [truncate]
  split
  · rfl
  · obtain ⟨blanks, whole, blank⟩ := trimEnd_append_blanks line
    have cut : fit width line
        = Text.trimEnd line ++ fit (width - Text.cells (Text.trimEnd line)) blanks := by
      rw [← fit_append fits, ← whole]
    have same := trimEnd_append_of_blank (Text.trimEnd line) blank
    rw [← whole] at same
    rw [if_neg (by decide), cut, trimEnd_append_of_blank _ (fit_of_blank _ blank), ← same]

theorem trimEnd_dropExcess (width : Nat) (line : List Char) :
    Text.trimEnd (dropExcess width line) = Text.trimEnd line := by
  obtain ⟨blanks, whole, blank⟩ := dropExcess_append_blanks width line
  have same := trimEnd_append_of_blank (dropExcess width line) blank
  rwa [← whole, eq_comm] at same

/-! ## Wrapping texts -/

/-- A text without line breaks that fits is one line. -/
theorem wrap_of_fits {width : Nat} (folds : Bool) {text : List Char} (unbroken : '\n' ∉ text)
    (fits : Text.cells (expandTabs 0 text) ≤ width) :
    wrap width folds text = [dropExcess width (expandTabs 0 text)] := by
  have narrow : Text.cells (dropExcess width (expandTabs 0 text)) ≤ width :=
    Nat.le_trans (cells_dropExcess_le _ _) fits
  rw [wrap, Text.split_of_not_mem unbroken, List.flatMap_singleton, breakLine_of_fits folds fits,
    List.map_singleton, truncate, if_pos narrow]

theorem wrap_ne_nil (width : Nat) (folds : Bool) (text : List Char) : wrap width folds text ≠ [] := by
  intro nothing
  obtain ⟨line, others, lines⟩ := List.exists_cons_of_ne_nil (Text.split_ne_nil '\n' text)
  rw [wrap, lines, List.flatMap_cons, List.append_eq_nil_iff, List.map_eq_nil_iff] at nothing
  exact breakLine_ne_nil _ _ _ nothing.1

/-- A text that is laid out in one line stays as it is but for blanks at its end. -/
theorem trimEnd_of_wrap_eq_singleton {width : Nat} {text line : List Char}
    (single : wrap width true text = [line]) :
    Text.trimEnd line = Text.trimEnd (expandTabs 0 text) := by
  have unbroken : '\n' ∉ text := by
    intro present
    obtain ⟨front, back, rfl⟩ := List.append_of_mem present
    rw [wrap, Text.split_append, List.flatMap_append] at single
    have first := wrap_ne_nil width true front
    have second := wrap_ne_nil width true back
    have counted := congrArg List.length single
    rw [List.length_append, List.length_singleton] at counted
    have one := List.length_pos_iff.mpr first
    have two := List.length_pos_iff.mpr second
    rw [wrap] at one two
    omega
  rw [wrap, Text.split_of_not_mem unbroken, List.flatMap_singleton] at single
  obtain ⟨piece, piece_eq, cut⟩ := List.map_eq_singleton_iff.mp single
  obtain ⟨rfl, fits⟩ := eq_of_breakLine_eq_singleton piece_eq
  have stillFits : Text.cells (Text.trimEnd (dropExcess width (expandTabs 0 text))) ≤ width := by
    rwa [trimEnd_dropExcess]
  rw [← cut, Bool.not_true, trimEnd_truncate stillFits, trimEnd_dropExcess]

/-- A text that is one line when its lines are joined was laid out in one line. -/
theorem wrap_eq_singleton_of_joined {width : Nat} {text line : List Char} (unbroken : '\n' ∉ line)
    (joined : ['\n'].intercalate (wrap width true text) = line) : wrap width true text = [line] := by
  obtain ⟨first, others, lines⟩ := List.exists_cons_of_ne_nil (wrap_ne_nil width true text)
  cases others with
  | nil =>
      rw [lines, List.intercalate_singleton] at joined
      rw [lines, joined]
  | cons second others =>
      refine absurd ?_ unbroken
      rw [← joined, lines, List.intercalate_cons_cons]
      simp

theorem trimEnd_of_intercalate_wrap {width : Nat} {text line : List Char} (unbroken : '\n' ∉ line)
    (joined : ['\n'].intercalate (wrap width true text) = line) :
    Text.trimEnd line = Text.trimEnd (expandTabs 0 text) :=
  trimEnd_of_wrap_eq_singleton (wrap_eq_singleton_of_joined unbroken joined)

/-! ## Tabs -/

/-- A text without tabs stays. -/
theorem expandTabs_of_tabless {text : List Char} (tabless : '\t' ∉ text) (column : Nat) :
    expandTabs column text = text := by
  induction text generalizing column with
  | nil => rfl
  | cons character rest inductionHypothesis =>
      obtain ⟨other, later⟩ := not_or.mp (mt List.mem_cons.mpr tabless)
      rw [expandTabs, if_neg (by simpa using Ne.symm other), inductionHypothesis later]

theorem expandTabs_append {back : List Char} (tabless : '\t' ∉ back) (front : List Char)
    (column : Nat) : expandTabs column (front ++ back) = expandTabs column front ++ back := by
  induction front generalizing column with
  | nil => exact expandTabs_of_tabless tabless column
  | cons character front inductionHypothesis =>
      rw [List.cons_append, expandTabs, expandTabs]
      split
      · dsimp only
        rw [inductionHypothesis, List.append_assoc]
      · rw [inductionHypothesis, List.cons_append]

theorem Fits.wrap_eq {width : Nat} {text : List Char} (fits : Fits width text) (folds : Bool) :
    wrap width folds text = [dropExcess width text] := by
  have expanded := expandTabs_of_tabless fits.printable.tabless 0
  have narrow : Text.cells (expandTabs 0 text) ≤ width := by
    rw [expanded]
    exact fits.narrow
  rw [wrap_of_fits folds fits.printable.unbroken narrow, expanded]

/-! ## The width of laid out lines -/

theorem cells_fit_le (width : Nat) (line : List Char) : Text.cells (fit width line) ≤ width := by
  induction line generalizing width with
  | nil => exact Nat.zero_le _
  | cons character rest inductionHypothesis =>
      rw [fit]
      by_cases room : Text.cellWidth character ≤ width
      · have later := inductionHypothesis (width - Text.cellWidth character)
        rw [if_pos room, cells_cons]
        omega
      · rw [if_neg room]
        have one : Text.cells [' '] = 1 := by decide
        split
        · exact Nat.zero_le _
        · rename_i wide
          rw [one]
          exact Nat.one_le_iff_ne_zero.mpr fun closed => wide (beq_iff_eq.mpr closed)

/-- No line of a text that is laid out is too wide. -/
theorem cells_le_of_mem_wrap {width : Nat} {text line : List Char}
    (present : line ∈ wrap width true text) : Text.cells line ≤ width := by
  obtain ⟨broken, -, inside⟩ := List.mem_flatMap.mp present
  obtain ⟨piece, -, rfl⟩ := List.mem_map.mp inside
  rw [truncate]
  split
  · assumption
  · exact cells_fit_le width _

theorem cells_le_of_intercalate_wrap {width : Nat} {text line : List Char} (unbroken : '\n' ∉ line)
    (joined : ['\n'].intercalate (wrap width true text) = line) : Text.cells line ≤ width := by
  apply cells_le_of_mem_wrap
  rw [wrap_eq_singleton_of_joined unbroken joined]
  exact List.mem_singleton_self line

/-! ## Marks of laid out lines -/

theorem marks_of_blank {blanks : List Char} (blank : ∀ character ∈ blanks, Text.isBlank character) :
    marks blanks = 0 := by
  refine List.countP_eq_zero.mpr fun character present => ?_
  have other := blank character present
  simp only [isMark, Bool.or_eq_true, beq_iff_eq, not_or]
  refine ⟨⟨?_, ?_⟩, ?_⟩
  all_goals
    rintro rfl
    revert other
    decide

theorem marks_trimEnd (text : List Char) : marks (Text.trimEnd text) = marks text := by
  obtain ⟨blanks, whole, blank⟩ := trimEnd_append_blanks text
  have counted := congrArg marks whole
  rw [marks_append, marks_of_blank blank] at counted
  exact counted.symm

theorem marks_expandTabs (column : Nat) (text : List Char) :
    marks (expandTabs column text) = marks text := by
  induction text generalizing column with
  | nil => rfl
  | cons character rest inductionHypothesis =>
      rw [expandTabs]
      split
      · rename_i tab
        have spaces : marks (List.replicate (tabStop - column % tabStop) ' ') = 0 :=
          marks_of_blank fun character present => by
            rw [List.eq_of_mem_replicate present]
            decide
        rw [eq_of_beq tab, marks_append, spaces, inductionHypothesis, marks_cons]
        simp [isMark]
      · rw [marks_cons, marks_cons, inductionHypothesis]

theorem marks_dropExcess (width : Nat) (line : List Char) :
    marks (dropExcess width line) = marks line := by
  obtain ⟨blanks, whole, blank⟩ := dropExcess_append_blanks width line
  have counted := congrArg marks whole
  rw [marks_append, marks_of_blank blank] at counted
  exact counted.symm

theorem marks_fit_le (width : Nat) (line : List Char) : marks (fit width line) ≤ marks line := by
  induction line generalizing width with
  | nil => exact Nat.le_refl _
  | cons character rest inductionHypothesis =>
      rw [fit]
      split
      · rw [marks_cons, marks_cons]
        exact Nat.add_le_add_right (inductionHypothesis _) _
      · split
        · exact Nat.zero_le _
        · have space : marks [' '] = 0 := by decide
          rw [space]
          exact Nat.zero_le _

theorem marks_truncate_le (width : Nat) (cutMarks : Bool) (line : List Char) :
    marks (truncate width cutMarks line) ≤ marks line := by
  rw [truncate]
  split
  · exact Nat.le_refl _
  · split
    · have dots : marks ['…'] = 0 := by decide
      rw [marks_append, dots]
      exact marks_fit_le _ _
    · exact marks_fit_le _ _

/-- Texts that are changed without gaining marks have no more marks together. -/
theorem marks_flatten_map_le {α : Type} {items : List α} {change original : α → List Char}
    (keeps : ∀ item ∈ items, marks (change item) ≤ marks (original item)) :
    marks (items.map change).flatten ≤ marks (items.map original).flatten := by
  induction items with
  | nil => exact Nat.le_refl _
  | cons item rest inductionHypothesis =>
      rw [List.forall_mem_cons] at keeps
      rw [List.map_cons, List.map_cons, List.flatten_cons, List.flatten_cons, marks_append,
        marks_append]
      exact Nat.add_le_add keeps.1 (inductionHypothesis keeps.2)

theorem marks_flatten_map_append {α : Type} (items : List α) (front back : α → List Char) :
    marks (items.map fun item => front item ++ back item).flatten
      = marks (items.map front).flatten + marks (items.map back).flatten := by
  induction items with
  | nil => rfl
  | cons item rest inductionHypothesis =>
      simp only [List.map_cons, List.flatten_cons, marks_append, inductionHypothesis]
      omega

/-- The same holds of texts that are cut into pieces. -/
theorem marks_flatten_flatMap_le {texts : List (List Char)} {change : List Char → List (List Char)}
    (keeps : ∀ text, marks (change text).flatten ≤ marks text) :
    marks (texts.flatMap change).flatten ≤ marks texts.flatten := by
  have joined : (texts.flatMap change).flatten
      = (texts.map fun text => (change text).flatten).flatten := by
    rw [List.flatMap, List.flatten_flatten, List.map_map]
    rfl
  have whole := @marks_flatten_map_le _ texts _ id fun text _ => keeps text
  rwa [← joined, List.map_id] at whole

/-- Laying out a text does not add marks. -/
theorem marks_wrap_le (width : Nat) (folds : Bool) (text : List Char) :
    marks (wrap width folds text).flatten ≤ marks text := by
  have split : marks (Text.split '\n' text).flatten ≤ marks text := by
    induction text with
    | nil => exact Nat.le_refl _
    | cons character rest inductionHypothesis =>
        rw [Text.split]
        split
        · exact Nat.le_trans inductionHypothesis (marks_le_cons _ _)
        · obtain ⟨piece, pieces, found⟩ := List.exists_cons_of_ne_nil (Text.split_ne_nil '\n' rest)
          rw [found] at inductionHypothesis ⊢
          rw [List.flatten_cons, List.cons_append, ← List.flatten_cons, marks_cons, marks_cons]
          exact Nat.add_le_add_right inductionHypothesis _
  refine Nat.le_trans (marks_flatten_flatMap_le fun line => ?_) split
  rw [← marks_expandTabs 0 line, ← flatten_breakLine width folds (expandTabs 0 line),
    List.map_eq_flatMap, flatten_breakLine]
  refine Nat.le_trans (marks_flatten_flatMap_le fun piece => ?_)
    (Nat.le_of_eq (congrArg marks (flatten_breakLine width folds (expandTabs 0 line))))
  rw [List.flatten_singleton, ← marks_dropExcess width piece]
  exact marks_truncate_le _ _ _

end Routebook.Terminal

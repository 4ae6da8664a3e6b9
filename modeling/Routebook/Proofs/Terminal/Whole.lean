import Routebook.Proofs.Terminal.Frame
import Routebook.Proofs.Text.Whole

/-!
# Whole texts on a terminal

What a terminal makes of whole texts is whole: it shows characters of the text, pictures, spaces and
ruled lines.  So a line or a table of whole texts can always be written
(`Terminal.isWhole_markedText`, `Terminal.isWhole_wrap`, `Terminal.Table.isWhole_of_lines`).
-/

namespace Routebook.Terminal

set_option autoImplicit false

open Text (isWhole isUnassigned isWhole_iff isWhole_cons isWhole_append isWhole_flatten
  isWhole_replicate isWhole_of_assigned isWhole_of_subset)

/-! ## Printable texts -/

/-- Ranges below a code point do not matter for whether it lies in one of them. -/
theorem inRanges_append {front back : List (Nat × Nat)} {code : Nat}
    (below : ∀ range ∈ front, range.1 ≤ code ∧ range.2 < code) :
    Text.inRanges (front ++ back) code = Text.inRanges back code := by
  induction front with
  | nil => rfl
  | cons range rest inductionHypothesis =>
      obtain ⟨⟨least, most⟩, others⟩ := List.forall_mem_cons.mp below
      rw [List.cons_append, Text.inRanges, if_neg (Nat.not_lt.mpr least),
        if_neg (Nat.not_le.mpr most), inductionHypothesis others]

/-- No character of a plane in which none is assigned is printable. -/
theorem isUnassigned_of_isPrintable {character : Char}
    (printable : Text.isPrintable character = true) : isUnassigned character = false := by
  rw [Bool.eq_false_iff]
  intro unassigned
  rw [isUnassigned, Bool.and_eq_true, decide_eq_true_eq, decide_eq_true_eq] at unassigned
  have early : ∀ range ∈ Text.unprintableRanges.take 699, range.1 ≤ 0x40000 ∧ range.2 < 0x40000 := by
    decide +kernel
  have late : Text.unprintableRanges.drop 699 = [(0x3134B, 0xE00FF), (0xE01F0, 0x10FFFF)] := by
    decide +kernel
  have inside : Text.inRanges Text.unprintableRanges character.toNat = true := by
    rw [← List.take_append_drop 699 Text.unprintableRanges, inRanges_append, late, Text.inRanges,
      if_neg (by omega), if_pos (by omega)]
    intro range present
    have small := early range present
    omega
  rw [Text.isPrintable, if_neg (by omega), inside] at printable
  cases printable

/-- Pictures consist of assigned characters. -/
theorem pictures_assigned :
    pictures.all (fun entry => entry.2.all fun character => !isUnassigned character) = true := by
  decide +kernel

/-- The pieces of a text hold characters of the text. -/
theorem plainText_piecesFrom_subset (pending text : List Char) :
    plainText (piecesFrom pending text) ⊆ pending.reverse ++ text := by
  fun_induction fragmentsFrom pending text with
  | case1 pending =>
      rw [piecesFrom_nil, plainText_flushed]
      exact List.subset_append_left _ _
  | case2 pending character rest count content after found inductionHypothesis =>
      have escaped : plainText (escapedPieces count content) ⊆ tagged count content [] := by
        intro other present
        rw [plainText_escapedPieces, List.mem_append] at present
        rcases present with slash | inTag
        · obtain ⟨some, rfl⟩ := List.mem_replicate.mp slash
          exact List.mem_append_left _ (List.mem_replicate.mpr ⟨by omega, rfl⟩)
        · split at inTag
          · exact List.mem_append_right _ inTag
          · cases inTag
      have whole : tagged count content after = tagged count content [] ++ after := by
        simp [tagged]
      rw [piecesFrom_tag found, (escapedTag?_eq_some_iff.mp found).1, whole, plainText_append,
        plainText_append, plainText_flushed, List.append_assoc]
      exact List.append_subset.mpr ⟨List.subset_append_left _ _,
        List.append_subset.mpr ⟨List.subset_append_of_subset_right _
          (List.subset_append_of_subset_left _ escaped),
        List.subset_append_of_subset_right _
          (List.subset_append_of_subset_right _ inductionHypothesis)⟩⟩
  | case3 pending character rest missing inductionHypothesis =>
      rw [piecesFrom_cons missing]
      rwa [List.reverse_cons, List.append_assoc, List.singleton_append] at inductionHypothesis

variable [Text.Halves]

theorem Printable.isWhole {text : List Char} (printable : Printable text) :
    isWhole text = true :=
  isWhole_of_assigned (List.all_eq_true.mpr fun character present =>
    (Bool.not_eq_true' _).mpr (isUnassigned_of_isPrintable (printable character present)))

/-! ## Pictures -/

theorem isWhole_picture {name picture : List Char} (found : picture? name = some picture) :
    isWhole picture = true := by
  obtain ⟨entry, entryFound, rfl⟩ := Option.map_eq_some_iff.mp found
  exact isWhole_of_assigned
    (List.all_eq_true.mp pictures_assigned entry (List.mem_of_find?_eq_some entryFound))

theorem isWhole_form (name : List Char) : isWhole (separateForm name).2 = true := by
  have colored : isWhole ['\uFE0F'] = true := isWhole_of_assigned (by decide)
  have plain : isWhole ['\uFE0E'] = true := isWhole_of_assigned (by decide)
  unfold separateForm
  dsimp only
  split
  · exact colored
  · split
    · exact plain
    · rfl

theorem isWhole_showShortcode {name : List Char} (whole : isWhole name = true) :
    isWhole (showShortcode name) = true := by
  have colon : isWhole [':'] = true := isWhole_of_assigned (by decide)
  unfold showShortcode
  dsimp only
  split
  · rename_i picture found
    rw [isWhole_append, isWhole_picture found, isWhole_form]
    rfl
  · rw [← List.singleton_append, isWhole_append, isWhole_append, colon, whole]
    rfl

theorem isWhole_expandShortcodes {text : List Char} (whole : isWhole text = true) :
    isWhole (expandShortcodes text) = true := by
  fun_induction expandShortcodes text with
  | case1 => rfl
  | case2 character rest isColon name after found inductionHypothesis =>
      rw [(shortcode?_eq_some_iff.mp found).1, isWhole_cons, isWhole_append, isWhole_cons] at whole
      simp only [Bool.and_eq_true] at whole
      rw [isWhole_append, isWhole_showShortcode whole.2.1, inductionHypothesis whole.2.2.2]
      rfl
  | case3 character rest isColon missing inductionHypothesis =>
      rw [isWhole_cons, Bool.and_eq_true] at whole
      rw [isWhole_cons, ← eq_of_beq isColon, whole.1, inductionHypothesis whole.2]
      rfl
  | case4 character rest notColon inductionHypothesis =>
      rw [isWhole_cons, Bool.and_eq_true] at whole
      rw [isWhole_cons, whole.1, inductionHypothesis whole.2]
      rfl

/-! ## Marked texts -/

theorem isWhole_shownPiece {text : List Char} (whole : isWhole text = true) :
    isWhole (shownPiece text) = true := by
  refine isWhole_expandShortcodes (isWhole_iff.mpr fun character present => ?_)
  by_cases bracket : character = '['
  · exact bracket ▸ Text.Halves.code?_assigned '[' (by decide)
  · by_contra half
    exact Text.not_mem_replaceAll (fun inText => half (isWhole_iff.mp whole character inText))
      (by simpa using bracket) present

theorem isWhole_shownText {text : List Char} (whole : isWhole text = true) :
    isWhole (shownText text) = true := by
  rw [← flatten_fragments text, isWhole_flatten] at whole
  rw [shownText, shownFragments, List.flatMap_def, isWhole_flatten]
  intro shown present
  obtain ⟨stretch, listed, rfl⟩ := List.mem_map.mp present
  exact isWhole_shownPiece (whole stretch listed)

theorem isWhole_uncontrolled {text : List Char} (whole : isWhole text = true) :
    isWhole (uncontrolled text) = true :=
  isWhole_of_subset whole (List.filter_subset_self _)

theorem isWhole_textOfPieces [Dialect] {openStyles : List OpenStyle} {found : List Piece}
    {shown : List Char} (reads : textOfPieces openStyles found = .ok shown)
    (whole : isWhole (plainText found) = true) : isWhole shown = true := by
  induction found generalizing openStyles shown with
  | nil =>
      cases reads
      rfl
  | cons piece rest inductionHypothesis =>
      cases piece with
      | plain text =>
          change isWhole (text ++ plainText rest) = true at whole
          rw [isWhole_append, Bool.and_eq_true] at whole
          rw [textOfPieces] at reads
          obtain ⟨others, later, made⟩ := Outcome.exists_of_bind reads
          cases made
          rw [isWhole_append, isWhole_shownPiece whole.1, inductionHypothesis later whole.2]
          rfl
      | tag content =>
          rw [textOfPieces] at reads
          obtain ⟨styles, -, later⟩ := Outcome.exists_of_bind reads
          exact inductionHypothesis later whole

/-- **A whole marked text shows a whole text.** -/
theorem isWhole_markedText [Dialect] {text shown : List Char} (reads : markedText text = .ok shown)
    (whole : isWhole text = true) : isWhole shown = true := by
  obtain ⟨inner, read, rfl⟩ := exists_of_markedText reads
  exact isWhole_uncontrolled (isWhole_textOfPieces read
    (isWhole_of_subset whole (plainText_piecesFrom_subset [] text)))

/-! ## Lines -/

theorem isWhole_expandTabs {text : List Char} (whole : isWhole text = true) (column : Nat) :
    isWhole (expandTabs column text) = true := by
  induction text generalizing column with
  | nil => rfl
  | cons character rest inductionHypothesis =>
      rw [isWhole_cons, Bool.and_eq_true] at whole
      rw [expandTabs]
      split
      · rw [isWhole_append, isWhole_replicate (by decide), inductionHypothesis whole.2]
        rfl
      · rw [isWhole_cons, whole.1, inductionHypothesis whole.2]
        rfl

theorem isWhole_fit {line : List Char} (whole : isWhole line = true) (width : Nat) :
    isWhole (fit width line) = true := by
  induction line generalizing width with
  | nil => rfl
  | cons character rest inductionHypothesis =>
      rw [isWhole_cons, Bool.and_eq_true] at whole
      rw [fit]
      split
      · rw [isWhole_cons, whole.1, inductionHypothesis whole.2]
        rfl
      · split
        · rfl
        · exact isWhole_of_assigned (by decide)

theorem isWhole_truncate {line : List Char} (whole : isWhole line = true) (width : Nat)
    (cutMarks : Bool) : isWhole (truncate width cutMarks line) = true := by
  have dots : isWhole ['…'] = true := isWhole_of_assigned (by decide)
  rw [truncate]
  split
  · exact whole
  · split
    · rw [isWhole_append, isWhole_fit whole, dots]
      rfl
    · exact isWhole_fit whole width

/-- **The lines of a whole text are whole.** -/
theorem isWhole_wrap {text line : List Char} (whole : isWhole text = true) {width : Nat}
    {folds : Bool} (present : line ∈ wrap width folds text) : isWhole line = true := by
  obtain ⟨part, inText, inside⟩ := List.mem_flatMap.mp present
  obtain ⟨piece, inPart, rfl⟩ := List.mem_map.mp inside
  have wholePart : isWhole part = true := by
    obtain ⟨-, before, after, rfl, -⟩ := Text.isPiece_of_mem_split inText
    exact isWhole_of_subset whole fun character here => by simp [here]
  have pieces := isWhole_expandTabs wholePart 0
  rw [← flatten_breakLine width folds (expandTabs 0 part), isWhole_flatten] at pieces
  exact isWhole_truncate (isWhole_of_subset (pieces piece inPart) (List.take_subset _ _)) _ _

theorem isWhole_intercalate {edge : Char} (assigned : isUnassigned edge = false)
    {parts : List (List Char)} (whole : ∀ part ∈ parts, isWhole part = true) :
    isWhole ([edge].intercalate parts) = true := by
  have single : isWhole [edge] = true := isWhole_replicate assigned 1
  induction parts with
  | nil => rfl
  | cons part rest inductionHypothesis =>
      obtain ⟨here, there⟩ := List.forall_mem_cons.mp whole
      cases rest with
      | nil => simpa using here
      | cons next rest =>
          rw [List.intercalate_cons_cons, isWhole_append, isWhole_append, here, single,
            inductionHypothesis there]
          rfl

/-! ## Tables -/

theorem isWhole_padEnd {line : List Char} (whole : isWhole line = true) (width : Nat) :
    isWhole (padEnd width line) = true := by
  rw [padEnd, isWhole_append, whole, isWhole_replicate (by decide)]
  rfl

theorem isWhole_padMiddle {line : List Char} (whole : isWhole line = true) (width : Nat) :
    isWhole (padMiddle width line) = true := by
  refine isWhole_padEnd ?_ width
  rw [isWhole_append, isWhole_replicate (by decide)]
  obtain ⟨blanks, all, -⟩ := trimEnd_append_blanks line
  rw [all, isWhole_append, Bool.and_eq_true] at whole
  exact whole.1

/-- The characters that the rules of a table are drawn with. -/
def Rules.Assigned (rules : Rules) : Prop :=
  isUnassigned rules.left = false ∧ isUnassigned rules.middle = false ∧
    isUnassigned rules.right = false

instance (rules : Rules) : Decidable rules.Assigned := inferInstanceAs (Decidable (_ ∧ _ ∧ _))

/-- Whole parts between rules make a whole line. -/
theorem Rules.Assigned.isWhole_line {rules : Rules} (assigned : rules.Assigned)
    {parts : List (List Char)} (whole : ∀ part ∈ parts, isWhole part = true) :
    isWhole (rules.left :: ([rules.middle].intercalate parts ++ [rules.right])) = true := by
  obtain ⟨left, middle, right⟩ := assigned
  have first : isWhole [rules.left] = true := isWhole_replicate left 1
  have last : isWhole [rules.right] = true := isWhole_replicate right 1
  rw [← List.singleton_append, isWhole_append, isWhole_append, first, last,
    isWhole_intercalate middle whole]
  rfl

theorem isWhole_ruleLine {rules : Rules} (assigned : rules.Assigned) {dash : Char}
    (plain : isUnassigned dash = false) (widths : List Nat) :
    isWhole (ruleLine rules dash widths) = true := by
  refine assigned.isWhole_line fun part present => ?_
  obtain ⟨width, -, rfl⟩ := List.mem_map.mp present
  exact isWhole_replicate plain width

theorem isWhole_cellLines {text line : List Char} (whole : isWhole text = true) {width : Nat}
    (present : line ∈ cellLines width text) : isWhole line = true := by
  have space : isWhole [' '] = true := isWhole_of_assigned (by decide)
  rw [cellLines] at present
  split at present
  · cases present
  · obtain ⟨inner, inside, rfl⟩ := List.mem_map.mp present
    rw [← List.singleton_append, isWhole_append, isWhole_append, space,
      isWhole_padEnd (isWhole_wrap whole inside)]
    rfl

theorem isWhole_fillColumn {lines : List (List Char)} {line : List Char}
    (whole : ∀ line ∈ lines, isWhole line = true) {sinks : Bool} {height width : Nat}
    (present : line ∈ fillColumn sinks height width lines) : isWhole line = true := by
  have blank : ∀ line ∈ List.replicate (height - lines.length) (List.replicate width ' '),
      isWhole line = true := by
    intro line listed
    rw [List.eq_of_mem_replicate listed]
    exact isWhole_replicate (by decide) width
  rw [fillColumn] at present
  split at present
  · exact (List.mem_append.mp present).elim (blank line) (whole line)
  · exact (List.mem_append.mp present).elim (whole line) (blank line)

theorem isWhole_rowLines {rules : Rules} (assigned : rules.Assigned) {cells : List (List Char)}
    (whole : ∀ text ∈ cells, isWhole text = true) {sinks : Bool} {widths : List Nat}
    {line : List Char} (present : line ∈ rowLines rules sinks widths cells) :
    isWhole line = true := by
  obtain ⟨index, -, rfl⟩ := List.mem_map.mp (rowLines_eq rules sinks widths cells ▸ present)
  refine assigned.isWhole_line fun part listed => ?_
  obtain ⟨lines, filled, rfl⟩ := List.mem_map.mp listed
  obtain ⟨column, inRow, rfl⟩ := List.mem_map.mp filled
  obtain ⟨pair, zipped, rfl⟩ := List.mem_map.mp inRow
  have cell := whole pair.2 (List.of_mem_zip zipped).2
  cases found : (fillColumn sinks (rowHeight widths cells) pair.1
      (cellLines pair.1 pair.2))[index]? with
  | none => rfl
  | some line =>
      exact isWhole_fillColumn (fun line inside => isWhole_cellLines cell inside)
        (List.mem_of_getElem? found)

namespace Table

theorem isWhole_below {widths : List Nat} {headingRow : List (List Char)}
    {cellRows : List (List (List Char))}
    (whole : ∀ row ∈ headingRow :: cellRows, ∀ text ∈ row, isWhole text = true) {line : List Char}
    (present : line ∈ below widths headingRow cellRows) : isWhole line = true := by
  obtain ⟨heading, cells⟩ := List.forall_mem_cons.mp whole
  simp only [below, List.mem_append, List.mem_singleton, List.mem_flatMap] at present
  rcases present with (((rfl | inHeading) | rfl) | ⟨row, listed, inRow⟩) | rfl
  · exact isWhole_ruleLine (by decide) (by decide) widths
  · exact isWhole_rowLines (by decide) heading inHeading
  · exact isWhole_ruleLine (by decide) (by decide) widths
  · exact isWhole_rowLines (by decide) (cells row listed) inRow
  · exact isWhole_ruleLine (by decide) (by decide) widths

theorem isWhole_padRow {row : List (List Char)} (whole : ∀ text ∈ row, isWhole text = true)
    (count : Nat) : ∀ text ∈ padRow count row, isWhole text = true := by
  intro text present
  rcases List.mem_append.mp present with given | added
  · exact whole text given
  · rw [List.eq_of_mem_replicate added]
    rfl

variable [Dialect]

theorem isWhole_shownTexts {texts : List String} {shown : List (List Char)}
    (reads : shownTexts texts = .ok shown) (whole : ∀ text ∈ texts, isWhole text.toList = true) :
    ∀ text ∈ shown, isWhole text = true := by
  intro text present
  obtain ⟨marked, listed, read⟩ := Outcome.exists_of_mem_mapM reads present
  exact isWhole_markedText read (whole marked listed)

/-- **A table of whole texts has whole lines.** -/
theorem isWhole_of_lines {title : String} {headings : List String} {rows : List (List String)}
    {width : Nat} {lines : List (List Char)}
    (laidOut : Table.lines ⟨title, headings, rows⟩ width = .ok lines)
    (titled : isWhole title.toList = true)
    (whole : ∀ row ∈ headings :: rows, ∀ text ∈ row, isWhole text.toList = true) :
    ∀ line ∈ lines, isWhole line = true := by
  obtain ⟨shownHeadings, first, rest⟩ := Outcome.exists_of_bind laidOut
  obtain ⟨shownRows, later, drawn⟩ := Outcome.exists_of_bind rest
  obtain ⟨heading, cells⟩ := List.forall_mem_cons.mp whole
  have wholeRows : ∀ row ∈ shownHeadings :: shownRows, ∀ text ∈ row, isWhole text = true := by
    refine List.forall_mem_cons.mpr ⟨isWhole_shownTexts first heading, fun row present => ?_⟩
    obtain ⟨texts, listed, read⟩ := Outcome.exists_of_mem_mapM later present
    exact isWhole_shownTexts read (cells texts listed)
  change layOut title shownHeadings shownRows width = .ok lines at drawn
  by_cases columned : columnCount shownHeadings shownRows = 0
  · rw [layOut_of_columnless columned] at drawn
    cases drawn
    intro line present
    rw [List.mem_singleton.mp present]
    rfl
  · obtain ⟨above, rfl, title⟩ := exists_above_of_layOut columned drawn
    intro line present
    rcases List.mem_append.mp present with inTitle | inside
    · obtain ⟨shown, length, read, part, broken, rfl⟩ := title line inTitle
      exact isWhole_padMiddle (isWhole_wrap (isWhole_markedText read titled) broken) length
    · refine isWhole_below ?_ inside
      obtain ⟨headingRow, cellRows⟩ := List.forall_mem_cons.mp wholeRows
      refine List.forall_mem_cons.mpr ⟨isWhole_padRow headingRow _, fun row padded => ?_⟩
      obtain ⟨given, listed, rfl⟩ := List.mem_map.mp padded
      exact isWhole_padRow (cellRows given listed) _

end Table

end Routebook.Terminal

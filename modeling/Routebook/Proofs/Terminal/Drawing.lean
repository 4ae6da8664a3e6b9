import Routebook.Proofs.Outcome
import Routebook.Proofs.Terminal.Frame

/-!
# Tables that show their texts

A table that fits shows its texts exactly when they show as they are and have room
(`Terminal.Table.exists_lines_eq_iff`).  That this is needed is seen by counting marks: drawing a
table adds none, and a text that does not show as it is has lost some.
-/

namespace Routebook.Terminal.Table

set_option autoImplicit false

variable {headings : List (List Char)} {rows : List (List (List Char))}

/-! ## Marks of a table -/

theorem marks_intercalate {edge : Char} (plain : isMark edge = false) (parts : List (List Char)) :
    marks ([edge].intercalate parts) = marks parts.flatten := by
  have single : marks [edge] = 0 := by simp [marks_cons, plain]
  induction parts with
  | nil => rfl
  | cons part rest inductionHypothesis =>
      cases rest with
      | nil => simp
      | cons next rest =>
          rw [List.intercalate_cons_cons, List.flatten_cons, marks_append, marks_append, marks_append,
            single, inductionHypothesis]
          rfl

theorem marks_replicate {character : Char} (plain : isMark character = false) (count : Nat) :
    marks (List.replicate count character) = 0 := by
  rw [marks, List.countP_replicate, plain]
  rfl

theorem marks_framedCell (width : Nat) (text : List Char) :
    marks (framedCell width text) = marks text := by
  have space : marks [' '] = 0 := by decide
  rw [framedCell, padEnd, ← List.singleton_append, marks_append, marks_append, marks_append,
    marks_replicate (by decide), space]
  omega

/-- A framed row has the marks of its texts. -/
theorem marks_framedRow {edge : Char} (plain : isMark edge = false) {widths : List Nat}
    {row : List (List Char)} (wide : row.length ≤ widths.length) :
    marks (framedRow edge widths row) = marks row.flatten := by
  have cells : marks (List.zipWith framedCell widths row).flatten = marks row.flatten := by
    induction widths generalizing row with
    | nil => rw [List.eq_nil_of_length_eq_zero (Nat.le_zero.mp wide)]; rfl
    | cons width widths inductionHypothesis =>
        cases row with
        | nil => rfl
        | cons text row =>
            rw [List.zipWith_cons_cons, List.flatten_cons, List.flatten_cons, marks_append,
              marks_append, marks_framedCell, inductionHypothesis (Nat.le_of_succ_le_succ wide)]
  have single : marks [edge] = 0 := by simp [marks_cons, plain]
  rw [framedRow, ← List.singleton_append, marks_append, marks_append, single,
    marks_intercalate plain, cells]
  omega

/-- What stands at one height of some columns, taken together for all heights, has no more marks
than the columns. -/
theorem marks_heights_le (height : Nat) (columns : List (List (List Char))) :
    marks ((List.range height).map fun index =>
        (columns.map fun lines => lines[index]?.getD []).flatten).flatten
      ≤ marks (columns.map List.flatten).flatten := by
  have column : ∀ (height : Nat) (lines : List (List Char)),
      marks ((List.range height).map fun index => lines[index]?.getD []).flatten
        ≤ marks lines.flatten := by
    intro height lines
    induction lines generalizing height with
    | nil => simp
    | cons line lines inductionHypothesis =>
        cases height with
        | zero => exact Nat.zero_le _
        | succ height =>
            rw [List.range_succ_eq_map, List.map_cons, List.map_map, List.flatten_cons,
              List.flatten_cons, marks_append, marks_append]
            exact Nat.add_le_add_left (inductionHypothesis height) _
  induction columns with
  | nil => simp
  | cons lines columns inductionHypothesis =>
      simp only [List.map_cons, List.flatten_cons]
      rw [marks_flatten_map_append, marks_append]
      exact Nat.add_le_add (column height lines) inductionHypothesis

/-- Laying out a cell does not add marks. -/
theorem marks_cellLines_le (width : Nat) (text : List Char) :
    marks (cellLines width text).flatten ≤ marks text := by
  rw [cellLines]
  split
  · exact Nat.zero_le _
  · refine Nat.le_trans ?_ (marks_wrap_le (width - cellPadding) false text)
    rw [List.map_eq_flatMap]
    refine marks_flatten_flatMap_le fun line => ?_
    rw [List.flatten_singleton]
    exact Nat.le_of_eq (marks_framedCell (width - cellPadding) line)

theorem marks_fillColumn (sinks : Bool) (height width : Nat) (lines : List (List Char)) :
    marks (fillColumn sinks height width lines).flatten = marks lines.flatten := by
  have blank :
      marks (List.replicate (height - lines.length) (List.replicate width ' ')).flatten = 0 := by
    rw [List.flatten_replicate_replicate, marks_replicate (by decide)]
  rw [fillColumn]
  split
  · rw [List.flatten_append, marks_append, blank, Nat.zero_add]
  · rw [List.flatten_append, marks_append, blank, Nat.add_zero]

/-- Laying out a row does not add marks. -/
theorem marks_rowLines_le {edge : Char} (plain : isMark edge = false) (sinks : Bool)
    (widths : List Nat) (row : List (List Char)) :
    marks (rowLines ⟨edge, edge, edge⟩ sinks widths row).flatten ≤ marks row.flatten := by
  have single : marks [edge] = 0 := by simp [marks_cons, plain]
  have line : ∀ parts : List (List Char),
      marks (edge :: ([edge].intercalate parts ++ [edge])) = marks parts.flatten := by
    intro parts
    rw [← List.singleton_append, marks_append, marks_append, single, marks_intercalate plain]
    omega
  have columns : marks ((filledColumns sinks widths row).map List.flatten).flatten
      ≤ marks row.flatten := by
    rw [filledColumns, columnLines, List.map_map, List.map_map]
    refine Nat.le_trans (marks_flatten_map_le fun pair _ =>
      Nat.le_of_eq (marks_fillColumn sinks (rowHeight widths row) pair.1 (cellLines pair.1 pair.2))) ?_
    induction widths generalizing row with
    | nil => exact Nat.zero_le _
    | cons width widths inductionHypothesis =>
        cases row with
        | nil => exact Nat.zero_le _
        | cons text row =>
            rw [List.zip_cons_cons, List.map_cons, List.flatten_cons, List.flatten_cons, marks_append,
              marks_append]
            exact Nat.add_le_add (marks_cellLines_le width text) (inductionHypothesis row)
  rw [rowLines_eq]
  refine Nat.le_trans (marks_flatten_map_le fun index _ => Nat.le_of_eq (line _)) ?_
  exact Nat.le_trans (marks_heights_le _ _) columns

theorem marks_ruleLine {rules : Rules} {dash : Char}
    (plain : marks [rules.left, rules.middle, rules.right, dash] = 0)
    (widths : List Nat) : marks (ruleLine rules dash widths) = 0 := by
  simp only [marks, List.countP_eq_zero, List.forall_mem_cons, Bool.not_eq_true] at plain
  obtain ⟨left, middle, right, plainDash, -⟩ := plain
  have dashes : marks (widths.map fun width => List.replicate width dash).flatten = 0 := by
    have fewer := @marks_flatten_map_le _ widths (List.replicate · dash) (fun _ => []) fun width _ =>
      Nat.le_of_eq (marks_replicate plainDash width)
    simpa using fewer
  rw [ruleLine, marks_cons, marks_append, marks_intercalate middle, dashes, marks_cons, left, right]
  rfl

/-- The number of marks in some rows. -/
def rowMarks (rows : List (List (List Char))) : Nat := marks (rows.map List.flatten).flatten

theorem rowMarks_cons (row : List (List Char)) (rows : List (List (List Char))) :
    rowMarks (row :: rows) = marks row.flatten + rowMarks rows :=
  marks_append _ _

/-- Laying out a table does not add marks. -/
theorem marks_below_le (widths : List Nat) (headingRow : List (List Char))
    (cellRows : List (List (List Char))) :
    marks (below widths headingRow cellRows).flatten ≤ rowMarks (headingRow :: cellRows) := by
  have cells : marks (cellRows.flatMap (rowLines ⟨'│', '│', '│'⟩ false widths)).flatten
      ≤ rowMarks cellRows := by
    induction cellRows with
    | nil => exact Nat.le_refl _
    | cons row rest inductionHypothesis =>
        rw [List.flatMap_cons, List.flatten_append, marks_append, rowMarks_cons]
        exact Nat.add_le_add (marks_rowLines_le (by decide) false widths row) inductionHypothesis
  have heading := @marks_rowLines_le '┃' (by decide) true widths headingRow
  have top := @marks_ruleLine ⟨'┏', '┳', '┓'⟩ '━' (by decide) widths
  have middle := @marks_ruleLine ⟨'┡', '╇', '┩'⟩ '━' (by decide) widths
  have bottom := @marks_ruleLine ⟨'└', '┴', '┘'⟩ '─' (by decide) widths
  simp only [below, List.flatten_append, List.flatten_singleton, marks_append, top, middle, bottom,
    rowMarks_cons]
  omega

/-- A table that shows its texts has their marks. -/
theorem rowMarks_le_marks_frame {widths : List Nat} {headingRow : List (List Char)}
    {cellRows : List (List (List Char))}
    (wide : ∀ row ∈ headingRow :: cellRows, row.length ≤ widths.length) :
    rowMarks (headingRow :: cellRows) ≤ marks (frame widths headingRow cellRows).flatten := by
  rw [List.forall_mem_cons] at wide
  have cells : rowMarks cellRows ≤ marks (cellRows.map (framedRow '│' widths)).flatten :=
    marks_flatten_map_le fun row present =>
      Nat.le_of_eq (marks_framedRow (by decide) (wide.2 row present)).symm
  have heading := @marks_framedRow '┃' (by decide) _ _ wide.1
  simp only [frame, List.flatten_append, List.flatten_singleton, marks_append, rowMarks_cons]
  omega

theorem rowMarks_padRow (count : Nat) (rows : List (List (List Char))) :
    rowMarks (rows.map (padRow count)) = rowMarks rows := by
  have whole : ∀ row, (padRow count row).flatten = row.flatten := by
    intro row
    have empty : (List.replicate (count - row.length) ([] : List Char)).flatten = [] := by simp
    rw [padRow, List.flatten_append, empty, List.append_nil]
  rw [rowMarks, rowMarks, List.map_map]
  exact congrArg (marks ∘ List.flatten) (List.map_congr_left fun row _ => whole row)

/-! ## Rooms for texts -/

theorem length_intercalate (edge : Char) (parts : List (List Char)) :
    ([edge].intercalate parts).length = parts.flatten.length + (parts.length - 1) := by
  induction parts with
  | nil => rfl
  | cons part rest inductionHypothesis =>
      cases rest with
      | nil => simp
      | cons next rest =>
          rw [List.intercalate_cons_cons, List.length_append, List.length_append, inductionHypothesis]
          simp only [List.flatten_cons, List.length_append, List.length_cons, List.length_nil]
          omega

/-- A cell is not longer for what is seen of its text, and shorter unless all of it is seen. -/
theorem length_framedCell_seen (width : Nat) (text : List Char) :
    (framedCell width (seen width text)).length ≤ (framedCell width text).length ∧
      ((framedCell width text).length ≤ (framedCell width (seen width text)).length →
        seen width text = text) := by
  cases width with
  | zero =>
      have empty : (framedCell 0 (seen 0 text)).length = 2 := rfl
      have whole : (framedCell 0 text).length = text.length + 2 := by simp [framedCell, padEnd]
      refine ⟨by omega, fun short => ?_⟩
      exact (List.eq_nil_of_length_eq_zero (by omega)).symm
  | succ width => exact ⟨Nat.le_refl _, fun _ => rfl⟩

theorem length_seenRow (widths : List Nat) (row : List (List Char))
    (wide : row.length ≤ widths.length) :
    (List.zipWith framedCell widths (seenRow widths row)).flatten.length
        ≤ (List.zipWith framedCell widths row).flatten.length ∧
      ((List.zipWith framedCell widths row).flatten.length
        ≤ (List.zipWith framedCell widths (seenRow widths row)).flatten.length →
          seenRow widths row = row) := by
  induction widths generalizing row with
  | nil =>
      rw [List.eq_nil_of_length_eq_zero (Nat.le_zero.mp wide)]
      exact ⟨Nat.le_refl _, fun _ => rfl⟩
  | cons width widths inductionHypothesis =>
      cases row with
      | nil => exact ⟨Nat.le_refl _, fun _ => rfl⟩
      | cons text row =>
          have here := length_framedCell_seen width text
          have there := inductionHypothesis row (Nat.le_of_succ_le_succ wide)
          have first : seenRow (width :: widths) (text :: row)
              = seen width text :: seenRow widths row := rfl
          rw [first]
          simp only [List.zipWith_cons_cons, List.flatten_cons, List.length_append]
          refine ⟨by omega, fun short => ?_⟩
          rw [here.2 (by omega), there.2 (by omega)]

/-- A row is seen as it is if the line with what is seen of its texts is the line with its texts. -/
theorem seenRow_eq_of_framedRow_eq {edge : Char} {widths : List Nat} {row : List (List Char)}
    (wide : row.length ≤ widths.length)
    (same : framedRow edge widths (seenRow widths row) = framedRow edge widths row) :
    seenRow widths row = row := by
  have lengths := congrArg List.length same
  have columns : (List.zipWith framedCell widths (seenRow widths row)).length
      = (List.zipWith framedCell widths row).length := by
    simp only [seenRow, List.length_zipWith]
    omega
  simp only [framedRow, List.length_cons, List.length_append, length_intercalate, columns] at lengths
  exact (length_seenRow widths row wide).2 (by omega)

/-- A frame with what is seen of the texts of a table is that with the texts only if the table has
room for them. -/
theorem rows_eq_of_frame_eq {widths : List Nat} {headingRow : List (List Char)}
    {cellRows : List (List (List Char))}
    (wide : ∀ row ∈ headingRow :: cellRows, row.length ≤ widths.length)
    (same : frame widths (seenRow widths headingRow) (cellRows.map (seenRow widths))
      = frame widths headingRow cellRows) :
    ∀ row ∈ headingRow :: cellRows, seenRow widths row = row := by
  simp only [frame, List.cons_append, List.nil_append, List.cons.injEq, List.map_map,
    List.append_cancel_right_eq, true_and] at same
  obtain ⟨heading, cells⟩ := same
  rw [List.forall_mem_cons] at wide ⊢
  refine ⟨seenRow_eq_of_framedRow_eq wide.1 heading, fun row present => ?_⟩
  exact seenRow_eq_of_framedRow_eq (wide.2 row present) (List.map_inj_left.mp cells row present)

theorem length_frame (widths : List Nat) (headingRow : List (List Char))
    (cellRows : List (List (List Char))) :
    (frame widths headingRow cellRows).length = cellRows.length + 4 := by
  simp [frame]

theorem le_length_below (widths : List Nat) (headingRow : List (List Char))
    (cellRows : List (List (List Char))) :
    cellRows.length + 4 ≤ (below widths headingRow cellRows).length := by
  have row : ∀ (rules : Rules) (sinks : Bool) (row : List (List Char)),
      1 ≤ (rowLines rules sinks widths row).length := by
    intro rules sinks row
    rw [rowLines_eq, List.length_map, List.length_range, rowHeight]
    exact start_le_foldl max_grows _ 1
  have cells : cellRows.length
      ≤ (cellRows.flatMap (rowLines ⟨'│', '│', '│'⟩ false widths)).length := by
    induction cellRows with
    | nil => exact Nat.le_refl _
    | cons first rest inductionHypothesis =>
        have one := row ⟨'│', '│', '│'⟩ false first
        rw [List.flatMap_cons, List.length_append, List.length_cons]
        omega
  have heading := row ⟨'┃', '┃', '┃'⟩ true headingRow
  simp only [below, List.length_append, List.length_singleton]
  omega

/-- A table that shows its texts has their marks. -/
theorem rowMarks_le_marks_framed (columned : columnCount headings rows ≠ 0) :
    rowMarks (headings :: rows) ≤ marks (framed headings rows).flatten := by
  rw [framed, if_neg columned, ← rowMarks_padRow (columnCount headings rows)]
  exact rowMarks_le_marks_frame fun row present => length_padRow_le present

theorem columnCount_congr {shownHeadings : List (List Char)} {shownRows : List (List (List Char))}
    (sizes : (shownHeadings :: shownRows).map List.length = (headings :: rows).map List.length) :
    columnCount shownHeadings shownRows = columnCount headings rows := by
  rw [columnCount, columnCount, sizes]

/-- A table without columns has no texts. -/
theorem eq_nil_of_columnless (columnless : columnCount headings rows = 0) {row : List (List Char)}
    (present : row ∈ headings :: rows) : row = [] := by
  have narrow := length_le_columnCount present
  exact List.eq_nil_of_length_eq_zero (by omega)

theorem unmarked_of_columnless {headings : List String} {rows : List (List String)}
    (columnless : columnCount (headings.map String.toList) (rows.map (List.map String.toList)) = 0) :
    ∀ row ∈ headings :: rows, ∀ text ∈ row, Unmarked text.toList := by
  intro row present text inside
  have empty := eq_nil_of_columnless columnless
    (List.mem_map_of_mem (f := List.map String.toList) present : _ ∈ (headings :: rows).map _)
  rw [List.map_eq_nil_iff.mp empty] at inside
  cases inside

theorem roomy_of_columnless (columnless : columnCount headings rows = 0) : Roomy headings rows := by
  intro row present pair inside
  rw [eq_nil_of_columnless columnless present, List.zip_nil_right] at inside
  cases inside

variable [Dialect]

/-! ## Reading the texts of a table -/

/-- Reading the texts of a row does not add marks, and takes some away unless all show as they are.
-/
theorem marks_shownTexts {texts : List String} {shown : List (List Char)}
    (reads : shownTexts texts = .ok shown) :
    shown.length = texts.length ∧
      marks shown.flatten ≤ marks (texts.map String.toList).flatten ∧
      (marks (texts.map String.toList).flatten ≤ marks shown.flatten →
        ∀ text ∈ texts, Unmarked text.toList) := by
  induction texts generalizing shown with
  | nil =>
      cases reads
      exact ⟨rfl, Nat.le_refl _, fun _ => List.forall_mem_nil _⟩
  | cons text rest inductionHypothesis =>
      obtain ⟨value, values, first, later, rfl⟩ := Outcome.exists_of_mapM_cons reads
      obtain ⟨size, fewer, same⟩ := inductionHypothesis later
      have kept := marks_markedText_le first
      simp only [List.map_cons, List.flatten_cons, marks_append, List.length_cons, List.forall_mem_cons]
      refine ⟨by omega, by omega, fun all => ⟨?_, same (by omega)⟩⟩
      by_contra changed
      have lost := marks_markedText_lt changed first
      omega

/-- The same holds of rows. -/
theorem rowMarks_mapM_shownTexts {rows : List (List String)} {shown : List (List (List Char))}
    (reads : rows.mapM shownTexts = .ok shown) :
    shown.map List.length = rows.map List.length ∧
      rowMarks shown ≤ rowMarks (rows.map (List.map String.toList)) ∧
      (rowMarks (rows.map (List.map String.toList)) ≤ rowMarks shown →
        ∀ row ∈ rows, ∀ text ∈ row, Unmarked text.toList) := by
  induction rows generalizing shown with
  | nil =>
      cases reads
      exact ⟨rfl, Nat.le_refl _, fun _ => List.forall_mem_nil _⟩
  | cons row rest inductionHypothesis =>
      obtain ⟨value, values, first, later, rfl⟩ := Outcome.exists_of_mapM_cons reads
      obtain ⟨sizes, fewer, same⟩ := inductionHypothesis later
      obtain ⟨size, kept, unmarked⟩ := marks_shownTexts first
      rw [List.map_cons, List.map_cons, List.map_cons, size, sizes, List.forall_mem_cons]
      rw [rowMarks_cons, rowMarks_cons]
      exact ⟨rfl, by omega, fun all => ⟨unmarked (by omega), same (by omega)⟩⟩

/-! ## When a table shows its texts -/

/-- A table that is laid out has a legible title, unless it has no columns. -/
theorem legible_of_layOut {title : String} {width : Nat} {lines : List (List Char)}
    (columned : columnCount headings rows ≠ 0)
    (laidOut : layOut title headings rows width = .ok lines) : Legible title := by
  have columns : ¬(((headings :: rows).map List.length).foldl max 0 == 0) = true :=
    fun isZero => columned (eq_of_beq isZero)
  have empty : markedText [] = .ok [] := by
    rw [markedText, pieces, piecesFrom_nil]
    rfl
  cases reads : markedText title.toList with
  | ok shown => exact ⟨shown, reads⟩
  | error failure =>
      unfold layOut at laidOut
      rw [reads] at laidOut
      dsimp only [pure, Except.pure, bind, Except.bind] at laidOut
      rw [if_neg columns] at laidOut
      split at laidOut
      · rename_i untitled
        rw [String.isEmpty_iff.mp untitled] at reads
        cases reads.symm.trans empty
      · cases laidOut

/-- A printable text shows as it is written when no markup is in it. -/
theorem showsAsWritten_iff {text : String} (printable : Printable text.toList) :
    ShowsAsWritten text ↔ Unmarked text.toList :=
  markedText_eq_self_iff printable.uncontrolled_eq

theorem mapM_shownTexts_of_unmarked {rows : List (List String)}
    (printable : ∀ row ∈ rows, ∀ text ∈ row, Printable text.toList)
    (unmarked : ∀ row ∈ rows, ∀ text ∈ row, Unmarked text.toList) :
    rows.mapM shownTexts = .ok (rows.map (List.map String.toList)) :=
  (mapM_shownTexts_eq_iff rows).mpr fun row present text inside =>
    (showsAsWritten_iff (printable row present text inside)).mpr (unmarked row present text inside)

/-- A table whose texts can be read is laid out with what they show. -/
theorem lines_eq_layOut {title : String} {headings : List String} {rows : List (List String)}
    {shownHeadings : List (List Char)} {shownRows : List (List (List Char))}
    (reads : (headings :: rows).mapM shownTexts = .ok (shownHeadings :: shownRows)) (width : Nat) :
    Table.lines ⟨title, headings, rows⟩ width = layOut title shownHeadings shownRows width := by
  obtain ⟨_, _, first, later, same⟩ := Outcome.exists_of_mapM_cons reads
  obtain ⟨rfl, rfl⟩ := List.cons.inj same
  rw [lines_eq, first, later]
  rfl

/-- A table that is laid out has texts that can be read. -/
theorem exists_layOut_of_lines {title : String} {headings : List String} {rows : List (List String)}
    {width : Nat} {lines : List (List Char)}
    (laidOut : Table.lines ⟨title, headings, rows⟩ width = .ok lines) :
    ∃ shownHeadings shownRows, (headings :: rows).mapM shownTexts = .ok (shownHeadings :: shownRows) ∧
      layOut title shownHeadings shownRows width = .ok lines := by
  obtain ⟨shownHeadings, first, rest⟩ := Outcome.exists_of_bind laidOut
  obtain ⟨shownRows, later, drawn⟩ := Outcome.exists_of_bind rest
  refine ⟨shownHeadings, shownRows, ?_, drawn⟩
  rw [List.mapM_cons, first, later]
  rfl

/-- Reading the texts of a table does not change the number of its columns. -/
theorem columnCount_of_reads {headings : List String} {rows : List (List String)}
    {shownHeadings : List (List Char)} {shownRows : List (List (List Char))}
    (reads : (headings :: rows).mapM shownTexts = .ok (shownHeadings :: shownRows)) :
    columnCount shownHeadings shownRows
      = columnCount (headings.map String.toList) (rows.map (List.map String.toList)) := by
  refine columnCount_congr ((rowMarks_mapM_shownTexts reads).1.trans ?_)
  simp

/-- **A table can be drawn exactly when its texts are legible, and its title if it has columns.** -/
theorem exists_lines_iff {title : String} {headings : List String} {rows : List (List String)}
    {width : Nat} :
    (∃ lines, Table.lines ⟨title, headings, rows⟩ width = .ok lines) ↔
      (columnCount (headings.map String.toList) (rows.map (List.map String.toList)) ≠ 0 →
        Legible title) ∧
      ∀ row ∈ headings :: rows, ∀ text ∈ row, Legible text := by
  constructor
  · rintro ⟨lines, drawn⟩
    obtain ⟨shownHeadings, shownRows, reads, laidOut⟩ := exists_layOut_of_lines drawn
    refine ⟨fun columned => ?_, (exists_mapM_shownTexts_iff _).mp ⟨_, reads⟩⟩
    rw [← columnCount_of_reads reads] at columned
    exact legible_of_layOut columned laidOut
  · rintro ⟨legible, texts⟩
    obtain ⟨shown, reads⟩ := (exists_mapM_shownTexts_iff _).mpr texts
    obtain ⟨shownHeadings, shownRows, -, -, rfl⟩ := Outcome.exists_of_mapM_cons reads
    rw [lines_eq_layOut reads]
    by_cases columned : columnCount shownHeadings shownRows = 0
    · exact ⟨[[]], layOut_of_columnless columned title width⟩
    · exact exists_layOut (legible (columnCount_of_reads reads ▸ columned)) _ _ _

/-- The lines of a table that shows other texts than its own have no fewer marks than the table. -/
theorem rowMarks_le_of_layOut {title : String} {width : Nat} {above : List (List Char)}
    {shownHeadings : List (List Char)} {shownRows : List (List (List Char))}
    (columned : columnCount headings rows ≠ 0)
    (sizes : (shownHeadings :: shownRows).map List.length = (headings :: rows).map List.length)
    (laidOut : layOut title shownHeadings shownRows width = .ok (above ++ framed headings rows)) :
    rowMarks (headings :: rows) ≤ rowMarks (shownHeadings :: shownRows) := by
  have count := columnCount_congr sizes
  have shownColumned : columnCount shownHeadings shownRows ≠ 0 := by rwa [count]
  obtain ⟨start, lines⟩ :=
    exists_layOut_eq (legible_of_layOut shownColumned laidOut) shownColumned width
  have same := Except.ok.inj (lines.symm.trans laidOut)
  have height : shownRows.length = rows.length := by
    have counted := congrArg List.length sizes
    simpa using counted
  have shorter := le_length_below (fittedWidths shownHeadings shownRows width)
    (padRow (columnCount shownHeadings shownRows) shownHeadings)
    (shownRows.map (padRow (columnCount shownHeadings shownRows)))
  have ends : framed headings rows <:+ below (fittedWidths shownHeadings shownRows width)
      (padRow (columnCount shownHeadings shownRows) shownHeadings)
      (shownRows.map (padRow (columnCount shownHeadings shownRows))) := by
    refine List.suffix_of_suffix_length_le ⟨above, same.symm⟩ ⟨start, rfl⟩ ?_
    rw [framed, if_neg columned, length_frame]
    simpa [height] using shorter
  obtain ⟨front, whole⟩ := ends
  have kept := marks_below_le (fittedWidths shownHeadings shownRows width)
    (padRow (columnCount shownHeadings shownRows) shownHeadings)
    (shownRows.map (padRow (columnCount shownHeadings shownRows)))
  rw [← whole, List.flatten_append, marks_append, ← List.map_cons, rowMarks_padRow] at kept
  have framedMarks := rowMarks_le_marks_framed columned
  omega

/-- A table that fits shows its texts only if it has room for them. -/
theorem roomy_of_layOut {title : String} {width : Nat} {above : List (List Char)}
    (fits : FitsTable headings rows width) (columned : columnCount headings rows ≠ 0)
    (laidOut : layOut title headings rows width = .ok (above ++ framed headings rows)) :
    Roomy headings rows := by
  obtain ⟨start, lines⟩ := exists_layOut_eq (legible_of_layOut columned laidOut) columned width
  rw [fits.below_eq] at lines
  have same := Except.ok.inj (lines.symm.trans laidOut)
  rw [framed, if_neg columned] at same
  have frames := (List.append_inj' same (by rw [length_frame, length_frame]; simp)).2
  have cellRows : (rows.map fun row =>
        seenRow (columnWidths headings rows) (padRow (columnCount headings rows) row))
      = (rows.map (padRow (columnCount headings rows))).map (seenRow (columnWidths headings rows)) := by
    rw [List.map_map]
    rfl
  rw [cellRows] at frames
  have seenAll := rows_eq_of_frame_eq (fun row present => length_padRow_le present) frames
  exact roomy_iff.mpr fun row present => seenAll _ (List.mem_map_of_mem (f := padRow _) present)

/-- **A table that fits shows its texts as they are exactly when its title is legible, each of its
texts shows as it is, and it has room for them.** -/
theorem exists_lines_eq_iff {title : String} {headings : List String} {rows : List (List String)}
    {width : Nat}
    (fits : FitsTable (headings.map String.toList) (rows.map (List.map String.toList)) width) :
    (∃ above, Table.lines ⟨title, headings, rows⟩ width
        = .ok (above ++ framed (headings.map String.toList) (rows.map (List.map String.toList)))) ↔
      (columnCount (headings.map String.toList) (rows.map (List.map String.toList)) ≠ 0 →
        Legible title) ∧
      (∀ row ∈ headings :: rows, ∀ text ∈ row, Unmarked text.toList) ∧
      Roomy (headings.map String.toList) (rows.map (List.map String.toList)) := by
  have printable : ∀ row ∈ headings :: rows, ∀ text ∈ row, Printable text.toList := by
    intro row present text inside
    have listed : row.map String.toList ∈ (headings :: rows).map (List.map String.toList) :=
      List.mem_map_of_mem present
    exact fits.printable _ listed _ (List.mem_map_of_mem inside)
  constructor
  · rintro ⟨above, lines⟩
    by_cases columned :
        columnCount (headings.map String.toList) (rows.map (List.map String.toList)) = 0
    · exact ⟨fun columns => absurd columned columns, unmarked_of_columnless columned,
        roomy_of_columnless columned⟩
    · obtain ⟨shownHeadings, shownRows, reads, laidOut⟩ := exists_layOut_of_lines lines
      obtain ⟨sizes, -, same⟩ := rowMarks_mapM_shownTexts reads
      have written : (headings :: rows).map List.length
          = ((headings :: rows).map (List.map String.toList)).map List.length := by
        simp
      have unmarked := same (rowMarks_le_of_layOut columned (sizes.trans written) laidOut)
      rw [mapM_shownTexts_of_unmarked printable unmarked] at reads
      obtain ⟨rfl, rfl⟩ := List.cons.inj (Except.ok.inj reads)
      exact ⟨fun columns => legible_of_layOut columns laidOut, unmarked,
        roomy_of_layOut fits columned laidOut⟩
  · rintro ⟨legible, unmarked, roomy⟩
    rw [lines_eq_layOut (mapM_shownTexts_of_unmarked printable unmarked)]
    exact exists_layOut_of_fits fits legible roomy

end Routebook.Terminal.Table

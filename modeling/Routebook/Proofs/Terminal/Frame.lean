import Routebook.Proofs.Terminal.Table
import Routebook.Proofs.Terminal.Wrap

/-!
# Tables that fit

A table that fits is drawn with one line for each row, and every text of it stands in its cell as it
is (`Terminal.Table.FitsTable.below_eq`), unless no text of its column takes a cell.
-/

namespace Routebook.Terminal

set_option autoImplicit false

/-! ## Cells that fit -/

/-- Blanks that are dropped from the end of a text are made up for by the space that fills a cell.
-/
theorem padEnd_dropExcess {width : Nat} {text : List Char} (fits : Fits width text) :
    padEnd width (dropExcess width text) = padEnd width text := by
  obtain ⟨blanks, whole, blank⟩ := dropExcess_append_blanks width text
  have spaces : blanks = List.replicate blanks.length ' ' := by
    refine List.eq_replicate_iff.mpr ⟨rfl, fun character present => ?_⟩
    have inside : character ∈ text := by
      rw [whole]
      exact List.mem_append_right _ present
    exact eq_space_of_isPrintable (fits.printable character inside) (blank character present)
  have blankCells : ∀ count, Text.cells (List.replicate count ' ') = count := by
    intro count
    induction count with
    | zero => rfl
    | succ count inductionHypothesis =>
        rw [List.replicate_succ, cells_cons, inductionHypothesis]
        have one : Text.cellWidth ' ' = 1 := by decide
        omega
  have narrow := fits.narrow
  rw [whole, spaces, cells_append, blankCells] at narrow
  have filled : width - Text.cells (dropExcess width text)
      = blanks.length + (width - Text.cells text) := by
    rw [congrArg Text.cells whole, spaces, cells_append, blankCells, List.length_replicate]
    omega
  rw [padEnd, padEnd, filled, List.replicate_add, ← spaces, ← List.append_assoc, ← whole]

/-- A cell with a text in it. -/
def framedCell (width : Nat) (text : List Char) : List Char := ' ' :: (padEnd width text ++ [' '])

/-- What is seen of a text in a column: nothing if there is no room for any. -/
def seen (width : Nat) (text : List Char) : List Char := if width = 0 then [] else text

theorem fillColumn_cellLines {width : Nat} {text : List Char} (fits : Fits width text) (sinks : Bool) :
    fillColumn sinks 1 (width + cellPadding) (cellLines (width + cellPadding) text)
      = [framedCell width (seen width text)] := by
  cases width with
  | zero => cases sinks <;> rfl
  | succ width =>
      have lines : cellLines (width + 1 + cellPadding) text = [framedCell (width + 1) text] := by
        have inner : width + 1 + cellPadding - cellPadding = width + 1 := Nat.add_sub_cancel _ _
        unfold cellLines
        rw [inner]
        simp only
        rw [fits.wrap_eq, List.map_singleton, padEnd_dropExcess fits, framedCell]
      rw [lines]
      cases sinks <;> rfl

/-- No cell that fits has more than one line. -/
theorem length_cellLines_le {width : Nat} {text : List Char} (fits : Fits width text) :
    (cellLines (width + cellPadding) text).length ≤ 1 := by
  have filled := congrArg List.length (fillColumn_cellLines fits false)
  simp only [fillColumn, Bool.false_eq_true, if_false, List.length_append, List.length_replicate,
    List.length_singleton] at filled
  omega

/-! ## Rows that fit -/

/-- A row with texts in its cells. -/
def framedRow (edge : Char) (widths : List Nat) (row : List (List Char)) : List Char :=
  edge :: ([edge].intercalate (List.zipWith framedCell widths row) ++ [edge])

/-- What is seen of the texts in a row. -/
def seenRow (widths : List Nat) (row : List (List Char)) : List (List Char) :=
  List.zipWith seen widths row

section Totals

variable {operation : Nat → Nat → Nat}
  (grows : ∀ total number, total ≤ operation total number ∧ number ≤ operation total number)

include grows

/-- A total that only grows is not below what it starts from. -/
theorem start_le_foldl (numbers : List Nat) (start : Nat) : start ≤ numbers.foldl operation start := by
  induction numbers generalizing start with
  | nil => exact Nat.le_refl start
  | cons first rest inductionHypothesis =>
      exact Nat.le_trans (grows start first).1 (inductionHypothesis _)

/-- A total that grows with each number is not below any of them. -/
theorem le_foldl {numbers : List Nat} {number : Nat} (present : number ∈ numbers) (start : Nat) :
    number ≤ numbers.foldl operation start := by
  induction numbers generalizing start with
  | nil => cases present
  | cons first rest inductionHypothesis =>
      rcases List.mem_cons.mp present with rfl | later
      · exact Nat.le_trans (grows start number).2 (start_le_foldl grows rest _)
      · exact inductionHypothesis later _

end Totals

theorem max_grows (total number : Nat) : total ≤ max total number ∧ number ≤ max total number :=
  ⟨Nat.le_max_left _ _, Nat.le_max_right _ _⟩

theorem foldl_max_eq {numbers : List Nat} {start : Nat} (below : ∀ number ∈ numbers, number ≤ start) :
    numbers.foldl max start = start := by
  induction numbers with
  | nil => rfl
  | cons first rest inductionHypothesis =>
      rw [List.forall_mem_cons] at below
      rw [List.foldl_cons, Nat.max_eq_left below.1]
      exact inductionHypothesis below.2

theorem zipWith_framedCell_seenRow (widths : List Nat) (row : List (List Char)) :
    List.zipWith framedCell widths (seenRow widths row)
      = (widths.zip row).map fun pair => framedCell pair.1 (seen pair.1 pair.2) := by
  induction widths generalizing row with
  | nil => rfl
  | cons width widths inductionHypothesis =>
      cases row with
      | nil => rfl
      | cons text row => exact congrArg (_ :: ·) (inductionHypothesis row)

/-- The columns of a row: their widths and their lines. -/
def columnLines (widths : List Nat) (row : List (List Char)) : List (Nat × List (List Char)) :=
  (widths.zip row).map fun pair => (pair.1, cellLines pair.1 pair.2)

/-- The height of a row. -/
def rowHeight (widths : List Nat) (row : List (List Char)) : Nat :=
  ((columnLines widths row).map fun column => column.2.length).foldl max 1

/-- The columns of a row filled up to its height. -/
def filledColumns (sinks : Bool) (widths : List Nat) (row : List (List Char)) :
    List (List (List Char)) :=
  (columnLines widths row).map fun column =>
    fillColumn sinks (rowHeight widths row) column.1 column.2

theorem rowLines_eq (rules : Rules) (sinks : Bool) (widths : List Nat) (row : List (List Char)) :
    rowLines rules sinks widths row = (List.range (rowHeight widths row)).map fun index =>
      rules.left :: ([rules.middle].intercalate
        ((filledColumns sinks widths row).map fun lines => lines[index]?.getD []) ++ [rules.right]) :=
  rfl

/-- A row of texts that fit is one line. -/
theorem rowLines_of_fits (edge : Char) (sinks : Bool) {widths : List Nat} {row : List (List Char)}
    (fits : ∀ pair ∈ widths.zip row, Fits pair.1 pair.2) :
    rowLines ⟨edge, edge, edge⟩ sinks (widths.map (· + cellPadding)) row
      = [framedRow edge widths (seenRow widths row)] := by
  have columns : columnLines (widths.map (· + cellPadding)) row
      = (widths.zip row).map fun pair =>
          (pair.1 + cellPadding, cellLines (pair.1 + cellPadding) pair.2) := by
    rw [columnLines, List.zip_map_left, List.map_map]
    rfl
  have height : rowHeight (widths.map (· + cellPadding)) row = 1 := by
    rw [rowHeight, columns, List.map_map]
    refine foldl_max_eq fun number present => ?_
    obtain ⟨pair, inside, rfl⟩ := List.mem_map.mp present
    exact length_cellLines_le (fits pair inside)
  have filled : filledColumns sinks (widths.map (· + cellPadding)) row
      = (widths.zip row).map fun pair => [framedCell pair.1 (seen pair.1 pair.2)] := by
    rw [filledColumns, columns, height, List.map_map]
    exact List.map_congr_left fun pair inside => fillColumn_cellLines (fits pair inside) sinks
  rw [rowLines_eq, height, filled, framedRow, zipWith_framedCell_seenRow, List.range_one,
    List.map_singleton, List.map_map]
  rfl

/-! ## Tables that fit -/

namespace Table

variable (headings : List (List Char)) (rows : List (List (List Char)))

/-- The number of columns of a table. -/
def columnCount : Nat := ((headings :: rows).map List.length).foldl max 0

/-- The widths that the texts of a table need in its columns. -/
def columnWidths : List Nat :=
  (List.range (columnCount headings rows)).map fun index =>
    ((headings :: rows).map fun row => Text.cells (row[index]?.getD [])).foldl max 0

/-- The lines of a table whose rows are one line each. -/
def frame (widths : List Nat) (headingRow : List (List Char)) (cellRows : List (List (List Char))) :
    List (List Char) :=
  let spaced := widths.map (· + cellPadding)
  [ruleLine ⟨'┏', '┳', '┓'⟩ '━' spaced]
    ++ [framedRow '┃' widths headingRow]
    ++ [ruleLine ⟨'┡', '╇', '┩'⟩ '━' spaced]
    ++ cellRows.map (framedRow '│' widths)
    ++ [ruleLine ⟨'└', '┴', '┘'⟩ '─' spaced]

/-- The lines of a table that shows its texts as they are; without columns it is an empty line. -/
def framed : List (List Char) :=
  if columnCount headings rows = 0 then [[]]
  else
    frame (columnWidths headings rows) (padRow (columnCount headings rows) headings)
      (rows.map (padRow (columnCount headings rows)))

/-- Whether a table consists of printable texts and fits into lines of a width. -/
structure FitsTable (width : Nat) : Prop where
  printable : ∀ row ∈ headings :: rows, ∀ text ∈ row, Printable text
  narrow : totalWidth ((columnWidths headings rows).map (· + cellPadding))
    + (columnCount headings rows + 1) ≤ width

/-- The widths of the columns of a table on a terminal. -/
def fittedWidths (width : Nat) : List Nat :=
  let count := columnCount headings rows
  let available := width - (count + 1)
  let natural := (List.range count).map fun index =>
    let widest := ((padRow count headings :: rows.map (padRow count)).map fun row =>
      textWidth (row[index]?.getD [])).foldl max 0
    min available (widest + cellPadding)
  fitWidths available (totalWidth natural) natural

/-- The lines of a table below its title. -/
def below (widths : List Nat) (headingRow : List (List Char)) (cellRows : List (List (List Char))) :
    List (List Char) :=
  [ruleLine ⟨'┏', '┳', '┓'⟩ '━' widths]
    ++ rowLines ⟨'┃', '┃', '┃'⟩ true widths headingRow
    ++ [ruleLine ⟨'┡', '╇', '┩'⟩ '━' widths]
    ++ cellRows.flatMap (rowLines ⟨'│', '│', '│'⟩ false widths)
    ++ [ruleLine ⟨'└', '┴', '┘'⟩ '─' widths]

variable {headings rows}

/-- A table with columns is laid out as its title, broken into lines and put in the middle, and what
stands below. -/
theorem exists_above_of_layOut [Dialect] {title : String} {width : Nat} {lines : List (List Char)}
    (columned : columnCount headings rows ≠ 0)
    (laidOut : layOut title headings rows width = .ok lines) :
    ∃ above, lines = above ++ below (fittedWidths headings rows width)
        (padRow (columnCount headings rows) headings)
        (rows.map (padRow (columnCount headings rows))) ∧
      ∀ line ∈ above, ∃ shown length, markedText title.toList = .ok shown ∧
        ∃ part ∈ wrap length true shown, line = padMiddle length part := by
  have columns : ¬(((headings :: rows).map List.length).foldl max 0 == 0) = true :=
    fun isZero => columned (eq_of_beq isZero)
  unfold layOut at laidOut
  dsimp only [pure, Except.pure, bind, Except.bind] at laidOut
  rw [if_neg columns] at laidOut
  split at laidOut
  · cases laidOut
    exact ⟨[], rfl, nofun⟩
  · cases reads : markedText title.toList with
    | error failure =>
        rw [reads] at laidOut
        cases laidOut
    | ok shown =>
        rw [reads] at laidOut
        cases laidOut
        let length := totalWidth (fittedWidths headings rows width) + columnCount headings rows + 1
        refine ⟨(wrap length true shown).map (padMiddle length), ?_, fun line present => ?_⟩
        · simp only [below, List.append_assoc]
          rfl
        · obtain ⟨part, listed, rfl⟩ := List.mem_map.mp present
          exact ⟨shown, length, rfl, part, listed, rfl⟩

/-- A table with columns and a legible title is the title and what stands below. -/
theorem exists_layOut_eq [Dialect] {title : String} (legible : Legible title)
    (columned : columnCount headings rows ≠ 0) (width : Nat) :
    ∃ above, layOut title headings rows width
      = .ok (above ++ below (fittedWidths headings rows width)
          (padRow (columnCount headings rows) headings)
          (rows.map (padRow (columnCount headings rows)))) := by
  obtain ⟨lines, laidOut⟩ := exists_layOut legible headings rows width
  obtain ⟨above, rfl, -⟩ := exists_above_of_layOut columned laidOut
  exact ⟨above, laidOut⟩

/-- A table without columns is an empty line. -/
theorem layOut_of_columnless [Dialect] (columnless : columnCount headings rows = 0)
    (title : String) (width : Nat) : layOut title headings rows width = .ok [[]] := by
  have empty : (((headings :: rows).map List.length).foldl max 0 == 0) = true :=
    beq_iff_eq.mpr columnless
  unfold layOut
  dsimp only [pure, Except.pure, bind, Except.bind]
  rw [if_pos empty]

theorem le_totalWidth {widths : List Nat} {width : Nat} (present : width ∈ widths) :
    width ≤ totalWidth widths :=
  le_foldl (fun total number => ⟨Nat.le_add_right total number, Nat.le_add_left number total⟩) present 0

theorem padRow_getElem? (count index : Nat) (row : List (List Char)) :
    (padRow count row)[index]?.getD [] = row[index]?.getD [] := by
  rw [padRow, List.getElem?_append]
  split
  · rfl
  · rename_i beyond
    rw [List.getElem?_replicate, List.getElem?_eq_none (Nat.not_lt.mp beyond)]
    split <;> rfl

/-- The width of a printable text is that of its characters. -/
theorem textWidth_of_printable {text : List Char} (printable : Printable text) :
    textWidth text = Text.cells text := by
  have unprintable : ∀ character ∈ lineEnds, (!Text.isPrintable character) = true :=
    List.all_eq_true.mp (by decide +kernel)
  have kept : (text.map fun character => if lineEnds.contains character then '\n' else character)
      = text := by
    refine (List.map_congr_left fun character present => ?_).trans (List.map_id text)
    refine if_neg fun ends => ?_
    rw [List.contains_iff_mem] at ends
    have outside := unprintable character ends
    rw [printable character present] at outside
    cases outside
  rw [textWidth, kept, Text.split_of_not_mem printable.unbroken]
  exact Nat.zero_max _

namespace FitsTable

variable {width : Nat} (fits : FitsTable headings rows width)

include fits

theorem printable_getElem? {row : List (List Char)} (present : row ∈ headings :: rows) (index : Nat) :
    Printable (row[index]?.getD []) := by
  cases found : row[index]? with
  | none => nofun
  | some text => exact fits.printable row present text (List.mem_of_getElem? found)

/-- The columns of a table that fits are as wide as its texts need. -/
theorem fittedWidths_eq :
    fittedWidths headings rows width = (columnWidths headings rows).map (· + cellPadding) := by
  have total := fits.narrow
  have natural : ((List.range (columnCount headings rows)).map fun index =>
      min (width - (columnCount headings rows + 1))
        (((padRow (columnCount headings rows) headings
            :: rows.map (padRow (columnCount headings rows))).map fun row =>
          textWidth (row[index]?.getD [])).foldl max 0 + cellPadding))
      = (columnWidths headings rows).map (· + cellPadding) := by
    have widest : ∀ index : Nat,
        ((padRow (columnCount headings rows) headings
            :: rows.map (padRow (columnCount headings rows))).map fun row =>
          textWidth (row[index]?.getD []))
        = (headings :: rows).map fun row => Text.cells (row[index]?.getD []) := by
      intro index
      rw [← List.map_cons, List.map_map]
      refine List.map_congr_left fun row present => ?_
      rw [Function.comp_apply, padRow_getElem?,
        textWidth_of_printable (fits.printable_getElem? present index)]
    rw [columnWidths, List.map_map]
    refine List.map_congr_left fun index inside => ?_
    rw [widest, Function.comp_apply, Nat.min_eq_right]
    have listed : ((headings :: rows).map fun row => Text.cells (row[index]?.getD [])).foldl max 0
        + cellPadding ∈ (columnWidths headings rows).map (· + cellPadding) := by
      rw [columnWidths, List.map_map]
      exact List.mem_map.mpr ⟨index, inside, rfl⟩
    have most := le_totalWidth listed
    omega
  unfold fittedWidths
  simp only [natural]
  cases steps : totalWidth ((columnWidths headings rows).map (· + cellPadding)) with
  | zero => rfl
  | succ number =>
      rw [fitWidths, if_pos]
      omega

/-- Every text of a table that fits has room in its column. -/
theorem fits_of_mem_zip {row : List (List Char)} (present : row ∈ headings :: rows) :
    ∀ pair ∈ (columnWidths headings rows).zip (padRow (columnCount headings rows) row),
      Fits pair.1 pair.2 := by
  intro pair inside
  obtain ⟨index, bound, rfl⟩ := List.mem_iff_getElem.mp inside
  have placed : index < (padRow (columnCount headings rows) row).length := by
    rw [List.length_zip] at bound
    omega
  have text : (padRow (columnCount headings rows) row)[index] = row[index]?.getD [] := by
    rw [← padRow_getElem? (columnCount headings rows), List.getElem?_eq_getElem placed,
      Option.getD_some]
  rw [List.getElem_zip, text]
  refine ⟨fits.printable_getElem? present index, ?_⟩
  simp only [columnWidths, List.getElem_map, List.getElem_range]
  exact le_foldl max_grows
    (List.mem_map_of_mem (f := fun row => Text.cells (row[index]?.getD [])) present) 0

/-- **A table that fits shows what is seen of its texts, each row in one line.** -/
theorem below_eq :
    below (fittedWidths headings rows width) (padRow (columnCount headings rows) headings)
        (rows.map (padRow (columnCount headings rows)))
      = frame (columnWidths headings rows)
          (seenRow (columnWidths headings rows) (padRow (columnCount headings rows) headings))
          (rows.map fun row =>
            seenRow (columnWidths headings rows) (padRow (columnCount headings rows) row)) := by
  have cellRows : (rows.map (padRow (columnCount headings rows))).flatMap
        (rowLines ⟨'│', '│', '│'⟩ false ((columnWidths headings rows).map (· + cellPadding)))
      = (rows.map fun row =>
          seenRow (columnWidths headings rows) (padRow (columnCount headings rows) row)).map
            (framedRow '│' (columnWidths headings rows)) := by
    rw [List.flatMap_map, List.map_map]
    refine Eq.trans (List.flatMap_congr fun row present => ?_) List.map_eq_flatMap.symm
    exact rowLines_of_fits '│' false (fits.fits_of_mem_zip (.tail _ present))
  rw [below, frame, fits.fittedWidths_eq, cellRows,
    rowLines_of_fits '┃' true (fits.fits_of_mem_zip List.mem_cons_self)]

end FitsTable

theorem length_padRow {count : Nat} {row : List (List Char)} (narrow : row.length ≤ count) :
    (padRow count row).length = count := by
  rw [padRow, List.length_append, List.length_replicate]
  omega

theorem length_le_columnCount {row : List (List Char)} (present : row ∈ headings :: rows) :
    row.length ≤ columnCount headings rows :=
  le_foldl max_grows (List.mem_map_of_mem present) 0

theorem length_columnWidths : (columnWidths headings rows).length = columnCount headings rows := by
  rw [columnWidths, List.length_map, List.length_range]

/-- The rows of a table are not wider than the table. -/
theorem length_padRow_le {row : List (List Char)}
    (present : row ∈ (headings :: rows).map (padRow (columnCount headings rows))) :
    row.length ≤ (columnWidths headings rows).length := by
  obtain ⟨original, inside, rfl⟩ := List.mem_map.mp present
  rw [length_padRow (length_le_columnCount inside), length_columnWidths]

/-- Whether every text of a table has room: nothing stands in a column in which no text takes a
cell. -/
def Roomy (headings : List (List Char)) (rows : List (List (List Char))) : Prop :=
  ∀ row ∈ headings :: rows, ∀ pair ∈ (columnWidths headings rows).zip row, pair.1 = 0 → pair.2 = []

instance (headings : List (List Char)) (rows : List (List (List Char))) :
    Decidable (Roomy headings rows) :=
  inferInstanceAs (Decidable (∀ row ∈ headings :: rows,
    ∀ pair ∈ (columnWidths headings rows).zip row, pair.1 = 0 → pair.2 = []))

/-- A row is seen as it is when nothing stands in a column without room.  Cells that are added at
its end need none. -/
theorem seenRow_padRow_eq_self_iff {widths : List Nat} {row : List (List Char)}
    (narrow : row.length ≤ widths.length) :
    seenRow widths (padRow widths.length row) = padRow widths.length row
      ↔ ∀ pair ∈ widths.zip row, pair.1 = 0 → pair.2 = [] := by
  induction widths generalizing row with
  | nil => simp [List.eq_nil_of_length_eq_zero (Nat.le_zero.mp narrow), seenRow, padRow]
  | cons width widths inductionHypothesis =>
      cases row with
      | nil =>
          have later := (@inductionHypothesis [] (Nat.zero_le _)).mpr (by simp)
          have first : seen width [] = [] := by
            rw [seen]
            split <;> rfl
          have whole : seenRow (width :: widths) (padRow (width :: widths).length [])
              = seen width [] :: seenRow widths (padRow widths.length []) := rfl
          simp only [List.zip_nil_right, List.not_mem_nil, false_implies, implies_true, iff_true]
          rw [whole, first, later]
          rfl
      | cons text row =>
          have padded : padRow (width :: widths).length (text :: row)
              = text :: padRow widths.length row := by
            simp [padRow]
          have whole : seenRow (width :: widths) (text :: padRow widths.length row)
              = seen width text :: seenRow widths (padRow widths.length row) := rfl
          have room : seen width text = text ↔ (width = 0 → text = []) := by
            rw [seen]
            split
            · rename_i closed
              simp [closed, eq_comm]
            · rename_i wide
              simp [wide]
          rw [padded, whole, List.cons.injEq, room,
            inductionHypothesis (Nat.le_of_succ_le_succ narrow), List.zip_cons_cons,
            List.forall_mem_cons]

/-- A table has room for its texts when all of them are seen. -/
theorem roomy_iff : Roomy headings rows ↔ ∀ row ∈ headings :: rows,
    seenRow (columnWidths headings rows) (padRow (columnCount headings rows) row)
      = padRow (columnCount headings rows) row := by
  refine forall₂_congr fun row present => ?_
  have narrow := length_le_columnCount present
  rw [← length_columnWidths] at narrow ⊢
  exact (seenRow_padRow_eq_self_iff narrow).symm

/-- A table that fits and has room for its texts shows them as they are. -/
theorem exists_layOut_of_fits [Dialect] {title : String} {width : Nat}
    (fits : FitsTable headings rows width)
    (legible : columnCount headings rows ≠ 0 → Legible title) (roomy : Roomy headings rows) :
    ∃ above, layOut title headings rows width = .ok (above ++ framed headings rows) := by
  by_cases columned : columnCount headings rows = 0
  · exact ⟨[], by rw [framed, if_pos columned, layOut_of_columnless columned, List.nil_append]⟩
  · obtain ⟨above, lines⟩ := exists_layOut_eq (legible columned) columned width
    have cellRows : (rows.map fun row =>
          seenRow (columnWidths headings rows) (padRow (columnCount headings rows) row))
        = rows.map (padRow (columnCount headings rows)) :=
      List.map_congr_left fun row present => roomy_iff.mp roomy row (.tail _ present)
    refine ⟨above, ?_⟩
    rw [lines, fits.below_eq, framed, if_neg columned,
      roomy_iff.mp roomy headings List.mem_cons_self, cellRows]

end Table

end Routebook.Terminal

import Routebook.Proofs.Outcome
import Routebook.Terminal.Table

/-!
# Texts of tables

A table is read before it is laid out: its headings and cells are marked texts.  Rows show as they
are written exactly when their texts do (`Terminal.mapM_shownTexts_eq_iff`).
-/

namespace Routebook

set_option autoImplicit false

namespace Terminal

variable [Dialect]

/-! ## Marked texts -/

/-- Whether a text can be read as a marked text. -/
def Legible (text : String) : Prop := ∃ shown, markedText text.toList = .ok shown

/-- Whether a text shows on a terminal as it is written. -/
def ShowsAsWritten (text : String) : Prop := markedText text.toList = .ok text.toList

/-- Rows can be read exactly when all their texts can. -/
theorem exists_mapM_shownTexts_iff (rows : List (List String)) :
    (∃ shown, rows.mapM shownTexts = .ok shown) ↔ ∀ row ∈ rows, ∀ text ∈ row, Legible text := by
  rw [Outcome.exists_mapM_eq_ok_iff]
  exact forall₂_congr fun row _ => Outcome.exists_mapM_eq_ok_iff

/-- Rows show as they are written exactly when all their texts do. -/
theorem mapM_shownTexts_eq_iff (rows : List (List String)) :
    rows.mapM shownTexts = .ok (rows.map (List.map String.toList))
      ↔ ∀ row ∈ rows, ∀ text ∈ row, ShowsAsWritten text := by
  rw [Outcome.mapM_eq_ok_iff]
  exact forall₂_congr fun row _ => Outcome.mapM_eq_ok_iff

namespace Table

/-- The lines of a table, given what its headings and cells show. -/
def layOut (title : String) (headings : List (List Char)) (rows : List (List (List Char)))
    (width : Nat) : Except Failure (List (List Char)) := do
  let count := ((headings :: rows).map List.length).foldl max 0
  if count == 0 then return [[]]
  let headingRow := padRow count headings
  let cellRows := rows.map (padRow count)
  let available := width - (count + 1)
  let natural := (List.range count).map fun index =>
    let widest := ((headingRow :: cellRows).map fun row =>
      textWidth (row[index]?.getD [])).foldl max 0
    min available (widest + cellPadding)
  let widths := fitWidths available (totalWidth natural) natural
  let title ←
    if title.isEmpty then pure []
    else do
      let text ← markedText title.toList
      let length := totalWidth widths + count + 1
      pure ((wrap length true text).map (padMiddle length))
  return title
    ++ [ruleLine ⟨'┏', '┳', '┓'⟩ '━' widths]
    ++ rowLines ⟨'┃', '┃', '┃'⟩ true widths headingRow
    ++ [ruleLine ⟨'┡', '╇', '┩'⟩ '━' widths]
    ++ cellRows.flatMap (rowLines ⟨'│', '│', '│'⟩ false widths)
    ++ [ruleLine ⟨'└', '┴', '┘'⟩ '─' widths]

/-- A table is read as marked texts and then laid out. -/
theorem lines_eq (table : Table) (width : Nat) :
    table.lines width = (shownTexts table.headings).bind fun headings =>
      (table.rows.mapM shownTexts).bind fun rows => layOut table.title headings rows width := rfl

/-- A table whose title is legible can be laid out. -/
theorem exists_layOut {title : String} (legible : Legible title) (headings : List (List Char))
    (rows : List (List (List Char))) (width : Nat) :
    ∃ lines, layOut title headings rows width = .ok lines := by
  obtain ⟨shown, reads⟩ := legible
  unfold layOut
  rw [reads]
  dsimp only [pure, Except.pure, bind, Except.bind]
  split
  · exact ⟨_, rfl⟩
  · split
    · exact ⟨_, rfl⟩
    · exact ⟨_, rfl⟩

end Table

end Terminal

end Routebook

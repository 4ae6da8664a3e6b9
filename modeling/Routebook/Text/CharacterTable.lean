/-!
# Character tables

Tables of characters with numbered cells, not all of which are assigned.  A table is written as runs
of characters in consecutive cells.
-/

namespace Routebook.Text

set_option autoImplicit false

/-- Characters in consecutive cells, from the cell of a given number on. -/
structure CharacterRun where
  start : Nat
  characters : Array Char
  deriving DecidableEq, Repr

/-- A run of the characters on some lines. -/
def CharacterRun.ofLines (start : Nat) (lines : List String) : CharacterRun :=
  ⟨start, (lines.flatMap String.toList).toArray⟩

/-- The character in a cell, if the run reaches it. -/
def CharacterRun.character? (run : CharacterRun) (cell : Nat) : Option Char :=
  if cell < run.start then none else run.characters[cell - run.start]?

/-- A table of characters as the runs that it consists of. -/
abbrev CharacterTable := List CharacterRun

/-- The character in a cell, if one is assigned. -/
def CharacterTable.character? (table : CharacterTable) (cell : Nat) : Option Char :=
  table.findSome? fun run => run.character? cell

end Routebook.Text

import Storyline.Placeholder
import Storyline.Statement

/-!
# Rows of an examples table

The table attached to an examples header is gone through row by row, below its header
row. Each row fills the placeholders of the outline: a name stands for the cell under
the first header cell of that name, and stays as it is where there is no such cell.
-/

namespace Storyline

/-- A table with one of its rows picked out. -/
structure Rows where
  /-- The lines of the table, header row first. There is at least one. -/
  lines : List Line
  /-- The row picked out; the header row has index zero. -/
  current : Nat := 0
  deriving DecidableEq, Inhabited

namespace Rows

/-- The table attached to a statement, at its header row. -/
def ofStatement? (s : Statement) : Option Rows :=
  match s.tableLines with
  | [] => none
  | lines => some { lines }

/-- The line of the row picked out. -/
def line? (rows : Rows) : Option Line := rows.lines[rows.current]?

/-- The next row, if there is one. -/
def next? (rows : Rows) : Option Rows :=
  if rows.current + 1 < rows.lines.length then some { rows with current := rows.current + 1 }
  else none

/-- How many rows are below the one picked out. -/
def below (rows : Rows) : Nat := rows.lines.length - (rows.current + 1)

/-- The cells of the header row. -/
def names (rows : Rows) : List String := (rows.lines.head?.map (Table.parseRow ·.text)).getD []

/-- The cells of the row picked out. -/
def cells (rows : Rows) : List String := (rows.line?.map (Table.parseRow ·.text)).getD []

/-- A text with its placeholders filled from the row picked out. -/
def fill (rows : Rows) (text : String) : String :=
  Placeholder.substitute rows.names rows.cells text

theorem below_lt_of_next? {rows next : Rows} (h : rows.next? = some next) :
    next.below < rows.below := by
  unfold next? at h
  split at h
  · cases h; simp only [below]; omega
  · cases h

end Rows

end Storyline

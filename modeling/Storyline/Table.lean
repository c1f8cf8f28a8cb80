import Storyline.Text.Blank

/-!
# Tables

A table is a list of rows of cells. It is written one row a line, with bars between
the cells. By convention the first row names the columns, but nothing here asks for
it, and rows may differ in length.

A row is read from the trimmed line: one closing bar is dropped, the line is cut at
its bars, the piece before the first bar is no cell, and each cell is trimmed.
`render` writes the rows out again.
-/

namespace Storyline

/-- Rows of cells. -/
structure Table where
  /-- All rows, from the first on. -/
  rows : List (List String) := []
  deriving DecidableEq, Inhabited

namespace Table

/-- Drops one closing bar. -/
def dropBar (text : List Char) : List Char :=
  match text.reverse with
  | '|' :: rest => rest.reverse
  | _ => text

/-- The cells of one line of a table. -/
def parseRow (line : String) : List String :=
  (((dropBar (Text.trim line.toList)).splitOn '|').drop 1).map fun cell =>
    String.ofList (Text.trim cell)

/-- The table with one row a line. -/
def parse (lines : List String) : Table := ⟨lines.map parseRow⟩

/-- The first row, if there is one. -/
def header (t : Table) : Option (List String) := t.rows.head?

/-- The rows below the first one. -/
def body (t : Table) : List (List String) := t.rows.drop 1

/-- The row at an index; the first row has index zero. -/
def row (t : Table) (index : Nat) : Option (List String) := t.rows[index]?

/-- The number of rows, the first one included. -/
def size (t : Table) : Nat := t.rows.length

/-- Whether there are no rows. -/
def isEmpty (t : Table) : Bool := t.rows.isEmpty

/-- The number of cells in the first row. -/
def width (t : Table) : Nat := (t.header.map List.length).getD 0

/-- The table with `f` applied to each cell. -/
def mapCells (f : String → String) (t : Table) : Table := ⟨t.rows.map (·.map f)⟩

/-- Puts a value under a key. A key that is there already keeps its place. -/
def put (fields : List (String × String)) (key value : String) : List (String × String) :=
  match fields with
  | [] => [(key, value)]
  | (k, v) :: rest => if k = key then (k, value) :: rest else (k, v) :: put rest key value

/-- A dictionary from pairs; of two values under one key the later one stays. -/
def dictionary (pairs : List (String × String)) : List (String × String) :=
  pairs.foldl (fun fields pair => put fields pair.1 pair.2) []

/-- Each row below the first one as a dictionary under the cells of the first row.
Cells without a partner are left out. -/
def records (t : Table) : List (List (String × String)) :=
  match t.header with
  | none => []
  | some names => t.body.map fun cells => dictionary (names.zip cells)

/-- The key and the value of a row of exactly two cells. -/
def pair? : List String → Option (String × String)
  | [key, value] => some (key, value)
  | _ => none

/-- All rows as one dictionary, provided that each has exactly two cells. -/
def pairs? (t : Table) : Option (List (String × String)) := (t.rows.mapM pair?).map dictionary

/-- One row as a line of text. -/
def renderRow (cells : List String) : String := "| " ++ String.intercalate " | " cells ++ " |"

/-- The table as text, each row ended by a line feed. -/
def render (t : Table) : String := String.join (t.rows.map fun cells => renderRow cells ++ "\n")

@[simp] theorem rows_parse (lines : List String) : (parse lines).rows = lines.map parseRow := rfl

@[simp] theorem rows_mapCells (f : String → String) (t : Table) :
    (t.mapCells f).rows = t.rows.map (·.map f) := rfl

end Table

end Storyline

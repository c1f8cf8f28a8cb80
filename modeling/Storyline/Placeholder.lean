/-!
# Placeholders

A placeholder is a name of at least one character between angle brackets. The name
holds no angle bracket itself, so placeholders never overlap. `substitute` puts a
value in place of each placeholder whose name has one and keeps every other character.

The text is scanned once, from left to right. Values that have been put in are not
scanned again, even where they complete a placeholder with what follows.
-/

namespace Storyline.Placeholder

/-- A name between its brackets. -/
def bracketed (name : List Char) : List Char := '<' :: (name ++ ['>'])

/-- What stands for a placeholder: its value, or itself if it has none. The empty
pair of brackets is no placeholder. -/
def filled (value? : List Char → Option (List Char)) (name : List Char) : List Char :=
  if name.isEmpty then bracketed name else (value? name).getD (bracketed name)

/-- Scans a text. `pending` holds what stands behind the last unclosed bracket, back
to front; it is `none` where no bracket is open. -/
def scan (value? : List Char → Option (List Char)) :
    (pending : Option (List Char)) → List Char → List Char
  | none, [] => []
  | some name, [] => '<' :: name.reverse
  | none, c :: rest => if c = '<' then scan value? (some []) rest else c :: scan value? none rest
  | some name, c :: rest =>
      if c = '<' then '<' :: (name.reverse ++ scan value? (some []) rest)
      else if c = '>' then filled value? name.reverse ++ scan value? none rest
      else scan value? (some (c :: name)) rest

/-- The cell of `row` under the first cell of `header` that equals `name`. -/
def cell? (header row : List String) (name : String) : Option String :=
  (header.findIdx? (· == name)).bind fun column => row[column]?

/-- The text with the cells of `row` in place of the names in `header`. -/
def substitute (header row : List String) (text : String) : String :=
  String.ofList (scan (fun name => (cell? header row (String.ofList name)).map String.toList)
    none text.toList)

end Storyline.Placeholder

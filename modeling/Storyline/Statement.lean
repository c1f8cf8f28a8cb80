import Storyline.Line
import Storyline.Table
import Storyline.Text.Split

/-!
# Statements

A statement is a line together with the lines attached to it: the doc-strings and
tables that stand right below a step, a manual check or an examples header. Attached
lines carry no attachments of their own.

`docString` and `table` read the attachments. A delimiter toggles between the inside
and the outside of a doc-string; table lines count on the outside only.
-/

namespace Storyline

/-- A line and the lines attached to it. -/
structure Statement extends Line where
  /-- The attached lines, in source order. -/
  extras : List Line := []
  deriving DecidableEq, Inhabited

namespace Statement

/-- A line without attachments. -/
def ofLine (line : Line) : Statement := { line with extras := [] }

/-- The statement with one more line attached. -/
def attach (s : Statement) (line : Line) : Statement := { s with extras := s.extras ++ [line] }

/-- The lines of a statement, itself first. -/
def lines (s : Statement) : List Line := s.toLine :: s.extras

/-- The attached lines after the first delimiter, and the delimiter itself. -/
def openDocString : List Line → Option (Line × List Line)
  | [] => none
  | line :: rest => if line.kind = .docString then some (line, rest) else openDocString rest

/-- A line of a doc-string, without the indentation of its opening delimiter. -/
def withoutMargin (margin : Nat) (line : Line) : String :=
  String.ofList (Text.dropMargin margin line.text.toList)

/-- The text of the first attached doc-string, if there is one: the lines up to the
next delimiter, or up to the last attached line. -/
def docString (s : Statement) : Option String :=
  (openDocString s.extras).map fun (opening, rest) =>
    Text.joinLines ((rest.takeWhile (·.kind ≠ .docString)).map
      (withoutMargin opening.indent.length))

/-- The table lines among attached lines. `inside` says whether a doc-string is open. -/
def tableLinesFrom (inside : Bool) : List Line → List Line
  | [] => []
  | line :: rest =>
      if line.kind = .docString then tableLinesFrom (!inside) rest
      else if inside = false ∧ line.kind = .dataTable then line :: tableLinesFrom inside rest
      else tableLinesFrom inside rest

/-- The attached table lines. -/
def tableLines (s : Statement) : List Line := tableLinesFrom false s.extras

/-- The attached table, if there is one. -/
def table (s : Statement) : Option Table :=
  match s.tableLines with
  | [] => none
  | lines => some (Table.parse (lines.map (·.text)))

@[simp] theorem lines_ofLine (line : Line) : (ofLine line).lines = [line] := rfl

@[simp] theorem lines_attach (s : Statement) (line : Line) :
    (s.attach line).lines = s.lines ++ [line] := rfl

@[simp] theorem kind_attach (s : Statement) (line : Line) : (s.attach line).kind = s.kind := rfl

@[simp] theorem extras_attach (s : Statement) (line : Line) :
    (s.attach line).extras = s.extras ++ [line] := rfl

end Statement

end Storyline

import Storyline.Fault
import Storyline.Path
import Storyline.Statement

/-!
# Scripts

A script is the list of statements of a source. Its lines are read one by one and
then gathered: while the lines go by, the gatherer *holds* the last statement for as
long as further lines may be attached to it.

* Nothing is held after a line that takes no attachments.
* A step, a manual check or an examples header is held *open*: tables and doc-strings
  are attached to it, and any other line releases it.
* Inside a doc-string every line is attached, whatever it looks like, until the next
  delimiter. A doc-string with no statement to belong to holds its own lines and is
  released as soon as it is closed.

Gathering only groups lines: the lines of a script, statement by statement, are the
lines that were read (`flatMap_lines_gather`).

The script of a file is loaded by its path, whose extension may be left out.
-/

namespace Storyline

/-- What the gatherer holds between two lines. -/
inductive Hold where
  /-- No statement; the last one takes no attachments. -/
  | nothing
  /-- A statement that takes tables and doc-strings. -/
  | openTo (s : Statement)
  /-- A statement inside one of its doc-strings. -/
  | inside (s : Statement)
  deriving DecidableEq, Inhabited

namespace Hold

/-- The held statement, as a list. -/
def released : Hold → List Statement
  | nothing => []
  | openTo s | inside s => [s]

@[simp] theorem released_nothing : nothing.released = [] := rfl
@[simp] theorem released_openTo (s : Statement) : (openTo s).released = [s] := rfl
@[simp] theorem released_inside (s : Statement) : (inside s).released = [s] := rfl

/-- Holds a line that is attached to nothing, or releases it at once. -/
def start (line : Line) : List Statement × Hold :=
  if line.kind = .docString then ([], inside (.ofLine line))
  else if line.kind.takesExtras then ([], openTo (.ofLine line))
  else ([.ofLine line], nothing)

/-- Takes the next line: the statements that are complete now, and what is held. -/
def take : Hold → Line → List Statement × Hold
  | nothing, line => start line
  | openTo s, line =>
      if line.kind = .docString then ([], inside (s.attach line))
      else if line.kind = .dataTable then ([], openTo (s.attach line))
      else (s :: (start line).1, (start line).2)
  | inside s, line =>
      if line.kind ≠ .docString then ([], inside (s.attach line))
      else if s.kind = .docString then ([s.attach line], nothing)
      else ([], openTo (s.attach line))

end Hold

namespace Script

/-- Gathers lines into statements. -/
def gather : Hold → List Line → List Statement
  | hold, [] => hold.released
  | hold, line :: rest => (hold.take line).1 ++ gather (hold.take line).2 rest

/-- Reads texts as lines, numbered from `number` on. -/
def readLines (v : Vocabulary) (number : Nat) : List String → List Line
  | [] => []
  | text :: rest => Line.read v number text :: readLines v (number + 1) rest

/-- The lines of a source. -/
def sourceLines (v : Vocabulary) (source : String) : List Line :=
  readLines v 1 ((Text.lines source.toList).map String.ofList)

/-- The statements of a source. -/
def parse (v : Vocabulary) (source : String) : List Statement :=
  gather .nothing (sourceLines v source)

/-- The statements of the file at a path, resolved here. `read` gives the text of a file, or the
reason why there is none. -/
def load (v : Vocabulary) (read : String → Except String String) (path : String) :
    Except Fault (List Statement) :=
  let path := Path.resolve path
  match read path with
  | .error cause => .error (.unreadable path cause)
  | .ok text => .ok (parse v text)

theorem flatMap_lines_start (line : Line) :
    (Hold.start line).1.flatMap Statement.lines ++
      (Hold.start line).2.released.flatMap Statement.lines = [line] := by
  unfold Hold.start
  split
  · rfl
  · split <;> rfl

theorem flatMap_lines_take (hold : Hold) (line : Line) :
    (hold.take line).1.flatMap Statement.lines ++
        (hold.take line).2.released.flatMap Statement.lines =
      hold.released.flatMap Statement.lines ++ [line] := by
  cases hold with
  | nothing => exact flatMap_lines_start line
  | openTo s =>
      simp only [Hold.take]
      split
      · simp
      · split
        · simp
        · rw [List.flatMap_cons, List.append_assoc, flatMap_lines_start]
          simp
  | inside s =>
      simp only [Hold.take]
      split
      · simp
      · split <;> simp

/-- Gathering loses, repeats and moves no line. -/
theorem flatMap_lines_gather (hold : Hold) (lines : List Line) :
    (gather hold lines).flatMap Statement.lines =
      hold.released.flatMap Statement.lines ++ lines := by
  induction lines generalizing hold with
  | nil => simp [gather]
  | cons line rest ih =>
      have step := flatMap_lines_take hold line
      rw [gather, List.flatMap_append, ih, ← List.append_assoc, step]
      simp

end Script

end Storyline

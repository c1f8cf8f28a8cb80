/-!
# Keywords

The category of a line decides everything that a run does with it. Headers open
blocks, executable lines are carried out, and the rest is attached to a line
above it or only written down.
-/

namespace Storyline

/-- The category of a line of a feature file. -/
inductive Keyword where
  /-- The header `Feature:`. -/
  | feature
  /-- The header `Rule:`. -/
  | rule
  /-- The header `Scenario:`. -/
  | scenario
  /-- An executable line, as `Given`, `When` and `Then` begin it. -/
  | step
  /-- The header `Background:`. -/
  | background
  /-- The header `Scenario Outline:`. -/
  | scenarioOutline
  /-- The header `Examples:`. -/
  | examples
  /-- A delimiter of a doc-string: three double quotes. -/
  | docString
  /-- A row of a table, between bars. -/
  | dataTable
  /-- A line of tags, begun by an at sign. -/
  | tag
  /-- A comment, begun by a number sign. -/
  | comments
  /-- A manual check, answered by a prompt. -/
  | ask
  /-- Any other line: a description, free text, or nothing at all. -/
  | unknown
  deriving DecidableEq, Inhabited

namespace Keyword

/-- Whether a line of this category opens a block. -/
def isHeader : Keyword → Bool
  | feature | rule | scenario | background | scenarioOutline | examples => true
  | _ => false

/-- Whether a line of this category is carried out. -/
def isExecutable : Keyword → Bool
  | step | ask => true
  | _ => false

/-- Whether tables and doc-strings may be attached to a line of this category. -/
def takesExtras (kind : Keyword) : Bool := kind.isExecutable || kind == examples

/-- The name of the category for a reader. -/
def display : Keyword → String
  | feature => "Feature"
  | rule => "Rule"
  | scenario => "Scenario"
  | step => "Step"
  | background => "Background"
  | scenarioOutline => "Scenario Outline"
  | examples => "Examples"
  | docString => "Doc String"
  | dataTable => "Data Table"
  | tag => "Tag"
  | comments => "Comments"
  | ask => "Ask"
  | unknown => "Unknown"

end Keyword

end Storyline

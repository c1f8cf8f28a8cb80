import Storyline.Vocabulary

/-!
# Lines

A line of a source is read on its own. Its leading word decides its category; when
it begins with no word of the vocabulary, its leading punctuation does. What comes
later in the line never changes the category, so `Given Scenario: x` is a step.

`Line.read` cuts the text into indentation, keyword, an optional colon, and body.
The cuts lose blanks only.
-/

namespace Storyline

/-- One classified line of a source. -/
structure Line where
  /-- The number of the line in its source, counted from one. -/
  number : Nat
  /-- The text as it stands in the source. -/
  text : String
  /-- The blank beginning of the text. -/
  indent : String
  /-- The word or phrase that the line begins with; empty if the vocabulary has none. -/
  keyword : String
  /-- The category. -/
  kind : Keyword
  /-- Whether a colon follows the keyword. -/
  colon : Bool
  /-- The text behind keyword and colon, trimmed. -/
  body : String
  deriving DecidableEq, Inhabited

namespace Line

/-- What opens and closes a doc-string. -/
def delimiter : List Char := ['"', '"', '"']

/-- The category of a text without a leading word, by its first characters. -/
def punctuation (text : List Char) : Keyword :=
  if delimiter.isPrefixOf text then .docString
  else match text with
    | '|' :: _ => .dataTable
    | '@' :: _ => .tag
    | '#' :: _ => .comments
    | _ => .unknown

/-- Splits the text behind a keyword at its colon. -/
def splitColon : List Char → Bool × List Char
  | ':' :: rest => (true, Text.trimStart rest)
  | rest => (false, rest)

/-- Classifies one line. -/
def read (v : Vocabulary) (number : Nat) (text : String) : Line :=
  let indent := Text.indent text.toList
  let rest := Text.trimStart text.toList
  match v.longestWord rest with
  | some (word, kind) =>
      let (colon, body) := splitColon (Text.trimStart (rest.drop word.length))
      { number, text, kind, colon
        indent := String.ofList indent
        keyword := word
        body := String.ofList (Text.trimEnd body) }
  | none =>
      { number, text
        indent := String.ofList indent
        keyword := ""
        kind := punctuation rest
        colon := false
        body := String.ofList (Text.trimEnd rest) }

/-- Whether the line opens a block. -/
def isHeader (line : Line) : Bool := line.kind.isHeader

/-- Whether the line says nothing at all. -/
def isBlank (line : Line) : Bool := line.kind == .unknown && line.body.isEmpty

/-- The line for a reader: its keyword, its category and its body. -/
def display (line : Line) : String :=
  line.keyword ++ " (" ++ line.kind.display ++ "): " ++ line.body

@[simp] theorem read_number (v : Vocabulary) (number : Nat) (text : String) :
    (read v number text).number = number := by
  unfold read; dsimp only; split <;> rfl

@[simp] theorem read_text (v : Vocabulary) (number : Nat) (text : String) :
    (read v number text).text = text := by
  unfold read; dsimp only; split <;> rfl

@[simp] theorem read_indent (v : Vocabulary) (number : Nat) (text : String) :
    (read v number text).indent = String.ofList (Text.indent text.toList) := by
  unfold read; dsimp only; split <;> rfl

end Line

end Storyline

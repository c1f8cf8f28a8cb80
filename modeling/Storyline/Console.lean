/-!
# Consoles

A console shows a text with attributes: in a colour, dim or italic. How it does so is not laid down
here, only what the consoles of ANSI terminals do (`Console.IsAnsi`): they put the codes of the
attributes in front of the text, and behind it the code that resets them.
-/

namespace Storyline

/-- How a text may be shown. -/
inductive Attribute where
  | magenta
  | blue
  | cyan
  | red
  | dim
  | italic
  deriving DecidableEq, Inhabited

/-- A console. -/
structure Console where
  /-- Whether it shows colours. -/
  showsColors : Bool
  /-- A text with some attributes, as it is written to the console. -/
  apply : List Attribute → String → String

namespace Console

/-- One terminal code: escape, an opening bracket, a parameter, and the letter m. -/
def code (parameter : String) : String := "\x1b[" ++ parameter ++ "m"

/-- The parameter of the code for an attribute. -/
def parameterOf : Attribute → String
  | .magenta => "35"
  | .blue => "34"
  | .cyan => "36"
  | .red => "31"
  | .dim => "2"
  | .italic => "3"

/-- The codes for some attributes, in order. -/
def codes (attributes : List Attribute) : String :=
  String.join (attributes.map (code ∘ parameterOf))

/-- The code that resets all attributes. -/
def reset : String := code "0"

/-- The console of a terminal with these codes. -/
def ansi (showsColors : Bool) : Console where
  showsColors := showsColors
  apply attributes text := codes attributes ++ text ++ reset

/-- Whether a console writes these codes around a text that has attributes. -/
def IsAnsi (console : Console) : Prop :=
  ∀ attributes text, attributes ≠ [] →
    console.apply attributes text = codes attributes ++ text ++ reset

theorem isAnsi_ansi (showsColors : Bool) : (ansi showsColors).IsAnsi := fun _ _ _ => rfl

end Console

end Storyline

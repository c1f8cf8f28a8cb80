import Storyline.Console

/-!
# Styles

A transcript may be painted for a console. Each part of a line has a style, which is a choice of
attributes, and the console shows the part with these. An empty text is left as it is.
-/

namespace Storyline

/-- Whether a transcript is painted. -/
inductive Coloring where
  /-- The terminal decides. -/
  | auto
  /-- Always. -/
  | always
  /-- Never. -/
  | never
  deriving DecidableEq, Inhabited

namespace Coloring

/-- Reads a choice; the case of its letters does not matter. Only the letters of ASCII
have a case here. -/
def parse? (text : String) : Option Coloring :=
  match String.ofList (text.toList.map Char.toLower) with
  | "auto" => some auto
  | "always" => some always
  | "never" => some never
  | _ => none

/-- What is said to a choice that there is not. -/
def complaint : String := "possible options: auto, always, never"

/-- The console that a transcript is painted for, if it is painted. -/
def on (console : Console) : Coloring → Option Console
  | auto => if console.showsColors then some console else none
  | always => some console
  | never => none

end Coloring

/-- The part that a painted text plays. -/
inductive Style where
  /-- The keyword of a header. -/
  | header
  /-- The keyword of a step, and the name behind a header. -/
  | keyword
  /-- A comment or a note. -/
  | comment
  /-- A line of tags. -/
  | tag
  /-- A line that is only recorded. -/
  | dim
  /-- The marker of a fault. -/
  | error
  deriving DecidableEq, Inhabited

namespace Style

/-- The attributes of a style. -/
def attributes : Style → List Attribute
  | header => [.magenta]
  | keyword => [.blue]
  | comment => [.dim, .italic]
  | tag => [.cyan]
  | dim => [.dim]
  | error => [.red]

/-- Paints a text for a console, if there is one and if there is something to paint. -/
def paint (console? : Option Console) (style : Style) (text : String) : String :=
  match console? with
  | none => text
  | some console => if text.isEmpty then text else console.apply style.attributes text

@[simp] theorem paint_none (style : Style) (text : String) : paint none style text = text := rfl

end Style

end Storyline

import Storyline.Text.Search

/-!
# Labels

A label restricts a run to the blocks whose tags mention it. Mentioning is a plain
substring test on the texts of tag lines, so `@slow` admits a block tagged `@slower`.
The empty label admits everything.
-/

namespace Storyline

/-- The tag text that a block has to mention. -/
structure Label where
  /-- The text looked for. -/
  text : String
  deriving DecidableEq, Inhabited

namespace Label

/-- Whether the label restricts nothing. -/
def isEmpty (label : Label) : Bool := label.text.isEmpty

/-- Whether a text of tags mentions the label. -/
def mentionedIn (label : Label) (tags : String) : Bool :=
  Text.occursIn label.text.toList tags.toList

/-- Whether the label lets a block with these tags in force through. -/
def admits (label : Label) (tags : List String) : Bool :=
  label.isEmpty || tags.any label.mentionedIn

theorem admits_eq_true_iff {label : Label} {tags : List String} :
    label.admits tags = true ↔
      label.text = "" ∨ ∃ tag ∈ tags, label.text.toList <:+: tag.toList := by
  simp [admits, isEmpty, mentionedIn, Text.occursIn_iff]

end Label

end Storyline

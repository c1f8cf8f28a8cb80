import Storyline.Keyword

/-!
# Tags in force

Tag lines are collected until the next header takes them. A header of a feature or of a
rule keeps its tags for all blocks below it, a scenario outline also for the examples
that follow it, and a background has none.

A block is let through when the tags of its feature, of its rule, or of the block itself
mention the label.
-/

namespace Storyline

/-- The tags collected so far and the tags in force. -/
structure Tags where
  /-- The bodies of the tag lines since the last header. -/
  pending : List String := []
  /-- The tags of the feature. -/
  feature : String := ""
  /-- The tags of the rule. -/
  rule : String := ""
  /-- The tags of the block. -/
  block : String := ""
  /-- The tags of the last scenario outline. -/
  outline : String := ""
  deriving DecidableEq, Inhabited

namespace Tags

/-- Collects one more tag line. -/
def collect (tags : Tags) (body : String) : Tags := { tags with pending := tags.pending ++ [body] }

/-- The tags that the next header takes. -/
def taken (tags : Tags) : String := String.intercalate " " tags.pending

/-- The tags in force below a header of this category. -/
def enter (tags : Tags) : Keyword → Tags
  | .feature => { feature := tags.taken }
  | .rule => { feature := tags.feature, rule := tags.taken }
  | .background => { tags with pending := [], block := "" }
  | .scenarioOutline => { tags with pending := [], block := tags.taken, outline := tags.taken }
  | .scenario => { tags with pending := [], block := tags.taken }
  | .examples => { tags with pending := [], block := tags.outline ++ " " ++ tags.taken }
  | _ => tags

/-- The tags that a label is looked for in. -/
def inForce (tags : Tags) : List String := [tags.feature, tags.rule, tags.block]

end Tags

end Storyline

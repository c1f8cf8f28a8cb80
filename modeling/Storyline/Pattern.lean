/-!
# Step patterns

A pattern says which texts a step stands for. It is a regular expression, but what an expression
matches is not laid down here: a pattern comes with its matcher. The matcher finds what the pattern
as a whole matches in a text, and what each of its groups does. A group need not take part in a
match.
-/

namespace Storyline

/-- A pattern with its matcher. -/
structure Pattern where
  /-- The pattern as written. -/
  source : String
  /-- The number of its groups. -/
  groups : Nat
  /-- What is found in a text, if the pattern matches it: first the match as a whole, then what
  each of the groups matches, unless the group took no part. -/
  search : String → Option (Vector (Option String) (groups + 1))

namespace Pattern

/-- What the groups of the pattern match in a text, if the pattern matches. The match as a whole is
left out, and a group that took no part in it is empty. -/
def captures (p : Pattern) (text : String) : Option (List String) :=
  (p.search text).map fun found => (found.toList.drop 1).map (·.getD "")

end Pattern

end Storyline

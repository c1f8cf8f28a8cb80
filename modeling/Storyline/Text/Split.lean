/-!
# Lines and pieces of a text

A source is read line by line. A line ends at a line feed, one carriage return
right before the line feed belongs to the ending, and a final line feed opens no
further line. A carriage return anywhere else is an ordinary character.
-/

namespace Storyline.Text

/-- Drops one final carriage return. The line is given back to front. -/
def closeLine : List Char → List Char
  | '\r' :: line => line.reverse
  | line => line.reverse

/-- Collects lines. `line` holds the characters of the unfinished line back to
front; at the end of the source it is a line of its own unless it is empty. -/
def linesFrom (line : List Char) : List Char → List (List Char)
  | [] => if line.isEmpty then [] else [line.reverse]
  | '\n' :: rest => closeLine line :: linesFrom [] rest
  | c :: rest => linesFrom (c :: line) rest

/-- The lines of a source, without their endings. -/
def lines (source : List Char) : List (List Char) := linesFrom [] source

/-- Texts put one under the other, with line feeds in between. -/
def joinLines (texts : List String) : String := String.intercalate "\n" texts

/-- A piece does not go across a separator. -/
theorem not_mem_of_mem_splitOn {text piece : List Char} {sep : Char}
    (found : piece ∈ text.splitOn sep) : sep ∉ piece := by
  induction text generalizing piece with
  | nil =>
      rw [List.splitOn_nil, List.mem_singleton] at found
      rw [found]
      exact List.not_mem_nil
  | cons c text ih =>
      rw [List.splitOn_cons_eq_if_modifyHead] at found
      split at found
      · rcases List.mem_cons.mp found with rfl | later
        · exact List.not_mem_nil
        · exact ih later
      · rename_i other
        obtain ⟨first, rest, pieces⟩ := List.exists_cons_of_ne_nil (List.splitOn_ne_nil sep text)
        rw [pieces] at ih found
        rcases List.mem_cons.mp found with rfl | later
        · rw [List.mem_cons, not_or]
          exact ⟨fun same => other (beq_iff_eq.mpr same.symm), ih List.mem_cons_self⟩
        · exact ih (List.mem_cons_of_mem first later)

end Storyline.Text

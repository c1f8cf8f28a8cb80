import Mathlib.Data.List.Infix
import Storyline.Statement

/-!
# What is attached to a statement

The doc-string of a statement stands between two delimiters: between the first one that is
attached and the next one, or the end of what is attached (`Statement.HasDocString`). A table line
counts if all doc-strings above it are closed, and this is so if the number of delimiters above it
is even (`Statement.tableLines_eq_outside`).
-/

namespace Storyline

namespace Text

/-- A line loses its leading blanks, but no more than the margin. -/
theorem dropMargin_eq_drop (margin : Nat) (text : List Char) :
    dropMargin margin text = text.drop (min margin (text.takeWhile isBlank).length) := by
  induction text generalizing margin with
  | nil => cases margin <;> rfl
  | cons c text ih =>
      cases margin with
      | zero => rw [dropMargin, Nat.zero_min, List.drop_zero]; simp
      | succ margin =>
          rw [dropMargin, List.takeWhile_cons]
          by_cases blank : isBlank c = true
          · rw [if_pos blank, if_pos blank, List.length_cons, Nat.succ_min_succ, ih]
            rfl
          · rw [if_neg blank, if_neg blank, List.length_nil, Nat.min_zero, List.drop_zero]

end Text

namespace Statement

variable {s : Statement} {lines rest : List Line} {opening : Line}

/-! ## Doc-strings -/

theorem openDocString_eq_none (h : openDocString lines = none) :
    ∀ line ∈ lines, line.kind ≠ .docString := by
  induction lines with
  | nil => exact List.forall_mem_nil _
  | cons line lines ih =>
      rw [openDocString] at h
      split at h
      · cases h
      · rename_i other
        exact List.forall_mem_cons.mpr ⟨other, ih h⟩

/-- A doc-string opens at the first delimiter. -/
theorem openDocString_eq_some (h : openDocString lines = some (opening, rest)) :
    ∃ before, lines = before ++ opening :: rest ∧ opening.kind = .docString ∧
      ∀ line ∈ before, line.kind ≠ .docString := by
  induction lines with
  | nil => cases h
  | cons line lines ih =>
      rw [openDocString] at h
      split at h
      · rename_i opens
        cases h
        exact ⟨[], rfl, opens, List.forall_mem_nil _⟩
      · rename_i other
        obtain ⟨before, split, opens, first⟩ := ih h
        exact ⟨line :: before, congrArg (line :: ·) split, opens,
          List.forall_mem_cons.mpr ⟨other, first⟩⟩

/-- Whether this is the doc-string of a statement. -/
inductive HasDocString (s : Statement) : Option String → Prop
  /-- No delimiter is attached. -/
  | without (bare : ∀ line ∈ s.extras, line.kind ≠ .docString) : HasDocString s none
  /-- The lines between the first delimiter and the next one, or the end. Each line loses as many
  of its leading blanks as the first delimiter is indented by, if it has so many. -/
  | between {before body after : List Line} {opening : Line}
      (split : s.extras = before ++ opening :: (body ++ after))
      (first : ∀ line ∈ before, line.kind ≠ .docString) (opens : opening.kind = .docString)
      (inside : ∀ line ∈ body, line.kind ≠ .docString)
      (closes : ∀ line, after.head? = some line → line.kind = .docString) :
      HasDocString s (some (String.intercalate "\n" (body.map fun line =>
        String.ofList (line.text.toList.drop
          (min opening.indent.length (line.text.toList.takeWhile Text.isBlank).length)))))

theorem hasDocString (s : Statement) : s.HasDocString s.docString := by
  cases h : openDocString s.extras with
  | none =>
      rw [docString, h]
      exact .without (openDocString_eq_none h)
  | some found =>
      obtain ⟨opening, rest⟩ := found
      obtain ⟨before, split, opens, first⟩ := openDocString_eq_some h
      have whole : rest.takeWhile (·.kind ≠ .docString) ++ rest.dropWhile (·.kind ≠ .docString) =
          rest := List.takeWhile_append_dropWhile
      have inside : ∀ line ∈ rest.takeWhile (·.kind ≠ .docString), line.kind ≠ .docString := by
        intro line hline
        have passed := List.all_eq_true.mp List.all_takeWhile line hline
        simpa using passed
      have closes : ∀ line, (rest.dropWhile (·.kind ≠ .docString)).head? = some line →
          line.kind = .docString := by
        intro line next
        have stopped := List.head?_dropWhile_not (fun line : Line => line.kind ≠ .docString) rest
        rw [next] at stopped
        simpa using stopped
      have stripped : withoutMargin opening.indent.length = fun line => String.ofList
          (line.text.toList.drop (min opening.indent.length
            (line.text.toList.takeWhile Text.isBlank).length)) := by
        funext line
        rw [withoutMargin, Text.dropMargin_eq_drop]
      rw [docString, h, Option.map_some]
      dsimp only
      rw [stripped]
      exact .between (by rw [split, whole]) first opens inside closes

/-! ## Tables -/

/-- Whether no doc-string is open at an attached line: the number of delimiters above is even. -/
def isOutside (lines : List Line) (k : Nat) : Bool :=
  (lines.take k).countP (·.kind = .docString) % 2 = 0

/-- The attached table lines outside of doc-strings. -/
def outsideTables (s : Statement) : List Line :=
  (List.range s.extras.length).filterMap fun k =>
    s.extras[k]?.filter fun line => line.kind = .dataTable && isOutside s.extras k

theorem isOutside_succ (line : Line) (lines : List Line) (k : Nat) :
    isOutside (line :: lines) (k + 1) =
      if line.kind = .docString then !isOutside lines k else isOutside lines k := by
  rw [isOutside, isOutside, List.take_succ_cons, List.countP_cons]
  by_cases delimiter : line.kind = .docString
  · rw [if_pos delimiter, if_pos (decide_eq_true delimiter), ← decide_not, decide_eq_decide]
    omega
  · rw [if_neg delimiter, if_neg (by simpa using delimiter), Nat.add_zero]

theorem tableLinesFrom_eq (inside : Bool) (lines : List Line) :
    tableLinesFrom inside lines =
      (List.range lines.length).filterMap fun k =>
        lines[k]?.filter fun line => line.kind = .dataTable && (isOutside lines k != inside) := by
  induction lines generalizing inside with
  | nil => rfl
  | cons line lines ih =>
      have outside : isOutside (line :: lines) 0 = true := rfl
      rw [List.length_cons, List.range_succ_eq_map, List.filterMap_cons, List.filterMap_map,
        tableLinesFrom]
      simp only [Function.comp_def, List.getElem?_cons_succ, isOutside_succ,
        List.getElem?_cons_zero, outside]
      by_cases delimiter : line.kind = .docString
      · simp [delimiter, ih, Option.filter_some]
      · by_cases table : line.kind = .dataTable
        · cases inside <;> simp [table, ih, Option.filter_some]
        · simp [delimiter, table, ih, Option.filter_some]

/-- A table line counts if the number of delimiters above it is even. -/
theorem tableLines_eq_outside (s : Statement) : s.tableLines = s.outsideTables := by
  rw [tableLines, tableLinesFrom_eq, outsideTables]
  simp

theorem table_eq_outside (s : Statement) :
    s.table = if s.outsideTables = [] then none
      else some ⟨s.outsideTables.map fun line => Table.parseRow line.text⟩ := by
  rw [← tableLines_eq_outside, table]
  cases s.tableLines with
  | nil => rfl
  | cons first rest => simp [Table.parse]

end Statement

end Storyline

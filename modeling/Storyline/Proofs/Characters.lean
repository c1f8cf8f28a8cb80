import Storyline.Proofs.Belonging
import Storyline.Proofs.Origins
import Storyline.Proofs.Words

/-!
# The characters of a script

Reading a source cuts it and makes up nothing. Every character of a line, of its keyword or of its
body stands in the source, and where placeholders are filled in, the new characters come from the
cells of a table of the script. So what holds of all characters of a source holds of all
characters that a run can take from it (`Script.only_parse`, `Script.Fills.only`).
-/

namespace Storyline

/-! ## Texts -/

namespace Text

variable {p : Char → Prop}

/-- Whether a text has only characters of a kind. -/
def Only (p : Char → Prop) (text : String) : Prop := ∀ c ∈ text.toList, p c

-- The characters of the text are gone through, not all the characters that there are.
instance [DecidablePred p] (text : String) : Decidable (Only p text) :=
  List.decidableBAll p text.toList

theorem only_ofList {text : List Char} : Only p (String.ofList text) ↔ ∀ c ∈ text, p c := by
  rw [Only, String.toList_ofList]

theorem only_empty : Only p "" := by
  intro c hc
  cases hc

theorem only_append {text text' : String} :
    Only p (text ++ text') ↔ Only p text ∧ Only p text' := by
  rw [Only, String.toList_append, List.forall_mem_append]
  rfl

/-- What holds of all characters of a text holds of those of its part. -/
theorem Only.of_subset {text : String} {part : List Char} (only : Only p text)
    (part_of : part ⊆ text.toList) : Only p (String.ofList part) := by
  rw [only_ofList]
  intro c hc
  exact only c (part_of hc)

/-! ## Cuts -/

theorem indent_subset (text : List Char) : indent text ⊆ text := List.takeWhile_subset isBlank

theorem trimStart_subset (text : List Char) : trimStart text ⊆ text :=
  (List.dropWhile_sublist isBlank).subset

theorem trimEnd_subset (text : List Char) : trimEnd text ⊆ text := by
  intro c hc
  have back := (List.dropWhile_sublist isBlank).subset (List.mem_reverse.mp hc)
  exact List.mem_reverse.mp back

theorem trim_subset (text : List Char) : trim text ⊆ text :=
  List.Subset.trans (trimEnd_subset _) (trimStart_subset text)

theorem closeLine_subset (line : List Char) : closeLine line ⊆ line := by
  intro c hc
  rw [closeLine.eq_def] at hc
  split at hc
  · exact List.mem_cons_of_mem _ (List.mem_reverse.mp hc)
  · exact List.mem_reverse.mp hc

/-- A line has the characters that were held back for it, and some that follow. -/
theorem subset_of_mem_linesFrom {line text part : List Char} (found : part ∈ linesFrom line text) :
    part ⊆ line ++ text := by
  induction text generalizing line with
  | nil =>
      rw [linesFrom] at found
      split at found
      · cases found
      · rw [List.mem_singleton.mp found, List.append_nil]
        exact (List.reverse_subset).mpr (List.Subset.refl line)
  | cons c text ih =>
      rw [linesFrom.eq_def] at found
      split at found
      · contradiction
      · rename_i rest same
        cases same
        rcases List.mem_cons.mp found with rfl | later
        · exact List.Subset.trans (closeLine_subset line) (List.subset_append_left _ _)
        · exact List.Subset.trans (ih later) (by simp)
      · rename_i d rest _ same
        cases same
        exact List.Subset.trans (ih found) (by simp)

theorem subset_of_mem_lines {text part : List Char} (found : part ∈ lines text) : part ⊆ text :=
  subset_of_mem_linesFrom found

/-- No line goes across a line feed. -/
theorem unbroken_of_mem_linesFrom {line text part : List Char} (unbroken : '\n' ∉ line)
    (found : part ∈ linesFrom line text) : '\n' ∉ part := by
  induction text generalizing line with
  | nil =>
      rw [linesFrom] at found
      split at found
      · cases found
      · rwa [List.mem_singleton.mp found, List.mem_reverse]
  | cons c text ih =>
      rw [linesFrom.eq_def] at found
      split at found
      · contradiction
      · rename_i rest same
        cases same
        rcases List.mem_cons.mp found with rfl | later
        · exact fun feed => unbroken (closeLine_subset line feed)
        · exact ih List.not_mem_nil later
      · rename_i d rest other same
        cases same
        apply ih _ found
        rw [List.mem_cons, not_or]
        exact ⟨Ne.symm other, unbroken⟩

theorem unbroken_of_mem_lines {text part : List Char} (found : part ∈ lines text) :
    '\n' ∉ part :=
  unbroken_of_mem_linesFrom List.not_mem_nil found

theorem subset_intercalate {sep piece : List Char} {pieces : List (List Char)}
    (found : piece ∈ pieces) : piece ⊆ sep.intercalate pieces := by
  induction pieces with
  | nil => cases found
  | cons first pieces ih =>
      cases pieces with
      | nil =>
          rw [List.mem_singleton.mp found, List.intercalate_singleton]
          exact List.Subset.refl first
      | cons next pieces =>
          rw [List.intercalate_cons_cons]
          rcases List.mem_cons.mp found with rfl | later
          · rw [List.append_assoc]
            exact List.subset_append_left _ _
          · exact List.Subset.trans (ih later) (List.subset_append_right _ _)

/-- The pieces between separators. -/
theorem subset_of_mem_splitOn {sep : Char} {text piece : List Char}
    (found : piece ∈ text.splitOn sep) : piece ⊆ text := by
  have whole : [sep].intercalate (text.splitOn sep) = text := List.intercalate_splitOn sep
  rw [← whole]
  exact subset_intercalate found

end Text

/-! ## Tables and placeholders -/

section Filling

variable {p : Char → Prop}

theorem Table.dropBar_subset (text : List Char) : dropBar text ⊆ text := by
  intro c hc
  rw [dropBar] at hc
  split at hc
  · rename_i rest reversed
    rw [← List.mem_reverse, reversed]
    exact List.mem_cons_of_mem _ (List.mem_reverse.mp hc)
  · exact hc

/-- A cell has only characters of its row. -/
theorem Table.only_parseRow {line cell : String} (only : Text.Only p line)
    (found : cell ∈ parseRow line) : Text.Only p cell := by
  obtain ⟨piece, between, rfl⟩ := List.mem_map.mp found
  apply only.of_subset
  calc Text.trim piece
      ⊆ piece := Text.trim_subset piece
    _ ⊆ dropBar (Text.trim line.toList) := Text.subset_of_mem_splitOn (List.drop_subset _ _ between)
    _ ⊆ Text.trim line.toList := dropBar_subset _
    _ ⊆ line.toList := Text.trim_subset _

/-- A scanned text has only characters of the text and of the values. An open bracket that has
been held back is one of the text. -/
theorem Placeholder.only_scan {value? : List Char → Option (List Char)}
    (values : ∀ name value, value? name = some value → ∀ c ∈ value, p c)
    {pending : Option (List Char)} {text : List Char}
    (held : ∀ name, pending = some name → p '<' ∧ ∀ c ∈ name, p c) (only : ∀ c ∈ text, p c) :
    ∀ c ∈ scan value? pending text, p c := by
  -- By induction on the text. What is pending grows with it, so it is taken along.
  induction text generalizing pending with
  | nil =>
      cases pending with
      | none => exact List.forall_mem_nil _
      | some name =>
          obtain ⟨bracket, name_only⟩ := held name rfl
          rw [scan, List.forall_mem_cons]
          exact ⟨bracket, fun c hc => name_only c (List.mem_reverse.mp hc)⟩
  | cons d text ih =>
      obtain ⟨first, rest⟩ := List.forall_mem_cons.mp only
      have kept : ∀ c ∈ scan value? none text, p c := ih (by nofun) rest
      cases pending with
      | none =>
          rw [scan]
          split
          · rename_i opens
            apply ih _ rest
            rintro _ ⟨rfl⟩
            exact ⟨opens ▸ first, List.forall_mem_nil _⟩
          · exact List.forall_mem_cons.mpr ⟨first, kept⟩
      | some name =>
          obtain ⟨bracket, name_only⟩ := held name rfl
          have reversed : ∀ c ∈ name.reverse, p c := fun c hc =>
            name_only c (List.mem_reverse.mp hc)
          rw [scan]
          split
          · rw [List.forall_mem_cons, List.forall_mem_append]
            refine ⟨bracket, reversed, ih ?_ rest⟩
            rintro _ ⟨rfl⟩
            exact ⟨bracket, List.forall_mem_nil _⟩
          split
          · rename_i closes
            have itself : ∀ c ∈ bracketed name.reverse, p c := by
              rw [bracketed, List.forall_mem_cons, List.forall_mem_append]
              exact ⟨bracket, reversed, List.forall_mem_singleton.mpr (closes ▸ first)⟩
            rw [List.forall_mem_append]
            refine ⟨?_, kept⟩
            rw [filled]
            split
            · exact itself
            cases value : value? name.reverse with
            | none => exact itself
            | some filling => exact values _ _ value
          · apply ih _ rest
            rintro _ ⟨rfl⟩
            exact ⟨bracket, List.forall_mem_cons.mpr ⟨first, name_only⟩⟩

theorem Placeholder.only_substitute {header row : List String} {text : String}
    (cells : ∀ cell ∈ row, Text.Only p cell) (only : Text.Only p text) :
    Text.Only p (substitute header row text) := by
  rw [substitute, Text.only_ofList]
  apply only_scan _ _ only
  · intro name value found
    obtain ⟨cell, here, rfl⟩ := Option.map_eq_some_iff.mp found
    obtain ⟨column, -, at_column⟩ := Option.bind_eq_some_iff.mp here
    exact cells cell (List.mem_of_getElem? at_column)
  · nofun

end Filling

/-! ## Lines -/

/-- Whether all texts of a line have only characters of a kind. -/
structure Line.Only (p : Char → Prop) (line : Line) : Prop where
  text : Text.Only p line.text
  indent : Text.Only p line.indent
  keyword : Text.Only p line.keyword
  body : Text.Only p line.body

variable {p : Char → Prop}

theorem Line.splitColon_subset (text : List Char) : (splitColon text).2 ⊆ text := by
  rw [splitColon.eq_def]
  split
  · exact List.Subset.trans (Text.trimStart_subset _) (List.subset_cons_self _ _)
  · exact List.Subset.refl _

/-- The texts of a line are parts of its source. -/
theorem Line.only_read {text : String} (v : Vocabulary) (number : Nat)
    (only : Text.Only p text) : (Line.read v number text).Only p := by
  have rest_of := Text.trimStart_subset text.toList
  have indent := only.of_subset (Text.indent_subset text.toList)
  rw [Line.read]
  dsimp only
  split
  · rename_i word kind found
    obtain ⟨-, behind, split, -⟩ := (Vocabulary.isLongest_of_longestWord found).leading
    refine ⟨only, indent, ?_, ?_⟩
    · intro c hc
      apply only c (rest_of _)
      rw [split]
      exact List.mem_append_left behind hc
    · apply only.of_subset
      calc Text.trimEnd _
          ⊆ _ := Text.trimEnd_subset _
        _ ⊆ _ := Line.splitColon_subset _
        _ ⊆ _ := Text.trimStart_subset _
        _ ⊆ _ := List.drop_subset _ _
        _ ⊆ _ := rest_of
  · have body := List.Subset.trans (Text.trimEnd_subset _) rest_of
    exact ⟨only, indent, Text.only_empty, only.of_subset body⟩

namespace Script

/-- Whether all lines of a script have only characters of a kind. -/
def Only (p : Char → Prop) (script : List Statement) : Prop :=
  ∀ s ∈ script, ∀ line ∈ s.lines, line.Only p

/-- What holds of all characters of the source lines holds of those of the script. -/
theorem only_of_lines {source : String} (v : Vocabulary)
    (only : ∀ line ∈ Text.lines source.toList, ∀ c ∈ line, p c) : Only p (parse v source) := by
  intro s here line belongs
  have among : line ∈ (parse v source).flatMap Statement.lines :=
    List.mem_flatMap.mpr ⟨s, here, belongs⟩
  rw [parse, flatMap_lines_gather, sourceLines_eq_mapIdx] at among
  obtain ⟨index, inside, rfl⟩ := List.mem_mapIdx.mp among
  apply Line.only_read
  exact Text.only_ofList.mpr (only _ (List.getElem_mem inside))

/-- A script has only characters of its source. -/
theorem only_parse {source : String} (v : Vocabulary) (only : Text.Only p source) :
    Only p (parse v source) :=
  only_of_lines v fun _ found c hc => only c (Text.subset_of_mem_lines found hc)

/-- No text of a script goes across a line feed. -/
theorem unbroken_parse (v : Vocabulary) (source : String) : Only (· ≠ '\n') (parse v source) :=
  only_of_lines v fun _ found _ hc feed => Text.unbroken_of_mem_lines found (feed ▸ hc)

variable {script : List Statement} {s : Statement}

/-- A cell of an attached table has only characters of its line. -/
theorem Only.table {t : Table} {row : List String} {cell : String} (only : Only p script)
    (here : s ∈ script) (table : s.table = some t) (row_of : row ∈ t.rows) (cell_of : cell ∈ row) :
    Text.Only p cell := by
  have rows : t.rows = s.tableLines.map fun line => Table.parseRow line.text := by
    rw [Statement.table] at table
    split at table
    · cases table
    · cases table
      rw [Table.rows_parse, List.map_map]
      rfl
  rw [rows] at row_of
  obtain ⟨line, table_line, rfl⟩ := List.mem_map.mp row_of
  have belongs := Statement.mem_lines_of_mem_tableLines table_line
  exact Table.only_parseRow (only s here line belongs).text cell_of

/-- Filling in a text of the script brings in nothing but cells of its tables. -/
theorem Fills.only {fill : String → String} {text : String} (fills : Fills script fill)
    (only : Only p script) (text_only : Text.Only p text) : Text.Only p (fill text) := by
  cases fills with
  | own => exact text_only
  | row here row =>
      rw [Statement.fills] at row
      split at row
      · cases row
      · rename_i t table
        obtain ⟨cells, below, rfl⟩ := List.mem_map.mp row
        apply Placeholder.only_substitute _ text_only
        intro cell found
        exact only.table here table (List.mem_of_mem_drop below) found

end Script

end Storyline

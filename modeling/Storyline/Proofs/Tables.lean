import Storyline.Proofs.Characters
import Storyline.Proofs.Quoting

/-!
# Tables on paper

A table that is written out is read back: each row falls into its cells at the bars, and the blanks
that were put around a cell are trimmed off again (`Table.parse_render`). What is read is of a kind
that can be written: cells are trimmed and hold no bar, and a line has as many of them as it has
bars, but for a closing one (`Table.length_parseRow`).
-/

namespace Storyline

namespace Text

variable {text : List Char} {c : Char}

/-! ## Trimming -/

theorem isTrimmed_trim (text : List Char) : IsTrimmed (trim text) :=
  isTrimmed_trimEnd (head?_trimStart text)

theorem trimStart_of_head? (first : ∀ c, text.head? = some c → isBlank c = false) :
    trimStart text = text := by
  cases text with
  | nil => rfl
  | cons c text =>
      rw [trimStart, List.dropWhile_cons_of_neg]
      rw [first c rfl]
      exact Bool.false_ne_true

theorem trimEnd_of_getLast? (last : ∀ c, text.getLast? = some c → isBlank c = false) :
    trimEnd text = text := by
  have reversed : trimStart text.reverse = text.reverse := by
    apply trimStart_of_head?
    rwa [List.head?_reverse]
  rw [trimStart] at reversed
  rw [trimEnd, reversed, List.reverse_reverse]

/-- Nothing is trimmed off a trimmed text. -/
theorem IsTrimmed.trim_eq (isTrimmed : IsTrimmed text) : trim text = text := by
  rw [trim, trimStart_of_head? isTrimmed.first, trimEnd_of_getLast? isTrimmed.last]

theorem trimEnd_append_blank (blank : isBlank c = true) (text : List Char) :
    trimEnd (text ++ [c]) = trimEnd text := by
  have front : (c :: text.reverse).dropWhile isBlank = text.reverse.dropWhile isBlank :=
    List.dropWhile_cons_of_pos blank
  rw [trimEnd, List.reverse_append, List.reverse_singleton, List.singleton_append, front]
  rfl

/-- A trimmed text between two spaces is trimmed to itself. -/
theorem IsTrimmed.trim_spaced (isTrimmed : IsTrimmed text) :
    trim (' ' :: (text ++ [' '])) = text := by
  cases text with
  | nil => rfl
  | cons c text =>
      -- The text begins in front of the second space, so only the first one is cut off in front.
      have behind : trimStart (c :: text ++ [' ']) = c :: text ++ [' '] :=
        trimStart_of_head? isTrimmed.first
      have front : trimStart (' ' :: (c :: text ++ [' '])) = c :: text ++ [' '] := behind
      rw [trim, front, trimEnd_append_blank (by decide), trimEnd_of_getLast? isTrimmed.last]

/-! ## Pieces -/

/-- A text has one piece more than it has separators. -/
theorem length_splitOn (sep : Char) (text : List Char) :
    (text.splitOn sep).length = text.count sep + 1 := by
  induction text with
  | nil => rfl
  | cons c text ih =>
      rw [List.splitOn_cons_eq_if_modifyHead, List.count_cons]
      split
      · rw [List.length_cons, ih]
      · rw [List.length_modifyHead, ih]

end Text

namespace Table

/-- Whether a text may be a cell of a row that has been read. -/
structure IsCell (cell : String) : Prop where
  trimmed : Text.IsTrimmed cell.toList
  barless : '|' ∉ cell.toList

instance (cell : String) : Decidable (IsCell cell) :=
  decidable_of_iff (Text.IsTrimmed cell.toList ∧ '|' ∉ cell.toList)
    ⟨fun isCell => ⟨isCell.1, isCell.2⟩, fun isCell => ⟨isCell.1, isCell.2⟩⟩

/-- Whether a table can be written so that it is read back. -/
structure IsWritable (t : Table) : Prop where
  nonempty : ∀ cells ∈ t.rows, cells ≠ []
  isCell : ∀ cells ∈ t.rows, ∀ cell ∈ cells, IsCell cell
  unbroken : ∀ cells ∈ t.rows, ∀ cell ∈ cells, '\n' ∉ cell.toList

instance (t : Table) : Decidable t.IsWritable :=
  decidable_of_iff
    ((∀ cells ∈ t.rows, cells ≠ []) ∧ (∀ cells ∈ t.rows, ∀ cell ∈ cells, IsCell cell) ∧
      ∀ cells ∈ t.rows, ∀ cell ∈ cells, '\n' ∉ cell.toList)
    ⟨fun ⟨nonempty, isCell, unbroken⟩ => ⟨nonempty, isCell, unbroken⟩,
      fun writable => ⟨writable.1, writable.2, writable.3⟩⟩

variable {line cell : String} {cells : List String} {text : List Char} {t : Table}

/-! ## Reading -/

theorem dropBar_append (text : List Char) : dropBar (text ++ ['|']) = text := by
  have reversed : (text ++ ['|']).reverse = '|' :: text.reverse := List.reverse_append
  rw [dropBar, reversed]
  exact List.reverse_reverse text

theorem dropBar_of_open (opened : text.getLast? ≠ some '|') : dropBar text = text := by
  rw [dropBar]
  split
  · rename_i rest reversed
    refine absurd ?_ opened
    rw [← List.head?_reverse, reversed]
    rfl
  · rfl

/-- The bar that is dropped is one that closes the text. -/
theorem count_dropBar (text : List Char) :
    (dropBar text).count '|' + (if text.getLast? = some '|' then 1 else 0) = text.count '|' := by
  by_cases closed : text.getLast? = some '|'
  · obtain ⟨front, rfl⟩ := List.getLast?_eq_some_iff.mp closed
    rw [if_pos closed, dropBar_append, List.count_append]
    rfl
  · rw [if_neg closed, dropBar_of_open closed]
    rfl

/-- What is read as a cell is trimmed and has no bar in it. -/
theorem isCell_of_mem_parseRow (found : cell ∈ parseRow line) : IsCell cell := by
  obtain ⟨piece, between, rfl⟩ := List.mem_map.mp found
  have barless : '|' ∉ piece := Text.not_mem_of_mem_splitOn (List.mem_of_mem_drop between)
  constructor
  · rw [String.toList_ofList]
    exact Text.isTrimmed_trim piece
  · rw [String.toList_ofList]
    exact fun bar => barless (Text.trim_subset piece bar)

/-- A line has as many cells as bars, but for a closing one. -/
theorem length_parseRow (line : String) :
    (parseRow line).length +
        (if (Text.trim line.toList).getLast? = some '|' then 1 else 0) =
      (Text.trim line.toList).count '|' := by
  rw [← count_dropBar, parseRow, List.length_map, List.length_drop, Text.length_splitOn,
    Nat.add_sub_cancel]

/-! ## Writing -/

/-- A cell with the spaces that are written around it. -/
def spaced (cell : String) : List Char := ' ' :: (cell.toList ++ [' '])

/-- A row is written as its cells between bars. -/
theorem toList_renderRow (nonempty : cells ≠ []) :
    (renderRow cells).toList = ['|'].intercalate ([] :: cells.map spaced) ++ ['|'] := by
  have between : ∀ cells : List String, cells ≠ [] →
      ' ' :: ((String.intercalate " | " cells).toList ++ [' ']) =
        ['|'].intercalate (cells.map spaced) := by
    intro cells nonempty
    induction cells with
    | nil => exact absurd rfl nonempty
    | cons first cells ih =>
        cases cells with
        | nil =>
            rw [String.intercalate_singleton, List.map_singleton, List.intercalate_singleton]
            rfl
        | cons next cells =>
            have later := ih (List.cons_ne_nil next cells)
            rw [String.intercalate_cons_cons, List.map_cons, List.map_cons,
              List.intercalate_cons_cons, ← List.map_cons, ← later]
            simp [spaced]
  have opened : ['|'].intercalate ([] :: cells.map spaced) =
      '|' :: ['|'].intercalate (cells.map spaced) := by
    obtain ⟨first, rest, rfl⟩ := List.exists_cons_of_ne_nil nonempty
    rw [List.map_cons, List.intercalate_cons_cons]
    rfl
  rw [opened, ← between cells nonempty]
  simp [renderRow]

/-- A row that is written begins and ends with a bar. -/
theorem isTrimmed_renderRow (cells : List String) : Text.IsTrimmed (renderRow cells).toList where
  first c hc := by
    rw [renderRow, String.toList_append, String.toList_append] at hc
    cases hc
    rfl
  last c hc := by
    rw [renderRow, String.toList_append, List.getLast?_append] at hc
    cases hc
    rfl

/-- A row is read back. -/
theorem parseRow_renderRow (nonempty : cells ≠ []) (isCell : ∀ cell ∈ cells, IsCell cell) :
    parseRow (renderRow cells) = cells := by
  have barless : ∀ piece ∈ [] :: cells.map spaced, '|' ∉ piece := by
    rw [List.forall_mem_cons]
    refine ⟨List.not_mem_nil, fun piece found => ?_⟩
    obtain ⟨cell, among, rfl⟩ := List.mem_map.mp found
    rw [spaced, List.mem_cons, List.mem_append, List.mem_singleton]
    rintro (space | bar | space)
    · cases space
    · exact (isCell cell among).barless bar
    · cases space
  have trimmed : cells.map (fun cell => String.ofList (Text.trim (spaced cell))) = cells := by
    calc cells.map (fun cell => String.ofList (Text.trim (spaced cell)))
        = cells.map id := List.map_congr_left fun cell among => by
          rw [spaced, (isCell cell among).trimmed.trim_spaced, String.ofList_toList]
          rfl
      _ = cells := List.map_id cells
  rw [parseRow, (isTrimmed_renderRow cells).trim_eq, toList_renderRow nonempty, dropBar_append,
    List.splitOn_intercalate '|' barless (List.cons_ne_nil _ _), List.drop_one, List.tail_cons,
    List.map_map]
  exact trimmed

/-- A row is one line of text, if its cells are. -/
theorem isLine_renderRow (unbroken : ∀ cell ∈ cells, '\n' ∉ cell.toList) :
    Text.IsLine (renderRow cells).toList where
  unbroken := by
    have inside : '\n' ∉ (String.intercalate " | " cells).toList := by
      induction cells with
      | nil => exact List.not_mem_nil
      | cons first cells ih =>
          obtain ⟨here, later⟩ := List.forall_mem_cons.mp unbroken
          cases cells with
          | nil => rwa [String.intercalate_singleton]
          | cons next cells =>
              rw [String.intercalate_cons_cons, String.toList_append, String.toList_append,
                List.mem_append, List.mem_append, not_or, not_or]
              exact ⟨⟨here, by decide⟩, ih later⟩
    rw [renderRow, String.toList_append, String.toList_append, List.mem_append, List.mem_append,
      not_or, not_or]
    exact ⟨⟨by decide, inside⟩, by decide⟩
  whole ends := by
    have not_blank := (isTrimmed_renderRow cells).last _ ends
    revert not_blank
    decide

/-- What is written row by row is read line by line. -/
theorem lines_rows {rows : List (List String)}
    (unbroken : ∀ cells ∈ rows, ∀ cell ∈ cells, '\n' ∉ cell.toList) :
    (Text.lines ((rows.map fun cells => renderRow cells ++ "\n").flatMap String.toList)).map
        String.ofList =
      rows.map renderRow := by
  induction rows with
  | nil => rfl
  | cons cells rows ih =>
      obtain ⟨here, later⟩ := List.forall_mem_cons.mp unbroken
      have ended (rest : List Char) :
          Text.lines ((renderRow cells).toList ++ ("\n".toList ++ rest)) =
            (renderRow cells).toList :: Text.lines rest :=
        Text.lines_ended (isLine_renderRow here) .feed rest
      rw [List.map_cons, List.flatMap_cons, String.toList_append, List.append_assoc, ended,
        List.map_cons, String.ofList_toList, ih later, List.map_cons]

theorem lines_render (unbroken : ∀ cells ∈ t.rows, ∀ cell ∈ cells, '\n' ∉ cell.toList) :
    (Text.lines t.render.toList).map String.ofList = t.rows.map renderRow := by
  rw [render, String.toList_join]
  exact lines_rows unbroken

/-- A table is read back from what has been written. -/
theorem parse_render (writable : t.IsWritable) :
    parse ((Text.lines t.render.toList).map String.ofList) = t := by
  have back : t.rows.map (parseRow ∘ renderRow) = t.rows.map id :=
    List.map_congr_left fun cells row =>
      parseRow_renderRow (writable.nonempty cells row) (writable.isCell cells row)
  rw [parse, lines_render writable.unbroken, List.map_map, back, List.map_id]

/-- A table that has been read can be written, if no row of it is empty. -/
theorem isWritable_parse {lines : List String} (nonempty : ∀ line ∈ lines, parseRow line ≠ [])
    (unbroken : ∀ line ∈ lines, '\n' ∉ line.toList) : (parse lines).IsWritable where
  nonempty := List.forall_mem_map.mpr nonempty
  isCell := List.forall_mem_map.mpr fun _ _ _ => isCell_of_mem_parseRow
  unbroken := by
    refine List.forall_mem_map.mpr fun line here cell found feed => ?_
    have only : Text.Only (· ≠ '\n') line := fun c hc same => unbroken line here (same ▸ hc)
    exact only_parseRow only found _ feed rfl

/-- How tables are written and read. -/
structure ReadingLaws : Prop where
  /-- A table is read back from what has been written. -/
  written : ∀ t : Table, t.IsWritable → parse ((Text.lines t.render.toList).map String.ofList) = t
  /-- A cell that is read is trimmed, and there is no bar in it. -/
  cells : ∀ line : String, ∀ cell ∈ parseRow line, IsCell cell
  /-- The bars of a line tell how many cells there are. -/
  bars : ∀ line : String,
    (parseRow line).length + (if (Text.trim line.toList).getLast? = some '|' then 1 else 0) =
      (Text.trim line.toList).count '|'
  /-- What has been read comes back when it is written and read again, if no row is empty. -/
  reread : ∀ lines : List String, (∀ line ∈ lines, parseRow line ≠ []) →
    (∀ line ∈ lines, '\n' ∉ line.toList) →
      parse ((Text.lines (parse lines).render.toList).map String.ofList) = parse lines

/-- **Tables are written and read back.** -/
theorem parse_render_spec : ReadingLaws where
  written _ writable := parse_render writable
  cells _ _ found := isCell_of_mem_parseRow found
  bars line := length_parseRow line
  reread _ nonempty unbroken := parse_render (isWritable_parse nonempty unbroken)

/-- Rows of different lengths and an empty cell are read back. -/
theorem parse_render_ragged :
    (⟨[["name", ""], ["a b"]]⟩ : Table).IsWritable ∧
      parse ((Text.lines (render ⟨[["name", ""], ["a b"]]⟩).toList).map String.ofList) =
        ⟨[["name", ""], ["a b"]]⟩ :=
  ⟨by decide, parse_render_spec.written _ (by decide)⟩

end Table

end Storyline

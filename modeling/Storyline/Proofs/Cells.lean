import Storyline.Proofs.Calls
import Storyline.Proofs.Substitution
import Storyline.Proofs.Tables

/-!
# The cells that a step is handed

The cells of a table are trimmed when it is read, and its placeholders are filled in afterwards.
Nothing that is put in brings a bar along. But where nothing is put in place of a placeholder, a
blank that stood beside it may come to the edge of its cell (`Placeholder.LaysBare`). This is the
only way for a cell not to be trimmed when it is handed to a step
(`Interpreter.isCell_iff_of_called`).
-/

namespace Storyline

namespace Placeholder

/-- Whether a text is made of placeholders that are filled with nothing. -/
inductive Vanishes (fill : String → String) : List Char → Prop where
  | nil : Vanishes fill []
  | cons {name rest : List Char} (isName : IsName name)
      (empty : fill (String.ofList (bracketed name)) = "") (later : Vanishes fill rest) :
      Vanishes fill (bracketed name ++ rest)

/-- Whether a blank comes to the edge of a text when all in front of it or all behind it vanishes.
-/
def LaysBare (fill : String → String) (text : String) : Prop :=
  ∃ front c back, text.toList = front ++ c :: back ∧ Text.isBlank c = true ∧
    (Vanishes fill front ∨ Vanishes fill back)

variable {header row : List String} {name text front back : List Char}
  {fill : String → String} {c : Char}

/-! ## What vanishes -/

theorem Vanishes.parts_append (vanishes : Vanishes fill back) (text : List Char) :
    parts (text ++ back) = parts text ++ parts back := by
  cases vanishes with
  | nil =>
      rw [List.append_nil]
      exact (List.append_nil _).symm
  | cons isName =>
      rw [parts_append_bracketed isName, parts_cons_bracketed isName]

theorem Vanishes.append_parts (vanishes : Vanishes fill front) (text : List Char) :
    parts (front ++ text) = parts front ++ parts text := by
  induction vanishes with
  | nil => rfl
  | cons isName _ _ ih =>
      rw [List.append_assoc, parts_cons_bracketed isName, parts_cons_bracketed isName, ih]
      rfl

theorem substitute_bracketed (isName : IsName name) :
    (substitute header row (String.ofList (bracketed name))).toList =
      (Part.placeholder name).filled (valueIn? header row) := by
  rw [toList_substitute, String.toList_ofList]
  conv_lhs => rw [← List.append_nil (bracketed name), parts_cons_bracketed isName]
  exact List.append_nil _

theorem Vanishes.filled (vanishes : Vanishes (substitute header row) text) :
    (parts text).flatMap (Part.filled (valueIn? header row)) = [] := by
  induction vanishes with
  | nil => rfl
  | @cons name rest isName empty _ ih =>
      have nothing : (substitute header row (String.ofList (bracketed name))).toList =
          (Part.placeholder name).filled (valueIn? header row) := substitute_bracketed isName
      rw [empty] at nothing
      rw [parts_cons_bracketed isName, List.flatMap_cons, ih, ← nothing]
      rfl

/-- Parts of a text that are filled with nothing are placeholders. -/
theorem vanishes_of_filled {some_parts : List Part} (among : some_parts ⊆ parts text)
    (nothing : ∀ part ∈ some_parts, part.filled (valueIn? header row) = []) :
    Vanishes (substitute header row) (some_parts.flatMap Part.text) := by
  induction some_parts with
  | nil => exact .nil
  | cons part some_parts ih =>
      obtain ⟨here, later⟩ := List.forall_mem_cons.mp nothing
      obtain ⟨found, behind⟩ := List.cons_subset.mp among
      cases part with
      | char c => cases here
      | placeholder name =>
          have isName := isName_of_mem_parts found
          refine .cons isName ?_ (ih behind later)
          rw [← String.toList_inj, substitute_bracketed isName, here]
          rfl

/-- A placeholder becomes a trimmed text if the values are trimmed. -/
theorem isTrimmed_filled (trimmed : ∀ value ∈ row, Text.IsTrimmed value.toList)
    (name : List Char) :
    Text.IsTrimmed ((Part.placeholder name).filled (valueIn? header row)) := by
  rw [Part.filled]
  cases found : valueIn? header row name with
  | none =>
      rw [Option.getD_none, bracketed]
      constructor
      · rintro c ⟨⟩
        decide
      · intro c last
        rw [← List.cons_append, List.getLast?_concat] at last
        cases last
        decide
  | some value =>
      obtain ⟨cell, here, rfl⟩ := Option.map_eq_some_iff.mp found
      obtain ⟨column, -, at_column⟩ := Option.bind_eq_some_iff.mp here
      exact trimmed cell (List.mem_of_getElem? at_column)

/-- A blank with nothing but vanishing parts on one side is laid bare. -/
theorem laysBare_of_split {text : String} {before after : List Part}
    (split : parts text.toList = before ++ .char c :: after) (blank : Text.isBlank c = true)
    (nothing : (∀ part ∈ before, part.filled (valueIn? header row) = []) ∨
      ∀ part ∈ after, part.filled (valueIn? header row) = []) :
    LaysBare (substitute header row) text := by
  have whole : text.toList = before.flatMap Part.text ++ c :: after.flatMap Part.text := by
    rw [← flatMap_text text.toList, split, List.flatMap_append]
    rfl
  refine ⟨_, c, _, whole, blank, nothing.imp (fun nothing => ?_) fun nothing => ?_⟩
  · have front : before ⊆ parts text.toList := by
      rw [split]
      exact List.subset_append_left _ _
    exact vanishes_of_filled front nothing
  · have back : after ⊆ parts text.toList := by
      rw [split]
      exact List.Subset.trans (List.subset_cons_self _ _) (List.subset_append_right _ _)
    exact vanishes_of_filled back nothing

/-- A blank that is laid bare is the first or the last character. -/
theorem LaysBare.not_isTrimmed {text : String} (bare : LaysBare (substitute header row) text) :
    ¬ Text.IsTrimmed (substitute header row text).toList := by
  obtain ⟨front, c, back, split, blank, vanishes⟩ := bare
  have opens : c ≠ '<' := by
    rintro rfl
    cases blank
  have closes : c ≠ '>' := by
    rintro rfl
    cases blank
  rw [toList_substitute, split]
  intro isTrimmed
  have visible : Text.isBlank c = false := by
    rcases vanishes with front_vanishes | back_vanishes
    · have first : parts (c :: back) = .char c :: parts back := by
        rw [parts, partsFrom, if_neg opens]
        rfl
      rw [front_vanishes.append_parts, List.flatMap_append, front_vanishes.filled, first]
        at isTrimmed
      exact isTrimmed.first c rfl
    · have last : parts (front ++ [c]) = parts front ++ [.char c] :=
        partsFrom_append_char opens closes none front
      rw [List.append_cons, back_vanishes.parts_append, List.flatMap_append, back_vanishes.filled,
        List.append_nil, last, List.flatMap_append] at isTrimmed
      exact isTrimmed.last c List.getLast?_concat
  rw [blank] at visible
  cases visible

/-- A blank at the edge of a text that has been filled in was laid bare there, and there is no other
reason for it. -/
theorem isTrimmed_substitute_iff (trimmed : ∀ value ∈ row, Text.IsTrimmed value.toList)
    (text : String) :
    Text.IsTrimmed (substitute header row text).toList ↔
      ¬ LaysBare (substitute header row) text := by
  constructor
  · exact fun isTrimmed bare => bare.not_isTrimmed isTrimmed
  · intro covered
    rw [toList_substitute]
    -- The character at an edge is that of the first part there that is filled with something.
    constructor
    · intro c first
      rw [List.head?_flatMap] at first
      obtain ⟨before, part, after, split, here, nothing⟩ := List.findSome?_eq_some_iff.mp first
      cases part with
      | placeholder name => exact (isTrimmed_filled trimmed name).first c here
      | char d =>
          obtain rfl : c = d := (Option.some.inj here).symm
          refine Bool.eq_false_iff.mpr fun blank => covered (laysBare_of_split split blank ?_)
          exact .inl fun part among => List.head?_eq_none_iff.mp (nothing part among)
    · intro c last
      rw [List.getLast?_flatMap] at last
      obtain ⟨after, part, before, reversed, here, nothing⟩ := List.findSome?_eq_some_iff.mp last
      have split : parts text.toList = before.reverse ++ part :: after.reverse := by
        rw [← List.reverse_reverse (parts text.toList), reversed, List.reverse_append,
          List.reverse_cons, List.append_assoc]
        rfl
      cases part with
      | placeholder name => exact (isTrimmed_filled trimmed name).last c here
      | char d =>
          obtain rfl : c = d := (Option.some.inj here).symm
          refine Bool.eq_false_iff.mpr fun blank => covered (laysBare_of_split split blank ?_)
          refine .inr fun part among => ?_
          exact List.getLast?_eq_none_iff.mp (nothing part (List.mem_reverse.mp among))

/-- Without columns nothing is put in. -/
theorem substitute_nil : substitute [] [] = id := by
  funext text
  have itself : Part.filled (valueIn? [] []) = Part.text := by
    funext part
    cases part <;> rfl
  rw [← String.toList_inj, toList_substitute, itself]
  exact flatMap_text text.toList

end Placeholder

/-! ## Cells -/

open Placeholder

namespace Table

variable {header row : List String} {cell : String}

/-- Cells that are put into a cell bring no bar along. -/
theorem barless_substitute (cells : ∀ value ∈ row, IsCell value) (isCell : IsCell cell) :
    '|' ∉ (substitute header row cell).toList := by
  have only : Text.Only (· ≠ '|') (substitute header row cell) := by
    apply only_substitute
    · exact fun value found c hc same => (cells value found).barless (same ▸ hc)
    · exact fun c hc same => isCell.barless (same ▸ hc)
  exact fun bar => only _ bar rfl

/-- A cell that is filled in from cells is one as well, unless a blank is laid bare. -/
theorem isCell_substitute_iff (cells : ∀ value ∈ row, IsCell value) (isCell : IsCell cell) :
    IsCell (substitute header row cell) ↔ ¬ LaysBare (substitute header row) cell := by
  rw [← isTrimmed_substitute_iff fun value found => (cells value found).trimmed]
  exact ⟨IsCell.trimmed, fun trimmed => ⟨trimmed, barless_substitute cells isCell⟩⟩

end Table

/-- An attached table has been read. -/
theorem Statement.isCell_of_mem {s : Statement} {row : List String} {cell : String}
    (row_of : row ∈ (s.table.getD {}).rows) (cell_of : cell ∈ row) : Table.IsCell cell := by
  rw [Statement.table] at row_of
  split at row_of
  · cases row_of
  · obtain ⟨line, -, rfl⟩ := List.mem_map.mp row_of
    exact Table.isCell_of_mem_parseRow cell_of

/-- Placeholders are filled with cells, or not at all. -/
theorem Itinerary.Fills.exists_substitute {label : Label} {script : List Statement} {line : Nat}
    {fill : String → String} (fills : Fills label script line fill) :
    ∃ header row, fill = substitute header row ∧ ∀ value ∈ row, Table.IsCell value := by
  cases fills with
  | own | background => exact ⟨[], [], substitute_nil.symm, List.forall_mem_nil _⟩
  | @row _ examples t row _ _ _ _ table below =>
      have row_of : row ∈ (examples.table.getD {}).rows := by
        rw [table]
        exact List.mem_of_mem_drop below
      exact ⟨_, row, rfl, fun value found => Statement.isCell_of_mem row_of found⟩

/-- A table that is handed over is the attached one, filled in. -/
theorem Args.table_of_mem_values {params : List Param} {groups : List String} {s : Statement}
    {fill : String → String} {context : Context} {t : Table}
    (handed : .table t ∈
      (supply params groups (s.filled fill).docString (s.filled fill).table context).values) :
    t = (s.table.getD {}).mapCells fill := by
  obtain ⟨param, -, value⟩ := List.mem_filterMap.mp handed
  cases param with
  | captures | docString | context => cases value
  | table =>
      cases value
      rw [Statement.filled]
      cases s.table <;> rfl

namespace Interpreter

variable {σ : Type} {i : Interpreter σ} {label : Label} {mode : Mode} {host : σ}
  {script : List Statement} {attempt : Attempt} {index : Nat} {args : Args} {t : Table}

/-- **Which cells a step is handed.** They are those of the table below its line, with their
placeholders filled in. None of them has a bar in it. They are trimmed unless filling them in has
laid a blank bare, and where nothing is filled in they always are. -/
theorem isCell_iff_of_called
    (called : .called attempt index args ∈ (i.runScript label mode host script).log)
    (handed : .table t ∈ args.values) :
    (∀ row ∈ t.rows, ∀ cell ∈ row, '|' ∉ cell.toList) ∧
    ∃ line s fill, Itinerary.CarriesOut label script line s fill attempt ∧
      t = (s.table.getD {}).mapCells fill ∧
      (∀ row ∈ (s.table.getD {}).rows, ∀ cell ∈ row,
        Table.IsCell cell ∧ (Table.IsCell (fill cell) ↔ ¬ LaysBare fill cell)) ∧
      (fill = id → ∀ row ∈ t.rows, ∀ cell ∈ row, Table.IsCell cell) := by
  obtain ⟨line, s, fill, carried, -, found, -, -, rfl⟩ := carriesOut_of_called called
  obtain ⟨header, values, substitutes, cells⟩ := carried.fills.exists_substitute
  rw [carried.eq_filled] at handed
  obtain rfl := Args.table_of_mem_values handed
  -- A cell of the table that is handed over has been filled in from one that was read.
  have among : ∀ row ∈ ((s.table.getD {}).mapCells fill).rows, ∀ cell ∈ row,
      ∃ own, Table.IsCell own ∧ fill own = cell := by
    intro row row_of cell cell_of
    obtain ⟨own, own_of, rfl⟩ := List.mem_map.mp row_of
    obtain ⟨own_cell, there, same⟩ := List.mem_map.mp cell_of
    exact ⟨own_cell, Statement.isCell_of_mem own_of there, same⟩
  refine ⟨?_, line, s, fill, carried, rfl, ?_, ?_⟩
  · intro row row_of cell cell_of
    obtain ⟨own, isCell, rfl⟩ := among row row_of cell cell_of
    rw [substitutes]
    exact Table.barless_substitute cells isCell
  · intro row row_of cell cell_of
    have isCell := Statement.isCell_of_mem row_of cell_of
    rw [substitutes]
    exact ⟨isCell, Table.isCell_substitute_iff cells isCell⟩
  · rintro rfl row row_of cell cell_of
    obtain ⟨own, isCell, rfl⟩ := among row row_of cell cell_of
    exact isCell

/-- An outline whose only placeholder is filled with nothing. -/
def bareText : String :=
  "Scenario Outline: o\n  Given t\n    | a <n> |\nExamples:\n  | n |\n  |  |\n"

/-- The blank in front of the placeholder is laid bare, and the step gets it. -/
theorem called_bare :
    ∃ attempt args, .called attempt 1 args ∈ (curious.runText ⟨""⟩ .blocking {} bareText).log ∧
      .table ⟨[["a "]]⟩ ∈ args.values := by
  have demanded : ((Itinerary.demands ⟨""⟩ (Script.parse .english bareText)).head?.bind
      Demand.attempt?).map (fun a => (a.text, a.statement.kind, a.table)) =
        some ("t", .step, some ⟨[["a "]]⟩) := by
    decide +kernel
  obtain ⟨attempt, asked, same⟩ := Option.map_eq_some_iff.mp demanded
  simp only [Prod.mk.injEq] at same
  obtain ⟨text, kind, table⟩ := same
  refine ⟨attempt, _, called_curious asked kind (by rw [text]; decide), ?_⟩
  rw [table]
  exact List.mem_cons_self

theorem isCell_iff_of_called_bare :
    ∃ attempt args, .called attempt 1 args ∈
        (curious.runScript ⟨""⟩ .blocking {} (Script.parse .english bareText)).log ∧
      .table ⟨[["a "]]⟩ ∈ args.values ∧
      ∃ line s fill,
        Itinerary.CarriesOut ⟨""⟩ (Script.parse .english bareText) line s fill attempt ∧
          ⟨[["a "]]⟩ = (s.table.getD {}).mapCells fill ∧
          ∀ row ∈ (s.table.getD {}).rows, ∀ cell ∈ row,
            Table.IsCell cell ∧ (Table.IsCell (fill cell) ↔ ¬ LaysBare fill cell) := by
  obtain ⟨attempt, args, called, handed⟩ := called_bare
  obtain ⟨-, line, s, fill, carried, same, cells, -⟩ := isCell_iff_of_called called handed
  exact ⟨attempt, args, called, handed, line, s, fill, carried, same, cells⟩

/-- So not all cells that steps are handed are trimmed. -/
theorem not_isCell_of_called :
    ¬ ∀ (i : Interpreter Tally) (label : Label) (mode : Mode) (host : Tally) (text : String)
      (attempt : Attempt) (index : Nat) (args : Args) (t : Table),
      .called attempt index args ∈ (i.runText label mode host text).log →
        .table t ∈ args.values → ∀ row ∈ t.rows, ∀ cell ∈ row, Table.IsCell cell := by
  intro always
  obtain ⟨attempt, args, called, handed⟩ := called_bare
  have isCell := always curious ⟨""⟩ .blocking {} bareText attempt 1 args _ called handed ["a "]
    List.mem_cons_self "a " List.mem_cons_self
  revert isCell
  decide

end Interpreter

end Storyline

import Mathlib.Data.List.Basic
import Storyline.Proofs.Milestones

/-!
# Itineraries

The itinerary of a script says which lines are visited, and what is to be carried out at
each of them. It is laid out line by line: behind each line in file order stands what the
line inserts. The header of a scenario inserts the background in force; the header of
examples inserts the outline in force, once for each row, with the placeholders filled from
that row; an executable line in a scenario inserts itself. A line that the label does not
let through inserts nothing.

There is no cursor in this, and nothing to come back to. `Walk.milestones_cues` says that
the walk makes its way along the itinerary.
-/

namespace Storyline

/-- The texts of a statement filled in: its body, its doc-string and the cells of its
table. -/
def Statement.filled (s : Statement) (fill : String → String) : Attempt where
  statement := s
  text := fill s.body
  docString := s.docString.map fill
  table := s.table.map (·.mapCells fill)

/-- How placeholders are filled for each row below the first one of the attached table. The
names are the cells of the first row. -/
def Statement.fills (s : Statement) : List (String → String) :=
  match s.table with
  | none => []
  | some t => t.body.map fun row => Placeholder.substitute (t.header.getD []) row

namespace Itinerary

variable (label : Label) (script : List Statement)

/-- What is carried out for a line. -/
def executions (fill : String → String) (s : Statement) : List Execution :=
  if s.kind.isExecutable then [.of (s.filled fill)] else []

/-- The lines with these indices are visited, and each is carried out. -/
def recital (fill : String → String) (indices : List Nat) : List Milestone :=
  indices.flatMap fun index =>
    .visit index :: (script[index]?.toList.flatMap (executions fill)).map .execution

/-- What a line inserts behind its own visit. -/
def inserted (index : Nat) : List Milestone :=
  match script[index]? with
  | none => []
  | some s =>
      if Layout.eligible script label index then
        match s.kind with
        | .scenario => recital script id (Layout.indices script .background index)
        | .examples =>
            s.fills.flatMap fun fill =>
              recital script fill (Layout.indices script .outline index)
        | _ =>
            if Layout.block script index = .scenario then (executions id s).map .execution
            else []
      else []

/-- The milestones of a script. -/
def milestones : List Milestone :=
  (List.range script.length).flatMap fun index => .visit index :: inserted label script index

end Itinerary

/-! ## The walk goes along the itinerary -/

namespace Statement

theorem table_of_tableLines_nil {s : Statement} (h : s.tableLines = []) : s.table = none := by
  simp [table, h]

theorem table_of_tableLines_cons {s : Statement} {first : Line} {rest : List Line}
    (h : s.tableLines = first :: rest) :
    s.table = some (Table.parse ((first :: rest).map (·.text))) := by
  simp [table, h]

/-- The rows that examples are replayed for fill placeholders as their table says. -/
theorem map_fill_ofExamples (s : Statement) : (Rows.ofExamples s).map Rows.fill = s.fills := by
  cases h : s.tableLines with
  | nil => simp [Rows.ofExamples, Rows.ofStatement?, fills, h, table_of_tableLines_nil h]
  | cons first rest =>
      simp only [Rows.ofExamples, Rows.ofStatement?, h, fills, table_of_tableLines_cons h,
        Option.map_some, Option.getD_some, Rows.later, Rows.below, Table.body, Table.header,
        Table.rows_parse, List.map_map, List.map_cons, List.head?_cons, List.drop_succ_cons,
        List.drop_zero, List.length_cons, Nat.zero_add, Nat.add_sub_cancel]
      apply List.ext_getElem
      · simp
      · intro i hi hi'
        have inside : i < rest.length := by simpa using hi'
        funext text
        simp [Rows.fill, Rows.names, Rows.cells, Rows.line?, List.getElem_range',
          Nat.add_comm 1 i, inside]

end Statement

namespace Cursor

variable {c : Cursor} {s : Statement} {script : List Statement}

theorem fill_of_no_rows (h : c.rows = none) : c.fill = id := by
  funext text
  simp [fill, h]

theorem fill_of_rows {rows : Rows} (h : c.rows = some rows) : c.fill = rows.fill := by
  funext text
  simp [fill, h]

/-- An executable line is carried out in a scenario and for a row of examples. -/
theorem milestones_execute (c : Cursor) (s : Statement) :
    (c.execute s).filterMap Cue.milestone? =
      if c.block = .scenario ∨ c.block = .examples then
        [.execution (.of (s.filled c.fill))]
      else [] := by
  rw [execute]
  split
  · have texts := Cue.milestones_of_silent
      (silent_writes (fun line => c.fill line.text) .plain s.extras)
    rw [List.cons_append, List.filterMap_cons_none rfl, List.filterMap_append, texts]
    rfl
  · rw [List.filterMap_cons_none rfl, Cue.milestones_of_silent (silent_extras s .dim)]

/-- The milestones of a recital. -/
theorem milestones_recite (h : c.block = .scenario ∨ c.block = .examples) (indices : List Nat) :
    (c.recite script indices).filterMap Cue.milestone? =
      Itinerary.recital script c.fill indices := by
  simp only [recite, Itinerary.recital, List.filterMap_flatMap]
  congr 1
  funext index
  cases hs : script[index]? with
  | none => rfl
  | some s =>
      by_cases hexec : s.kind.isExecutable = true
      · simp [hexec, Itinerary.executions, milestones_execute, h]
      · simp [hexec, Itinerary.executions]

/-- Reading a line carries out the line itself, if it is executable, and no other one. -/
theorem milestones_read (c : Cursor) (s : Statement) :
    (c.read s).1.filterMap Cue.milestone? =
      if s.kind.isExecutable then (c.execute s).filterMap Cue.milestone? else [] := by
  split
  · rename_i hs
    rw [read_executable c hs]
  · rename_i hs
    exact Cue.milestones_of_silent (silent_read c s (Bool.eq_false_iff.mpr hs))

/-- The replays of an outline recite it for each row in turn. -/
theorem milestones_replays_examples (hk : s.kind = .examples) (hblock : c.block = .examples) :
    (c.replays script s).filterMap Cue.milestone? =
      s.fills.flatMap fun fill => Itinerary.recital script fill c.outline.indices := by
  have turn (rows : Rows) :
      ({ c with rows := some rows }.recite script c.outline.indices).filterMap Cue.milestone? =
        Itinerary.recital script rows.fill c.outline.indices := by
    have fill_eq : { c with rows := some rows }.fill = rows.fill := fill_of_rows rfl
    have block : { c with rows := some rows }.block = .scenario ∨
        { c with rows := some rows }.block = .examples := .inr hblock
    rw [← fill_eq]
    exact milestones_recite block c.outline.indices
  simp only [replays, hk]
  rw [← Statement.map_fill_ofExamples, List.flatMap_map]
  by_cases hempty : c.outline.length = 0
  · simp [hempty, Range.indices, Itinerary.recital]
  · rw [if_neg hempty]
    cases Rows.ofExamples s with
    | nil => rfl
    | cons first later =>
        simp only [List.filterMap_append, List.filterMap_flatMap, turn,
          Cue.milestones_of_silent (silent_announce _), List.nil_append, List.flatMap_cons]

end Cursor

namespace Layout

variable {script : List Statement}

theorem indices_range (script : List Statement) (block : Recorded) (bound : Nat) :
    (range script block bound).indices = indices script block bound := by
  cases h : inForce? script block bound <;> simp [range, indices, Range.indices, h]

theorem block_ne_examples (script : List Statement) (bound : Nat) :
    block script bound ≠ .examples := by
  rw [block]
  split <;> decide

end Layout

namespace Walk

open Cursor

variable {script : List Statement} {index : Nat} {s : Statement}

theorem fill_entered (hs : script[index]? = some s) : (entered script index s).fill = id :=
  fill_of_no_rows (entered_rows hs)

theorem block_entered_executable (hs : script[index]? = some s)
    (hexec : s.kind.isExecutable = true) :
    (entered script index s).block = Layout.block script index := by
  rw [entered, scope_executable hexec, closeBefore_block, standing_block (index_le hs)]

/-- In the visit of a line outside of replays the line itself is carried out, if it is
executable, in a scenario, and let through. -/
theorem milestones_visit (label : Label) (hs : script[index]? = some s) :
    ((standing script index).visit label s).1.filterMap Cue.milestone? =
      .visit index ::
        if Layout.eligible script label index = true ∧ Layout.block script index = .scenario then
          (Itinerary.executions id s).map .execution
        else [] := by
  rw [visit_standing hs, look_standing, ← entered_admitted hs]
  simp only [List.cons_append, List.filterMap_cons, Cue.milestone?_visit, List.filterMap_append,
    Cue.milestones_of_silent (silent_closeBefore _ s), List.nil_append]
  congr 1
  by_cases hexec : s.kind.isExecutable = true
  · have no_tag : s.kind ≠ .tag := by
      rintro hk
      rw [hk] at hexec
      cases hexec
    have executions_eq : Itinerary.executions id s = [.of (s.filled id)] := if_pos hexec
    rw [if_neg no_tag, executions_eq]
    by_cases hadmitted : (entered script index s).admitted label = true
    · rw [if_pos hadmitted, milestones_read, if_pos hexec, milestones_execute,
        block_entered_executable hs hexec, fill_entered hs]
      simp [hadmitted, Layout.block_ne_examples]
    · simp [hadmitted]
  · have no_executions : Itinerary.executions id s = [] := if_neg hexec
    rw [no_executions]
    simp only [List.map_nil, ite_self]
    split
    · rfl
    split
    · rw [milestones_read, if_neg hexec]
    · rfl

/-- The milestones of a round: the line, and what it inserts. -/
theorem milestones_round (label : Label) (hs : script[index]? = some s) :
    (round label script index).filterMap Cue.milestone? =
      .visit index :: Itinerary.inserted label script index := by
  rw [round_eq hs, List.filterMap_append, milestones_visit label hs, entered_admitted hs]
  simp only [Itinerary.inserted, hs, List.cons_append]
  congr 1
  by_cases hadmitted : Layout.eligible script label index = true
  · simp only [hadmitted, if_true, true_and]
    cases hk : s.kind with
    | scenario =>
        have block : (entered script index s).block = .scenario := by
          simp [entered, scope_block, hk]
        have background := (entered_of_replaying hs (.inl hk)).2 .background
        have no_executions : Itinerary.executions id s = [] := by
          simp [Itinerary.executions, hk, Keyword.isExecutable]
        simp only [replays, hk]
        rw [milestones_recite (.inl block), fill_entered hs, no_executions,
          ← Layout.indices_range script .background, ← background]
        simp
        rfl
    | examples =>
        have block : (entered script index s).block = .examples := by
          simp [entered, scope_block, hk]
        have outline := (entered_of_replaying hs (.inr hk)).2 .outline
        have no_executions : Itinerary.executions id s = [] := by
          simp [Itinerary.executions, hk, Keyword.isExecutable]
        rw [milestones_replays_examples hk block, no_executions,
          ← Layout.indices_range script .outline, ← outline]
        simp
        rfl
    | feature | rule | step | background | scenarioOutline | docString | dataTable | tag
    | comments | ask | unknown => simp [replays, hk]
  · simp [hadmitted]

/-- The walk goes along the itinerary. -/
theorem milestones_cues (label : Label) (script : List Statement) :
    (cues label script).filterMap Cue.milestone? = Itinerary.milestones label script := by
  rw [cues_eq_rounds, List.filterMap_append, Cue.milestones_of_silent (silent_close _),
    List.append_nil,
    List.filterMap_flatMap, Itinerary.milestones]
  apply List.flatMap_congr
  intro index hindex
  exact milestones_round label
    (List.getElem?_eq_getElem (List.mem_range.mp hindex))

end Walk

end Storyline

import Storyline.Proofs.Sessions

/-!
# The sections of a run

A run falls into sections, one below each header: from the visit of the header to the visit
of the next one. Replays stay within their section, since they visit no headers. So what is
carried out in a section can be read off the header (`Itinerary.executionsBelow`): the
background in force and then the lines below a scenario, the outline in force for each row of
examples, and nothing below any other header.
-/

namespace Storyline

variable {σ : Type}

/-- Whether the header of a block is visited. -/
def Milestone.isHeader (script : List Statement) : Milestone → Bool
  | visit index => (script[index]?.map (·.isHeader)).getD false
  | execution _ => false

/-- Whether the header of a block is visited. -/
def Event.isHeader (script : List Statement) : Event → Bool
  | visited index => (script[index]?.map (·.isHeader)).getD false
  | _ => false

/-- The texts of a statement as they are written. -/
def Statement.asWritten (s : Statement) : Attempt where
  statement := s
  text := s.body
  docString := s.docString
  table := s.table

/-- What a run does below a header: behind the visit of the header, up to the visit of the
next one. -/
def Log.below (script : List Statement) (header : Nat) (log : Log) : Log :=
  ((log.dropWhile (· ≠ .visited header)).drop 1).takeWhile fun event => !event.isHeader script

namespace Itinerary

variable (label : Label) (script : List Statement)

/-- The milestones below a header. -/
def below (header : Nat) (milestones : List Milestone) : List Milestone :=
  ((milestones.dropWhile (· ≠ .visit header)).drop 1).takeWhile fun m => !m.isHeader script

/-- The milestones of consecutive lines, and what they insert. -/
def rounds (start n : Nat) : List Milestone :=
  (List.range' start n).flatMap fun index => .visit index :: inserted label script index

/-- What is carried out below a header. -/
def executionsBelow (header : Nat) (s : Statement) : List Execution :=
  if Layout.eligible script label header then
    match s.kind with
    | .scenario =>
        (Layout.lines script .background header).flatMap (executions id) ++
          (Layout.linesBelow script header).flatMap (executions id)
    | .examples =>
        s.fills.flatMap fun fill =>
          (Layout.lines script .outline header).flatMap (executions fill)
    | _ => []
  else []

end Itinerary

/-! ## Sections of logs and of milestones -/

namespace Log

theorem milestones_drop_visit (header : Nat) (log : Log) :
    milestones ((log.dropWhile (· ≠ .visited header)).drop 1) =
      (milestones (log.dropWhile (· ≠ .visited header))).drop 1 := by
  cases hrest : log.dropWhile (· ≠ .visited header) with
  | nil => rfl
  | cons event rest =>
      -- Everything in front of the visit has been dropped, so the visit comes first.
      have first : event = .visited header := by
        have head := List.head?_dropWhile_not (· ≠ Event.visited header) log
        rw [hrest] at head
        simpa using head
      rw [first]
      rfl

/-- The milestones of a section are a section of the milestones. -/
theorem milestones_below (script : List Statement) (header : Nat) (log : Log) :
    (log.below script header).milestones = Itinerary.below script header log.milestones := by
  have same_visit (event : Event) :
      decide (event ≠ .visited header) =
        event.milestone?.all fun m => decide (m ≠ .visit header) := by
    cases event <;> simp [Event.milestone?]
  have same_header (event : Event) :
      (!event.isHeader script) = event.milestone?.all fun m => !m.isHeader script := by
    cases event <;> rfl
  rw [below, Itinerary.below, milestones, funext same_header, ← List.takeWhile_filterMap]
  congr 1
  rw [milestones, List.dropWhile_filterMap, ← funext same_visit]
  exact milestones_drop_visit header log

end Log

namespace Itinerary

variable {label : Label} {script : List Statement} {header index : Nat} {s : Statement}

theorem executions_recital (fill : String → String) (indices : List Nat) :
    (recital script fill indices).filterMap Milestone.execution? =
      indices.flatMap fun index => script[index]?.toList.flatMap (executions fill) := by
  rw [recital, List.filterMap_flatMap]
  congr 1
  funext index
  rw [List.filterMap_cons_none rfl, Milestone.filterMap_execution?_executions]

/-- The recital of a recorded block visits no header. -/
theorem isHeader_recital {fill : String → String} {block : Recorded} {bound : Nat} :
    ∀ m ∈ recital script fill (Layout.indices script block bound), m.isHeader script = false := by
  intro m hm
  obtain ⟨index, hindex, hm⟩ := List.mem_flatMap.mp hm
  rcases List.mem_cons.mp hm with rfl | hm
  · obtain ⟨t, ht, no_header⟩ := Layout.isHeader_of_mem_indices hindex
    rw [Milestone.isHeader, ht]
    exact no_header
  · obtain ⟨e, -, rfl⟩ := List.mem_map.mp hm
    rfl

/-- What a line inserts stays within the section of the line. -/
theorem isHeader_inserted (label : Label) (script : List Statement) (index : Nat) :
    ∀ m ∈ inserted label script index, m.isHeader script = false := by
  intro m hm
  rw [inserted] at hm
  split at hm
  · cases hm
  split at hm
  swap
  · cases hm
  split at hm
  · exact isHeader_recital m hm
  · obtain ⟨fill, -, hm⟩ := List.mem_flatMap.mp hm
    exact isHeader_recital m hm
  · split at hm
    · obtain ⟨e, -, rfl⟩ := List.mem_map.mp hm
      rfl
    · cases hm

/-- What is carried out in the round of a line that is no header. -/
theorem executions_inserted_of_no_header (hs : script[index]? = some s)
    (no_header : s.isHeader = false) :
    (inserted label script index).filterMap Milestone.execution? =
      if Layout.eligible script label index = true ∧ Layout.block script index = .scenario then
        executions id s
      else [] := by
  have isHeader : s.isHeader = s.kind.isHeader := rfl
  rw [isHeader] at no_header
  simp only [inserted, hs]
  by_cases heligible : Layout.eligible script label index = true
  swap
  · simp [heligible]
  simp only [heligible, if_true, true_and]
  have carried : (if Layout.block script index = .scenario then
      (executions id s).map Milestone.execution else []).filterMap Milestone.execution? =
        if Layout.block script index = .scenario then executions id s else [] := by
    split
    · exact Milestone.filterMap_execution?_executions _
    · rfl
  cases hk : s.kind with
  | feature | rule | background | scenario | scenarioOutline | examples =>
      rw [hk] at no_header
      cases no_header
  | step | docString | dataTable | tag | comments | ask | unknown => exact carried

theorem milestones_eq_rounds (label : Label) (script : List Statement) :
    milestones label script = rounds label script 0 script.length := by
  rw [milestones, rounds, List.range_eq_range']

theorem rounds_succ (label : Label) (script : List Statement) (start n : Nat) :
    rounds label script start (n + 1) =
      .visit start :: (inserted label script start ++ rounds label script (start + 1) n) := by
  rw [rounds, List.range'_succ, List.flatMap_cons, List.cons_append, rounds]

theorem rounds_append (label : Label) (script : List Statement) (start m n : Nat) :
    rounds label script start (m + n) =
      rounds label script start m ++ rounds label script (start + m) n := by
  rw [rounds, ← List.range'_append_1, List.flatMap_append, rounds, rounds]

/-- The rounds above a header visit it nowhere. -/
theorem ne_visit_of_mem_rounds (label : Label) (hs : script[header]? = some s)
    (isHeader : s.isHeader = true) : ∀ m ∈ rounds label script 0 header, m ≠ .visit header := by
  rintro m hm rfl
  obtain ⟨index, hindex, hm⟩ := List.mem_flatMap.mp hm
  obtain ⟨k, hk, rfl⟩ := List.mem_range'.mp hindex
  rcases List.mem_cons.mp hm with hvisit | hm
  · injection hvisit with same
    omega
  · have no_header := isHeader_inserted label script _ _ hm
    rw [Milestone.isHeader, hs] at no_header
    rw [Option.map_some, Option.getD_some, isHeader] at no_header
    cases no_header

/-- The rounds of the lines below a header visit no header. -/
theorem isHeader_rounds_below (label : Label) (script : List Statement) (header : Nat) :
    ∀ m ∈ rounds label script (header + 1) (Layout.linesBelow script header).length,
      m.isHeader script = false := by
  intro m hm
  obtain ⟨index, hindex, hm⟩ := List.mem_flatMap.mp hm
  obtain ⟨k, hk, rfl⟩ := List.mem_range'.mp hindex
  rcases List.mem_cons.mp hm with rfl | hm
  · obtain ⟨ht, no_header⟩ := Layout.getElem?_linesBelow hk
    rw [Nat.one_mul, Milestone.isHeader, ht]
    exact no_header
  · exact isHeader_inserted label script _ m hm

/-- Behind the section of a header comes the next header, or nothing. -/
theorem takeWhile_rounds_next (n : Nat)
    (hn : header + 1 + (Layout.linesBelow script header).length + n = script.length) :
    (rounds label script (header + 1 + (Layout.linesBelow script header).length) n).takeWhile
      (fun m => !m.isHeader script) = [] := by
  cases n with
  | zero => rfl
  | succ n =>
      have hs := List.getElem?_eq_getElem (l := script)
        (i := header + 1 + (Layout.linesBelow script header).length) (by omega)
      rw [rounds_succ, List.takeWhile_cons_of_neg]
      rw [Milestone.isHeader, hs, Option.map_some, Option.getD_some, Layout.isHeader_next hs]
      decide

/-- The section of a header: what the header inserts, and the rounds of the lines below it. -/
theorem below_milestones (label : Label) (hs : script[header]? = some s)
    (isHeader : s.isHeader = true) :
    below script header (milestones label script) =
      inserted label script header ++
        rounds label script (header + 1) (Layout.linesBelow script header).length := by
  have inside := (List.getElem?_eq_some_iff.mp hs).1
  have short : (Layout.linesBelow script header).length ≤ script.length - (header + 1) := by
    rw [← List.length_drop]
    exact (Layout.linesBelow_upto script header).length_le
  obtain ⟨n, hn⟩ := Nat.exists_eq_add_of_le short
  have split : milestones label script =
      rounds label script 0 header ++ .visit header :: (inserted label script header ++
        (rounds label script (header + 1) (Layout.linesBelow script header).length ++
          rounds label script (header + 1 + (Layout.linesBelow script header).length) n)) := by
    have size : script.length =
        header + ((Layout.linesBelow script header).length + n + 1) := by omega
    rw [milestones_eq_rounds, size, rounds_append, Nat.zero_add, rounds_succ, rounds_append]
  have above := ne_visit_of_mem_rounds label hs isHeader
  have inserted_below := isHeader_inserted label script header
  have rounds_below := isHeader_rounds_below label script header
  rw [below, split, List.dropWhile_append_of_pos (by simpa using above),
    List.dropWhile_cons_of_neg (by simp), List.drop_one, List.tail_cons,
    List.takeWhile_append_of_pos (by simpa using inserted_below),
    List.takeWhile_append_of_pos (by simpa using rounds_below),
    takeWhile_rounds_next n (by omega), List.append_nil]

/-- What is carried out in the rounds of the lines below a header. -/
theorem executions_rounds_below (label : Label) (script : List Statement) (header : Nat) :
    (rounds label script (header + 1) (Layout.linesBelow script header).length).filterMap
        Milestone.execution? =
      if Layout.eligible script label header = true ∧
          Layout.block script (header + 1) = .scenario then
        (Layout.linesBelow script header).flatMap (executions id)
      else [] := by
  have round (index : Nat)
      (hindex : index ∈ List.range' (header + 1) (Layout.linesBelow script header).length) :
      (Milestone.visit index :: inserted label script index).filterMap Milestone.execution? =
        script[index]?.toList.flatMap fun s =>
          if Layout.eligible script label header = true ∧
              Layout.block script (header + 1) = .scenario then executions id s else [] := by
    obtain ⟨k, hk, rfl⟩ := List.mem_range'.mp hindex
    rw [Nat.one_mul]
    obtain ⟨hs, no_header⟩ := Layout.getElem?_linesBelow hk
    obtain ⟨same_block, -⟩ := Layout.inForce_below script header (Nat.le_of_lt hk)
    obtain ⟨-, same_tags⟩ := Layout.inForce_below script header (Nat.succ_le_of_lt hk)
    have same_eligible : Layout.eligible script label (header + 1 + k) =
        Layout.eligible script label header := by
      rw [Layout.eligible, Layout.eligible, ← same_tags]
      rfl
    rw [List.filterMap_cons_none rfl, executions_inserted_of_no_header hs no_header, hs,
      same_block, same_eligible]
    simp
  rw [rounds, List.filterMap_flatMap, List.flatMap_congr round,
    Layout.flatMap_range' (Layout.linesBelow_upto script header)]
  split
  · rfl
  · simp

/-- What is carried out in the section of a header. -/
theorem executions_below (label : Label) (hs : script[header]? = some s)
    (isHeader : s.isHeader = true) :
    (below script header (milestones label script)).filterMap Milestone.execution? =
      executionsBelow label script header s := by
  rw [below_milestones label hs isHeader, List.filterMap_append, executions_rounds_below,
    Layout.block_succ hs, executionsBelow]
  simp only [inserted, hs]
  by_cases heligible : Layout.eligible script label header = true
  swap
  · simp [heligible]
  have isHeader' : s.kind.isHeader = true := isHeader
  simp only [heligible, if_true, true_and]
  cases hk : s.kind with
  | scenario => simp [executions_recital, Layout.flatMap_indices]
  | examples =>
      simp [List.filterMap_flatMap, executions_recital, Layout.flatMap_indices]
  | feature | rule | background | scenarioOutline =>
      have no_executions : executions id s = [] := if_neg (by simp [hk, Keyword.isExecutable])
      simp [no_executions]
  | step | docString | dataTable | tag | comments | ask | unknown =>
      rw [hk] at isHeader'
      cases isHeader'

end Itinerary

/-! ## What a run carries out below a header -/

namespace Itinerary

theorem filled_id (s : Statement) : s.filled id = s.asWritten := by
  have cells (t : Table) : t.mapCells id = t := by simp [Table.mapCells]
  rw [Statement.filled, Statement.asWritten, Option.map_id, funext cells]
  exact congrArg _ Option.map_id'

/-- The executable ones of some lines, in their order. -/
theorem flatMap_executions (fill : String → String) (lines : List Statement) :
    lines.flatMap (executions fill) =
      (lines.filter (·.kind.isExecutable)).map fun s => .of (s.filled fill) := by
  induction lines with
  | nil => rfl
  | cons s lines ih =>
      by_cases hs : s.kind.isExecutable = true
      · simp [executions, hs, ih]
      · simp [executions, hs, ih]

end Itinerary

namespace Interpreter

variable (i : Interpreter σ) (label : Label) (mode : Mode) (host : σ) (text : String)

/-- What a run of a text carries out below a header. -/
def executionsBelow (header : Nat) : List Execution :=
  ((i.runText label mode host text).log.below (i.script text) header).executions

variable {i label mode host text} {header : Nat} {s : Statement}

/-- What a run without a fault carries out below a header. -/
theorem executionsBelow_eq (finished : (i.runText label mode host text).finished = true)
    (unfailed : (i.runText label mode host text).log.isFailed = false)
    (hs : (i.script text)[header]? = some s) (isHeader : s.isHeader = true) :
    i.executionsBelow label mode host text header =
      Itinerary.executionsBelow label (i.script text) header s := by
  have passed := i.milestones_runCues label mode host (i.plain_cues label text) finished unfailed
  rw [executionsBelow, Log.executions, Log.milestones_below,
    ← Itinerary.executions_below label hs isHeader, ← i.milestones_cues, ← passed]
  rfl

/-- What a run without a fault carries out below the header of examples. -/
theorem executionsBelow_examples (finished : (i.runText label mode host text).finished = true)
    (unfailed : (i.runText label mode host text).log.isFailed = false)
    (hs : (i.script text)[header]? = some s) (hk : s.kind = .examples)
    (eligible : Layout.eligible (i.script text) label header = true)
    {names : List String} {rows : List (List String)} (htable : s.table = some ⟨names :: rows⟩) :
    i.executionsBelow label mode host text header =
      rows.flatMap fun row =>
        ((Layout.lines (i.script text) .outline header).filter (·.kind.isExecutable)).map
          fun line => .of
            { statement := line
              text := Placeholder.substitute names row line.body
              docString := line.docString.map (Placeholder.substitute names row)
              table := line.table.map fun t =>
                { rows := t.rows.map fun cells =>
                    cells.map (Placeholder.substitute names row) } } := by
  have isHeader : s.isHeader = true := by
    rw [Line.isHeader, hk]
    rfl
  rw [executionsBelow_eq finished unfailed hs isHeader, Itinerary.executionsBelow,
    if_pos eligible, hk]
  simp only [Statement.fills, htable, Itinerary.flatMap_executions, List.flatMap_map]
  rfl

variable (i label mode host text)

/-- In a run without a fault, examples carry out the outline in force: for each data row of
their table in turn, its executable lines with the placeholders filled from that row, in the body,
in the doc-string and in each cell of the table. Nothing else is carried out below the header of
examples, and nothing below the header of an outline. All examples below an outline replay that
same outline. -/
theorem examples_replay_outline (finished : (i.runText label mode host text).finished = true)
    (unfailed : (i.runText label mode host text).log.isFailed = false) :
    (∀ header s names rows, (i.script text)[header]? = some s → s.kind = .examples →
        Layout.eligible (i.script text) label header = true →
        s.table = some ⟨names :: rows⟩ →
        i.executionsBelow label mode host text header =
            (rows.flatMap fun row =>
              ((Layout.lines (i.script text) .outline header).filter (·.kind.isExecutable)).map
                fun line => .of
                  { statement := line
                    text := Placeholder.substitute names row line.body
                    docString := line.docString.map (Placeholder.substitute names row)
                    table := line.table.map fun t =>
                      { rows := t.rows.map fun cells =>
                          cells.map (Placeholder.substitute names row) } }) ∧
          (i.executionsBelow label mode host text header).length =
            rows.length *
              (Layout.lines (i.script text) .outline header).countP (·.kind.isExecutable)) ∧
      (∀ header s, (i.script text)[header]? = some s → s.kind = .scenarioOutline →
        i.executionsBelow label mode host text header = []) ∧
      ∀ header n, (∀ k t, k < n → (i.script text)[header + k]? = some t →
          t.kind ≠ .scenarioOutline ∧ Layout.resets t = false) →
        Layout.lines (i.script text) .outline (header + n) =
          Layout.lines (i.script text) .outline header := by
  refine ⟨?_, ?_, ?_⟩
  · intro header s names rows hs hk eligible htable
    have carried := executionsBelow_examples finished unfailed hs hk eligible htable
    refine ⟨carried, ?_⟩
    rw [carried, List.length_flatMap]
    simp [List.countP_eq_length_filter]
  · intro header s hs hk
    have isHeader : s.isHeader = true := by
      rw [Line.isHeader, hk]
      rfl
    rw [executionsBelow_eq finished unfailed hs isHeader, Itinerary.executionsBelow, hk]
    exact ite_self []
  · intro header n between
    exact Layout.lines_of_between .outline between

/-- An interpreter whose prompt confirms every check. -/
def confirming : Interpreter Unit where
  cast := { prompt := some { ask := fun _ host => ({ confirmed := true }, host) } }

/-- An outline of two checks with two rows of examples. The second check has a table and a
doc-string. -/
def outlineText : String :=
  "Scenario Outline:\nAsk <a>?\nAsk <b>?\n|<a>|x <a>|\n\"\"\"\n<a>!\n\"\"\"\n" ++
    "Examples:\n|a|\n|1|\n|2|\n"

theorem examples_replay_outline_twice :
    (confirming.runText ⟨""⟩ .blocking () outlineText).finished = true ∧
      (confirming.runText ⟨""⟩ .blocking () outlineText).log.isFailed = false ∧
      (confirming.executionsBelow ⟨""⟩ .blocking () outlineText 3).map
          (fun e => (e.attempt.text, e.attempt.table, e.attempt.docString)) =
        [("1?", none, none), ("<b>?", some ⟨[["1", "x 1"]]⟩, some "1!"),
          ("2?", none, none), ("<b>?", some ⟨[["2", "x 2"]]⟩, some "2!")] := by
  have finished : (confirming.runText ⟨""⟩ .blocking () outlineText).finished = true := rfl
  have unfailed : (confirming.runText ⟨""⟩ .blocking () outlineText).log.isFailed = false := by
    rw [runText, cues, Walk.cues_eq_rounds]
    decide +kernel
  have header : ((confirming.script outlineText)[3]?.map fun s => (s.kind, s.table)) =
      some (.examples, some ⟨[["a"], ["1"], ["2"]]⟩) := by decide +kernel
  obtain ⟨s, hs, same⟩ := Option.map_eq_some_iff.mp header
  obtain ⟨hk, htable⟩ := Prod.mk.inj same
  have eligible : Layout.eligible (confirming.script outlineText) ⟨""⟩ 3 = true := by
    decide +kernel
  obtain ⟨carried, -⟩ :=
    (examples_replay_outline confirming ⟨""⟩ .blocking () outlineText finished unfailed).1
      3 s ["a"] [["1"], ["2"]] hs hk eligible htable
  refine ⟨finished, unfailed, ?_⟩
  rw [carried]
  decide +kernel

/-- In a run without a fault, a scenario that the label lets through carries out the
background in force and then its own lines, as they are written. Nothing is carried out below
any other header but that of examples. -/
theorem scenario_carries_out (finished : (i.runText label mode host text).finished = true)
    (unfailed : (i.runText label mode host text).log.isFailed = false) :
    ∀ header s, (i.script text)[header]? = some s → s.isHeader = true → s.kind ≠ .examples →
      i.executionsBelow label mode host text header =
        if s.kind = .scenario ∧ Layout.eligible (i.script text) label header = true then
          ((Layout.lines (i.script text) .background header ++
              Layout.linesBelow (i.script text) header).filter (·.kind.isExecutable)).map
            fun line => .of line.asWritten
        else [] := by
  intro header s hs isHeader no_examples
  rw [executionsBelow_eq finished unfailed hs isHeader, Itinerary.executionsBelow]
  by_cases eligible : Layout.eligible (i.script text) label header = true
  swap
  · rw [if_neg eligible, if_neg fun h => eligible h.2]
  rw [if_pos eligible]
  cases hk : s.kind with
  | scenario =>
      simp only [eligible, and_self, if_true, Itinerary.flatMap_executions,
        Itinerary.filled_id, List.filter_append, List.map_append]
  | examples => exact absurd hk no_examples
  | feature | rule | background | scenarioOutline | step | docString | dataTable | tag
  | comments | ask | unknown => rfl

/-- A scenario with a background of one check. -/
def backgroundText : String := "Background:\nAsk a\nScenario:\nAsk b\n"

theorem scenario_carries_out_background :
    (confirming.runText ⟨""⟩ .blocking () backgroundText).finished = true ∧
      (confirming.runText ⟨""⟩ .blocking () backgroundText).log.isFailed = false ∧
      (confirming.executionsBelow ⟨""⟩ .blocking () backgroundText 2).map (·.attempt.text) =
        ["a", "b"] := by
  have finished : (confirming.runText ⟨""⟩ .blocking () backgroundText).finished = true := rfl
  have unfailed :
      (confirming.runText ⟨""⟩ .blocking () backgroundText).log.isFailed = false := by
    rw [runText, cues, Walk.cues_eq_rounds]
    decide +kernel
  have header : (confirming.script backgroundText)[2]?.map (·.kind) = some .scenario := by
    decide +kernel
  obtain ⟨s, hs, hk⟩ := Option.map_eq_some_iff.mp header
  have isHeader : s.isHeader = true := by
    rw [Line.isHeader, hk]
    rfl
  have no_examples : s.kind ≠ .examples := by
    rw [hk]
    decide
  have eligible : Layout.eligible (confirming.script backgroundText) ⟨""⟩ 2 = true := by
    decide +kernel
  have carried := scenario_carries_out confirming ⟨""⟩ .blocking () backgroundText finished
    unfailed 2 s hs isHeader no_examples
  refine ⟨finished, unfailed, ?_⟩
  rw [carried, if_pos ⟨hk, eligible⟩]
  decide +kernel

end Interpreter

end Storyline

import Storyline.Proofs.Attachments
import Storyline.Proofs.Belonging

/-!
# Table lines and open doc-strings

Two passes decide whether a doc-string is open at an attached line. The gatherer knows it when it
takes the line (`Script.heldAt`); a statement finds it out again from the delimiters attached to it.
The two agree on all statements but one kind (`Script.tableLines_parse`): a doc-string with no
statement to belong to is a statement of its own, so its opening delimiter is not attached to it.
All lines attached to it are inside, but the statement counts them as outside, and table lines
among them are taken for a table.
-/

namespace Storyline

/-- Whether a doc-string is open. -/
def Hold.isInside : Hold → Bool
  | inside _ => true
  | nothing | openTo _ => false

namespace Script

/-- What the gatherer holds when it comes to the line with this index. -/
def heldAt (lines : List Line) (index : Nat) : Hold := (Hold.nothing.takeAll (lines.take index)).2

/-- The attached table lines of the statement with index `n` that the gatherer took while no
doc-string was open. -/
def takenOutside (lines : List Line) (n : Nat) (s : Statement) : List Line :=
  (List.range s.extras.length).filterMap fun k =>
    s.extras[k]?.filter fun line => line.kind = .dataTable &&
      !(heldAt lines (place (gather .nothing lines) n + (k + 1))).isInside

variable {lines : List Line} {n k : Nat} {s : Statement} {above below : List Statement}

theorem isInside_heldAt (lines : List Line) (index : Nat) :
    (heldAt lines index).isInside = true ↔ IsInside (lines.take index) := by
  have upholds := Hold.upholds_nil.takeAll (lines.take index)
  rw [List.nil_append, List.nil_append] at upholds
  rw [← upholds.inside, heldAt]
  cases (Hold.nothing.takeAll (lines.take index)).2 <;> simp [Hold.isInside]

/-! ## The lines above an attached line -/

theorem exists_split (here : (gather .nothing lines)[n]? = some s) :
    ∃ above below, gather .nothing lines = above ++ s :: below ∧ above.length = n := by
  obtain ⟨inside, rfl⟩ := List.getElem?_eq_some_iff.mp here
  refine ⟨(gather .nothing lines).take n, (gather .nothing lines).drop (n + 1), ?_, ?_⟩
  · rw [← List.drop_eq_getElem_cons inside, List.take_append_drop]
  · rw [List.length_take, Nat.min_eq_left (Nat.le_of_lt inside)]

/-- All lines, cut where the statement begins. -/
theorem lines_of_split (split : gather .nothing lines = above ++ s :: below) :
    lines = above.flatMap Statement.lines ++
      s.toLine :: (s.extras ++ below.flatMap Statement.lines) := by
  have kept : (gather .nothing lines).flatMap Statement.lines = lines :=
    flatMap_lines_gather .nothing lines
  rw [split, List.flatMap_append, List.flatMap_cons] at kept
  exact kept.symm

/-- All lines, cut at an attached line. -/
theorem lines_of_attached {line : Line} (split : gather .nothing lines = above ++ s :: below)
    (attached : s.extras[k]? = some line) :
    ∃ after, lines =
      above.flatMap Statement.lines ++ s.toLine :: s.extras.take k ++ line :: after := by
  obtain ⟨inside, rfl⟩ := List.getElem?_eq_some_iff.mp attached
  have parts : s.extras = s.extras.take k ++ s.extras[k] :: s.extras.drop (k + 1) := by
    rw [← List.drop_eq_getElem_cons inside, List.take_append_drop]
  refine ⟨s.extras.drop (k + 1) ++ below.flatMap Statement.lines, ?_⟩
  calc lines
      = above.flatMap Statement.lines ++
          s.toLine :: (s.extras ++ below.flatMap Statement.lines) := lines_of_split split
    _ = above.flatMap Statement.lines ++ s.toLine ::
          ((s.extras.take k ++ s.extras[k] :: s.extras.drop (k + 1)) ++
            below.flatMap Statement.lines) := by rw [← parts]
    _ = _ := by simp only [List.append_assoc, List.cons_append]

theorem place_attached {line : Line} (split : gather .nothing lines = above ++ s :: below)
    (attached : s.extras[k]? = some line) :
    place (gather .nothing lines) above.length + (k + 1) =
      (above.flatMap Statement.lines ++ s.toLine :: s.extras.take k).length := by
  have inside := (List.getElem?_eq_some_iff.mp attached).1
  rw [split, place_append, List.length_append, List.length_cons, List.length_take,
    Nat.min_eq_left (Nat.le_of_lt inside)]

theorem take_attached {line : Line} (split : gather .nothing lines = above ++ s :: below)
    (attached : s.extras[k]? = some line) :
    lines.take (place (gather .nothing lines) above.length + (k + 1)) =
      above.flatMap Statement.lines ++ s.toLine :: s.extras.take k := by
  obtain ⟨after, cut⟩ := lines_of_attached split attached
  rw [place_attached split attached]
  conv_lhs => rw [cut]
  exact List.take_left

/-- No doc-string is open where a statement begins. -/
theorem outside_of_split (split : gather .nothing lines = above ++ s :: below) :
    ¬ IsInside (above.flatMap Statement.lines) := by
  have begins := begins_of_split above s below
  have decided := decided_gather (above.flatMap Statement.lines) s.toLine
    (s.extras ++ below.flatMap Statement.lines)
  rw [← lines_of_split split, split] at decided
  cases decided with
  | inside m attaches => exact absurd attaches begins.not_attaches
  | taken m t attaches => exact absurd attaches begins.not_attaches
  | begun m _ outside => exact outside

/-- Attached to a doc-string that stands alone is only what is inside of it. -/
theorem inside_of_docString {line : Line} (split : gather .nothing lines = above ++ s :: below)
    (alone : s.kind = .docString) (attached : s.extras[k]? = some line) :
    IsInside (above.flatMap Statement.lines ++ s.toLine :: s.extras.take k) := by
  obtain ⟨after, cut⟩ := lines_of_attached split attached
  have alone_here : (gather .nothing lines)[above.length]? = some s := by
    rw [split, getElem?_of_split]
  have attaches : Attaches (gather .nothing lines) above.length
      (above.flatMap Statement.lines ++ s.toLine :: s.extras.take k).length line :=
    ⟨s, k, alone_here, attached, place_attached split attached⟩
  have decided := decided_gather (above.flatMap Statement.lines ++ s.toLine :: s.extras.take k)
    line after
  rw [← cut] at decided
  cases decided with
  | inside _ _ inside => exact inside
  | taken m t attaches' here _ _ takes =>
      have same := attaches'.isNearest.unique attaches.isNearest
      rw [same, alone_here] at here
      cases here
      rw [alone] at takes
      cases takes
  | begun m begins => exact absurd attaches begins.not_attaches

theorem isOutside_iff (extras : List Line) (k : Nat) :
    Statement.isOutside extras k = true ↔
      Even ((extras.take k).countP (·.kind = .docString)) := by
  rw [Statement.isOutside, decide_eq_true_eq, Nat.even_iff]

/-- Both passes count the delimiters, and the gatherer counts the first line of the statement as
well. -/
theorem isInside_attached (split : gather .nothing lines = above ++ s :: below) (k : Nat) :
    IsInside (above.flatMap Statement.lines ++ s.toLine :: s.extras.take k) ↔
      (s.kind = .docString ↔ Statement.isOutside s.extras k = true) := by
  have even := outside_of_split split
  rw [IsInside] at even
  rw [IsInside, List.countP_append, isOutside_iff]
  -- The number above the statement is even, so its own lines decide.
  by_cases alone : s.kind = .docString
  · rw [List.countP_cons_of_pos (by simpa using alone), Nat.odd_add]
    simp only [even, alone, true_iff, false_iff, Nat.not_even_iff_odd, Nat.odd_add_one,
      Nat.not_odd_iff_even]
  · rw [List.countP_cons_of_neg (by simpa using alone), Nat.odd_add]
    simp only [even, alone, false_iff]

/-! ## The table lines of a statement -/

theorem takenOutside_eq (split : gather .nothing lines = above ++ s :: below) :
    takenOutside lines above.length s =
      (List.range s.extras.length).filterMap fun k =>
        s.extras[k]?.filter fun line => line.kind = .dataTable &&
          !decide (s.kind = .docString ↔ Statement.isOutside s.extras k = true) := by
  apply List.filterMap_congr
  intro k hk
  cases attached : s.extras[k]? with
  | none => rfl
  | some line =>
      have inside : (heldAt lines (place (gather .nothing lines) above.length + (k + 1))).isInside =
          decide (s.kind = .docString ↔ Statement.isOutside s.extras k = true) := by
        rw [Bool.eq_iff_iff, isInside_heldAt, take_attached split attached,
          isInside_attached split, decide_eq_true_eq]
      rw [inside]

/-- A statement that is no doc-string of its own counts as the gatherer does. -/
theorem tableLines_of_split (split : gather .nothing lines = above ++ s :: below)
    (other : s.kind ≠ .docString) : s.tableLines = takenOutside lines above.length s := by
  rw [takenOutside_eq split, Statement.tableLines_eq_outside, Statement.outsideTables]
  simp [other]

/-- If no doc-string is open at any line, all table lines count. A delimiter can only be the last
line then. -/
theorem tableLinesFrom_of_outside {extras : List Line}
    (outside : ∀ k < extras.length, Statement.isOutside extras k = true) :
    Statement.tableLinesFrom false extras = extras.filter (·.kind = .dataTable) := by
  induction extras with
  | nil => rfl
  | cons line extras ih =>
      have below (k : Nat) (hk : k < extras.length) := outside (k + 1) (Nat.succ_lt_succ hk)
      simp only [Statement.isOutside_succ] at below
      rw [Statement.tableLinesFrom]
      by_cases delimiter : line.kind = .docString
      · cases extras with
        | nil => simp [delimiter, Statement.tableLinesFrom]
        | cons next extras =>
            -- The line behind the delimiter would be inside.
            have opened := below 0 (Nat.succ_pos _)
            rw [if_pos delimiter] at opened
            cases opened
      · simp only [if_neg delimiter] at below
        rw [if_neg delimiter, ih below]
        by_cases table : line.kind = .dataTable
        · simp [table]
        · simp [table]

/-- A doc-string of its own counts all table lines attached to it, and the gatherer none. -/
theorem tableLines_of_docString (split : gather .nothing lines = above ++ s :: below)
    (alone : s.kind = .docString) :
    takenOutside lines above.length s = [] ∧
      s.tableLines = s.extras.filter (·.kind = .dataTable) := by
  have counted : ∀ k < s.extras.length, Statement.isOutside s.extras k = true := by
    intro k inside
    have taken := inside_of_docString split alone (List.getElem?_eq_getElem inside)
    exact ((isInside_attached split k).mp taken).mp alone
  refine ⟨?_, tableLinesFrom_of_outside counted⟩
  rw [takenOutside_eq split, List.filterMap_eq_nil_iff]
  intro k hk
  rw [Option.filter_eq_none_iff]
  intro line _
  simp [alone, counted k (List.mem_range.mp hk)]

/-- The table of some table lines. -/
def tableOf (tables : List Line) : Option Table :=
  if tables = [] then none else some (Table.parse (tables.map (·.text)))

theorem table_eq_tableOf (s : Statement) : s.table = tableOf s.tableLines := by
  rw [Statement.table, tableOf]
  cases s.tableLines with
  | nil => rfl
  | cons first rest => rfl

/-- The table lines of a statement are those attached lines that the gatherer took while no
doc-string was open, unless the statement is a doc-string of its own: all its table lines stand
inside of it, and yet they are its table lines. -/
theorem tableLines_parse {v : Vocabulary} {source : String}
    (here : (parse v source)[n]? = some s) :
    (s.kind ≠ .docString →
        s.tableLines = takenOutside (sourceLines v source) n s ∧
          s.table = tableOf (takenOutside (sourceLines v source) n s)) ∧
      (s.kind = .docString →
        takenOutside (sourceLines v source) n s = [] ∧
          s.tableLines = s.extras.filter (·.kind = .dataTable)) ∧
      (s.tableLines = takenOutside (sourceLines v source) n s ↔
        ¬ (s.kind = .docString ∧ ∃ line ∈ s.extras, line.kind = .dataTable)) := by
  obtain ⟨above, below, split, rfl⟩ := exists_split here
  refine ⟨fun other => ?_, tableLines_of_docString split, ?_⟩
  · have same := tableLines_of_split split other
    exact ⟨same, (table_eq_tableOf s).trans (congrArg tableOf same)⟩
  by_cases alone : s.kind = .docString
  · obtain ⟨none_taken, all_counted⟩ := tableLines_of_docString split alone
    rw [none_taken, all_counted, List.filter_eq_nil_iff]
    simp [alone]
  · simp [alone, tableLines_of_split split alone]

/-- A table line inside of a doc-string of a step, and one below it. -/
theorem tableLines_parse_step :
    (parse .english "Given a\n\"\"\"\n| b |\n\"\"\"\n| c |\n")[0]? =
        some { Line.read .english 1 "Given a" with
          extras := [Line.read .english 2 "\"\"\"", Line.read .english 3 "| b |",
            Line.read .english 4 "\"\"\"", Line.read .english 5 "| c |"] } ∧
      takenOutside (sourceLines .english "Given a\n\"\"\"\n| b |\n\"\"\"\n| c |\n") 0
          { Line.read .english 1 "Given a" with
            extras := [Line.read .english 2 "\"\"\"", Line.read .english 3 "| b |",
              Line.read .english 4 "\"\"\"", Line.read .english 5 "| c |"] } =
        [Line.read .english 5 "| c |"] := by
  have here : (parse .english "Given a\n\"\"\"\n| b |\n\"\"\"\n| c |\n")[0]? =
      some { Line.read .english 1 "Given a" with
        extras := [Line.read .english 2 "\"\"\"", Line.read .english 3 "| b |",
          Line.read .english 4 "\"\"\"", Line.read .english 5 "| c |"] } := by
    decide +kernel
  obtain ⟨same, -⟩ := (tableLines_parse here).1 (by decide +kernel)
  exact ⟨here, same.symm.trans (by decide +kernel)⟩

/-- A table line inside of a doc-string that stands alone is counted all the same. -/
theorem not_tableLines_parse_docString :
    ¬ ∀ (v : Vocabulary) (source : String) (n : Nat) (s : Statement),
      (parse v source)[n]? = some s → s.tableLines = takenOutside (sourceLines v source) n s := by
  intro claim
  have same := claim .english "\"\"\"\n| a |\n\"\"\"\n" 0
    { Line.read .english 1 "\"\"\"" with
      extras := [Line.read .english 2 "| a |", Line.read .english 3 "\"\"\""] } (by decide +kernel)
  revert same
  decide +kernel

end Script

end Storyline

import Mathlib.Data.List.Flatten
import Storyline.Proofs.Gathering
import Storyline.Proofs.Itinerary
import Storyline.Proofs.Restriction

/-!
# The rendition of a script

A run that no label restricts shows the lines of its script in their order, once or more often:
a header and an executable line of a scenario in their parts, any other line as it stands. The
list of these lines is the *rendition* of the script.

There is one gap. Examples that are accepted write their table row by row, and no other line that
is attached to them: a doc-string below such examples is left out (`Layout.shownExtras`).
-/

namespace Storyline

open scoped List
open Transcript (Mark Entry)

variable {σ : Type}

/-- The text of a mark that is a line. -/
def Transcript.Mark.line? : Mark → Option String
  | .line text => some text
  | .flaw _ _ => none

/-- The line that a cue puts into the transcript. -/
def Cue.line? (cue : Cue) : Option String := cue.mark?.bind Mark.line?

namespace Layout

variable (script : List Statement)

/-- A line of a script, as an unrestricted run shows it. -/
def shown (index : Nat) (s : Statement) : String :=
  if s.isHeader then Entry.keywordLine s.indent (Entry.headerKeyword s.toLine) s.body
  else if s.kind.isExecutable ∧ block script index = .scenario then
    Entry.keywordLine s.indent s.keyword s.body
  else s.text

/-- Whether this line is the header of examples that are accepted: there is an outline to be
replayed, and a table. -/
def acceptsExamples (index : Nat) (s : Statement) : Prop :=
  s.kind = .examples ∧ lines script .outline index ≠ [] ∧ s.table.isSome = true

instance (index : Nat) (s : Statement) : Decidable (acceptsExamples script index s) :=
  inferInstanceAs (Decidable (_ ∧ _ ∧ _))

/-- The attached lines of a statement that are shown. Of the lines attached to examples that are
accepted these are the lines of the table. -/
def shownExtras (index : Nat) (s : Statement) : List Line :=
  if acceptsExamples script index s then s.tableLines else s.extras

/-- The lines of a script as an unrestricted run shows them, each statement with these attached
lines. -/
def rendition (attached : Nat → Statement → List Line) : List String :=
  (List.range script.length).flatMap fun index =>
    script[index]?.toList.flatMap fun s =>
      shown script index s :: (attached index s).map (·.text)

end Layout

/-! ## Lines of cues -/

namespace Cue

theorem line?_header (line : Line) :
    (write (.header line)).line? =
      some (Entry.keywordLine line.indent (Entry.headerKeyword line) line.body) := rfl

theorem line?_step (line : Line) (body : String) :
    (write (.step line body)).line? = some (Entry.keywordLine line.indent line.keyword body) := rfl

theorem line?_raw (text : String) (tone : Tone) : (write (.raw text tone)).line? = some text := by
  cases tone <;> rfl

theorem line?_of_idle (cue : Cue) (idle : cue.isActing = false) : cue.line? = none := by
  cases cue with
  | visit | tell => rfl
  | write | attempt | flaw => cases idle

end Cue

/-- The lines among the marks of a log are lines of the log. -/
theorem Log.sublist_lines (log : Log) : log.marks.filterMap Mark.line? <+ log.lines := by
  induction log with
  | nil => exact List.Sublist.refl _
  | cons event log ih =>
      have written (entry : Entry) :
          entry.mark?.toList.filterMap Mark.line? <+ [entry.plain] := by
        cases entry with
        | header | step | raw => exact List.Sublist.refl _
        | note => exact List.nil_sublist _
        | fault indent f => cases f <;> exact List.nil_sublist _
      rw [marks_cons, List.filterMap_append]
      cases event with
      | wrote entry => exact (written entry).append ih
      | visited | called | asked | pending | told => exact ih

namespace Cursor

theorem lines_writes (text : Line → String) (tone : Tone) (lines : List Line) :
    (lines.map fun line => Cue.write (.raw (text line) tone)).filterMap Cue.line? =
      lines.map text := by
  induction lines with
  | nil => rfl
  | cons line lines ih =>
      rw [List.map_cons, List.filterMap_cons_some (Cue.line?_raw _ _), ih, List.map_cons]

theorem lines_extras (s : Statement) (tone : Tone) :
    (extras s tone).filterMap Cue.line? = s.extras.map (·.text) :=
  lines_writes (·.text) tone s.extras

theorem lines_row (rows : Rows) :
    ((rows.line?.map fun line => Cue.write (.raw line.text .plain)).toList).filterMap Cue.line? =
      rows.line?.toList.map (·.text) := by
  cases rows.line? <;> rfl

theorem lines_announce (rows : Rows) :
    (announce rows).filterMap Cue.line? = rows.line?.toList.map (·.text) := by
  rw [announce, List.filterMap_cons_none rfl, lines_row]

theorem lines_hanging (s : Statement) (flaw : Flaw) :
    (hanging s flaw).filterMap Cue.line? = s.text :: s.extras.map (·.text) := by
  rw [hanging, List.filterMap_append, List.filterMap_cons_some (Cue.line?_raw _ _), lines_extras]
  exact List.append_nil _

/-- An executable line is shown with all that is attached to it, as it is filled in. -/
theorem lines_execute (c : Cursor) (s : Statement) (unfilled : c.fill = id) :
    (c.execute s).filterMap Cue.line? =
      (if c.block = .scenario ∨ c.block = .examples then
        Entry.keywordLine s.indent s.keyword s.body
      else s.text) :: s.extras.map (·.text) := by
  rw [execute]
  split
  · rw [List.filterMap_append, List.filterMap_cons_some (Cue.line?_step _ _), lines_writes,
      unfilled]
    exact List.append_nil _
  · rw [List.filterMap_cons_some (Cue.line?_raw _ _), lines_extras]

end Cursor

/-- Going through the later rows shows the lines of the table from the next row on. -/
theorem Rows.flatMap_later (rows : Rows) :
    rows.later.flatMap (·.line?.toList) = rows.lines.drop (rows.current + 1) := by
  cases hnext : rows.next? with
  | none =>
      rw [later_of_next?_eq_none hnext]
      rw [next?] at hnext
      split at hnext
      · cases hnext
      · rename_i last
        rw [List.drop_of_length_le (Nat.le_of_not_lt last)]
        rfl
  | some next =>
      have ih := flatMap_later next
      rw [later_of_next?_eq_some hnext, List.flatMap_cons, ih]
      rw [next?] at hnext
      split at hnext
      · rename_i more
        cases hnext
        rw [List.drop_eq_getElem_cons more, line?, List.getElem?_eq_getElem more]
        rfl
      · cases hnext
termination_by rows.below
decreasing_by exact below_lt_of_next? hnext

/-! ## Lines of rounds -/

namespace Layout

variable {script : List Statement} {index : Nat} {s : Statement}

theorem shown_of_isHeader (h : s.isHeader = true) :
    shown script index s =
      Entry.keywordLine s.indent (Entry.headerKeyword s.toLine) s.body := if_pos h

theorem shown_of_examples (hk : s.kind = .examples) :
    shown script index s =
      Entry.keywordLine s.indent (Entry.headerKeyword s.toLine) s.body := by
  apply shown_of_isHeader
  rw [Line.isHeader, hk]
  rfl

theorem shown_of_other (no_header : s.isHeader = false)
    (no_execution : s.kind.isExecutable = false) : shown script index s = s.text := by
  simp [shown, no_header, no_execution]

theorem shownExtras_of_other (no_examples : s.kind ≠ .examples) :
    shownExtras script index s = s.extras := by
  rw [shownExtras, if_neg fun accepted => no_examples accepted.1]

theorem length_range (script : List Statement) (block : Recorded) (bound : Nat) :
    (range script block bound).length = (lines script block bound).length := by
  cases h : inForce? script block bound <;> simp [range, lines, h]

end Layout

namespace Walk

open Cursor

variable {script : List Statement} {index : Nat} {s : Statement}

/-- Reading a line that is no header of examples shows it with all that is attached to it. -/
theorem lines_read (hs : script[index]? = some s)
    (bare : s.kind.mayHold = true ∨ s.extras = []) (no_examples : s.kind ≠ .examples) :
    ((entered script index s).read s).1.filterMap Cue.line? =
      Layout.shown script index s :: s.extras.map (·.text) := by
  have isHeader : s.isHeader = s.kind.isHeader := rfl
  by_cases hexec : s.kind.isExecutable = true
  · have no_header : s.isHeader = false := by
      rw [isHeader]
      cases hk : s.kind <;> simp_all [Keyword.isExecutable, Keyword.isHeader]
    have block := block_entered_executable hs hexec
    have elsewhere : Layout.block script index ≠ .examples := Layout.block_ne_examples script index
    rw [read_executable _ hexec, lines_execute _ s (fill_entered hs), block]
    simp [Layout.shown, no_header, hexec, elsewhere]
  -- The other lines have nothing attached to them, unless they are left hanging.
  have attached (nothing : s.kind.mayHold = false) : s.extras.map (·.text) = [] := by
    rw [nothing] at bare
    rw [bare.resolve_left Bool.false_ne_true]
    rfl
  rw [Cursor.read]
  cases hk : s.kind with
  | feature | rule | background | scenarioOutline =>
      rw [attached (by rw [hk]; rfl), Layout.shown_of_isHeader (by rw [isHeader, hk]; rfl)]
      rfl
  | scenario =>
      rw [attached (by rw [hk]; rfl), Layout.shown_of_isHeader (by rw [isHeader, hk]; rfl)]
      simp only [readScenario]
      split <;> rfl
  | dataTable | docString =>
      rw [Layout.shown_of_other (by rw [isHeader, hk]; rfl) (by rw [hk]; rfl)]
      exact lines_hanging s _
  | comments | tag | unknown =>
      rw [attached (by rw [hk]; rfl),
        Layout.shown_of_other (by rw [isHeader, hk]; rfl) (by rw [hk]; rfl)]
      rw [List.filterMap_cons_some (Cue.line?_raw _ _)]
      rfl
  | step | ask => exact absurd (by rw [hk]; rfl) hexec
  | examples => exact absurd hk no_examples

/-- Examples that are accepted write the first line of their table. Then each row is announced,
and the outline is recited for it. -/
theorem read_replays_of_accepted {c : Cursor} (hk : s.kind = .examples)
    (outline : c.outline.length ≠ 0) {rows : Rows} (htable : Rows.ofStatement? s = some rows) :
    (c.read s).1 ++ c.replays script s =
      .write (.header s.toLine) ::
          (rows.line?.map fun line => Cue.write (.raw line.text .plain)).toList ++
        rows.later.flatMap fun rows =>
          announce rows ++ { c with rows := some rows }.recite script c.outline.indices := by
  simp only [Cursor.read, replays, hk, readExamples, if_neg outline, Rows.ofExamples, htable,
    Option.map_some, Option.getD_some]
  cases hfirst : rows.next? with
  | none =>
      rw [Rows.later_of_next?_eq_none hfirst]
      rfl
  | some first =>
      rw [Rows.later_of_next?_eq_some hfirst, List.flatMap_cons]
      simp only [List.append_assoc, List.cons_append]

/-- What examples that are refused write. -/
theorem lines_of_refused (hk : s.kind = .examples) (flaw : Flaw) (rest : List Cue) :
    Layout.shown script index s :: s.extras.map (·.text) <+
      ((.write (.header s.toLine) :: .flaw s.indent flaw :: extras s .plain) ++ rest).filterMap
        Cue.line? := by
  rw [List.filterMap_append, List.filterMap_cons_some (Cue.line?_header _),
    List.filterMap_cons_none rfl, lines_extras, Layout.shown_of_examples hk]
  exact List.sublist_append_left _ _

theorem sublist_lines_examples (hs : script[index]? = some s) (hk : s.kind = .examples) :
    Layout.shown script index s :: (Layout.shownExtras script index s).map (·.text) <+
      (((entered script index s).read s).1 ++
        (entered script index s).replays script s).filterMap Cue.line? := by
  have length : (entered script index s).outline.length =
      (Layout.lines script .outline index).length := by
    have outline := (entered_of_replaying hs (.inr hk)).2 .outline
    rw [← Layout.length_range, ← outline]
    rfl
  by_cases empty : (entered script index s).outline.length = 0
  · have refused : ¬Layout.acceptsExamples script index s := by
      rintro ⟨-, lines, -⟩
      rw [length, List.length_eq_zero_iff] at empty
      exact lines empty
    rw [Layout.shownExtras, if_neg refused]
    simp only [Cursor.read, hk, readExamples, if_pos empty]
    exact lines_of_refused hk _ _
  cases htable : s.tableLines with
  | nil =>
      have refused : ¬Layout.acceptsExamples script index s := by
        rintro ⟨-, -, table⟩
        rw [Statement.table_of_tableLines_nil htable] at table
        cases table
      rw [Layout.shownExtras, if_neg refused]
      simp only [Cursor.read, hk, readExamples, if_neg empty, Rows.ofStatement?, htable]
      exact lines_of_refused hk _ _
  | cons names rest =>
      have accepted : Layout.acceptsExamples script index s := by
        refine ⟨hk, ?_, ?_⟩
        · rw [length, List.length_eq_zero_iff] at empty
          exact empty
        · rw [Statement.table_of_tableLines_cons htable]
          rfl
      have picked : Rows.ofStatement? s = some { lines := names :: rest } := by
        rw [Rows.ofStatement?, htable]
      have below : rest = (Rows.later { lines := names :: rest }).flatMap (·.line?.toList) :=
        (Rows.flatMap_later { lines := names :: rest }).symm
      rw [Layout.shownExtras, if_pos accepted, htable, read_replays_of_accepted hk empty picked,
        List.filterMap_append, List.filterMap_cons_some (Cue.line?_header _), lines_row,
        Layout.shown_of_examples hk, List.map_cons, List.filterMap_flatMap]
      conv_lhs => rw [below, List.map_flatMap]
      -- Each row is announced by its line, and what is recited for it comes in addition.
      refine (List.Sublist.refl [_, _]).append (List.Sublist.flatMap_right _ fun rows _ => ?_)
      rw [List.filterMap_append, lines_announce]
      exact List.sublist_append_left _ _

theorem eligible_of_empty (script : List Statement) (index : Nat) :
    Layout.eligible script ⟨""⟩ index = true := by
  rw [Layout.eligible, Label.admits]
  rfl

/-- The round of a line shows the line, with all attached lines that are shown. -/
theorem sublist_lines_round (hs : script[index]? = some s)
    (bare : s.kind.mayHold = true ∨ s.extras = []) :
    Layout.shown script index s :: (Layout.shownExtras script index s).map (·.text) <+
      (round ⟨""⟩ script index).filterMap Cue.line? := by
  rw [← Cue.filterMap_acting Cue.line?_of_idle, acting_round ⟨""⟩ hs]
  by_cases htag : s.kind = .tag
  · have read := lines_read hs bare (by rw [htag]; decide)
    rw [if_pos htag, Layout.shownExtras_of_other (by rw [htag]; decide), ← read]
    simp only [Cursor.read, htag, List.filterMap_cons_some (Cue.line?_raw _ _)]
    exact List.Sublist.refl _
  rw [if_neg htag, if_pos (eligible_of_empty script index),
    Cue.filterMap_acting Cue.line?_of_idle]
  by_cases hk : s.kind = .examples
  · exact sublist_lines_examples hs hk
  · rw [Layout.shownExtras_of_other hk, ← lines_read hs bare hk, List.filterMap_append]
    exact List.sublist_append_left _ _

/-- An unrestricted walk shows the rendition of its script. -/
theorem sublist_lines_cues (bare : ∀ s ∈ script, s.kind.mayHold = true ∨ s.extras = []) :
    Layout.rendition script (Layout.shownExtras script) <+
      (cues ⟨""⟩ script).filterMap Cue.line? := by
  have rounds : Layout.rendition script (Layout.shownExtras script) <+
      (List.range script.length).flatMap fun index =>
        (round ⟨""⟩ script index).filterMap Cue.line? := by
    refine List.Sublist.flatMap_right _ fun index hindex => ?_
    have inside : index < script.length := List.mem_range.mp hindex
    have hs : script[index]? = some script[index] := List.getElem?_eq_getElem inside
    rw [hs, Option.toList_some, List.flatMap_singleton]
    exact sublist_lines_round hs (bare _ (List.getElem_mem inside))
  rw [cues_eq_rounds, List.filterMap_append, List.filterMap_flatMap]
  exact rounds.trans (List.sublist_append_left _ _)

end Walk

/-! ## Transcripts of runs -/

theorem Statement.tableLinesFrom_of_tables {lines : List Line}
    (tables : ∀ line ∈ lines, line.kind = .dataTable) : tableLinesFrom false lines = lines := by
  induction lines with
  | nil => rfl
  | cons line lines ih =>
      obtain ⟨hk, rest⟩ := List.forall_mem_cons.mp tables
      have no_delimiter : line.kind ≠ .docString := by
        rw [hk]
        decide
      rw [tableLinesFrom, if_neg no_delimiter, if_pos ⟨rfl, hk⟩, ih rest]

namespace Interpreter

variable {i : Interpreter σ} {mode : Mode} {host : σ} {text : String}

/-- A run of a text without a label shows the lines of the text in their order, each once or more
often, but for the doc-strings that are attached to examples which are accepted. If nothing but
tables is attached to such examples, it shows every line. -/
theorem rendition_sublist_lines (finished : (i.runText ⟨""⟩ mode host text).finished = true)
    (never : i.coloring = .never) :
    (i.script text).flatMap Statement.lines = Script.sourceLines i.vocabulary text ∧
      Layout.rendition (i.script text) (Layout.shownExtras (i.script text)) <+
        (i.runText ⟨""⟩ mode host text).log.lines ∧
      ((∀ index s, (i.script text)[index]? = some s →
          Layout.acceptsExamples (i.script text) index s →
          ∀ line ∈ s.extras, line.kind = .dataTable) →
        Layout.rendition (i.script text) (fun _ s => s.extras) <+
          (i.runText ⟨""⟩ mode host text).log.lines) ∧
      i.ShowsLines (i.runText ⟨""⟩ mode host text) := by
  have bare := Script.extras_of_mem_parse i.vocabulary text
  have marks : (i.runText ⟨""⟩ mode host text).log.marks =
      (Walk.cues ⟨""⟩ (i.script text)).filterMap Cue.mark? := marks_runScript finished
  have shown : Layout.rendition (i.script text) (Layout.shownExtras (i.script text)) <+
      (i.runText ⟨""⟩ mode host text).log.lines := by
    refine List.Sublist.trans ?_ (Log.sublist_lines _)
    rw [marks, List.filterMap_filterMap]
    exact Walk.sublist_lines_cues bare
  have whole : (i.script text).flatMap Statement.lines = Script.sourceLines i.vocabulary text :=
    Script.flatMap_lines_gather .nothing (Script.sourceLines i.vocabulary text)
  refine ⟨whole, shown, fun tables => ?_, showsLines_of_never never _⟩
  have same : Layout.rendition (i.script text) (fun _ s => s.extras) =
      Layout.rendition (i.script text) (Layout.shownExtras (i.script text)) := by
    refine List.flatMap_congr fun index _ => ?_
    cases hs : (i.script text)[index]? with
    | none => rfl
    | some s =>
        have attached : Layout.shownExtras (i.script text) index s = s.extras := by
          rw [Layout.shownExtras]
          split
          · rename_i accepted
            exact Statement.tableLinesFrom_of_tables (tables index s hs accepted)
          · rfl
        rw [Option.toList_some, List.flatMap_singleton, List.flatMap_singleton, attached]
  rw [same]
  exact shown

/-- Examples with a table and a doc-string attached to them. -/
def describedText : String :=
  "Scenario Outline: o\n  Ask a\nExamples:\n  | n |\n  \"\"\"\n  x\n  \"\"\"\n"

theorem rendition_sublist_lines_described :
    ((answering true).runText ⟨""⟩ .blocking {} describedText).finished = true ∧
      Layout.rendition ((answering true).script describedText)
          (Layout.shownExtras ((answering true).script describedText)) <+
        ((answering true).runText ⟨""⟩ .blocking {} describedText).log.lines := by
  have finished : ((answering true).runText ⟨""⟩ .blocking {} describedText).finished = true := rfl
  have shown := rendition_sublist_lines finished rfl
  exact ⟨finished, shown.2.1⟩

/-- The doc-string that is attached to the examples is not shown. -/
theorem not_rendition_sublist_lines_described :
    ¬Layout.rendition ((answering true).script describedText) (fun _ s => s.extras) <+
      ((answering true).runText ⟨""⟩ .blocking {} describedText).log.lines := by
  rw [runText, cues, Walk.cues_eq_rounds]
  decide +kernel

end Interpreter

end Storyline

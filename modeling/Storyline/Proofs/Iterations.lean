import Storyline.Proofs.Closings

/-!
# The turns of a run

A run goes turn by turn: the cursor takes a step, and the cues of the step are performed. Where the
cursor is at the beginning of a turn does not depend on what has come of the cues
(`Interpreter.Iterates`). In a replay it is in the range that the header replays, which lies above
the header and has neither headers nor tag lines in it, and outside of replays there is no row in
turn (`Cursor.IsSound`). A step in a replay stays there or comes back behind the header
(`Cursor.next_of_replay`), and as no walk goes on for ever, every replay comes back
(`Walk.Reached.exists_returns`).
-/

namespace Storyline

variable {σ : Type}

/-- The table that rows are picked from. -/
def Rows.table (rows : Rows) : Table := .parse (rows.lines.map (·.text))

theorem Rows.size_table (rows : Rows) : rows.table.size = rows.lines.length := by
  rw [table, Table.size, Table.rows_parse, List.length_map, List.length_map]

/-- A row below the first one of an attached table has a line. -/
theorem Rows.row_of_mem_ofExamples {rows : Rows} {s : Statement} (row : rows ∈ Rows.ofExamples s) :
    1 ≤ rows.current ∧ rows.current ≤ rows.table.size - 1 ∧
      ∃ line, rows.line? = some line := by
  obtain ⟨lines, positive, inside⟩ := Rows.mem_ofExamples.mp row
  rw [← lines] at inside
  rw [Rows.size_table]
  exact ⟨positive, by omega, rows.lines[rows.current], List.getElem?_eq_getElem inside⟩

/-- The block that a recorded block is replayed in. -/
def Recorded.replayedIn : Recorded → Block
  | background => .scenario
  | outline => .examples

/-- The header that replays a recorded block. -/
def Recorded.replayedBy : Recorded → Keyword
  | background => .scenario
  | outline => .examples

/-- The range that is in force at a header lies above it. -/
theorem Layout.stop_range_le_header {script : List Statement} {header : Nat} {s : Statement}
    (here : script[header]? = some s) (ends : endsBlock s = true) (recorded : Recorded) :
    (range script recorded header).stop ≤ header := by
  have start_le : (range script recorded header).start ≤ header := by
    rw [range]
    cases inForce : inForce? script recorded header with
    | none => exact Nat.zero_le header
    | some above => exact (nearest_eq_some inForce).1
  -- Otherwise the header would be a line of the range itself.
  by_contra beyond
  obtain ⟨t, there, no_end⟩ := getElem?_of_range start_le (Nat.lt_of_not_le beyond)
  rw [here] at there
  cases there
  rw [ends] at no_end
  cases no_end

namespace Cursor

/-- Where a cursor is in a replay of a recorded block. -/
structure Inside (script : List Statement) (recorded : Recorded) (replay : Replay)
    (c : Cursor) : Prop where
  /-- Nothing is being recorded. -/
  recording : c.recording = none
  /-- A background is replayed in a scenario, and an outline in examples. -/
  block : c.block = recorded.replayedIn
  /-- The cursor is in the range of the recorded block, or at its stop. -/
  stop : replay.stop = (c.range recorded).stop
  lower : (c.range recorded).start ≤ c.line
  upper : c.line ≤ replay.stop
  /-- The range lies above the header that has started the replay. -/
  above : replay.stop ≤ replay.home
  home : replay.home < script.length
  header : Layout.kind? script replay.home = some recorded.replayedBy
  /-- No line of the range is a header or a line of tags. -/
  lines : ∀ index, (c.range recorded).start ≤ index → index < replay.stop →
    ∃ s, script[index]? = some s ∧ s.isHeader = false ∧ s.kind ≠ .tag
  /-- There is a row in turn if examples are replayed, and only then. -/
  rows : c.rows.isSome = true ↔ c.block = .examples
  /-- The row in turn is below the first one of its table, and there is a line for it. -/
  row : ∀ rows, c.rows = some rows →
    1 ≤ rows.current ∧ rows.current ≤ rows.table.size - 1 ∧ ∃ line, rows.line? = some line

/-- Where a cursor is outside of replays. -/
structure Outside (c : Cursor) : Prop where
  /-- There is no row in turn. -/
  rows : c.rows = none
  block : c.block ≠ .examples
  /-- A block that is being recorded begins at or above the cursor. -/
  start : ∀ recorded, c.recording = some recorded → (c.range recorded).start ≤ c.line

/-- Whether a cursor is where it can be. -/
def IsSound (script : List Statement) (c : Cursor) : Prop :=
  match c.replay with
  | none => c.Outside
  | some replay => ∃ recorded, c.Inside script recorded replay

variable {label : Label} {script : List Statement} {c next : Cursor} {cues : List Cue}
  {replay : Replay}

theorem IsSound.outside (sound : c.IsSound script) (outside : c.replay = none) : c.Outside := by
  rwa [IsSound, outside] at sound

theorem IsSound.inside (sound : c.IsSound script) (inside : c.replay = some replay) :
    ∃ recorded, c.Inside script recorded replay := by
  rwa [IsSound, inside] at sound

/-- Behind the last line of the script no replay is going on. -/
theorem IsSound.replay_of_end (sound : c.IsSound script) (ended : script.length ≤ c.line) :
    c.replay = none := by
  cases replaying : c.replay with
  | none => rfl
  | some replay =>
      obtain ⟨recorded, inside⟩ := sound.inside replaying
      have upper := inside.upper
      have above := inside.above
      have home := inside.home
      omega

/-- In a replay there is always a next step. -/
theorem IsSound.exists_next (sound : c.IsSound script) (replaying : c.replay = some replay)
    (label : Label) : ∃ cues next, c.next? label script = some (cues, next) := by
  obtain ⟨recorded, inside⟩ := sound.inside replaying
  by_cases stop : c.line = replay.stop
  · exact ⟨_, _, next?_of_stop label script replaying stop⟩
  · have below : c.line < replay.stop := Nat.lt_of_le_of_ne inside.upper stop
    obtain ⟨s, here, -, -⟩ := inside.lines c.line inside.lower below
    exact ⟨_, _, next?_of_inside label replaying stop here⟩

/-- A step in a replay stays in the replay, or it comes back behind the header. -/
theorem next_of_replay (replaying : c.replay = some replay)
    (step : c.next? label script = some (cues, next)) :
    next.replay = some replay ∨ (next.replay = none ∧ next.line = replay.home + 1) := by
  rw [next?, replaying] at step
  dsimp only at step
  split at step
  · have gone : (c.goOn replay).2 = next := congrArg Prod.snd (Option.some.inj step)
    rw [← gone, goOn]
    split
    · split
      · exact .inl replaying
      · exact .inr ⟨rfl, rfl⟩
    · exact .inr ⟨rfl, rfl⟩
  · obtain ⟨s, -, visited⟩ := Option.map_eq_some_iff.mp step
    have gone : (c.visit label s).2 = next := congrArg Prod.snd visited
    have moved := visit_replaying (c := c) (by rw [replaying]; rfl) label s
    rw [gone] at moved
    exact .inl (moved.1.trans replaying)

/-- A step from outside of replays passes its line, or it starts a replay with its home there. -/
theorem next_of_no_replay (outside : c.replay = none)
    (step : c.next? label script = some (cues, next)) : Passed c next := by
  rw [next?, outside] at step
  obtain ⟨s, -, visited⟩ := Option.map_eq_some_iff.mp step
  have gone : (c.visit label s).2 = next := congrArg Prod.snd visited
  rw [← gone]
  exact passed_visit outside label s

end Cursor

namespace Walk

open Cursor

variable {label : Label} {script : List Statement} {c : Cursor} {replay : Replay}

theorem Replays.entered_block {s : Statement} {recorded : Recorded} {rows : Option Rows}
    (replays : Replays s recorded rows) (script : List Statement) (home : Nat) :
    (entered script home s).block = recorded.replayedIn ∧ s.kind = recorded.replayedBy := by
  rw [entered, scope_block]
  cases replays with
  | background kind | outline kind => simp only [kind, Recorded.replayedIn, Recorded.replayedBy,
      and_self]

theorem inside_replaying {home line : Nat} {s : Statement} {recorded : Recorded}
    {rows : Option Rows} (header : script[home]? = some s) (replays : Replays s recorded rows)
    (lower : (Layout.range script recorded home).start ≤ line)
    (upper : line ≤ (Layout.range script recorded home).stop) :
    (replaying script home s recorded rows line).Inside script recorded
      { home, stop := (Layout.range script recorded home).stop } := by
  obtain ⟨block, kind⟩ := replays.entered_block script home
  have range : (replaying script home s recorded rows line).range recorded =
      Layout.range script recorded home := replaying_range header replays recorded
  constructor
  case recording => exact replaying_recording header replays
  case block => exact block
  case stop => rw [range]
  case lower =>
    rw [range]
    exact lower
  case upper => exact upper
  case above =>
    have ends : Layout.endsBlock s = true := by
      have isHeader : s.isHeader = s.kind.isHeader := rfl
      rw [Layout.endsBlock, isHeader, kind]
      cases recorded <;> rfl
    exact Layout.stop_range_le_header header ends recorded
  case home => exact (List.getElem?_eq_some_iff.mp header).1
  case header => rw [Layout.kind?, header, Option.map_some, kind]
  case lines =>
    rw [range]
    intro index lower upper
    obtain ⟨t, there, no_end⟩ := Layout.getElem?_of_range lower upper
    rw [Layout.endsBlock, Bool.or_eq_false_iff, decide_eq_false_iff_not] at no_end
    exact ⟨t, there, no_end⟩
  case rows =>
    change rows.isSome = true ↔ (entered script home s).block = .examples
    rw [block]
    cases replays with
    | background => decide
    | outline => exact iff_of_true rfl rfl
  case row =>
    intro picked turn
    cases replays with
    | background => cases turn
    | outline _ row =>
        cases turn
        exact Rows.row_of_mem_ofExamples row

/-- Wherever a walk comes, the cursor is where it can be. -/
theorem Reached.isSound (reached : Reached label script c) : c.IsSound script := by
  have start (recorded : Recorded) : c.recording = some recorded →
      (c.range recorded).start ≤ c.line := reached.start_le
  cases reached with
  | @outside index le =>
      rw [IsSound, standing_replay le]
      refine ⟨standing_rows le, ?_, start⟩
      rw [standing_block le]
      exact Layout.block_ne_examples script index
  | inside header _ replays lower upper => exact ⟨_, inside_replaying header replays lower upper⟩

/-- A way through a replay: all steps but the last one stay in it, and the last one comes back to
the line behind the header. -/
inductive Returns (label : Label) (script : List Statement) (replay : Replay) :
    Cursor → Cursor → Prop
  | back {c last : Cursor} {cues : List Cue} (inside : c.replay = some replay)
      (step : c.next? label script = some (cues, last)) (outside : last.replay = none)
      (behind : last.line = replay.home + 1) : Returns label script replay c last
  | stay {c next last : Cursor} {cues : List Cue} (inside : c.replay = some replay)
      (step : c.next? label script = some (cues, next))
      (later : Returns label script replay next last) : Returns label script replay c last

/-- Every replay comes back. -/
theorem Reached.exists_returns (reached : Reached label script c)
    (replaying : c.replay = some replay) : ∃ last, Returns label script replay c last := by
  induction c using cuesFrom.induct label script with
  | case1 c ended =>
      obtain ⟨cues, next, step⟩ := reached.isSound.exists_next replaying label
      rw [ended] at step
      cases step
  | case2 c cues next step ih =>
      rcases next_of_replay replaying step with still | ⟨outside, behind⟩
      · obtain ⟨last, later⟩ := ih (reached.next step) still
        exact ⟨last, .stay replaying step later⟩
      · exact ⟨next, .back replaying step outside behind⟩

end Walk

/-! ## Runs -/

namespace Interpreter

/-- The turns of a run that is carried on: what has been done before a turn, and the stage and the
cursor at its beginning. The cursor takes a step, and the cues of the step are performed, whatever
comes of them. -/
inductive Iterates (i : Interpreter σ) (label : Label) (script : List Statement) (host : σ) :
    Log → Stage σ → Cursor → Prop
  | first : Iterates i label script host [] { host } {}
  | turn {log : Log} {stage : Stage σ} {c next : Cursor} {cues : List Cue}
      (before : Iterates i label script host log stage c)
      (step : c.next? label script = some (cues, next)) :
      Iterates i label script host (log ++ (stage.complete i.cast label cues).1)
        (stage.complete i.cast label cues).2 next

variable {i : Interpreter σ} {label : Label} {script : List Statement} {host : σ} {log : Log}
  {stage : Stage σ} {c : Cursor}

theorem Iterates.reached (iterates : i.Iterates label script host log stage c) :
    Walk.Reached label script c := by
  induction iterates with
  | first => exact .start label script
  | turn _ step ih => exact ih.next step

/-- The steps of a walk lead from turn to turn. -/
theorem Iterates.steps (iterates : i.Iterates label script host log stage c) {cues : List Cue}
    {last : Cursor} (steps : Walk.Steps label script c cues last) :
    i.Iterates label script host (log ++ (stage.complete i.cast label cues).1)
      (stage.complete i.cast label cues).2 last := by
  induction steps generalizing log stage with
  | refl c =>
      rw [Stage.complete, List.append_nil]
      exact iterates
  | step first _ ih =>
      rw [Stage.complete_append, ← List.append_assoc]
      exact ih (iterates.turn first)

/-- What is left of a run at the beginning of a turn. -/
theorem Iterates.complete_eq (iterates : i.Iterates label script host log stage c) :
    ({ host } : Stage σ).complete i.cast label (Walk.cues label script) =
      (log ++ (stage.complete i.cast label (Walk.cuesFrom label script c)).1,
        (stage.complete i.cast label (Walk.cuesFrom label script c)).2) := by
  induction iterates with
  | first => rfl
  | turn _ step ih =>
      rw [ih, Walk.cuesFrom_of_some step, Stage.complete_append, List.append_assoc]

/-- How a run goes on from the beginning of a turn. -/
structure GoesOn (i : Interpreter σ) (label : Label) (script : List Statement) (host : σ)
    (log : Log) (stage : Stage σ) (c : Cursor) : Prop where
  /-- A run that comes to its end has done this before, and goes on from here. -/
  run : ∀ mode, (i.runScript label mode host script).finished = true →
    (i.runScript label mode host script).log.unpolled =
      (log ++ (stage.complete i.cast label (Walk.cuesFrom label script c)).1).unpolled
  /-- At the end of the script no replay is going on. -/
  ended : script.length ≤ c.line → c.replay = none
  /-- A replay that begins in this turn has its home in the line of the cursor. -/
  home : c.replay = none → ∀ cues next replay, c.next? label script = some (cues, next) →
    next.replay = some replay → replay.home = c.line
  /-- A replay that is going on comes back behind its home. -/
  returns : ∀ replay, c.replay = some replay →
    ∃ last, Walk.Returns label script replay c last

/-- **Replays keep to their range and come back.** -/
theorem sound_of_iterates (iterates : i.Iterates label script host log stage c) :
    c.IsSound script ∧ i.GoesOn label script host log stage c := by
  have reached := iterates.reached
  refine ⟨reached.isSound, ?_, reached.isSound.replay_of_end, ?_, ?_⟩
  · intro mode finished
    obtain ⟨rest, same, ended⟩ := i.unpolled_runCues label mode host (Walk.cues label script)
    rw [ended finished, List.append_nil, iterates.complete_eq] at same
    exact same
  · intro outside cues next replay step replaying
    rcases Cursor.next_of_no_replay outside step with ⟨passed, -⟩ | ⟨stop, started⟩
    · rw [passed] at replaying
      cases replaying
    · rw [started] at replaying
      cases replaying
      rfl
  · intro replay replaying
    exact reached.exists_returns replaying

/-- A check that is replayed for two rows. -/
def rowsScript : List Statement :=
  Script.parse .english "Scenario Outline:\nAsk <n>\nExamples:\n|n|\n|1|\n|2|\n"

/-- The check is declined for the first row. Still the second row comes to its turn, and then the
replay comes back. -/
theorem sound_of_iterates_declined :
    ∃ log stage c, (answering false).Iterates ⟨""⟩ rowsScript {} log stage c ∧
      log.faults = [.declined "1"] ∧ c.replay = some { home := 2, stop := 2 } ∧
      c.rows.map Rows.current = some 2 ∧ c.IsSound rowsScript ∧
      ∃ last, Walk.Returns ⟨""⟩ rowsScript { home := 2, stop := 2 } c last := by
  -- Three steps lead into the outline, one through it, and one to the next row.
  have there : (Walk.after ⟨""⟩ rowsScript 5 {}).map (fun walk =>
      ((({ host := {} } : Stage Tally).complete (answering false).cast ⟨""⟩ walk.1).1.faults,
        walk.2.replay, walk.2.rows.map Rows.current)) =
      some ([.declined "1"], some { home := 2, stop := 2 }, some 2) := by
    decide +kernel
  obtain ⟨⟨cues, c⟩, walked, there⟩ := Option.map_eq_some_iff.mp there
  simp only [Prod.mk.injEq] at there
  obtain ⟨faults, replaying, row⟩ := there
  have start : (answering false).Iterates ⟨""⟩ rowsScript {} [] { host := {} } {} := .first
  have iterates := start.steps (Walk.steps_of_after walked)
  obtain ⟨sound, goes_on⟩ := sound_of_iterates iterates
  exact ⟨_, _, c, iterates, faults, replaying, row, sound, goes_on.returns _ replaying⟩

end Interpreter

end Storyline

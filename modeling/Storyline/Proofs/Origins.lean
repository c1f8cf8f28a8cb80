import Storyline.Proofs.Reached
import Storyline.Proofs.Sessions

/-!
# Where cues come from

A walk makes up nothing. What it has written are the lines of the script, as they stand or with
their placeholders filled in from a row of an attached table; what it has carried out are
statements of the script, filled in the same way; and what it tells is news of the walk itself,
never of a fault. `Cue.IsOf` has one case for each kind of cue that there can be, and all cues of
a walk are covered by these cases (`Walk.isOf_cues`). So what a run writes comes from its script,
but for the notes and the faults that stand under its lines (`Interpreter.writesOf_runText`).
-/

namespace Storyline

/-- How texts of a script are filled in: not at all, or from a row of a table in the script. -/
inductive Script.Fills (script : List Statement) : (String → String) → Prop
  | own : Fills script id
  | row {s : Statement} {fill : String → String} (here : s ∈ script) (row : fill ∈ s.fills) :
      Fills script fill

/-- Whether a cue may come from a script. -/
inductive Cue.IsOf (script : List Statement) : Cue → Prop
  | visit (index : Nat) : IsOf script (.visit index)
  | header {s : Statement} (here : s ∈ script) : IsOf script (.write (.header s.toLine))
  | step {s : Statement} {fill : String → String} (here : s ∈ script)
      (fills : Script.Fills script fill) :
      IsOf script (.write (.step s.toLine (fill s.body)))
  | raw {s : Statement} {line : Line} {fill : String → String} (here : s ∈ script)
      (belongs : line ∈ s.lines) (fills : Script.Fills script fill) (tone : Tone) :
      IsOf script (.write (.raw (fill line.text) tone))
  | attempt {s : Statement} {fill : String → String} (here : s ∈ script)
      (fills : Script.Fills script fill) : IsOf script (.attempt (s.filled fill))
  | flaw {s : Statement} (here : s ∈ script) (f : Flaw) : IsOf script (.flaw s.indent f)
  | rangeClosed (block : Recorded) (start length : Nat) :
      IsOf script (.tell (.rangeClosed block start length))
  | splicingBackground (line : Nat) : IsOf script (.tell (.splicingBackground line))
  | replayingOutline (row : Nat) : IsOf script (.tell (.replayingOutline row))

theorem Rows.lines_of_next? {rows next : Rows} (h : rows.next? = some next) :
    next.lines = rows.lines := by
  rw [next?] at h
  split at h <;> cases h
  rfl

namespace Statement

theorem tableLinesFrom_sublist (inside : Bool) (lines : List Line) :
    (tableLinesFrom inside lines).Sublist lines := by
  induction lines generalizing inside with
  | nil => exact List.Sublist.slnil
  | cons line lines ih =>
      rw [tableLinesFrom]
      split
      · exact (ih _).cons line
      split
      · exact (ih _).cons_cons line
      · exact (ih _).cons line

theorem mem_lines_of_mem_tableLines {s : Statement} {line : Line} (row : line ∈ s.tableLines) :
    line ∈ s.lines :=
  List.mem_cons_of_mem _ ((tableLinesFrom_sublist false s.extras).subset row)

end Statement

namespace Cursor

variable {script : List Statement} {c : Cursor} {s : Statement}

/-- A line of the script as it stands. -/
theorem isOf_line (here : s ∈ script) {line : Line} (belongs : line ∈ s.lines) (tone : Tone) :
    Cue.IsOf script (.write (.raw line.text tone)) :=
  .raw here belongs .own tone

theorem isOf_self (here : s ∈ script) (tone : Tone) :
    Cue.IsOf script (.write (.raw s.text tone)) :=
  isOf_line here List.mem_cons_self tone

theorem isOf_extras (here : s ∈ script) (tone : Tone) :
    ∀ cue ∈ extras s tone, cue.IsOf script := by
  intro cue hcue
  obtain ⟨line, attached, rfl⟩ := List.mem_map.mp hcue
  exact isOf_line here (List.mem_cons_of_mem _ attached) tone

/-- The line of a row, if there is one, is a line of the statement with the table. -/
theorem isOf_line? (here : s ∈ script) {rows : Rows} (lines : rows.lines = s.tableLines) :
    ∀ cue ∈ (rows.line?.map fun line => Cue.write (.raw line.text .plain)).toList,
      cue.IsOf script := by
  intro cue hcue
  obtain ⟨line, found, rfl⟩ := Option.map_eq_some_iff.mp (Option.mem_toList.mp hcue)
  have row : line ∈ rows.lines := List.mem_of_getElem? found
  rw [lines] at row
  exact isOf_line here (Statement.mem_lines_of_mem_tableLines row) .plain

theorem isOf_announce (here : s ∈ script) {rows : Rows} (lines : rows.lines = s.tableLines) :
    ∀ cue ∈ announce rows, cue.IsOf script :=
  List.forall_mem_cons.mpr ⟨.replayingOutline _, isOf_line? here lines⟩

theorem isOf_close (c : Cursor) : ∀ cue ∈ c.close.1, cue.IsOf script := by
  rw [close]
  split
  · exact List.forall_mem_nil _
  · exact List.forall_mem_singleton.mpr (.rangeClosed _ _ _)

theorem isOf_closeBefore (c : Cursor) (s : Statement) :
    ∀ cue ∈ (c.closeBefore s).1, cue.IsOf script := by
  rw [closeBefore]
  split
  · exact isOf_close c
  · exact List.forall_mem_nil _

theorem isOf_hanging (here : s ∈ script) (f : Flaw) : ∀ cue ∈ hanging s f, cue.IsOf script := by
  rw [hanging, List.cons_append, List.forall_mem_cons, List.forall_mem_append]
  refine ⟨isOf_self here .plain, isOf_extras here .plain, ?_⟩
  exact List.forall_mem_singleton.mpr (.flaw here f)

theorem isOf_execute (here : s ∈ script) (fills : Script.Fills script c.fill) :
    ∀ cue ∈ c.execute s, cue.IsOf script := by
  rw [execute]
  split
  · rw [List.cons_append, List.forall_mem_cons, List.forall_mem_append]
    refine ⟨.step here fills, ?_, ?_⟩
    · intro cue hcue
      obtain ⟨line, attached, rfl⟩ := List.mem_map.mp hcue
      exact .raw here (List.mem_cons_of_mem _ attached) fills .plain
    · exact List.forall_mem_singleton.mpr (.attempt here fills)
  · exact List.forall_mem_cons.mpr ⟨isOf_self here .dim, isOf_extras here .dim⟩

theorem isOf_recite (fills : Script.Fills script c.fill) (indices : List Nat) :
    ∀ cue ∈ c.recite script indices, cue.IsOf script := by
  intro cue hcue
  obtain ⟨index, -, hcue⟩ := List.mem_flatMap.mp hcue
  rcases List.mem_cons.mp hcue with rfl | hcue
  · exact .visit index
  split at hcue
  · rename_i t there
    split at hcue
    · exact isOf_execute (List.mem_of_getElem? there) fills cue hcue
    · cases hcue
  · cases hcue

theorem isOf_readScenario (here : s ∈ script) :
    ∀ cue ∈ (c.readScenario s).1, cue.IsOf script := by
  rw [readScenario]
  split
  · exact List.forall_mem_singleton.mpr (.header here)
  · exact List.forall_mem_cons.mpr
      ⟨.header here, List.forall_mem_singleton.mpr (.splicingBackground _)⟩

theorem isOf_readExamples (here : s ∈ script) :
    ∀ cue ∈ (c.readExamples s).1, cue.IsOf script := by
  have refused (f : Flaw) :
      ∀ cue ∈ Cue.write (.header s.toLine) :: .flaw s.indent f :: extras s .plain,
        cue.IsOf script := by
    rw [List.forall_mem_cons, List.forall_mem_cons]
    exact ⟨.header here, .flaw here f, isOf_extras here .plain⟩
  rw [readExamples]
  dsimp only
  split
  · exact refused _
  cases picked : Rows.ofStatement? s with
  | none => exact refused _
  | some rows =>
      have lines : rows.lines = s.tableLines := by
        cases table : s.tableLines with
        | nil => simp [Rows.ofStatement?, table] at picked
        | cons first rest =>
            simp only [Rows.ofStatement?, table, Option.some.injEq] at picked
            rw [← picked]
      have names := isOf_line? here lines
      dsimp only
      split
      · exact List.forall_mem_cons.mpr ⟨.header here, names⟩
      · rename_i first next
        have lines_next : first.lines = s.tableLines := by
          rw [← lines, Rows.lines_of_next? next]
        rw [List.cons_append, List.forall_mem_cons, List.forall_mem_append]
        exact ⟨.header here, names, isOf_announce here lines_next⟩

theorem isOf_read (here : s ∈ script) (fills : Script.Fills script c.fill) :
    ∀ cue ∈ (c.read s).1, cue.IsOf script := by
  rw [Cursor.read]
  cases s.kind with
  | feature | rule | background | scenarioOutline =>
      exact List.forall_mem_singleton.mpr (.header here)
  | scenario => exact isOf_readScenario here
  | examples => exact isOf_readExamples here
  | step | ask => exact isOf_execute here fills
  | dataTable => exact isOf_hanging here .hangingTable
  | docString => exact isOf_hanging here .hangingDocString
  | comments | tag | unknown => exact List.forall_mem_singleton.mpr (isOf_self here _)

/-- In a replay placeholders are filled in from the row in turn, if there is one. -/
theorem isOf_replays (here : s ∈ script) (fills : Script.Fills script c.fill) :
    ∀ cue ∈ c.replays script s, cue.IsOf script := by
  have turn {rows : Rows} (row : rows ∈ Rows.ofExamples s) :
      ∀ cue ∈ { c with rows := some rows }.recite script c.outline.indices, cue.IsOf script := by
    apply isOf_recite
    apply Script.Fills.row here
    rw [← Statement.map_fill_ofExamples]
    exact List.mem_map.mpr ⟨rows, row, rfl⟩
  rw [replays]
  split
  · exact isOf_recite fills _
  · split
    · exact List.forall_mem_nil _
    split
    · exact List.forall_mem_nil _
    · rename_i first later rows
      rw [List.forall_mem_append]
      refine ⟨turn (by rw [rows]; exact List.mem_cons_self), ?_⟩
      intro cue hcue
      obtain ⟨next, hnext, hcue⟩ := List.mem_flatMap.mp hcue
      have row : next ∈ Rows.ofExamples s := by
        rw [rows]
        exact List.mem_cons_of_mem _ hnext
      rcases List.mem_append.mp hcue with announced | recited
      · exact isOf_announce here (Rows.mem_ofExamples.mp row).1 cue announced
      · exact turn row cue recited
  · exact List.forall_mem_nil _

end Cursor

namespace Walk

open Cursor

theorem isOf_round (label : Label) (script : List Statement) (index : Nat) :
    ∀ cue ∈ round label script index, cue.IsOf script := by
  cases hs : script[index]? with
  | none =>
      rw [round, hs]
      exact List.forall_mem_nil _
  | some s =>
      have here : s ∈ script := List.mem_of_getElem? hs
      have fills : Script.Fills script (entered script index s).fill := by
        rw [fill_entered hs]
        exact .own
      have looked : ∀ cue ∈ (((standing script index).closeBefore s).2.look label s).1,
          cue.IsOf script := by
        rw [look_standing]
        split
        · exact List.forall_mem_singleton.mpr (isOf_self here .tag)
        split
        · exact isOf_read here fills
        · exact List.forall_mem_nil _
      rw [round_eq hs, visit_standing hs, List.forall_mem_append, List.cons_append,
        List.forall_mem_cons, List.forall_mem_append]
      refine ⟨⟨.visit index, isOf_closeBefore _ s, looked⟩, ?_⟩
      split
      · exact isOf_replays here fills
      · exact List.forall_mem_nil _

/-- All cues of a walk come from the script. -/
theorem isOf_cues (label : Label) (script : List Statement) :
    ∀ cue ∈ cues label script, cue.IsOf script := by
  rw [cues_eq_rounds, List.forall_mem_append]
  refine ⟨?_, isOf_close _⟩
  intro cue hcue
  obtain ⟨index, -, hcue⟩ := List.mem_flatMap.mp hcue
  exact isOf_round label script index cue hcue

end Walk

/-! ## What is written -/

variable {σ : Type}

/-- Whether an entry may come from a run of a script: the walk asks for it, or it is a note or a
fault under a line of the script. -/
inductive Transcript.Entry.IsOf (script : List Statement) : Entry → Prop
  | cue {entry : Entry} (origin : Cue.IsOf script (.write entry)) : IsOf script entry
  | note {s : Statement} (here : s ∈ script) (text : String) : IsOf script (.note s.indent text)
  | fault {s : Statement} (here : s ∈ script) (f : Fault) : IsOf script (.fault s.indent f)

/-- Whether all entries of a log come from a run of a script. -/
def Log.WritesOf (script : List Statement) (log : Log) : Prop :=
  ∀ entry ∈ log.entries, entry.IsOf script

namespace Log

variable {script : List Statement} {log log' : Log}

theorem writesOf_append :
    (log ++ log').WritesOf script ↔ log.WritesOf script ∧ log'.WritesOf script := by
  rw [WritesOf, entries_append, List.forall_mem_append]
  rfl

theorem writesOf_nil : WritesOf script [] := List.forall_mem_nil _

theorem entries_unpolled (log : Log) : log.unpolled.entries = log.entries :=
  filterMap_unpolled rfl log

end Log

namespace Stage

variable {script : List Statement} {s : Statement} {attempt : Attempt}

theorem writesOf_raise (here : s ∈ script) (stage : Stage σ) (fault : Fault) :
    (stage.raise s.indent fault).WritesOf script :=
  List.forall_mem_singleton.mpr (.fault here fault)

theorem writesOf_judge (here : s ∈ script) (stage : Stage σ) (verdict : Verdict) :
    (stage.judge s.indent verdict).1.WritesOf script := by
  rw [judge]
  split
  · exact Log.writesOf_nil
  · exact writesOf_raise here stage _

theorem writesOf_settle {awaited : Awaited} (here : awaited.attempt.statement ∈ script)
    (stage : Stage σ) : (stage.settle awaited).1.WritesOf script := by
  obtain ⟨attempt, polls, verdict | _ | _⟩ := awaited
  · exact Log.writesOf_append.mpr ⟨writesOf_judge here stage verdict, Log.writesOf_nil⟩
  · exact writesOf_raise here stage _
  · exact Log.writesOf_nil

/-- Notes are made under the line that is carried out. -/
theorem writesOf_calledLog (here : attempt.statement ∈ script) (stage : Stage σ) (label : Label)
    (found : Found σ) (reply : Reply) :
    (stage.calledLog label attempt found reply).WritesOf script := by
  have noted : Log.WritesOf script (notes (stage.args label attempt found) reply) := by
    cases handed : (stage.args label attempt found).context with
    | none =>
        rw [notes, handed]
        exact Log.writesOf_nil
    | some context =>
        have same : context = stage.context label attempt := by
          rw [args, Args.supply] at handed
          split at handed
          · exact (Option.some.inj handed).symm
          · cases handed
        rw [notes, handed, same]
        intro entry written
        obtain ⟨event, among, wrote⟩ := List.mem_filterMap.mp written
        obtain ⟨text, -, rfl⟩ := List.mem_map.mp among
        cases wrote
        exact .note here text
  exact noted

/-- What a cue of a walk writes. -/
theorem writesOf_perform (stage : Stage σ) (cast : Cast σ) (label : Label) {cue : Cue}
    (origin : cue.IsOf script) : (stage.perform cast label cue).1.WritesOf script := by
  cases origin with
  | visit | rangeClosed | splicingBackground | replayingOutline => exact Log.writesOf_nil
  | header here => exact List.forall_mem_singleton.mpr (.cue (.header here))
  | step here fills => exact List.forall_mem_singleton.mpr (.cue (.step here fills))
  | raw here belongs fills tone =>
      exact List.forall_mem_singleton.mpr (.cue (.raw here belongs fills tone))
  | flaw here f => exact writesOf_raise here stage (.flaw f)
  | @attempt s fill here fills =>
      have carried : (s.filled fill).statement ∈ script := here
      have attempts := attempts_begin stage cast label (s.filled fill)
      rw [perform_eq_finish]
      generalize stage.begin cast label (.attempt (s.filled fill)) = begun at attempts ⊢
      cases attempts with
      | idle => exact Log.writesOf_nil
      | unprompted | unmatched => exact writesOf_raise carried stage _
      | asked => exact writesOf_settle carried _
      | @replied found reply =>
          have noted := writesOf_calledLog carried stage label found reply
          exact Log.writesOf_append.mpr ⟨noted, writesOf_judge carried _ _⟩
      | @suspended found reply =>
          have noted := writesOf_calledLog carried stage label found reply
          rw [Begun.finish, Log.writesOf_append, Log.writesOf_append]
          exact ⟨⟨noted, Log.writesOf_nil⟩, writesOf_settle carried _⟩

theorem writesOf_complete (stage : Stage σ) (cast : Cast σ) (label : Label) {cues : List Cue}
    (origins : ∀ cue ∈ cues, cue.IsOf script) :
    (stage.complete cast label cues).1.WritesOf script := by
  induction cues generalizing stage with
  | nil => exact Log.writesOf_nil
  | cons cue cues ih =>
      obtain ⟨origin, rest⟩ := List.forall_mem_cons.mp origins
      rw [complete_cons, Log.writesOf_append]
      exact ⟨writesOf_perform stage cast label origin, ih _ rest⟩

end Stage

/-- Whatever a run of a text writes comes from its script, however far the run gets. -/
theorem Interpreter.writesOf_runText (i : Interpreter σ) (label : Label) (mode : Mode) (host : σ)
    (text : String) : (i.runText label mode host text).log.WritesOf (i.script text) := by
  obtain ⟨rest, same, -⟩ := i.unpolled_runCues label mode host (i.cues label text)
  have whole := Stage.writesOf_complete { host } i.cast label
    (Walk.isOf_cues label (i.script text))
  change Log.WritesOf _ (Stage.complete _ _ _ (i.cues label text)).1 at whole
  rw [Log.WritesOf, ← Log.entries_unpolled, ← same, Log.entries_unpolled] at whole
  exact (Log.writesOf_append.mp whole).1

end Storyline

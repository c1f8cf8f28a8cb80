import Storyline.Proofs.Sessions
import Storyline.Step.Stub

/-!
# What outcomes leave alone

Of the entries of a transcript, notes and the faults of steps, signals and checks come from
what a run meets. All other entries come from the script: its lines, and its flaws. They are
the *marks* of a log. `Log.marks` keeps them in the order in which they are written, each flaw
at its place between the lines.

Each cue of a walk leaves its own mark or none, whatever comes of it (`Stage.marks_perform`), so
the marks of a run are those of its cues (`Interpreter.marks_runScript`). The cues depend on the
script and on the label alone.
-/

namespace Storyline

variable {σ τ : Type}

namespace Transcript

/-- Something that the script itself puts into a transcript. -/
inductive Mark where
  /-- A line as it is written without colours. -/
  | line (text : String)
  /-- A flaw that is recorded under a line with this indentation. -/
  | flaw (indent : String) (flaw : Flaw)
  deriving DecidableEq, Inhabited

/-- An entry in words, without colours. -/
def Entry.plain (entry : Entry) : String := entry.render none false

/-- The mark of an entry: a line, unless it is a note or the marker of a fault. Of the faults
only the flaws of the script are marks. -/
def Entry.mark? : Entry → Option Mark
  | .note _ _ => none
  | .fault indent (.flaw f) => some (.flaw indent f)
  | .fault _ _ => none
  | entry => some (.line entry.plain)

/-- Without colours an entry does not show whether a fault came before it. -/
theorem Entry.render_none (failed : Bool) (entry : Entry) :
    entry.render none failed = entry.plain := by
  cases entry with
  | raw text tone => cases failed <;> cases tone <;> rfl
  | header | step | note | fault => cases failed <;> rfl

end Transcript

/-- The mark that an event leaves. -/
def Event.mark? : Event → Option Transcript.Mark
  | wrote entry => entry.mark?
  | _ => none

/-- The mark that a cue leaves. -/
def Cue.mark? : Cue → Option Transcript.Mark
  | write entry => entry.mark?
  | flaw indent f => some (.flaw indent f)
  | _ => none

namespace Log

/-- The lines of the transcript without colours. -/
def lines (log : Log) : List String := log.entries.map Transcript.Entry.plain

/-- The transcript without colours. -/
def text (log : Log) : String := String.join (log.lines.map (· ++ "\n"))

/-- What the script has put into the transcript. -/
def marks (log : Log) : List Transcript.Mark := log.filterMap Event.mark?

@[simp] theorem marks_cons (event : Event) (log : Log) :
    marks (event :: log) = event.mark?.toList ++ log.marks :=
  filterMap_cons_toList _ event log

theorem marks_unpolled (log : Log) : log.unpolled.marks = log.marks := filterMap_unpolled rfl log

end Log

/-! ## Transcripts without colours -/

theorem Output.text_writeAll {out : Output} (plain : out.console? = none)
    (entries : List Transcript.Entry) :
    (out.writeAll entries).text =
      out.text ++ String.join (entries.map fun entry => entry.plain ++ "\n") := by
  induction entries generalizing out with
  | nil => simp [writeAll]
  | cons entry entries ih =>
      have plain' : (out.write entry).console? = none := plain
      change ((out.write entry).writeAll entries).text = _
      rw [ih plain', write, plain, Transcript.Entry.render_none]
      simp [String.append_assoc]

/-- Whether the transcript of a run shows the lines of its log without colours. -/
def Interpreter.ShowsLines (i : Interpreter σ) (run : Run σ) : Prop :=
  ∀ console, (i.report console run).transcript = run.log.text

theorem Interpreter.showsLines_of_never {i : Interpreter σ} (never : i.coloring = .never)
    (run : Run σ) : i.ShowsLines run := by
  intro console
  have plain : i.coloring.on console = none := by
    rw [never]
    rfl
  rw [report, Log.report, plain, Output.report, Output.text_writeAll rfl, Log.text, Log.lines,
    List.map_map]
  exact String.empty_append

/-! ## Marks of performances -/

namespace Stage

variable (stage : Stage σ) (cast : Cast σ) (label : Label)

theorem marks_raise (indent : String) (fault : Fault) :
    (stage.raise indent fault).marks = (Transcript.Entry.fault indent fault).mark?.toList := by
  simp only [raise, Log.marks_cons]
  exact List.append_nil _

/-- No fault that an attempt ends in is a flaw of the script. -/
theorem mark?_of_attempt (event : Event) (origin : event.IsOfAttempt) : event.mark? = none := by
  cases origin with
  | called | asked | note | told => rfl
  | @fault f kind indent => cases f <;> first | rfl | cases kind

/-- An attempt leaves no mark, whatever comes of it. -/
theorem marks_attempt (attempt : Attempt) :
    (stage.begin cast label (.attempt attempt)).finish.1.marks = [] :=
  filterMap_attempt mark?_of_attempt stage cast label attempt

/-- A cue leaves its mark, whatever comes of it. -/
theorem marks_perform (cue : Cue) :
    (stage.perform cast label cue).1.marks = cue.mark?.toList := by
  rw [perform_eq_finish]
  cases cue with
  | visit index => rfl
  | tell news => rfl
  | write entry =>
      have written := Log.marks_cons (.wrote entry) []
      exact written.trans (List.append_nil _)
  | flaw indent flaw => exact marks_raise stage indent (.flaw flaw)
  | attempt attempt => exact marks_attempt stage cast label attempt

theorem marks_complete (cues : List Cue) :
    (stage.complete cast label cues).1.marks = cues.filterMap Cue.mark? :=
  filterMap_complete (fun stage cue _ => marks_perform stage cast label cue) stage

end Stage

namespace Interpreter

/-- Runs a script. -/
def runScript (i : Interpreter σ) (label : Label) (mode : Mode) (host : σ)
    (script : List Statement) : Run σ :=
  i.runCues label mode host (Walk.cues label script)

variable {label : Label} {mode mode' : Mode} {host : σ} {host' : τ} {i : Interpreter σ}
  {j : Interpreter τ} {script : List Statement}

/-- A run that has come to its end has left the marks of its cues. -/
theorem marks_runScript (finished : (i.runScript label mode host script).finished = true) :
    (i.runScript label mode host script).log.marks =
      (Walk.cues label script).filterMap Cue.mark? := by
  obtain ⟨rest, same, ended⟩ := i.unpolled_runCues label mode host (Walk.cues label script)
  rw [ended finished, List.append_nil] at same
  rw [runScript, ← Log.marks_unpolled, same, Log.marks_unpolled, Stage.marks_complete]

/-- Two runs of a script that have come to their end leave the same lines, and the same flaws
at the same places between them, whatever their steps and prompts have done. If nothing is
painted, these are lines of the transcripts. -/
theorem marks_of_any_outcome (finished : (i.runScript label mode host script).finished = true)
    (finished' : (j.runScript label mode' host' script).finished = true)
    (never : i.coloring = .never) (never' : j.coloring = .never) :
    (i.runScript label mode host script).log.marks =
        (j.runScript label mode' host' script).log.marks ∧
      i.ShowsLines (i.runScript label mode host script) ∧
      j.ShowsLines (j.runScript label mode' host' script) := by
  refine ⟨?_, showsLines_of_never never _, showsLines_of_never never' _⟩
  rw [marks_runScript finished, marks_runScript finished']

/-- An interpreter that paints nothing, and whose prompt gives every check the same answer. -/
def answering (confirmed : Bool) : Interpreter Tally where
  cast := { prompt := some (Stub.prompt [] confirmed 0) }
  coloring := .never

/-- Two checks, and a table between them that belongs to nothing. -/
def hangingScript : List Statement := Script.parse .english "Scenario:\nAsk a\n\n|x|\nAsk b\n"

/-- Whether the first check is confirmed or declined, the flaw stands behind the table. -/
theorem marks_of_any_outcome_declined :
    ((answering true).runScript ⟨""⟩ .blocking {} hangingScript).finished = true ∧
      ((answering false).runScript ⟨""⟩ .blocking {} hangingScript).finished = true ∧
      ((answering true).runScript ⟨""⟩ .blocking {} hangingScript).log.faults =
        [.flaw .hangingTable] ∧
      ((answering false).runScript ⟨""⟩ .blocking {} hangingScript).log.faults =
        [.declined "a", .flaw .hangingTable] ∧
      ((answering true).runScript ⟨""⟩ .blocking {} hangingScript).log.marks =
        [.line "Scenario:", .line "Ask a", .line "", .line "|x|", .flaw "" .hangingTable,
          .line "Ask b"] ∧
      ((answering false).runScript ⟨""⟩ .blocking {} hangingScript).log.marks =
        [.line "Scenario:", .line "Ask a", .line "", .line "|x|", .flaw "" .hangingTable,
          .line "Ask b"] := by
  have finished (confirmed : Bool) :
      ((answering confirmed).runScript ⟨""⟩ .blocking {} hangingScript).finished = true := rfl
  have same := marks_of_any_outcome (finished true) (finished false) rfl rfl
  have marks : ((answering true).runScript ⟨""⟩ .blocking {} hangingScript).log.marks =
      [.line "Scenario:", .line "Ask a", .line "", .line "|x|", .flaw "" .hangingTable,
        .line "Ask b"] := by
    rw [marks_runScript (finished true), Walk.cues_eq_rounds]
    decide +kernel
  refine ⟨rfl, rfl, ?_, ?_, marks, same.1.symm.trans marks⟩
  · rw [runScript, Walk.cues_eq_rounds]
    decide +kernel
  · rw [runScript, Walk.cues_eq_rounds]
    decide +kernel

end Interpreter

end Storyline

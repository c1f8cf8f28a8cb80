import Storyline.Path
import Storyline.Run.Session
import Storyline.Script
import Storyline.Walk

/-!
# The interpreter

An interpreter runs feature files, given as texts or as paths. It reads the statements of
a script, walks through them for their cues, and has its cast perform the cues. Faults
never escape from a run: they are part of its log, also when the file cannot be read.

A run is either carried on to its end, or polled like a session, possibly with a limit on
the number of polls. The state of the host outlives the run.
-/

namespace Storyline

variable {σ : Type}

/-- What feature files are run with. -/
structure Interpreter (σ : Type) where
  /-- The words that lines begin with. -/
  vocabulary : Vocabulary := .english
  /-- Who carries out the steps. -/
  cast : Cast σ := {}
  /-- Whether transcripts are painted. -/
  coloring : Coloring := .auto

/-- What is run. -/
inductive Source where
  /-- The text of a feature file. -/
  | text (text : String)
  /-- The path of a feature file. Its extension may be left out. -/
  | path (path : String)

/-- How a run is carried on. -/
inductive Mode where
  /-- To its end, without interruption. -/
  | blocking
  /-- By polls, without a limit or with one. -/
  | polled (polls : Option Nat)

/-- What a run leaves behind. -/
structure Run (σ : Type) where
  /-- The resolved path of the file, for a run from a path. -/
  path : Option String := none
  /-- What has been done. -/
  log : Log
  /-- Whether the run has come to its end. -/
  finished : Bool
  /-- The state of the host afterwards. -/
  host : σ

namespace Interpreter

/-- The cues of a text. -/
def cues (i : Interpreter σ) (label : Label) (text : String) : List Cue :=
  Walk.cues label (Script.parse i.vocabulary text)

/-- Runs the cues of a text. -/
def runCues (i : Interpreter σ) (label : Label) (mode : Mode) (host : σ) (cues : List Cue) :
    Run σ :=
  match mode with
  | .blocking =>
      let (log, stage) := ({ host } : Stage σ).complete i.cast label cues
      { log, finished := true, host := stage.host }
  | .polled polls =>
      let (log, session) :=
        ({ stage := { host }, todo := cues } : Session σ).drive i.cast label polls
      { log, finished := session.isFinished && polls != some 0, host := session.stage.host }

/-- Runs a text. -/
def runText (i : Interpreter σ) (label : Label) (mode : Mode) (host : σ) (text : String) : Run σ :=
  i.runCues label mode host (i.cues label text)

/-- Whether a run in this mode is begun at all. -/
def isBegun : Mode → Bool
  | .polled (some 0) => false
  | _ => true

/-- Runs the file at a path. `read` gives the text of a file, or the reason why there is
none. The run is known by the resolved path, and the script is loaded from there. The end of
the run is told, together with its verdict. -/
def runPath (i : Interpreter σ) (label : Label) (mode : Mode) (host : σ)
    (read : String → Except String String) (path : String) : Run σ :=
  let path := Path.resolve path
  if !isBegun mode then { path, log := [], finished := false, host }
  else
    match Script.load i.vocabulary read path with
    | .error fault =>
        { path
          log := [.wrote (.fault "" fault), .told (.finished false)]
          finished := true
          host }
    | .ok script =>
        let run := i.runCues label mode host (Walk.cues label script)
        let ending : Log := if run.finished then [.told (.finished !run.log.isFailed)] else []
        { run with path, log := run.log ++ ending }

/-- Runs a source. -/
def run (i : Interpreter σ) (label : Label) (mode : Mode) (host : σ)
    (read : String → Except String String) : Source → Run σ
  | .text text => i.runText label mode host text
  | .path path => i.runPath label mode host read path

/-- The verdict on a run, with the transcript as it is shown on a console. -/
def report (i : Interpreter σ) (console : Console) (run : Run σ) : Report :=
  run.log.report (i.coloring.on console)

end Interpreter

end Storyline

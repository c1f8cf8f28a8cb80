import Storyline.Transcript
import Storyline.Statement

/-!
# Cues

Walking through a script gives *cues*: the lines to write, the steps and checks to
attempt, the flaws to record, and what to tell about the walk itself. The cues depend on
the script and on the label, and on nothing that a step or a prompt does.
-/

namespace Storyline

/-- A block whose lines are recorded for later. -/
inductive Recorded where
  /-- The steps that go before each scenario. -/
  | background
  /-- The steps that are replayed for each row of examples. -/
  | outline
  deriving DecidableEq, Inhabited

/-- The recorded block for a reader. -/
def Recorded.display : Recorded → String
  | background => "Background"
  | outline => "Outline"

/-- What is told about a run while it goes on. -/
inductive Trace where
  /-- A recorded block has ended: its first index and its number of statements. -/
  | rangeClosed (block : Recorded) (start length : Nat)
  /-- The background goes before the scenario in this line. -/
  | splicingBackground (line : Nat)
  /-- The outline is replayed for this row. -/
  | replayingOutline (row : Nat)
  /-- The step in this line has returned a signal. -/
  | suspended (line : Nat)
  /-- The signal of the step in this line is there. -/
  | resumed (line : Nat)
  /-- The check in this line has been put to the prompt. -/
  | waiting (line : Nat)
  /-- The first fault. -/
  | runFailed (fault : Fault)
  /-- A fault after the first one. -/
  | faultAfterFailure (fault : Fault)
  /-- The run of a file has ended. -/
  | finished (success : Bool)
  deriving DecidableEq, Inhabited

/-- How much a piece of news matters. -/
inductive Level where
  /-- For who looks into the run. -/
  | debug
  /-- For who follows the run. -/
  | info
  /-- For who has to act. -/
  | warn
  deriving DecidableEq, Inhabited

namespace Trace

/-- How much the news matters. -/
def level : Trace → Level
  | runFailed _ => .warn
  | finished _ => .info
  | _ => .debug

/-- The news without its particulars. -/
def message : Trace → String
  | rangeClosed _ _ _ => "range closed"
  | splicingBackground _ => "splicing background"
  | replayingOutline _ => "replaying outline"
  | suspended _ => "suspended on completion signal"
  | resumed _ => "resumed"
  | waiting _ => "waiting for an answer"
  | runFailed _ => "run failed"
  | faultAfterFailure _ => "error after failure"
  | finished _ => "feature finished"

/-- The fault that the news is about, if it is about one. -/
def fault? : Trace → Option Fault
  | runFailed fault | faultAfterFailure fault => some fault
  | _ => none

end Trace

/-- A step or a check to be carried out, with its placeholders filled in. -/
structure Attempt where
  /-- The statement that is carried out. -/
  statement : Statement
  /-- Its body. -/
  text : String
  /-- Its doc-string. -/
  docString : Option String
  /-- Its table. -/
  table : Option Table
  deriving DecidableEq, Inhabited

/-- What a walk asks for. -/
inductive Cue where
  /-- The walk has come to the statement with this index. -/
  | visit (index : Nat)
  /-- A line to be written. -/
  | write (entry : Transcript.Entry)
  /-- A step or a check to be carried out. -/
  | attempt (attempt : Attempt)
  /-- A flaw to be recorded under a line with this indentation. -/
  | flaw (indent : String) (flaw : Flaw)
  /-- News of the walk. -/
  | tell (news : Trace)
  deriving DecidableEq, Inhabited

end Storyline

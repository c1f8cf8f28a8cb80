import Storyline.Step.Definition
import Storyline.Walk.Cue

/-!
# The log of a run

All that a run does is one sequence of events. The transcript, the trace, the calls and
the verdict are views of it: each is the log with the other events left out.
-/

namespace Storyline

/-- Something that a run does. -/
inductive Event where
  /-- It comes to the statement with this index. -/
  | visited (index : Nat)
  /-- It writes a line. -/
  | wrote (entry : Transcript.Entry)
  /-- It calls the definition with this place in its collection. -/
  | called (attempt : Attempt) (index : Nat) (args : Args)
  /-- It gets the answer to a manual check. -/
  | asked (attempt : Attempt) (confirmed : Bool)
  /-- It is polled and has to wait on. -/
  | pending
  /-- It tells news. -/
  | told (news : Trace)
  deriving DecidableEq, Inhabited

/-- What a run does, in order. -/
abbrev Log := List Event

namespace Log

/-- The lines that are written. -/
def entries (log : Log) : List Transcript.Entry :=
  log.filterMap fun | .wrote entry => some entry | _ => none

/-- The news that is told. -/
def trace (log : Log) : List Trace :=
  log.filterMap fun | .told news => some news | _ => none

/-- The indices of the statements in the order of the visits. -/
def visits (log : Log) : List Nat :=
  log.filterMap fun | .visited index => some index | _ => none

/-- The faults that are written. -/
def faults (log : Log) : List Fault := log.entries.filterMap Transcript.Entry.fault?

/-- Whether a fault is written. -/
def isFailed (log : Log) : Bool := !log.faults.isEmpty

/-- The verdict of a run, with its transcript. -/
def report (console? : Option Console) (log : Log) : Report :=
  (Output.writeAll { console? } log.entries).report

@[simp] theorem entries_append (log log' : Log) :
    (log ++ log').entries = log.entries ++ log'.entries := List.filterMap_append

@[simp] theorem trace_append (log log' : Log) :
    (log ++ log').trace = log.trace ++ log'.trace := List.filterMap_append

@[simp] theorem visits_append (log log' : Log) :
    (log ++ log').visits = log.visits ++ log'.visits := List.filterMap_append

@[simp] theorem faults_append (log log' : Log) :
    (log ++ log').faults = log.faults ++ log'.faults := by
  simp [faults]

end Log

end Storyline

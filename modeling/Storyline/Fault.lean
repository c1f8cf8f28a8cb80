/-!
# Faults

A fault is what can go wrong in a run. No fault ends a run: each is written into the
transcript where it arises, and the first one becomes the verdict.

Faults of the script itself are `Flaw`s. They depend on the script alone, while all
other faults depend on the steps, the prompt or the file system.
-/

namespace Storyline

/-- What is wrong with a script, whatever the steps do. -/
inductive Flaw where
  /-- An examples header with no outline steps to replay. -/
  | examplesWithoutOutline
  /-- An examples header with no table attached. -/
  | examplesWithoutTable
  /-- A table line that belongs to no step and no examples header. -/
  | hangingTable
  /-- A doc-string that belongs to no step. -/
  | hangingDocString
  deriving DecidableEq, Inhabited

/-- A failure that a step reports: a message, and what was going on around it. -/
structure Failure where
  /-- What failed. -/
  message : String
  /-- The circumstances, from the innermost to the outermost. -/
  context : List String := []
  deriving DecidableEq, Inhabited

/-- What a step that panics leaves behind. -/
inductive Panic where
  /-- A text. -/
  | text (message : String)
  /-- Something that is no text. -/
  | other
  deriving DecidableEq, Inhabited

/-- What can go wrong in a run. -/
inductive Fault where
  /-- The file at `path` could not be read. -/
  | unreadable (path cause : String)
  /-- No definition matches a step. -/
  | noMatch (text : String)
  /-- A step, or the signal that it returned, failed. -/
  | failed (failure : Failure)
  /-- A step, or the signal that it returned, panicked. -/
  | panicked (message : String)
  /-- The script has a flaw. -/
  | flaw (f : Flaw)
  /-- A manual check was answered with no. -/
  | declined (question : String)
  /-- There is no prompt to put a manual check to. -/
  | noPrompt (question : String)
  deriving DecidableEq, Inhabited

/-- The flaw in words. -/
def Flaw.message : Flaw → String
  | examplesWithoutOutline => "Examples without a Scenario Outline"
  | examplesWithoutTable => "Expecting a data table"
  | hangingTable => "Hanging Data Table line"
  | hangingDocString => "Hanging Doc String"

/-- The failure in words: the circumstances from the outermost inwards, then what failed. -/
def Failure.display (failure : Failure) : String :=
  String.intercalate ": " (failure.context.reverse ++ [failure.message])

/-- What is known of a panic. -/
def Panic.message : Panic → String
  | text message => message
  | other => "opaque panic payload"

namespace Fault

/-- The fault that a panic is recorded as. -/
def ofPanic (panic : Panic) : Fault := .panicked panic.message

/-- The fault in words. -/
def message : Fault → String
  | unreadable path cause => "Failed to read `" ++ path ++ "`: " ++ cause
  | noMatch text => "No matching definition for: " ++ text
  | failed failure => failure.display
  | panicked message => "Step panicked: " ++ message
  | flaw f => f.message
  | declined question => "Not confirmed: " ++ question
  | noPrompt question => "No prompt configured to ask: " ++ question

/-- The cause of a fault in words, where it has one of its own. -/
def cause? : Fault → Option String
  | unreadable _ cause => some cause
  | _ => none

/-- Whether the fault is one of the script itself. -/
def isFlaw : Fault → Bool
  | flaw _ => true
  | _ => false

end Fault

end Storyline

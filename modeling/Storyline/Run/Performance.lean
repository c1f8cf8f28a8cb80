import Storyline.Label
import Storyline.Run.Log

/-!
# Performing cues

A cue is performed on a *stage*: the state of the host, and whether a fault has been
recorded. Performing a cue has two phases. `begin` writes, calls and asks; when a step
returns a signal, or a question has been asked, something is awaited. `settle` takes what
has been awaited.

After the first fault nothing is attempted any more, while lines are still written and
flaws are still recorded.

`complete` performs cue after cue to the end, where waiting takes no time. Being polled
instead is the business of a session.
-/

namespace Storyline

variable {σ : Type}

/-- Who carries out a script: the definitions of steps, and the prompt if there is one. -/
structure Cast (σ : Type) where
  /-- The definitions; of those that match a step the first one is called. -/
  definitions : List (Definition σ) := []
  /-- Who answers manual checks. -/
  prompt : Option (Prompt σ) := none

/-- What performing goes by and changes. -/
structure Stage (σ : Type) where
  /-- The state of the host. -/
  host : σ
  /-- Whether a fault has been recorded. -/
  failed : Bool := false

/-- What a run waits for. -/
inductive Outcome where
  /-- The signal of a step. -/
  | signal (verdict : Verdict)
  /-- The answer to a manual check. -/
  | answer (confirmed : Bool)
  deriving DecidableEq, Inhabited

/-- Something that a run waits for. -/
structure Awaited where
  /-- The step or the check. -/
  attempt : Attempt
  /-- For how many polls it stays pending. -/
  polls : Nat
  /-- What comes in the end. -/
  outcome : Outcome
  deriving DecidableEq, Inhabited

/-- What comes of beginning a cue. -/
structure Begun (σ : Type) where
  /-- What is done. -/
  log : Log := []
  /-- The stage afterwards. -/
  stage : Stage σ
  /-- What is awaited before the next cue. -/
  awaited : Option Awaited := none

namespace Stage

/-- The stage after a fault. -/
def fail (stage : Stage σ) : Stage σ := { stage with failed := true }

/-- Records a fault: it is told and written under a line with this indentation. -/
def raise (stage : Stage σ) (indent : String) (fault : Fault) : Log :=
  [.told (if stage.failed then .faultAfterFailure fault else .runFailed fault),
    .wrote (.fault indent fault)]

/-- Records the fault of a verdict, if it is one. -/
def judge (stage : Stage σ) (indent : String) (verdict : Verdict) : Log × Stage σ :=
  match verdict.fault? with
  | none => ([], stage)
  | some fault => (stage.raise indent fault, stage.fail)

/-- The context of an attempt. -/
def context (stage : Stage σ) (label : Label) (attempt : Attempt) : Context where
  statement := attempt.statement
  text := attempt.text
  label := label.text
  failed := stage.failed

/-- The notes of a reply, written through the context if there is one. -/
def notes (args : Args) (reply : Reply) : Log :=
  match args.context with
  | none => []
  | some context => reply.notes.map fun text => .wrote (.note context.statement.indent text)

/-- What is handed to a definition that matches an attempt. -/
def args (stage : Stage σ) (label : Label) (attempt : Attempt) (found : Found σ) : Args :=
  Args.supply found.definition.params found.captures attempt.docString attempt.table
    (stage.context label attempt)

/-- Calls the definition that matches a step. -/
def call (stage : Stage σ) (label : Label) (attempt : Attempt) (found : Found σ) : Begun σ :=
  let args := stage.args label attempt found
  let (reply, host) := found.definition.call args stage.host
  let stage := { stage with host }
  let done : Log := .called attempt found.index args :: notes args reply
  match reply.completion with
  | .now verdict =>
      let (log, stage) := stage.judge attempt.statement.indent verdict
      { log := done ++ log, stage }
  | .later polls verdict =>
      { log := done ++ [.told (.suspended attempt.statement.number)]
        stage
        awaited := some { attempt, polls, outcome := .signal verdict } }

/-- Carries out a step: the first definition that matches its text is called. -/
def runStep (stage : Stage σ) (cast : Cast σ) (label : Label) (attempt : Attempt) : Begun σ :=
  match Definition.find? cast.definitions attempt.text with
  | none =>
      { log := stage.raise attempt.statement.indent (.noMatch attempt.text), stage := stage.fail }
  | some found => stage.call label attempt found

/-- Carries out a manual check: the prompt is asked. -/
def runCheck (stage : Stage σ) (cast : Cast σ) (attempt : Attempt) : Begun σ :=
  match cast.prompt with
  | none =>
      { log := stage.raise attempt.statement.indent (.noPrompt attempt.text), stage := stage.fail }
  | some prompt =>
      let (answer, host) := prompt.ask attempt.text stage.host
      { log := [.told (.waiting attempt.statement.number)]
        stage := { stage with host }
        awaited := some { attempt, polls := answer.polls, outcome := .answer answer.confirmed } }

/-- Begins a cue. Nothing is attempted after a fault. -/
def begin (stage : Stage σ) (cast : Cast σ) (label : Label) : Cue → Begun σ
  | .visit index => { log := [.visited index], stage }
  | .write entry => { log := [.wrote entry], stage }
  | .tell news => { log := [.told news], stage }
  | .flaw indent flaw => { log := stage.raise indent (.flaw flaw), stage := stage.fail }
  | .attempt attempt =>
      if stage.failed then { stage }
      else if attempt.statement.kind = .ask then stage.runCheck cast attempt
      else stage.runStep cast label attempt

/-- Takes what has been awaited. -/
def settle (stage : Stage σ) (awaited : Awaited) : Log × Stage σ :=
  let line := awaited.attempt.statement
  match awaited.outcome with
  | .signal verdict =>
      let (log, stage) := stage.judge line.indent verdict
      (log ++ [.told (.resumed line.number)], stage)
  | .answer true => ([.asked awaited.attempt true], stage)
  | .answer false =>
      (.asked awaited.attempt false ::
        stage.raise line.indent (.declined awaited.attempt.text), stage.fail)

/-- Performs a cue to its end. -/
def perform (stage : Stage σ) (cast : Cast σ) (label : Label) (cue : Cue) : Log × Stage σ :=
  let begun := stage.begin cast label cue
  match begun.awaited with
  | none => (begun.log, begun.stage)
  | some awaited =>
      let (log, stage) := begun.stage.settle awaited
      (begun.log ++ log, stage)

/-- Performs cues to the end of the last one. -/
def complete (stage : Stage σ) (cast : Cast σ) (label : Label) : List Cue → Log × Stage σ
  | [] => ([], stage)
  | cue :: cues =>
      let (log, stage) := stage.perform cast label cue
      let (rest, stage) := stage.complete cast label cues
      (log ++ rest, stage)

end Stage

end Storyline

import Storyline.Fault
import Storyline.Pattern
import Storyline.Step.Args

/-!
# Step definitions and prompts

A definition ties a pattern to a callable. Callables may remember things: each call and
each question passes on the state `σ` of the host, which all definitions and the prompt
share and which outlives a run.

A callable replies with its notes and its completion. It is either done at once, with a
verdict, or it returns a signal that stays pending for a number of polls before the
verdict is there. A signal that is ready at once is still a signal.
-/

namespace Storyline

variable {σ : Type}

/-- How a step came out. -/
inductive Verdict where
  /-- It succeeded. -/
  | done
  /-- It failed. -/
  | failed (failure : Failure)
  /-- It panicked. -/
  | panicked (panic : Panic)
  deriving DecidableEq, Inhabited

/-- The fault of a verdict, if it is one. -/
def Verdict.fault? : Verdict → Option Fault
  | done => none
  | failed failure => some (.failed failure)
  | panicked panic => some (.ofPanic panic)

/-- When a step came out. -/
inductive Completion where
  /-- At once. -/
  | now (verdict : Verdict)
  /-- Once a signal has been pending for so many polls. -/
  | later (polls : Nat) (verdict : Verdict)
  deriving DecidableEq, Inhabited

/-- How a step came out, whenever that was. -/
def Completion.verdict : Completion → Verdict
  | now verdict | later _ verdict => verdict

/-- What a callable replies. -/
structure Reply where
  /-- The notes for the transcript. They need a context to be written through. -/
  notes : List String := []
  /-- How and when the step came out. -/
  completion : Completion := .now .done
  deriving DecidableEq, Inhabited

/-- A pattern and what is done where it matches. -/
structure Definition (σ : Type) where
  /-- The texts it stands for. -/
  pattern : Pattern
  /-- What the callable is handed. -/
  params : List Param
  /-- The callable. -/
  call : Args → σ → Reply × σ

/-- The answer to a manual check. -/
structure Answer where
  /-- For how many polls the question stays pending. -/
  polls : Nat := 0
  /-- Whether the check is confirmed. -/
  confirmed : Bool
  deriving DecidableEq, Inhabited

/-- Who answers manual checks. -/
structure Prompt (σ : Type) where
  /-- Answers a question. -/
  ask : String → σ → Answer × σ

/-- A definition that matches a text. -/
structure Found (σ : Type) where
  /-- The place of the definition in its collection, counted from zero. -/
  index : Nat
  /-- The definition. -/
  definition : Definition σ
  /-- What the groups of its pattern match. -/
  captures : List String

namespace Definition

/-- The first definition that matches, where the first one in the list has place `index`. -/
def findFrom (index : Nat) (text : String) : List (Definition σ) → Option (Found σ)
  | [] => none
  | definition :: rest =>
      match definition.pattern.captures text with
      | some captures => some { index, definition, captures }
      | none => findFrom (index + 1) text rest

/-- The first definition of a collection that matches a text. -/
def find? (definitions : List (Definition σ)) (text : String) : Option (Found σ) :=
  findFrom 0 text definitions

end Definition

end Storyline

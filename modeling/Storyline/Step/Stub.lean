import Storyline.Step.Definition

/-!
# Stubs

A stub stands in for a step that does not exist yet, so that a script can be rehearsed
before there is anything to run it against. It replies what its author has laid down,
either on every call or on one call only, and a stubbed prompt reads its answers from a
list. The host of stubs counts the calls of each stub and the questions.
-/

namespace Storyline

/-- How often each stub has been called, and how many questions have been asked. -/
structure Tally where
  /-- The number of calls of each stub, by its place. -/
  calls : List Nat := []
  /-- The number of questions. -/
  questions : Nat := 0
  deriving DecidableEq, Inhabited

namespace Tally

/-- The number of calls of one stub. -/
def callsOf (tally : Tally) (index : Nat) : Nat := tally.calls.getD index 0

/-- Counts a call of one stub. -/
def count (tally : Tally) (index : Nat) : Tally :=
  let calls := tally.calls ++ List.replicate (index + 1 - tally.calls.length) 0
  { tally with calls := calls.set index (tally.callsOf index + 1) }

end Tally

/-- What a stub replies. -/
structure Stub where
  /-- The reply. -/
  reply : Reply := {}
  /-- The only call, counted from one, that the completion of the reply is meant for.
  Any other call is done at once; the notes are made on every call. -/
  onlyCall : Option Nat := none

namespace Stub

/-- The reply to the call with this number. -/
def replyTo (stub : Stub) (call : Nat) : Reply :=
  match stub.onlyCall with
  | some n => if n = call then stub.reply else { stub.reply with completion := .now .done }
  | none => stub.reply

/-- The stub as the definition with this place in its collection. -/
def define (stub : Stub) (pattern : Pattern) (params : List Param) (index : Nat) :
    Definition Tally where
  pattern := pattern
  params := params
  call _ tally :=
    let tally := tally.count index
    (stub.replyTo (tally.callsOf index), tally)

/-- A prompt that reads its answers from a list, and answers `fallback` when the list is
used up. Each question stays pending for the same number of polls. -/
def prompt (answers : List Bool) (fallback : Bool) (polls : Nat) : Prompt Tally where
  ask _ tally :=
    ({ polls, confirmed := answers.getD tally.questions fallback },
      { tally with questions := tally.questions + 1 })

end Stub

end Storyline

import Storyline.Run.Performance

/-!
# Sessions

A session is a run that can be left and taken up again. It is polled: one poll carries it
on until it has to wait, or to its end. While something is awaited each poll finds it
pending, as often as it was laid down, and the poll after that takes the session on.

A session that is dropped after a number of polls has done what it did up to the pending
poll with that number, and nothing else.
-/

namespace Storyline

variable {σ : Type}

/-- A run in progress. -/
structure Session (σ : Type) where
  /-- The stage. -/
  stage : Stage σ
  /-- What is awaited. -/
  awaited : Option Awaited := none
  /-- The cues that are left. -/
  todo : List Cue

namespace Session

/-- Whether the next poll finds the session pending. -/
def isPending (session : Session σ) : Bool :=
  match session.awaited with
  | none => false
  | some awaited => awaited.polls != 0

/-- One step of a session, or nothing when it has ended. -/
def next? (session : Session σ) (cast : Cast σ) (label : Label) : Option (Log × Session σ) :=
  match session.awaited with
  | some awaited =>
      match awaited.polls with
      | polls + 1 => some ([.pending], { session with awaited := some { awaited with polls } })
      | 0 =>
          let (log, stage) := session.stage.settle awaited
          some (log, { session with stage, awaited := none })
  | none =>
      match session.todo with
      | [] => none
      | cue :: todo =>
          let begun := session.stage.begin cast label cue
          some (begun.log, { stage := begun.stage, awaited := begun.awaited, todo })

/-- What is left of a session: the cues, and what is awaited before them. -/
def measure (session : Session σ) : Nat × Nat :=
  (session.todo.length,
    match session.awaited with
    | none => 0
    | some awaited => awaited.polls + 1)

theorem next_smaller {session next : Session σ} {cast : Cast σ} {label : Label} {log : Log}
    (h : session.next? cast label = some (log, next)) :
    Prod.Lex (· < ·) (· < ·) next.measure session.measure := by
  unfold next? at h
  split at h
  · rename_i awaited hawaited
    split at h
    · rename_i polls hpolls
      obtain ⟨-, rfl⟩ := Prod.mk.inj (Option.some.inj h)
      simp only [measure, hawaited, hpolls]
      exact Prod.Lex.right _ (by omega)
    · obtain ⟨-, rfl⟩ := Prod.mk.inj (Option.some.inj h)
      simp only [measure, hawaited]
      exact Prod.Lex.right _ (by omega)
  · split at h
    · cases h
    · rename_i cue todo htodo
      obtain ⟨-, rfl⟩ := Prod.mk.inj (Option.some.inj h)
      simp only [measure, htodo, List.length_cons]
      exact Prod.Lex.left _ _ (by omega)

/-- Polls a session, at most `polls` times or until it ends. The log says what it does, and
the session what is left of it. -/
def drive (session : Session σ) (cast : Cast σ) (label : Label) (polls : Option Nat) :
    Log × Session σ :=
  if polls = some 0 then ([], session)
  else
    match _h : session.next? cast label with
    | none => ([], session)
    | some (log, next) =>
        let left := if session.isPending then polls.map (· - 1) else polls
        let (rest, last) := drive next cast label left
        (log ++ rest, last)
termination_by session.measure
decreasing_by exact next_smaller _h

/-- Whether the session has come to its end. -/
def isFinished (session : Session σ) : Bool := session.awaited.isNone && session.todo.isEmpty

end Session

end Storyline

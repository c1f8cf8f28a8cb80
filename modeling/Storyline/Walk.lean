import Storyline.Walk.Cursor

/-!
# The cues of a script

`Walk.cues` walks through a script from its beginning to its end. The walk needs no
limit: every step makes `Cursor.measure` smaller in the lexicographic order.

* Outside of replays the cursor only moves forward. A replay comes back behind the header
  that started it, so it counts as half a line.
* Inside a replay each further row leaves fewer rows below it.
* Within one row the cursor moves forward.
-/

namespace Storyline

namespace Cursor

/-- What is left of a walk through a script of `size` statements: twice the lines to be
passed outside of replays, less one inside a replay; the rows still to be picked out; and
the lines up to the end of the script. -/
def measure (size : Nat) (c : Cursor) : Nat × Nat × Nat :=
  ((match c.replay with
    | none => 2 * (size - c.line)
    | some replay => max 1 (2 * (size - replay.home) - 1)),
    (match c.rows with
    | none => 0
    | some rows => rows.below),
    size - c.line)

/-- The order in which measures become smaller. -/
abbrev Smaller : Nat × Nat × Nat → Nat × Nat × Nat → Prop :=
  Prod.Lex (· < ·) (Prod.Lex (· < ·) (· < ·))

/-- What a visit does outside of replays: it passes the line, or it starts a replay that
has its home in this line. -/
def Passed (c next : Cursor) : Prop :=
  (next.replay = none ∧ next.line = c.line + 1) ∨ ∃ stop, next.replay = some ⟨c.line, stop⟩

@[simp] theorem close_line (c : Cursor) : c.close.2.line = c.line := by
  rw [close]
  split
  · rfl
  · rename_i block _; cases block <;> rfl

@[simp] theorem close_replay (c : Cursor) : c.close.2.replay = c.replay := by
  rw [close]
  split
  · rfl
  · rename_i block _; cases block <;> rfl

@[simp] theorem close_rows (c : Cursor) : c.close.2.rows = c.rows := by
  rw [close]
  split
  · rfl
  · rename_i block _; cases block <;> rfl

@[simp] theorem scope_line (c : Cursor) (s : Statement) : (c.scope s).line = c.line := by
  rw [scope]; split <;> rfl

@[simp] theorem scope_replay (c : Cursor) (s : Statement) : (c.scope s).replay = c.replay := by
  rw [scope]; split <;> rfl

@[simp] theorem scope_rows (c : Cursor) (s : Statement) : (c.scope s).rows = c.rows := by
  rw [scope]; split <;> rfl

@[simp] theorem advance_line (c : Cursor) : c.advance.line = c.line + 1 := rfl
@[simp] theorem advance_replay (c : Cursor) : c.advance.replay = c.replay := rfl
@[simp] theorem advance_rows (c : Cursor) : c.advance.rows = c.rows := rfl
@[simp] theorem leaveExamples_line (c : Cursor) : c.leaveExamples.line = c.line := rfl
@[simp] theorem leaveExamples_replay (c : Cursor) : c.leaveExamples.replay = c.replay := rfl

theorem passed_advance {c : Cursor} (h : c.replay = none) : Passed c c.advance := .inl ⟨h, rfl⟩

theorem passed_enter (c : Cursor) (range : Range) : Passed c (c.enter range) := .inr ⟨_, rfl⟩

theorem passed_readScenario {c : Cursor} (h : c.replay = none) (s : Statement) :
    Passed c (c.readScenario s).2 := by
  rw [readScenario]
  split
  · exact passed_advance h
  · exact passed_enter c _

theorem passed_readExamples {c : Cursor} (h : c.replay = none) (s : Statement) :
    Passed c (c.readExamples s).2 := by
  rw [readExamples]
  dsimp only
  split
  · exact .inl ⟨h, rfl⟩
  · split
    · exact .inl ⟨h, rfl⟩
    · split
      · exact .inl ⟨h, rfl⟩
      · exact .inr ⟨_, rfl⟩

theorem passed_read {c : Cursor} (h : c.replay = none) (s : Statement) : Passed c (c.read s).2 := by
  rw [Cursor.read]
  split
  all_goals first
    | exact passed_advance h
    | exact passed_readScenario h s
    | exact passed_readExamples h s

theorem passed_look {c : Cursor} (h : c.replay = none) (label : Label) (s : Statement) :
    Passed c (c.look label s).2 := by
  have hs : (c.scope s).replay = none := by rw [scope_replay, h]
  have lift {next : Cursor} (p : Passed (c.scope s) next) : Passed c next := by
    simpa only [Passed, scope_line] using p
  rw [look]
  split
  · exact lift (passed_advance hs)
  · split
    · exact lift (passed_read hs s)
    · refine lift (.inl ?_)
      rw [Cursor.pass]
      split <;> exact ⟨hs, rfl⟩

@[simp] theorem closeBefore_line (c : Cursor) (s : Statement) :
    (c.closeBefore s).2.line = c.line := by
  rw [closeBefore]; split <;> simp

@[simp] theorem closeBefore_replay (c : Cursor) (s : Statement) :
    (c.closeBefore s).2.replay = c.replay := by
  rw [closeBefore]; split <;> simp

@[simp] theorem closeBefore_rows (c : Cursor) (s : Statement) :
    (c.closeBefore s).2.rows = c.rows := by
  rw [closeBefore]; split <;> simp

/-- Outside of replays a visit passes the line or starts a replay at it. -/
theorem passed_visit {c : Cursor} (h : c.replay = none) (label : Label) (s : Statement) :
    Passed c (c.visit label s).2 := by
  have closed : (c.closeBefore s).2.replay = none := by rw [closeBefore_replay, h]
  have p := passed_look closed label s
  simp only [visit, lookWhere, closed, Option.isSome_none, Bool.false_and, Bool.false_eq_true,
    if_false]
  simpa only [Passed, closeBefore_line] using p

/-- A look at an executable line changes neither the replay nor the row in turn. -/
theorem look_executable {c : Cursor} {s : Statement} (hs : s.kind.isExecutable = true)
    (label : Label) : (c.look label s).2 = c.advance := by
  unfold look scope pass read
  revert hs
  cases s.kind <;> simp [Keyword.isExecutable] <;> split <;> rfl

/-- Inside a replay a visit moves forward, and no more. -/
theorem visit_replaying {c : Cursor} (h : c.replay.isSome = true) (label : Label)
    (s : Statement) :
    (c.visit label s).2.replay = c.replay ∧ (c.visit label s).2.rows = c.rows ∧
      (c.visit label s).2.line = c.line + 1 := by
  have moved : ((c.closeBefore s).2.lookWhere label s).2 = (c.closeBefore s).2.advance := by
    rw [lookWhere]
    split
    · rfl
    · rename_i hs
      rw [closeBefore_replay, h, Bool.true_and, Bool.not_eq_true', Bool.not_eq_false] at hs
      exact look_executable hs label
  simp [visit, moved]

/-- Going on behind the end of a replay makes the measure smaller. -/
theorem goOn_smaller {c : Cursor} {replay : Replay} (h : c.replay = some replay) (size : Nat) :
    Smaller ((c.goOn replay).2.measure size) (c.measure size) := by
  rw [goOn]
  split
  · rename_i rows hrows
    split
    · rename_i next hnext
      simp only [measure, h, hrows]
      exact Prod.Lex.right _ (Prod.Lex.left _ _ (Rows.below_lt_of_next? hnext))
    · simp only [measure, h]
      exact Prod.Lex.left _ _ (by omega)
  · simp only [measure, h]
    exact Prod.Lex.left _ _ (by omega)

/-- Visiting a statement of the script makes the measure smaller. -/
theorem visit_smaller {c : Cursor} {size : Nat} (h : c.line < size) (label : Label)
    (s : Statement) : Smaller ((c.visit label s).2.measure size) (c.measure size) := by
  cases hreplay : c.replay with
  | none =>
      rcases passed_visit hreplay label s with ⟨hnone, hline⟩ | ⟨stop, hsome⟩
      · simp only [measure, hnone, hreplay, hline]
        exact Prod.Lex.left _ _ (by omega)
      · simp only [measure, hsome, hreplay]
        exact Prod.Lex.left _ _ (by omega)
  | some replay =>
      obtain ⟨hsame, hrows, hline⟩ :=
        visit_replaying (c := c) (by rw [hreplay]; rfl) label s
      simp only [measure, hsame, hrows, hline, hreplay]
      exact Prod.Lex.right _ (Prod.Lex.right _ (by omega))

/-- Every step of a walk makes the measure smaller. -/
theorem next_smaller {c next : Cursor} {label : Label} {script : List Statement}
    {cues : List Cue} (h : c.next? label script = some (cues, next)) :
    Smaller (next.measure script.length) (c.measure script.length) := by
  have visited {h : script[c.line]?.map (c.visit label) = some (cues, next)} :
      Smaller (next.measure script.length) (c.measure script.length) := by
    obtain ⟨s, hs, hvisit⟩ := Option.map_eq_some_iff.1 h
    have inside := (List.getElem?_eq_some_iff.1 hs).1
    have smaller := visit_smaller inside label s
    rwa [hvisit] at smaller
  rw [next?] at h
  split at h
  · rename_i replay hreplay
    split at h
    · have smaller := goOn_smaller hreplay script.length
      rwa [Option.some.inj h] at smaller
    · exact visited (h := h)
  · exact visited (h := h)

end Cursor

namespace Walk

/-- The cues of a walk from a cursor to the end of the script, where the block that is
being recorded ends as well. -/
def cuesFrom (label : Label) (script : List Statement) (c : Cursor) : List Cue :=
  match _h : c.next? label script with
  | none => c.close.1
  | some (cues, next) => cues ++ cuesFrom label script next
termination_by c.measure script.length
decreasing_by exact Cursor.next_smaller _h

/-- The cues of a script. -/
def cues (label : Label) (script : List Statement) : List Cue := cuesFrom label script {}

end Walk

end Storyline

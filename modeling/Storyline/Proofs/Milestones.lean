import Storyline.Proofs.Rounds
import Storyline.Run.Log

/-!
# Milestones

Of all that a walk asks for, two things make up its way: the visits, and what is carried out.
They are its milestones. All other cues are *silent*: they write lines, record flaws and tell
news of the walk, but no line is a fault and no news is a question. So a cue of a walk is a
milestone or it is silent (`Walk.plain_cuesFrom`).
-/

namespace Storyline

/-- Something that is carried out: a step is called, or a check is put to the prompt. -/
inductive Execution where
  /-- A step, with its placeholders filled in. -/
  | call (attempt : Attempt)
  /-- A manual check, with its placeholders filled in. -/
  | question (attempt : Attempt)
  deriving DecidableEq, Inhabited

/-- How an attempt is carried out. -/
def Execution.of (attempt : Attempt) : Execution :=
  if attempt.statement.kind = .ask then .question attempt else .call attempt

/-- What is carried out. -/
def Execution.attempt : Execution → Attempt
  | call attempt | question attempt => attempt

/-- A visit of a line, or something that is carried out there. -/
inductive Milestone where
  /-- The statement with this index is visited. -/
  | visit (index : Nat)
  /-- Something is carried out. -/
  | execution (e : Execution)
  deriving DecidableEq, Inhabited

namespace Milestone

/-- The index of the visited statement. -/
def visit? : Milestone → Option Nat
  | visit index => some index
  | execution _ => none

/-- What is carried out. -/
def execution? : Milestone → Option Execution
  | visit _ => none
  | execution e => some e

@[simp] theorem visit?_visit (index : Nat) : (visit index).visit? = some index := rfl

theorem filterMap_visit?_executions (es : List Execution) :
    (es.map execution).filterMap visit? = [] := by
  rw [List.filterMap_map, List.filterMap_eq_nil_iff]
  intro e _
  rfl

theorem filterMap_execution?_executions (es : List Execution) :
    (es.map execution).filterMap execution? = es := by
  rw [List.filterMap_map]
  exact List.filterMap_some

end Milestone

/-- The milestone that a cue asks for. -/
def Cue.milestone? : Cue → Option Milestone
  | visit index => some (.visit index)
  | attempt a => some (.execution (.of a))
  | _ => none

namespace Cue

@[simp] theorem milestone?_visit (index : Nat) :
    (visit index).milestone? = some (.visit index) := rfl

@[simp] theorem milestone?_attempt (a : Attempt) :
    (attempt a).milestone? = some (.execution (.of a)) := rfl

/-- Whether a cue only writes a line that is no fault, records a flaw, or tells news of the walk
itself, which waits for nothing. -/
def isSilent : Cue → Bool
  | visit _ | attempt _ | tell (.waiting _) | tell (.suspended _) | tell (.resumed _) => false
  | write entry => entry.fault?.isNone
  | flaw _ _ | tell _ => true

/-- Whether a cue is one that a walk may give. -/
def isPlain (cue : Cue) : Bool := cue.milestone?.isSome || cue.isSilent

theorem milestones_of_silent {cues : List Cue} (silent : cues.all isSilent = true) :
    cues.filterMap milestone? = [] := by
  rw [List.filterMap_eq_nil_iff]
  intro cue hcue
  have silent_cue := List.all_eq_true.mp silent cue hcue
  cases cue with
  | visit | attempt => cases silent_cue
  | write | flaw | tell => rfl

theorem plain_of_silent {cues : List Cue} (silent : cues.all isSilent = true) :
    cues.all isPlain = true := by
  rw [List.all_eq_true]
  intro cue hcue
  rw [isPlain, List.all_eq_true.mp silent cue hcue, Bool.or_true]

end Cue

/-! ## Silent cues -/

namespace Cursor

variable (c : Cursor) (s : Statement)

theorem silent_writes (text : Line → String) (tone : Tone) (lines : List Line) :
    (lines.map fun line => Cue.write (.raw (text line) tone)).all Cue.isSilent = true := by
  rw [List.all_map, List.all_eq_true]
  intro line _
  rfl

theorem silent_extras (tone : Tone) : (extras s tone).all Cue.isSilent = true :=
  silent_writes (·.text) tone s.extras

theorem silent_line? (line : Option Line) :
    (line.map fun line => Cue.write (.raw line.text .plain)).toList.all Cue.isSilent = true := by
  cases line <;> rfl

theorem silent_announce (rows : Rows) : (announce rows).all Cue.isSilent = true := by
  rw [announce, List.all_cons, silent_line?]
  rfl

theorem silent_hanging (flaw : Flaw) : (hanging s flaw).all Cue.isSilent = true := by
  rw [hanging, List.all_append, List.all_cons, silent_extras]
  rfl

theorem silent_close : c.close.1.all Cue.isSilent = true := by
  rw [close]
  split <;> rfl

theorem silent_closeBefore : (c.closeBefore s).1.all Cue.isSilent = true := by
  rw [closeBefore]
  split
  · exact silent_close c
  · rfl

theorem silent_goOn (replay : Replay) : (c.goOn replay).1.all Cue.isSilent = true := by
  rw [goOn]
  split
  · split
    · exact silent_announce _
    · rfl
  · rfl

theorem silent_readScenario : (c.readScenario s).1.all Cue.isSilent = true := by
  rw [readScenario]
  split <;> rfl

theorem silent_readExamples : (c.readExamples s).1.all Cue.isSilent = true := by
  rw [readExamples]
  dsimp only
  split
  · rw [List.all_cons, List.all_cons, silent_extras]
    rfl
  split
  · rw [List.all_cons, List.all_cons, silent_extras]
    rfl
  split
  · rw [List.all_cons, silent_line?]
    rfl
  · rw [List.all_append, List.all_cons, silent_line?, silent_announce]
    rfl

/-- Reading a line gives silent cues, unless the line is executable. -/
theorem silent_read (hs : s.kind.isExecutable = false) :
    (c.read s).1.all Cue.isSilent = true := by
  rw [Cursor.read]
  cases hk : s.kind with
  | step | ask =>
      rw [hk] at hs
      cases hs
  | scenario => exact silent_readScenario c s
  | examples => exact silent_readExamples c s
  | dataTable => exact silent_hanging s .hangingTable
  | docString => exact silent_hanging s .hangingDocString
  | feature | rule | background | scenarioOutline | comments | tag | unknown => rfl

/-! ## The cues of a walk -/

theorem plain_execute : (c.execute s).all Cue.isPlain = true := by
  rw [execute]
  split
  · rw [List.all_append, List.all_cons,
      Cue.plain_of_silent (silent_writes (fun line => c.fill line.text) .plain s.extras)]
    rfl
  · rw [List.all_cons, Cue.plain_of_silent (silent_extras s .dim)]
    rfl

theorem plain_look (label : Label) : (c.look label s).1.all Cue.isPlain = true := by
  rw [look]
  split
  · rfl
  split
  · by_cases hs : s.kind.isExecutable = true
    · rw [read_executable _ hs]
      exact plain_execute _ s
    · exact Cue.plain_of_silent (silent_read _ s (Bool.eq_false_iff.mpr hs))
  · rfl

theorem plain_visit (label : Label) : (c.visit label s).1.all Cue.isPlain = true := by
  have closed := Cue.plain_of_silent (silent_closeBefore c s)
  have looked : ((c.closeBefore s).2.lookWhere label s).1.all Cue.isPlain = true := by
    rw [lookWhere]
    split
    · rfl
    · exact plain_look _ s label
  rw [visit, List.cons_append, List.all_cons, List.all_append, closed, looked]
  rfl

/-- One step of a walk gives plain cues. -/
theorem plain_next? {c next : Cursor} {label : Label} {script : List Statement}
    {cues : List Cue} (h : c.next? label script = some (cues, next)) :
    cues.all Cue.isPlain = true := by
  have visited (h : script[c.line]?.map (c.visit label) = some (cues, next)) :
      cues.all Cue.isPlain = true := by
    obtain ⟨s, -, hvisit⟩ := Option.map_eq_some_iff.mp h
    have plain := plain_visit c s label
    rwa [hvisit] at plain
  rw [next?] at h
  split at h
  · rename_i replay _
    split at h
    · have plain := Cue.plain_of_silent (silent_goOn c replay)
      rwa [Option.some.inj h] at plain
    · exact visited h
  · exact visited h

end Cursor

/-- A walk gives plain cues. -/
theorem Walk.plain_cuesFrom (label : Label) (script : List Statement) (c : Cursor) :
    (cuesFrom label script c).all Cue.isPlain = true := by
  induction c using cuesFrom.induct label script with
  | case1 c ended =>
      rw [cuesFrom_of_none ended]
      exact Cue.plain_of_silent c.silent_close
  | case2 c cues next step ih =>
      rw [cuesFrom_of_some step, List.all_append, Cursor.plain_next? step, ih]
      rfl

theorem Walk.plain_cues (label : Label) (script : List Statement) :
    (cues label script).all Cue.isPlain = true := plain_cuesFrom label script {}

end Storyline

import Storyline.Proofs.Reached
import Storyline.Proofs.Verdicts

/-!
# Where recorded blocks are closed

A block that is recorded is closed by the next header, by a line of tags or at the end of the
script, and the walk tells how long it has become. Between a header and its closing the block is
*pending* (`Walk.pending`). What has been told above a line and what is pending there are together
the closings of all headers above it (`Walk.closings_above`). So each header of a recorded block is
told of once, in the order of the script, with the lines that its block has
(`Layout.closing`). Replays have no part in it: whoever is in a replay is recording nothing.
-/

namespace Storyline

variable {σ : Type}

/-! ## Closings -/

/-- Whether this is the news that a recorded block has ended. -/
def Trace.isClosing : Trace → Bool
  | rangeClosed .. => true
  | _ => false

/-- The closing that a cue tells. -/
def Cue.closing? : Cue → Option Trace
  | tell news => if news.isClosing then some news else none
  | _ => none

/-- The closing that an event tells. -/
def Event.closing? : Event → Option Trace
  | told news => if news.isClosing then some news else none
  | _ => none

/-- The closings that cues tell. -/
def Cue.closings (cues : List Cue) : List Trace := cues.filterMap Cue.closing?

/-- The closings that a log tells. -/
def Log.closings (log : Log) : List Trace := log.trace.filter Trace.isClosing

/-- The block that is recorded below a line of this category. -/
def Recorded.below? : Keyword → Option Recorded
  | .background => some .background
  | .scenarioOutline => some .outline
  | _ => none

/-- The closing of the block below a line, if it is recorded. -/
def Layout.closing (script : List Statement) (index : Nat) : Option Trace :=
  ((Layout.kind? script index).bind Recorded.below?).map fun block =>
    .rangeClosed block (index + 1) (Layout.blockBelow script index).length

theorem Recorded.below?_eq_some_iff {keyword : Keyword} {block : Recorded} :
    below? keyword = some block ↔ keyword = block.keyword := by
  cases keyword <;> cases block <;> decide

namespace Cue

@[simp] theorem closings_nil : closings [] = [] := rfl

@[simp] theorem closings_append (cues cues' : List Cue) :
    closings (cues ++ cues') = closings cues ++ closings cues' := List.filterMap_append

@[simp] theorem closings_cons (cue : Cue) (cues : List Cue) :
    closings (cue :: cues) = cue.closing?.toList ++ closings cues := by
  rw [closings, List.filterMap_cons]
  cases cue.closing? <;> rfl

theorem closings_flatMap {α : Type} {f : α → List Cue} {items : List α}
    (none_told : ∀ item ∈ items, closings (f item) = []) : closings (items.flatMap f) = [] := by
  rw [closings, List.filterMap_flatMap, List.flatMap_eq_nil_iff]
  exact none_told

end Cue

theorem Log.closings_eq_filterMap (log : Log) : log.closings = log.filterMap Event.closing? := by
  rw [closings, trace, ← List.filterMap_eq_filter, List.filterMap_filterMap]
  apply List.filterMap_congr
  rintro event -
  cases event <;> rfl

/-! ## Performances -/

namespace Stage

variable (stage : Stage σ) (cast : Cast σ) (label : Label)

theorem closings_raise (indent : String) (fault : Fault) :
    (stage.raise indent fault).closings = [] := by
  rw [raise]
  split <;> rfl

theorem closing?_of_attempt (event : Event) (origin : event.IsOfAttempt) :
    event.closing? = none := by
  cases origin with
  | called | asked | note | fault => rfl
  | @told news kind => cases news <;> first | rfl | cases kind

/-- An attempt closes nothing, whatever comes of it. -/
theorem closings_attempt (attempt : Attempt) :
    (stage.begin cast label (.attempt attempt)).finish.1.closings = [] := by
  rw [Log.closings_eq_filterMap]
  exact filterMap_attempt closing?_of_attempt stage cast label attempt

theorem closings_perform (cue : Cue) :
    (stage.perform cast label cue).1.closings = cue.closing?.toList := by
  rw [perform_eq_finish]
  cases cue with
  | visit | write => rfl
  | tell news => cases news <;> rfl
  | flaw indent flaw => exact closings_raise stage indent (.flaw flaw)
  | attempt attempt => exact closings_attempt stage cast label attempt

/-- What is performed closes what its cues tell of. -/
theorem closings_complete (cues : List Cue) :
    (stage.complete cast label cues).1.closings = Cue.closings cues := by
  rw [Log.closings_eq_filterMap]
  apply filterMap_complete
  intro stage cue _
  rw [← Log.closings_eq_filterMap, closings_perform]

end Stage

/-! ## One step of the walk -/

namespace Cursor

variable {label : Label} {script : List Statement} {c : Cursor} {s : Statement}

/-- Lines that are written, one for each item. -/
theorem closings_writes {α : Type} (entry : α → Transcript.Entry) (items : List α) :
    Cue.closings (items.map fun item => .write (entry item)) = [] := by
  rw [Cue.closings, List.filterMap_map, List.filterMap_eq_nil_iff]
  exact fun _ _ => rfl

theorem closings_extras (s : Statement) (tone : Tone) : Cue.closings (extras s tone) = [] :=
  closings_writes _ _

theorem closings_line? (line : Option Line) :
    Cue.closings (line.map fun line => Cue.write (.raw line.text .plain)).toList = [] := by
  cases line <;> rfl

theorem closings_announce (rows : Rows) : Cue.closings (announce rows) = [] := by
  rw [announce, Cue.closings_cons, closings_line?]
  rfl

theorem closings_hanging (s : Statement) (flaw : Flaw) : Cue.closings (hanging s flaw) = [] := by
  rw [hanging, Cue.closings_append, Cue.closings_cons, closings_extras]
  rfl

theorem closings_execute (c : Cursor) (s : Statement) : Cue.closings (c.execute s) = [] := by
  rw [execute]
  split
  · rw [Cue.closings_append, Cue.closings_cons, closings_writes]
    rfl
  · rw [Cue.closings_cons, closings_extras]
    rfl

theorem closings_readScenario (c : Cursor) (s : Statement) :
    Cue.closings (c.readScenario s).1 = [] := by
  rw [readScenario]
  split <;> rfl

theorem closings_readExamples (c : Cursor) (s : Statement) :
    Cue.closings (c.readExamples s).1 = [] := by
  rw [readExamples]
  dsimp only
  split
  · rw [Cue.closings_cons, Cue.closings_cons, closings_extras]
    rfl
  split
  · rw [Cue.closings_cons, Cue.closings_cons, closings_extras]
    rfl
  split
  · rw [Cue.closings_cons, closings_line?]
    rfl
  · rw [Cue.closings_append, Cue.closings_cons, closings_line?, closings_announce]
    rfl

theorem closings_read (c : Cursor) (s : Statement) : Cue.closings (c.read s).1 = [] := by
  rw [Cursor.read]
  cases s.kind with
  | step | ask => exact closings_execute c s
  | scenario => exact closings_readScenario c s
  | examples => exact closings_readExamples c s
  | dataTable => exact closings_hanging s .hangingTable
  | docString => exact closings_hanging s .hangingDocString
  | feature | rule | background | scenarioOutline | comments | tag | unknown => rfl

theorem closings_lookWhere (c : Cursor) (label : Label) (s : Statement) :
    Cue.closings (c.lookWhere label s).1 = [] := by
  rw [lookWhere]
  split
  · rfl
  rw [look]
  split
  · rfl
  split
  · exact closings_read _ s
  · rfl

/-- A visit closes a block in front of the line, or nothing. -/
theorem closings_visit (c : Cursor) (label : Label) (s : Statement) :
    Cue.closings (c.visit label s).1 = Cue.closings (c.closeBefore s).1 := by
  rw [visit, Cue.closings_append, closings_lookWhere, List.append_nil, Cue.closings_cons]
  rfl

theorem closings_goOn (c : Cursor) (replay : Replay) : Cue.closings (c.goOn replay).1 = [] := by
  rw [goOn]
  split
  · split
    · exact closings_announce _
    · rfl
  · rfl

theorem closings_recite (c : Cursor) (script : List Statement) (indices : List Nat) :
    Cue.closings (c.recite script indices) = [] := by
  apply Cue.closings_flatMap
  intro index _
  rw [Cue.closings_cons]
  split
  · split
    · rw [closings_execute]
      rfl
    · rfl
  · rfl

/-- Replays close nothing. -/
theorem closings_replays (c : Cursor) (script : List Statement) (s : Statement) :
    Cue.closings (c.replays script s) = [] := by
  rw [replays]
  split
  · exact closings_recite c script _
  · split
    · rfl
    split
    · rfl
    · rw [Cue.closings_append, closings_recite]
      apply Cue.closings_flatMap
      intro rows _
      rw [Cue.closings_append, closings_announce, closings_recite]
      rfl
  · rfl

/-- A step that is taken in a replay closes nothing, if nothing is being recorded. -/
theorem closings_next?_of_replay {cues : List Cue} {next : Cursor} (replay : c.replay.isSome = true)
    (recording : c.recording = none) (step : c.next? label script = some (cues, next)) :
    Cue.closings cues = [] := by
  obtain ⟨replay, replaying⟩ := Option.isSome_iff_exists.mp replay
  rw [next?, replaying] at step
  dsimp only at step
  split at step
  · have told : (c.goOn replay).1 = cues := congrArg Prod.fst (Option.some.inj step)
    rw [← told]
    exact closings_goOn c replay
  · obtain ⟨s, -, visited⟩ := Option.map_eq_some_iff.mp step
    have told : (c.visit label s).1 = cues := congrArg Prod.fst visited
    rw [← told, closings_visit, closeBefore_of_not_recording recording]
    rfl

end Cursor

namespace Walk

open Cursor
open Layout (endsBlock)

variable {label : Label} {script : List Statement} {index : Nat} {s : Statement}

/-! ## What is pending -/

/-- The header of the block that is being recorded in front of a line. -/
def recordedHeader? (script : List Statement) (bound : Nat) : Option Nat :=
  (standing script bound).recording.bind fun block => Layout.inForce? script block bound

/-- The closing that is pending in front of a line. -/
def pending (script : List Statement) (bound : Nat) : List Trace :=
  (recordedHeader? script bound).toList.filterMap (Layout.closing script)

/-- Where a block ends, its closing is what has been pending. -/
theorem closings_close {bound : Nat} (le : bound ≤ script.length)
    (ends : ∀ s, script[bound]? = some s → endsBlock s = true) :
    Cue.closings (standing script bound).close.1 = pending script bound := by
  have line := standing_line le
  rw [close, pending, recordedHeader?]
  cases recording : (standing script bound).recording with
  | none => rfl
  | some block =>
      obtain ⟨header, inForce, range, between⟩ := (standing_remembers le).recording block recording
      rw [line] at inForce between
      obtain ⟨above, ⟨s, here, kind⟩, -⟩ := Layout.nearest_eq_some inForce
      -- The block has all lines from its header down to the bound, so its length is their distance.
      have below : Recorded.below? s.kind = some block :=
        Recorded.below?_eq_some_iff.mpr (of_decide_eq_true kind)
      have closing : Layout.closing script header =
          some (.rangeClosed block (header + 1) (bound - (header + 1))) := by
        rw [Layout.closing, Layout.kind?, here, Option.map_some, Option.bind_some, below,
          Option.map_some, Layout.length_blockBelow above le between ends]
      simp only [range, line]
      rw [Option.bind_some, inForce]
      have told : [header].filterMap (Layout.closing script) =
          [.rangeClosed block (header + 1) (bound - (header + 1))] :=
        List.filterMap_cons_some closing
      exact told.symm

/-- A line that ends no block leaves pending what is pending, and no block is recorded below it. -/
theorem pending_of_not_ends (hs : script[index]? = some s) (ends : endsBlock s = false) :
    pending script (index + 1) = pending script index ∧ Layout.closing script index = none := by
  have isHeader : s.isHeader = s.kind.isHeader := rfl
  have no_block : Recorded.below? s.kind = none := by
    cases kind : s.kind <;> simp_all [endsBlock, Keyword.isHeader, Recorded.below?]
  have kept (block : Recorded) :
      Layout.inForce? script block (index + 1) = Layout.inForce? script block index := by
    have other : s.kind ≠ block.keyword := fun same => by
      rw [Recorded.below?_eq_some_iff.mpr same] at no_block
      cases no_block
    have no_reset : Layout.resets s = false := by
      cases kind : s.kind <;> simp_all [endsBlock, Keyword.isHeader, Layout.resets]
    rw [Layout.inForce?_succ hs, if_neg other, no_reset]
    rfl
  constructor
  · rw [pending, pending, recordedHeader?, recordedHeader?, standing_succ hs, past_recording,
      closeBefore_of_not_ends ends, scope_of_not_ends ends]
    simp only [kept]
  · rw [Layout.closing, Layout.kind?, hs, Option.map_some, Option.bind_some, no_block]
    rfl

/-- A line that ends a block leaves pending what is recorded below it. -/
theorem pending_of_ends (hs : script[index]? = some s) (ends : endsBlock s = true) :
    pending script (index + 1) = (Layout.closing script index).toList := by
  have recording : (standing script (index + 1)).recording = Recorded.below? s.kind := by
    rw [standing_succ hs, past_recording, closeBefore_of_ends ends, scope_recording]
    cases s.kind <;> first | rfl | exact close_recording _
  have header : recordedHeader? script (index + 1) =
      (Recorded.below? s.kind).map fun _ => index := by
    rw [recordedHeader?, recording]
    cases below : Recorded.below? s.kind with
    | none => rfl
    | some block =>
        rw [Option.bind_some, Layout.inForce?_succ hs,
          if_pos (Recorded.below?_eq_some_iff.mp below)]
        rfl
  rw [pending, header]
  cases below : Recorded.below? s.kind with
  | none =>
      rw [Layout.closing, Layout.kind?, hs, Option.map_some, Option.bind_some, below]
      rfl
  | some block =>
      rw [Option.map_some, Option.toList_some, List.filterMap_cons, List.filterMap_nil]
      cases Layout.closing script index <;> rfl

/-! ## The whole walk -/

/-- The round of a line closes what has been pending, if the line ends a block. -/
theorem closings_round (label : Label) (hs : script[index]? = some s) :
    Cue.closings (round label script index) =
      if endsBlock s = true then pending script index else [] := by
  have replayed : Cue.closings (if (entered script index s).admitted label then
      (entered script index s).replays script s else []) = [] := by
    split
    · exact closings_replays _ script s
    · rfl
  rw [round_eq hs, Cue.closings_append, closings_visit, replayed, List.append_nil]
  split
  · rename_i ends
    rw [closeBefore_of_ends ends]
    apply closings_close (index_le hs)
    rintro t ht
    rw [hs] at ht
    cases ht
    exact ends
  · rename_i ends
    rw [closeBefore_of_not_ends (Bool.eq_false_iff.mpr ends)]
    rfl

/-- What has been told above a line, and what is pending there, are the closings of the headers
above it. -/
theorem closings_above (label : Label) {bound : Nat} (le : bound ≤ script.length) :
    Cue.closings ((List.range bound).flatMap (round label script)) ++ pending script bound =
      (List.range bound).filterMap (Layout.closing script) := by
  -- By induction on the bound. A line that ends a block tells what was pending, and what is pending
  -- below it is its own closing; any other line changes neither.
  induction bound with
  | zero => rfl
  | succ index ih =>
      have hs : script[index]? = some script[index] := List.getElem?_eq_getElem le
      have above := ih (Nat.le_of_lt le)
      rw [List.range_succ, List.flatMap_append, List.flatMap_singleton, Cue.closings_append,
        closings_round label hs, List.filterMap_append, ← above]
      by_cases ends : endsBlock script[index] = true
      · rw [if_pos ends, pending_of_ends hs ends, List.filterMap_cons, List.filterMap_nil]
        cases Layout.closing script index <;> rfl
      · have ends := Bool.eq_false_iff.mpr ends
        obtain ⟨same, no_closing⟩ := pending_of_not_ends hs ends
        rw [if_neg (Bool.eq_false_iff.mp ends), same, List.filterMap_cons_none no_closing,
          List.append_nil, List.filterMap_nil, List.append_nil]

/-- A walk tells of the closing of each recorded block, in the order of their headers. -/
theorem closings_cues (label : Label) (script : List Statement) :
    Cue.closings (cues label script) =
      (List.range script.length).filterMap (Layout.closing script) := by
  have ended : Cue.closings (standing script script.length).close.1 =
      pending script script.length := by
    apply closings_close (Nat.le_refl _)
    intro s hs
    rw [List.getElem?_eq_none (Nat.le_refl _)] at hs
    cases hs
  rw [cues_eq_rounds, Cue.closings_append, ended]
  exact closings_above label (Nat.le_refl _)

/-- Wherever a walk comes, the block that is being recorded begins at or above the cursor. -/
theorem Reached.start_le {c : Cursor} (reached : Reached label script c) {block : Recorded}
    (recording : c.recording = some block) : (c.range block).start ≤ c.line := by
  cases reached with
  | outside le =>
      obtain ⟨header, inForce, range, -⟩ := (standing_remembers le).recording block recording
      rw [range]
      exact (Layout.nearest_eq_some inForce).1
  | inside header _ replays =>
      rw [replaying_recording header replays] at recording
      cases recording

/-- Whoever is in a replay is recording nothing. -/
theorem Reached.recording_of_replay {c : Cursor} (reached : Reached label script c)
    (replay : c.replay.isSome = true) : c.recording = none := by
  cases reached with
  | outside le =>
      rw [standing_replay le] at replay
      cases replay
  | inside header _ replays => exact replaying_recording header replays

end Walk

/-! ## Runs -/

namespace Interpreter

/-- **Recorded blocks are closed once, and at the right place.** A run that has come to its end has
told of each header of a background or of an outline, in the order of the script, that its block
begins on the next line and how many lines it has; any run has told the first part of this.
Wherever the walk comes, the length is taken from the cursor down to a line that is not below it,
and no step in a replay closes a block. -/
theorem closings_runScript (i : Interpreter σ) (label : Label) (mode : Mode) (host : σ)
    (script : List Statement) :
    ((i.runScript label mode host script).finished = true →
      (i.runScript label mode host script).log.closings =
        (List.range script.length).filterMap (Layout.closing script)) ∧
    (i.runScript label mode host script).log.closings <+:
      (List.range script.length).filterMap (Layout.closing script) ∧
    ∀ cues c, Walk.Steps label script {} cues c →
      (∀ block, c.recording = some block → (c.range block).start ≤ c.line) ∧
      (c.replay.isSome = true → ∀ told next, c.next? label script = some (told, next) →
        Cue.closings told = []) := by
  have whole := Stage.closings_complete ({ host } : Stage σ) i.cast label (Walk.cues label script)
  rw [Walk.closings_cues, Log.closings_eq_filterMap] at whole
  refine ⟨?_, ?_, ?_⟩
  · intro finished
    rw [Log.closings_eq_filterMap, filterMap_runScript rfl finished, whole]
  · rw [Log.closings_eq_filterMap, ← whole]
    exact filterMap_runScript_prefix rfl
  · intro cues c steps
    have reached := (Walk.Reached.start label script).steps steps
    refine ⟨fun block recording => reached.start_le recording, ?_⟩
    intro replay told next step
    exact Cursor.closings_next?_of_replay replay (reached.recording_of_replay replay) step

/-- A background that a line of tags ends, and an outline whose examples end it. -/
def closedScript : List Statement :=
  Script.parse .english
    "Background:\nAsk b\n@t\nScenario Outline:\nAsk <n>\nExamples:\n|n|\n|1|\n"

/-- Both blocks are closed, although the label lets none of them through. -/
theorem closings_runScript_closed :
    ((answering true).runScript ⟨"@other"⟩ .blocking {} closedScript).finished = true ∧
      ((answering true).runScript ⟨"@other"⟩ .blocking {} closedScript).log.closings =
        [.rangeClosed .background 1 1, .rangeClosed .outline 4 1] := by
  have finished :
      ((answering true).runScript ⟨"@other"⟩ .blocking {} closedScript).finished = true := rfl
  have closings := (closings_runScript (answering true) ⟨"@other"⟩ .blocking {} closedScript).1
  exact ⟨finished, (closings finished).trans (by decide +kernel)⟩

end Interpreter

end Storyline

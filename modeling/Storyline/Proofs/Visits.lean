import Storyline.Proofs.Sessions

/-!
# The order of the visits

The loop of the walk comes to its end, and the statements are visited in the order of the
itinerary: each line in file order, and behind the header of a scenario or of examples the
lines that it replays. Steps, signals and answers change nothing about this, nor does it
matter how the run is polled.
-/

namespace Storyline

variable {σ : Type}

/-- Some steps of the walk in a row, with the cues that they give. -/
inductive Walk.Steps (label : Label) (script : List Statement) :
    Cursor → List Cue → Cursor → Prop
  | refl (c : Cursor) : Steps label script c [] c
  | step {c next last : Cursor} {cues rest : List Cue}
      (first : c.next? label script = some (cues, next))
      (later : Steps label script next rest last) : Steps label script c (cues ++ rest) last

/-- Whether a run in this mode is polled as often as it takes, if it takes so many polls. -/
def Mode.Allows (enough : Nat) : Mode → Prop
  | .blocking | .polled none => True
  | .polled (some polls) => enough ≤ polls

/-- The number of rows below the first one of the attached table. -/
def Statement.dataRows (s : Statement) : Nat := (s.table.map (·.body.length)).getD 0

namespace Itinerary

variable (label : Label) (script : List Statement)

/-- The indices of the lines that a line replays. -/
def replayed (index : Nat) : List Nat :=
  match script[index]? with
  | none => []
  | some s =>
      if Layout.eligible script label index then
        match s.kind with
        | .scenario => Layout.indices script .background index
        | .examples =>
            (List.replicate s.dataRows (Layout.indices script .outline index)).flatten
        | _ => []
      else []

/-- The indices of the statements in the order of the visits. -/
def visits : List Nat :=
  (List.range script.length).flatMap fun index => index :: replayed label script index

variable {label script}

theorem visits_recital (fill : String → String) (indices : List Nat) :
    (recital script fill indices).filterMap Milestone.visit? = indices := by
  have line (index : Nat) :
      (Milestone.visit index :: (script[index]?.toList.flatMap (executions fill)).map
        Milestone.execution).filterMap Milestone.visit? = [index] := by
    rw [List.filterMap_cons_some (Milestone.visit?_visit index),
      Milestone.filterMap_visit?_executions]
  rw [recital, List.filterMap_flatMap, funext line]
  exact List.flatMap_singleton' indices

/-- The visits of what a line inserts are those of the lines that it replays. -/
theorem visits_inserted (label : Label) (script : List Statement) (index : Nat) :
    (inserted label script index).filterMap Milestone.visit? = replayed label script index := by
  rw [inserted, replayed]
  cases hs : script[index]? with
  | none => rfl
  | some s =>
      by_cases heligible : Layout.eligible script label index = true
      swap
      · simp only [heligible]
        rfl
      simp only [heligible, if_true]
      have carried : (if Layout.block script index = .scenario then
          (executions id s).map Milestone.execution else []).filterMap Milestone.visit? = [] := by
        split
        · exact Milestone.filterMap_visit?_executions _
        · rfl
      cases hk : s.kind with
      | scenario => exact visits_recital id _
      | examples =>
          have rows : s.fills.length = s.dataRows := by
            rw [Statement.fills, Statement.dataRows]
            cases s.table <;> simp
          simp only [List.filterMap_flatMap, visits_recital, ← rows]
          rw [List.flatMap_def, List.map_const']
      | feature | rule | background | scenarioOutline | step | docString | dataTable | tag
      | comments | ask | unknown => exact carried

theorem visits_milestones (label : Label) (script : List Statement) :
    (milestones label script).filterMap Milestone.visit? = visits label script := by
  rw [milestones, visits, List.filterMap_flatMap]
  congr 1
  funext index
  rw [List.filterMap_cons_some (Milestone.visit?_visit index), visits_inserted]

end Itinerary

/-- The loop of the walk stops, and its steps give the cues of the walk. -/
theorem Walk.steps_cuesFrom (label : Label) (script : List Statement) (c : Cursor) :
    ∃ cues last, Steps label script c cues last ∧ last.next? label script = none ∧
      cuesFrom label script c = cues ++ last.close.1 := by
  induction c using cuesFrom.induct label script with
  | case1 c ended => exact ⟨[], c, .refl c, ended, cuesFrom_of_none ended⟩
  | case2 c cues next step ih =>
      obtain ⟨rest, last, steps, ended, same⟩ := ih
      refine ⟨cues ++ rest, last, .step step steps, ended, ?_⟩
      rw [cuesFrom_of_some step, same, List.append_assoc]

/-- Polled often enough, a session does what it does when it is polled without a limit. -/
theorem Session.drive_of_enough (session : Session σ) (cast : Cast σ) (label : Label) :
    ∃ enough, 0 < enough ∧ ∀ polls, enough ≤ polls →
      session.drive cast label (some polls) = session.drive cast label none := by
  generalize hnone : (none : Option Nat) = unlimited
  fun_induction drive session cast label unlimited with
  | case1 => cases hnone
  | case2 session unlimited hpolls ended =>
      refine ⟨1, Nat.one_pos, ?_⟩
      intro polls hle
      have some_left : (some polls : Option Nat) ≠ some 0 := by
        simp only [ne_eq, Option.some.injEq]
        omega
      rw [drive, if_neg some_left]
      split
      · rfl
      · rename_i step
        rw [ended] at step
        cases step
  | case3 session unlimited hpolls log next step left rest last hdrive ih =>
      subst hnone
      obtain ⟨enough, positive, same⟩ := ih (by simp [left])
      refine ⟨enough + 1, Nat.succ_pos _, ?_⟩
      intro polls hle
      have some_left : (some polls : Option Nat) ≠ some 0 := by
        simp only [ne_eq, Option.some.injEq]
        omega
      have rest_same : next.drive cast label
          (if session.isPending then (some polls).map (· - 1) else some polls) =
            next.drive cast label left := by
        split
        · exact same (polls - 1) (by omega)
        · exact same polls (by omega)
      rw [drive, if_neg some_left]
      split
      · rename_i ended
        rw [step] at ended
        cases ended
      · rename_i step'
        rw [step] at step'
        cases step'
        simp only [rest_same, hdrive]

namespace Interpreter

variable (i : Interpreter σ) (label : Label) (host : σ)

/-- Polled often enough, a run comes to its end. -/
theorem finished_of_enough (cues : List Cue) :
    ∃ enough, ∀ mode : Mode, mode.Allows enough →
      (i.runCues label mode host cues).finished = true := by
  obtain ⟨enough, positive, same⟩ :=
    Session.drive_of_enough { stage := { host }, todo := cues } i.cast label
  obtain ⟨blocking, unlimited⟩ := i.finished_runCues label host cues
  refine ⟨enough, ?_⟩
  rintro (_ | _ | polls) allows
  · exact blocking
  · exact unlimited
  · have some_left : (some polls : Option Nat) ≠ some 0 := by
      simp only [ne_eq, Option.some.injEq]
      have enough_polls : enough ≤ polls := allows
      omega
    have ended := Session.isFinished_drive { stage := { host }, todo := cues } i.cast label
    simp [runCues, same polls allows, ended, some_left]

/-- The walk through a text stops; a run of it comes to its end if it is polled often enough;
and a run that has come to its end has visited the statements in the order of the itinerary. -/
theorem visits_runText (text : String) :
    (∃ cues last, Walk.Steps label (i.script text) {} cues last ∧
        last.next? label (i.script text) = none ∧ i.cues label text = cues ++ last.close.1) ∧
      (∃ enough, ∀ mode : Mode, mode.Allows enough →
        (i.runText label mode host text).finished = true) ∧
      ∀ mode : Mode, (i.runText label mode host text).finished = true →
        (i.runText label mode host text).log.visits = Itinerary.visits label (i.script text) := by
  refine ⟨Walk.steps_cuesFrom label (i.script text) {}, i.finished_of_enough label host _, ?_⟩
  intro mode finished
  have passed := i.visits_runCues label mode host (i.plain_cues label text) finished
  rw [i.milestones_cues, Itinerary.visits_milestones] at passed
  exact passed

/-- A background, a scenario, and an outline with two rows. -/
def playText : String :=
  "Background:\nGiven a\nScenario:\nConfirm b\nScenario Outline:\nGiven <n>\n" ++
    "Examples:\n|n|\n|1|\n|2|\n"

/-- Behind the scenario the background is visited again, and behind the examples the outline, once
for each row. -/
theorem visits_runText_rows :
    (({} : Interpreter Unit).runText ⟨""⟩ .blocking () playText).finished = true ∧
      (({} : Interpreter Unit).runText ⟨""⟩ .blocking () playText).log.visits =
        [0, 1, 2, 1, 3, 4, 5, 6, 5, 5] := by
  have finished : (({} : Interpreter Unit).runText ⟨""⟩ .blocking () playText).finished = true :=
    rfl
  obtain ⟨-, -, visits⟩ := visits_runText ({} : Interpreter Unit) ⟨""⟩ () playText
  refine ⟨finished, ?_⟩
  rw [visits .blocking finished]
  decide +kernel

end Interpreter

end Storyline

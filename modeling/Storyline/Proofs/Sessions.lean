import Storyline.Interpreter
import Storyline.Proofs.Performances

/-!
# Sessions and performances

To poll a session is to perform its cues. What a session has logged, together with what it
would log if it were carried on to its end, is the same at all times, apart from the polls
that find it pending (`Session.drive_finish`). So a run that has come to its end has done
what the law of performing cues says, and a run that has been dropped has done a first part
of it.
-/

namespace Storyline

variable {σ : Type}

namespace Log

/-- A log without the polls that find the session pending. -/
def unpolled (log : Log) : Log := log.filter (· ≠ .pending)

@[simp] theorem unpolled_append (log log' : Log) :
    (log ++ log').unpolled = log.unpolled ++ log'.unpolled := List.filter_append _ _

/-- A view of a log that leaves out the polls is the same with and without them. -/
theorem filterMap_unpolled {β : Type} {view : Event → Option β} (h : view .pending = none)
    (log : Log) : log.unpolled.filterMap view = log.filterMap view := by
  induction log with
  | nil => rfl
  | cons event log ih =>
      rw [unpolled] at ih
      by_cases hpending : event = .pending
      · rw [hpending, unpolled, List.filter_cons_of_neg (by simp), ih,
          List.filterMap_cons_none h]
      · rw [unpolled, List.filter_cons_of_pos (by simpa using hpending), List.filterMap_cons,
          List.filterMap_cons, ih]

theorem milestones_unpolled (log : Log) : log.unpolled.milestones = log.milestones :=
  filterMap_unpolled rfl log

theorem executions_unpolled (log : Log) : log.unpolled.executions = log.executions := by
  rw [executions, milestones_unpolled, executions]

theorem faults_unpolled (log : Log) : log.unpolled.faults = log.faults := by
  rw [faults_eq_filterMap, filterMap_unpolled rfl, faults_eq_filterMap]

theorem isFailed_unpolled (log : Log) : log.unpolled.isFailed = log.isFailed := by
  rw [isFailed, faults_unpolled, isFailed]

theorem latched_unpolled {log : Log} {failed : Bool} :
    log.unpolled.Latched failed ↔ log.Latched failed := by
  induction log generalizing failed with
  | nil => exact Iff.rfl
  | cons event log ih =>
      by_cases hpending : event = .pending
      · rw [hpending, unpolled, List.filter_cons_of_neg (by simp)]
        constructor
        · intro latched
          exact Latched.cons_silent rfl rfl (ih.mp latched)
        · rintro ⟨-, -, latched⟩
          rw [show Event.pending.fault? = none from rfl, Option.isSome_none, Bool.or_false]
            at latched
          exact ih.mpr latched
      · rw [unpolled, List.filter_cons_of_pos (by simpa using hpending)]
        constructor
        · rintro ⟨idle, untold, latched⟩
          exact ⟨idle, untold, ih.mp latched⟩
        · rintro ⟨idle, untold, latched⟩
          exact ⟨idle, untold, ih.mpr latched⟩

end Log

namespace Session

variable {session next : Session σ} {cast : Cast σ} {label : Label} {log : Log}

/-- Carries a session on to its end, where waiting takes no time. -/
def finish (session : Session σ) (cast : Cast σ) (label : Label) : Log × Stage σ :=
  let settled := Begun.finish { stage := session.stage, awaited := session.awaited }
  let completed := settled.2.complete cast label session.todo
  (settled.1 ++ completed.1, completed.2)

theorem finish_of_isFinished (h : session.isFinished = true) :
    session.finish cast label = ([], session.stage) := by
  obtain ⟨stage, awaited, todo⟩ := session
  rw [isFinished, Bool.and_eq_true, Option.isNone_iff_eq_none, List.isEmpty_iff] at h
  obtain ⟨rfl, rfl⟩ := h
  rfl

theorem next?_eq_none_iff : session.next? cast label = none ↔ session.isFinished = true := by
  obtain ⟨stage, awaited, todo⟩ := session
  rcases awaited with _ | ⟨attempt, _ | polls, outcome⟩ <;> cases todo <;>
    simp [next?, isFinished]

/-- One step does not change what a session comes to. -/
theorem next?_finish (h : session.next? cast label = some (log, next)) :
    (log ++ (next.finish cast label).1).unpolled = (session.finish cast label).1.unpolled ∧
      (next.finish cast label).2 = (session.finish cast label).2 := by
  obtain ⟨stage, awaited, todo⟩ := session
  rcases awaited with _ | ⟨attempt, _ | polls, outcome⟩
  · cases todo with
    | nil => cases h
    | cons cue todo =>
        cases h
        -- Beginning the next cue is the first half of performing it.
        have performed : stage.perform cast label cue =
            (stage.begin cast label cue).finish := rfl
        rw [Begun.finish_eq] at performed
        constructor
        · simp only [finish, Stage.complete, performed, List.append_assoc, List.nil_append,
            Begun.finish]
        · simp only [finish, Stage.complete, performed, Begun.finish]
  · cases h
    exact ⟨rfl, rfl⟩
  · cases h
    exact ⟨rfl, rfl⟩

/-- However a session is polled, what has been logged and what is left come to the same. -/
theorem drive_finish (session : Session σ) (cast : Cast σ) (label : Label)
    (polls : Option Nat) :
    ((session.drive cast label polls).1 ++
        ((session.drive cast label polls).2.finish cast label).1).unpolled =
      (session.finish cast label).1.unpolled ∧
    ((session.drive cast label polls).2.finish cast label).2 =
      (session.finish cast label).2 := by
  fun_induction drive session cast label polls with
  | case1 => exact ⟨rfl, rfl⟩
  | case2 => exact ⟨rfl, rfl⟩
  | case3 session polls hpolls log next h left rest last hdrive ih =>
      rw [hdrive] at ih
      obtain ⟨logged, stage⟩ := next?_finish h
      constructor
      · rw [← logged, List.append_assoc, Log.unpolled_append, ih.1, Log.unpolled_append]
      · rw [ih.2, stage]

/-- Polled without a limit, a session comes to its end. -/
theorem isFinished_drive (session : Session σ) (cast : Cast σ) (label : Label) :
    (session.drive cast label none).2.isFinished = true := by
  generalize hpolls : (none : Option Nat) = polls
  fun_induction drive session cast label polls with
  | case1 => cases hpolls
  | case2 session polls hpolls' ended => exact next?_eq_none_iff.mp ended
  | case3 session polls hpolls' log next h left rest last hdrive ih =>
      rw [hdrive] at ih
      apply ih
      subst hpolls
      simp [left]

end Session

/-! ## Runs -/

namespace Interpreter

/-- The statements of a text. -/
def script (i : Interpreter σ) (text : String) : List Statement := Script.parse i.vocabulary text

variable (i : Interpreter σ) (label : Label) (mode : Mode) (host : σ)

theorem plain_cues (text : String) : (i.cues label text).all Cue.isPlain = true :=
  Walk.plain_cuesFrom label (i.script text) {}

theorem milestones_cues (text : String) :
    (i.cues label text).filterMap Cue.milestone? = Itinerary.milestones label (i.script text) :=
  Walk.milestones_cues label (i.script text)

variable {cues : List Cue}

/-- A run carried on to its end. -/
theorem finished_runCues (cues : List Cue) :
    (i.runCues label .blocking host cues).finished = true ∧
      (i.runCues label (.polled none) host cues).finished = true := by
  refine ⟨rfl, ?_⟩
  have ended := Session.isFinished_drive { stage := { host }, todo := cues } i.cast label
  simp [runCues, ended]

/-- A run does the first part of what performing its cues does, and all of it if it has come
to its end. -/
theorem unpolled_runCues (cues : List Cue) :
    ∃ rest : Log,
      ((i.runCues label mode host cues).log ++ rest).unpolled =
          (({ host } : Stage σ).complete i.cast label cues).1.unpolled ∧
        ((i.runCues label mode host cues).finished = true → rest = []) := by
  cases mode with
  | blocking =>
      refine ⟨[], ?_, fun _ => rfl⟩
      rw [List.append_nil]
      rfl
  | polled polls =>
      obtain ⟨logged, -⟩ :=
        Session.drive_finish { stage := { host }, todo := cues } i.cast label polls
      refine ⟨_, logged, ?_⟩
      intro finished
      have ended := (Bool.and_eq_true_iff.mp finished).1
      rw [Session.finish_of_isFinished ended]

variable (plain : cues.all Cue.isPlain = true)
include plain

theorem latched_runCues : (i.runCues label mode host cues).log.Latched false := by
  obtain ⟨rest, same, -⟩ := i.unpolled_runCues label mode host cues
  have law := Stage.follows_complete { host } i.cast label (List.all_eq_true.mp plain)
  have latched := Log.latched_unpolled.mpr law.latched
  rw [← same, Log.latched_unpolled, Log.latched_append] at latched
  exact latched.1

theorem executions_runCues :
    (i.runCues label mode host cues).log.executions <+:
      (cues.filterMap Cue.milestone?).filterMap Milestone.execution? := by
  obtain ⟨rest, same, -⟩ := i.unpolled_runCues label mode host cues
  have law := Stage.follows_complete { host } i.cast label (List.all_eq_true.mp plain)
  have executions := law.executions
  rw [← Log.executions_unpolled, ← same, Log.executions_unpolled, Log.executions_append]
    at executions
  exact (List.prefix_append _ _).trans executions

theorem visits_runCues (finished : (i.runCues label mode host cues).finished = true) :
    (i.runCues label mode host cues).log.visits =
      (cues.filterMap Cue.milestone?).filterMap Milestone.visit? := by
  obtain ⟨rest, same, ended⟩ := i.unpolled_runCues label mode host cues
  have law := Stage.follows_complete { host } i.cast label (List.all_eq_true.mp plain)
  rw [ended finished, List.append_nil] at same
  rw [← law.visits, Log.visits_eq_milestones, ← Log.milestones_unpolled, same,
    Log.milestones_unpolled, ← Log.visits_eq_milestones]

/-- A run that has come to its end without a fault has passed all milestones of its cues. -/
theorem milestones_runCues (finished : (i.runCues label mode host cues).finished = true)
    (unfailed : (i.runCues label mode host cues).log.isFailed = false) :
    (i.runCues label mode host cues).log.milestones = cues.filterMap Cue.milestone? := by
  obtain ⟨rest, same, ended⟩ := i.unpolled_runCues label mode host cues
  have law := Stage.follows_complete { host } i.cast label (List.all_eq_true.mp plain)
  rw [ended finished, List.append_nil] at same
  have faultless : (({ host } : Stage σ).complete i.cast label cues).1.isFailed = false := by
    rw [← Log.isFailed_unpolled, ← same, Log.isFailed_unpolled]
    exact unfailed
  rw [← law.milestones (by rw [law.failed, faultless]; rfl), ← Log.milestones_unpolled, same,
    Log.milestones_unpolled]

end Interpreter

end Storyline

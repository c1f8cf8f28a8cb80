import Storyline.Proofs.Itinerary

/-!
# What a log says about faults

A log passes milestones, and it holds faults. It is *latched* if each event keeps to what
came before: after a fault nothing is attempted any more, and only the flaws of the script
are still recorded. A step that has been handed a context is never told there of a fault.

Being latched is said event by event (`Log.Latched`), with the faults before the log as a
parameter, so that it holds of two logs in a row if it holds of both.
-/

namespace Storyline

namespace Event

/-- The milestone that an event passes. -/
def milestone? : Event → Option Milestone
  | visited index => some (.visit index)
  | called attempt _ _ => some (.execution (.call attempt))
  | asked attempt _ => some (.execution (.question attempt))
  | _ => none

/-- Whether something is attempted: a step is called, or a question is put or answered. -/
def attempts : Event → Bool
  | called .. | asked .. | told (.waiting _) => true
  | _ => false

/-- The fault that is written. -/
def fault? : Event → Option Fault
  | wrote entry => entry.fault?
  | _ => none

/-- Whether a step that is handed a context is told there of a fault. -/
def tellsFault : Event → Bool
  | called _ _ args => (args.context.map Context.failed).getD false
  | _ => false

/-- What may still happen after a fault: nothing is attempted, and only the flaws of the
script are still recorded. -/
structure IsIdle (event : Event) : Prop where
  /-- Nothing is attempted. -/
  attempts : event.attempts = false
  /-- A fault that is written is a flaw. -/
  flaw : ∀ fault, event.fault? = some fault → fault.isFlaw = true

end Event

namespace Log

/-- The milestones that are passed. -/
def milestones (log : Log) : List Milestone := log.filterMap Event.milestone?

/-- What is carried out. -/
def executions (log : Log) : List Execution := log.milestones.filterMap Milestone.execution?

/-- Whether a log keeps to the rules about faults. `failed` says whether a fault was recorded
before: then, and after a fault of the log itself, all events are idle. -/
def Latched (failed : Bool) : Log → Prop
  | [] => True
  | event :: rest =>
      (failed = true → event.IsIdle) ∧ event.tellsFault = false ∧
        Latched (failed || event.fault?.isSome) rest

variable {log log' : Log} {failed : Bool}

@[simp] theorem milestones_append (log log' : Log) :
    (log ++ log').milestones = log.milestones ++ log'.milestones := List.filterMap_append

/-- What a view sees of a log, it sees event by event. -/
theorem filterMap_cons_toList {β : Type} (view : Event → Option β) (event : Event) (log : Log) :
    List.filterMap view (event :: log) = (view event).toList ++ log.filterMap view := by
  rw [List.filterMap_cons]
  cases view event <;> rfl

@[simp] theorem milestones_cons (event : Event) (log : Log) :
    milestones (event :: log) = event.milestone?.toList ++ log.milestones :=
  filterMap_cons_toList _ event log

@[simp] theorem executions_append (log log' : Log) :
    (log ++ log').executions = log.executions ++ log'.executions := by
  simp [executions]

/-- The visits are the milestones that are visits. -/
theorem visits_eq_milestones (log : Log) :
    log.visits = log.milestones.filterMap Milestone.visit? := by
  rw [milestones, List.filterMap_filterMap]
  apply List.filterMap_congr
  rintro event -
  cases event <;> rfl

/-- The faults of a log are those of its events. -/
theorem faults_eq_filterMap (log : Log) : log.faults = log.filterMap Event.fault? := by
  rw [faults, entries, List.filterMap_filterMap]
  apply List.filterMap_congr
  rintro event -
  cases event <;> rfl

theorem isFailed_append (log log' : Log) :
    (log ++ log').isFailed = (log.isFailed || log'.isFailed) := by
  rw [isFailed, isFailed, isFailed, faults_append]
  cases log.faults <;> simp

theorem isFailed_cons (event : Event) (log : Log) :
    isFailed (event :: log) = (event.fault?.isSome || log.isFailed) := by
  simp only [isFailed, faults_eq_filterMap, List.filterMap_cons]
  cases event.fault? <;> simp

theorem latched_append :
    (log ++ log').Latched failed ↔ log.Latched failed ∧ log'.Latched (failed || log.isFailed) := by
  induction log generalizing failed with
  | nil => simp [Latched, isFailed, faults, entries]
  | cons event log ih =>
      simp only [List.cons_append, Latched, ih, isFailed_cons, Bool.or_assoc, and_assoc]

/-- An event that attempts nothing and writes no fault may stand anywhere. -/
theorem Latched.cons_silent {event : Event} (quiet : event.attempts = false)
    (faultless : event.fault? = none) (rest : log.Latched failed) :
    Latched failed (event :: log) := by
  refine ⟨fun _ => ⟨quiet, ?_⟩, ?_, ?_⟩
  · intro fault written
    rw [faultless] at written
    cases written
  · cases event with
    | called => cases quiet
    | _ => rfl
  · rw [faultless, Option.isSome_none, Bool.or_false]
    exact rest

/-- While there has been no fault, any event may come that tells no step of one. -/
theorem Latched.cons_unfailed {event : Event} (untold : event.tellsFault = false)
    (rest : log.Latched event.fault?.isSome) : Latched false (event :: log) :=
  ⟨fun failed => (Bool.false_ne_true failed).elim, untold, rest⟩

theorem latched_of_silent
    (silent : ∀ event ∈ log, event.attempts = false ∧ event.fault? = none) :
    log.Latched failed := by
  induction log with
  | nil => trivial
  | cons event log ih =>
      obtain ⟨⟨quiet, faultless⟩, rest⟩ := List.forall_mem_cons.mp silent
      exact (ih rest).cons_silent quiet faultless

/-- After a fault all events are idle. -/
theorem Latched.isIdle (latched : log.Latched true) : ∀ event ∈ log, event.IsIdle := by
  induction log with
  | nil => simp
  | cons event log ih =>
      obtain ⟨idle, -, rest⟩ := latched
      rw [Bool.true_or] at rest
      exact List.forall_mem_cons.mpr ⟨idle rfl, ih rest⟩

/-- No step is told of a fault. -/
theorem Latched.untold (latched : log.Latched failed) :
    ∀ event ∈ log, event.tellsFault = false := by
  induction log generalizing failed with
  | nil => simp
  | cons event log ih =>
      obtain ⟨-, untold, rest⟩ := latched
      exact List.forall_mem_cons.mpr ⟨untold, ih rest⟩

/-- After a fault nothing is carried out. -/
theorem Latched.executions_eq_nil (latched : log.Latched true) : log.executions = [] := by
  rw [executions, milestones, List.filterMap_filterMap, List.filterMap_eq_nil_iff]
  intro event hevent
  have quiet := (latched.isIdle event hevent).attempts
  cases event <;> simp_all [Event.attempts, Event.milestone?, Milestone.execution?]

end Log

end Storyline

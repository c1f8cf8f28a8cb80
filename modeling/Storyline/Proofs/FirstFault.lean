import Storyline.Proofs.Sessions

/-!
# The first fault

The first fault of a run decides it. It becomes the verdict, and no later one takes its
place. Nothing is attempted behind it, so no step is ever told of a fault, and what has been
carried out is a first part of the itinerary, however the run came out.
-/

namespace Storyline

variable {σ : Type}

namespace Output

/-- The first fault that is written stays. -/
theorem fault_writeAll (out : Output) (entries : List Transcript.Entry) :
    (out.writeAll entries).fault =
      out.fault.or (entries.filterMap Transcript.Entry.fault?).head? := by
  induction entries generalizing out with
  | nil => exact (Option.or_none).symm
  | cons entry entries ih =>
      have step : (out.writeAll (entry :: entries)).fault =
          ((out.write entry).writeAll entries).fault := rfl
      rw [step, ih, write_fault, List.filterMap_cons, Option.or_assoc]
      cases entry.fault? <;> rfl

/-- Whether an output holds itself for failed just when it has kept a fault. -/
def Agrees (out : Output) : Prop := out.isFailed = out.fault.isSome

theorem Agrees.write {out : Output} (agrees : out.Agrees) (entry : Transcript.Entry) :
    (out.write entry).Agrees := by
  rw [Agrees, write_isFailed, write_fault, agrees, Option.isSome_or]

theorem Agrees.writeAll {out : Output} (agrees : out.Agrees) (entries : List Transcript.Entry) :
    (out.writeAll entries).Agrees := by
  induction entries generalizing out with
  | nil => exact agrees
  | cons entry entries ih => exact ih (agrees.write entry)

theorem agrees_fresh (console? : Option Console) : ({ console? } : Output).Agrees := rfl

end Output

namespace Log

variable {log : Log}

/-- The verdict on a log is its first fault. -/
theorem fault_report (console? : Option Console) (log : Log) :
    (log.report console?).fault = log.faults.head? := by
  rw [report, Output.report, Output.fault_writeAll, Option.none_or, faults]

/-- The verdict on a first part of a log is not taken back. -/
theorem fault_report_of_part {earlier : Log} (h : earlier <+: log) {console? : Option Console}
    {fault : Fault} (reported : (earlier.report console?).fault = some fault) :
    (log.report console?).fault = some fault := by
  obtain ⟨rest, rfl⟩ := h
  rw [fault_report] at reported ⊢
  rw [faults_append, List.head?_append, reported]
  rfl

/-- Behind a fault of a latched log all events are idle. -/
theorem Latched.isIdle_after {failed : Bool} {before after : Log} {event : Event}
    (latched : (before ++ event :: after).Latched failed) (fault : event.fault?.isSome = true) :
    ∀ later ∈ after, later.IsIdle := by
  obtain ⟨-, -, -, rest⟩ := latched_append.mp latched
  rw [fault, Bool.or_true] at rest
  exact rest.isIdle

end Log

/-- How the first fault decides a run that has this to carry out. -/
structure Log.Decided (log : Log) (planned : List Execution) : Prop where
  /-- Behind a fault nothing is attempted, and further faults are flaws of the script. -/
  idle : ∀ before event after, log = before ++ event :: after → event.fault?.isSome = true →
    ∀ later ∈ after, later.attempts = false ∧
      ∀ fault, later.fault? = some fault → fault.isFlaw = true
  /-- A step that is handed a context is told there that there has been no fault. -/
  untold : ∀ attempt index args context, Event.called attempt index args ∈ log →
    args.context = some context → context.failed = false
  /-- The verdict is the first fault. -/
  first : ∀ console?, (log.report console?).fault = log.faults.head?
  /-- The verdict is never replaced. -/
  kept : ∀ console? earlier fault, earlier <+: log →
    (Log.report console? earlier).fault = some fault → (log.report console?).fault = some fault
  /-- What is carried out is a first part of what there is to carry out. -/
  carried : log.executions <+: planned

/-- The first fault decides a run, and what there is to carry out is laid down by the script
and the label. -/
theorem Interpreter.first_fault_latches (i : Interpreter σ) (label : Label) (mode : Mode)
    (host : σ) (script : List Statement) :
    (i.runCues label mode host (Walk.cues label script)).log.Decided
      ((Itinerary.milestones label script).filterMap Milestone.execution?) := by
  have plain : (Walk.cues label script).all Cue.isPlain = true :=
    Walk.plain_cuesFrom label script {}
  have latched := i.latched_runCues label mode host plain
  constructor
  · intro before event after split fault later hlater
    rw [split] at latched
    obtain ⟨quiet, flaw⟩ := latched.isIdle_after fault later hlater
    exact ⟨quiet, flaw⟩
  · intro attempt index args context called handed
    have untold := latched.untold _ called
    rw [Event.tellsFault, handed] at untold
    exact untold
  · intro console?
    exact Log.fault_report console? _
  · intro console? earlier fault part reported
    exact Log.fault_report_of_part part reported
  · rw [← Walk.milestones_cues]
    exact i.executions_runCues label mode host plain

end Storyline

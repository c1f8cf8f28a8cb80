import Mathlib.Algebra.GroupWithZero.Nat
import Storyline.Proofs.Sessions

/-!
# Pauses

A session is pending for no other reason than that it waits for a signal or for an answer. What
it waits for, in order, is laid down by the stage and the cues (`Stage.awaits`), and each pause
is as long as what is awaited says: the news that it is awaited, the pending polls, and then what
has come. Nothing is called, asked or written within a pause. A log with its pauses in such an
order is *paced* (`Log.Paced`).

A session that is polled without a limit logs what a performance with pauses logs
(`Session.drive_eq_paced`), and its log is paced. A limited session stops at the pending poll
with the number of its limit, and up to there it has done the same (`Session.drive_some`).
-/

namespace Storyline

variable {σ : Type}

/-- Whether news has to do with waiting. -/
def Trace.isPause : Trace → Bool
  | suspended _ | resumed _ | waiting _ => true
  | _ => false

/-- Whether an event has to do with waiting. -/
def Event.isPause : Event → Bool
  | pending => true
  | told news => news.isPause
  | _ => false

/-- The news that something is awaited. -/
def Awaited.news (awaited : Awaited) : Trace :=
  match awaited.outcome with
  | .signal _ => .suspended awaited.attempt.statement.number
  | .answer _ => .waiting awaited.attempt.statement.number

/-- All news of the pause for what is awaited: a step is suspended and resumed, and an answer is
waited for. -/
def Awaited.pauses (awaited : Awaited) : List Trace :=
  match awaited.outcome with
  | .signal _ =>
      [.suspended awaited.attempt.statement.number, .resumed awaited.attempt.statement.number]
  | .answer _ => [.waiting awaited.attempt.statement.number]

namespace Log

/-- The news of pauses. -/
def pauses (log : Log) : List Trace := log.trace.filter Trace.isPause

/-- Whether no event of a log has to do with waiting. -/
def IsSteady (log : Log) : Prop := ∀ event ∈ log, event.isPause = false

/-- Whether a log records a verdict under a line with this indentation: it records its fault,
or nothing if there is none. -/
def Judges (indent : String) (verdict : Verdict) (log : Log) : Prop :=
  match verdict.fault? with
  | none => log = []
  | some fault =>
      ∃ news : Trace, news.fault? = some fault ∧ log = [.told news, .wrote (.fault indent fault)]

/-- Whether the pauses of a log are those for what is awaited, in this order. -/
inductive Paced : List Awaited → Log → Prop
  | nil : Paced [] []
  /-- Outside of pauses anything may be done. -/
  | event {event : Event} {awaits : List Awaited} {log : Log} (steady : event.isPause = false)
      (rest : Paced awaits log) : Paced awaits (event :: log)
  /-- After the pending polls for a signal at most one fault is recorded, and the step is
  resumed. -/
  | signal {verdict : Verdict} {judged log : Log} {awaits : List Awaited} (attempt : Attempt)
      (polls : Nat) (judges : judged.Judges attempt.statement.indent verdict)
      (rest : Paced awaits log) :
      Paced ({ attempt, polls, outcome := .signal verdict } :: awaits)
        (.told (.suspended attempt.statement.number) ::
          (List.replicate polls .pending ++
            (judged ++ .told (.resumed attempt.statement.number) :: log)))
  /-- After the pending polls for an answer the answer is there. -/
  | answer {awaits : List Awaited} {log : Log} (attempt : Attempt) (polls : Nat)
      (confirmed : Bool) (rest : Paced awaits log) :
      Paced ({ attempt, polls, outcome := .answer confirmed } :: awaits)
        (.told (.waiting attempt.statement.number) ::
          (List.replicate polls .pending ++ .asked attempt confirmed :: log))

variable {log log' : Log} {awaits awaits' : List Awaited}

theorem isSteady_nil : IsSteady [] := List.forall_mem_nil _

theorem IsSteady.append (steady : log.IsSteady) (steady' : log'.IsSteady) :
    (log ++ log').IsSteady := by
  intro event hevent
  rcases List.mem_append.mp hevent with h | h
  · exact steady event h
  · exact steady' event h

theorem IsSteady.not_mem_pending (steady : log.IsSteady) : .pending ∉ log := by
  intro pending
  cases steady _ pending

@[simp] theorem pauses_append (log log' : Log) :
    (log ++ log').pauses = log.pauses ++ log'.pauses := by
  rw [pauses, trace_append, List.filter_append]
  rfl

theorem pauses_unpolled (log : Log) : log.unpolled.pauses = log.pauses := by
  rw [pauses, trace, filterMap_unpolled rfl]
  rfl

theorem IsSteady.pauses_eq (steady : log.IsSteady) : log.pauses = [] := by
  rw [pauses, List.filter_eq_nil_iff]
  intro news told
  obtain ⟨event, here, same⟩ := List.mem_filterMap.mp told
  have unpaused := steady event here
  cases event with
  | told other =>
      cases same
      exact Bool.eq_false_iff.mp unpaused
  | visited | wrote | called | asked | pending => cases same

/-- A verdict is recorded without waiting. -/
theorem Judges.isSteady {indent : String} {verdict : Verdict} (judges : log.Judges indent verdict) :
    log.IsSteady := by
  rw [Judges] at judges
  split at judges
  · rw [judges]
    exact isSteady_nil
  · obtain ⟨news, hnews, rfl⟩ := judges
    intro event hevent
    rcases List.mem_pair.mp hevent with rfl | rfl
    · cases news <;> cases hnews <;> rfl
    · rfl

namespace Paced

theorem of_isSteady (steady : log.IsSteady) : Paced [] log := by
  induction log with
  | nil => exact .nil
  | cons event log ih =>
      obtain ⟨first, rest⟩ := List.forall_mem_cons.mp steady
      exact .event first (ih rest)

theorem append (first : Paced awaits log) (second : Paced awaits' log') :
    Paced (awaits ++ awaits') (log ++ log') := by
  induction first with
  | nil => exact second
  | event steady _ ih => exact .event steady ih
  | signal attempt polls judges _ ih =>
      have whole := Paced.signal attempt polls judges ih
      simpa only [List.cons_append, List.append_assoc] using whole
  | answer attempt polls confirmed _ ih =>
      have whole := Paced.answer attempt polls confirmed ih
      simpa only [List.cons_append, List.append_assoc] using whole

/-- The polls that find a paced log pending are those of what is awaited, taken together. -/
theorem count_pending (paced : Paced awaits log) :
    log.count .pending = (awaits.map Awaited.polls).sum := by
  induction paced with
  | nil => rfl
  | event steady _ ih =>
      rw [List.count_cons_of_ne, ih]
      rintro rfl
      cases steady
  | signal attempt polls judges _ ih =>
      have unpolled := List.count_eq_zero.mpr judges.isSteady.not_mem_pending
      rw [List.count_cons_of_ne (by simp), List.count_append, List.count_replicate_self,
        List.count_append, unpolled, Nat.zero_add, List.count_cons_of_ne (by simp), ih]
      rfl
  | answer attempt polls confirmed _ ih =>
      rw [List.count_cons_of_ne (by simp), List.count_append, List.count_replicate_self,
        List.count_cons_of_ne (by simp), ih]
      rfl

/-- A paced log tells of the pauses for what is awaited, and of no other ones. -/
theorem pauses_eq (paced : Paced awaits log) : log.pauses = awaits.flatMap Awaited.pauses := by
  have still (polls : Nat) : pauses (List.replicate polls .pending) = [] := by
    induction polls with
    | zero => rfl
    | succ polls ih => exact ih
  induction paced with
  | nil => rfl
  | @event event _ log steady _ ih =>
      have first : pauses [event] = [] :=
        IsSteady.pauses_eq (List.forall_mem_singleton.mpr steady)
      rw [← List.singleton_append, pauses_append, first, ih]
      rfl
  | @signal verdict judged log awaits attempt polls judges _ ih =>
      have pause : pauses [.told (.suspended attempt.statement.number)] =
          [.suspended attempt.statement.number] := rfl
      have resumed : pauses (.told (.resumed attempt.statement.number) :: log) =
          .resumed attempt.statement.number :: log.pauses := rfl
      rw [← List.singleton_append, pauses_append, pauses_append, pauses_append, pause, still,
        judges.isSteady.pauses_eq, resumed, ih]
      rfl
  | @answer awaits log attempt polls confirmed _ ih =>
      have pause : pauses [.told (.waiting attempt.statement.number)] =
          [.waiting attempt.statement.number] := rfl
      have asked : pauses (.asked attempt confirmed :: log) = log.pauses := rfl
      rw [← List.singleton_append, pauses_append, pauses_append, pause, still, asked, ih]
      rfl

end Paced

end Log

/-! ## Performing with pauses -/

/-- Whether a cue has been begun without waiting, and then what is awaited has been told. -/
def Begun.IsAnnounced (begun : Begun σ) : Prop :=
  ∃ before : Log, before.IsSteady ∧
    begun.log = before ++ begun.awaited.toList.map fun awaited => .told awaited.news

/-- Waits for what is awaited, if anything is, and takes it. -/
def Begun.paced (begun : Begun σ) : Log :=
  match begun.awaited with
  | none => begun.log
  | some awaited =>
      begun.log ++ (List.replicate awaited.polls .pending ++ (begun.stage.settle awaited).1)

namespace Stage

variable {stage : Stage σ} {cast : Cast σ} {label : Label}

/-- What is awaited in the course of performing cues. -/
def awaits (stage : Stage σ) (cast : Cast σ) (label : Label) : List Cue → List Awaited
  | [] => []
  | cue :: cues =>
      (stage.begin cast label cue).awaited.toList ++
        (stage.perform cast label cue).2.awaits cast label cues

/-- What is done in the course of performing cues, with the pauses. -/
def paced (stage : Stage σ) (cast : Cast σ) (label : Label) : List Cue → Log
  | [] => []
  | cue :: cues =>
      (stage.begin cast label cue).paced ++ (stage.perform cast label cue).2.paced cast label cues

theorem isSteady_raise (stage : Stage σ) (indent : String) (fault : Fault) :
    (stage.raise indent fault).IsSteady := by
  intro event hevent
  rcases List.mem_pair.mp hevent with rfl | rfl
  · cases stage.failed <;> rfl
  · rfl

theorem judges_judge (stage : Stage σ) (indent : String) (verdict : Verdict) :
    (stage.judge indent verdict).1.Judges indent verdict := by
  rw [judge, Log.Judges]
  cases verdict.fault? with
  | none => rfl
  | some fault =>
      refine ⟨_, ?_, rfl⟩
      cases stage.failed <;> rfl

theorem isSteady_calledLog (stage : Stage σ) (label : Label) (attempt : Attempt)
    (found : Found σ) (reply : Reply) :
    (stage.calledLog label attempt found reply).IsSteady := by
  intro event hevent
  rcases List.mem_cons.mp hevent with rfl | noted
  · rfl
  · obtain ⟨indent, text, rfl⟩ := mem_notes _ _ event noted
    rfl

theorem settle_signal (stage : Stage σ) (attempt : Attempt) (polls : Nat) (verdict : Verdict) :
    ∃ judged : Log, judged.Judges attempt.statement.indent verdict ∧
      (stage.settle { attempt, polls, outcome := .signal verdict }).1 =
        judged ++ [.told (.resumed attempt.statement.number)] :=
  ⟨_, judges_judge stage _ verdict, rfl⟩

theorem settle_answer (stage : Stage σ) (attempt : Attempt) (polls : Nat) (confirmed : Bool) :
    ∃ after : Log, after.IsSteady ∧
      (stage.settle { attempt, polls, outcome := .answer confirmed }).1 =
        .asked attempt confirmed :: after := by
  cases confirmed with
  | true => exact ⟨[], Log.isSteady_nil, rfl⟩
  | false => exact ⟨_, isSteady_raise stage _ _, rfl⟩

theorem not_mem_pending_settle (stage : Stage σ) (awaited : Awaited) :
    .pending ∉ (stage.settle awaited).1 := by
  obtain ⟨attempt, polls, verdict | confirmed⟩ := awaited
  · obtain ⟨judged, judges, settled⟩ := stage.settle_signal attempt polls verdict
    rw [settled, List.mem_append, not_or]
    exact ⟨judges.isSteady.not_mem_pending, by simp⟩
  · obtain ⟨after, steady, settled⟩ := stage.settle_answer attempt polls confirmed
    rw [settled, List.mem_cons, not_or]
    exact ⟨by simp, steady.not_mem_pending⟩

/-- A cue of a walk is begun without waiting, and then what is awaited is told. -/
theorem isAnnounced_begin (stage : Stage σ) (cast : Cast σ) (label : Label) {cue : Cue}
    (plain : cue.isPlain = true) :
    (stage.begin cast label cue).IsAnnounced := by
  have raised (indent : String) (fault : Fault) :
      Begun.IsAnnounced { log := stage.raise indent fault, stage := stage.fail } :=
    ⟨_, isSteady_raise stage indent fault, (List.append_nil _).symm⟩
  cases cue with
  | visit index => exact ⟨[.visited index], by simp [Log.IsSteady, Event.isPause], rfl⟩
  | write entry => exact ⟨[.wrote entry], by simp [Log.IsSteady, Event.isPause], rfl⟩
  | tell news =>
      refine ⟨[.told news], ?_, rfl⟩
      intro event hevent
      obtain rfl := List.mem_singleton.mp hevent
      cases news with
      | suspended line | resumed line | waiting line => cases plain
      | _ => rfl
  | flaw indent flaw => exact raised indent (.flaw flaw)
  | attempt attempt =>
      have attempts := attempts_begin stage cast label attempt
      generalize stage.begin cast label (.attempt attempt) = begun at attempts ⊢
      cases attempts with
      | idle => exact ⟨[], Log.isSteady_nil, rfl⟩
      | unprompted | unmatched => exact raised _ _
      | asked => exact ⟨[], Log.isSteady_nil, rfl⟩
      | @replied found reply host verdict =>
          have called := isSteady_calledLog stage label attempt found reply
          refine ⟨_, called.append ?_, (List.append_nil _).symm⟩
          exact (judges_judge _ attempt.statement.indent verdict).isSteady
      | suspended => exact ⟨_, isSteady_calledLog stage label attempt _ _, rfl⟩

theorem not_mem_pending_perform (stage : Stage σ) (cast : Cast σ) (label : Label) {cue : Cue}
    (plain : cue.isPlain = true) :
    .pending ∉ (stage.perform cast label cue).1 := by
  obtain ⟨before, steady, begun⟩ := isAnnounced_begin stage cast label plain
  have unpolled : .pending ∉ (stage.begin cast label cue).log := by
    rw [begun, List.mem_append, not_or]
    exact ⟨steady.not_mem_pending, by simp⟩
  rw [perform_eq_finish, Begun.finish]
  split
  · exact unpolled
  · rw [List.mem_append, not_or]
    exact ⟨unpolled, not_mem_pending_settle _ _⟩

/-- Performing cues takes no polls. -/
theorem unpolled_complete (stage : Stage σ) (cast : Cast σ) (label : Label) {cues : List Cue}
    (plain : cues.all Cue.isPlain = true) :
    (stage.complete cast label cues).1.unpolled = (stage.complete cast label cues).1 := by
  induction cues generalizing stage with
  | nil => rfl
  | cons cue cues ih =>
      rw [List.all_cons, Bool.and_eq_true] at plain
      have first : Log.unpolled (stage.perform cast label cue).1 =
          (stage.perform cast label cue).1 := by
        rw [Log.unpolled, List.filter_eq_self]
        intro event hevent
        rw [decide_eq_true_eq]
        rintro rfl
        exact not_mem_pending_perform stage cast label plain.1 hevent
      rw [complete_cons, Log.unpolled_append, first, ih _ plain.2]

/-- Waiting for what has been told is a pause. -/
theorem paced_begun {begun : Begun σ} (announced : begun.IsAnnounced) :
    Log.Paced begun.awaited.toList begun.paced := by
  obtain ⟨log, stage, awaited⟩ := begun
  obtain ⟨before, steady, told⟩ := announced
  dsimp only at told
  subst told
  rcases awaited with _ | ⟨attempt, polls, verdict | confirmed⟩
  · simp only [Begun.paced, Option.toList_none, List.map_nil, List.append_nil]
    exact .of_isSteady steady
  · obtain ⟨judged, judges, settled⟩ := stage.settle_signal attempt polls verdict
    have pause := Log.Paced.signal attempt polls judges .nil
    simp only [Begun.paced, settled, List.append_assoc]
    exact (Log.Paced.of_isSteady steady).append pause
  · obtain ⟨after, steady', settled⟩ := stage.settle_answer attempt polls confirmed
    have pause := Log.Paced.answer attempt polls confirmed (.of_isSteady steady')
    simp only [Begun.paced, settled, List.append_assoc]
    exact (Log.Paced.of_isSteady steady).append pause

/-- Performing cues with pauses gives a paced log. -/
theorem paced_paced {cues : List Cue} (plain : cues.all Cue.isPlain = true) :
    Log.Paced (stage.awaits cast label cues) (stage.paced cast label cues) := by
  induction cues generalizing stage with
  | nil => exact .nil
  | cons cue cues ih =>
      rw [List.all_cons, Bool.and_eq_true] at plain
      exact (paced_begun (isAnnounced_begin stage cast label plain.1)).append (ih plain.2)

end Stage

end Storyline

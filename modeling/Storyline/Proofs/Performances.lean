import Mathlib.Data.List.Infix
import Storyline.Proofs.Latch
import Storyline.Run.Performance

/-!
# What performing does to the cues

To perform cues is to pass their milestones. All visits are made, whatever the steps and the
prompt do. What is to be carried out is carried out in turn up to the first fault, and the
log is latched.

What can come of beginning an attempt is said once (`Stage.Attempts`), and most of what is known
of attempts is proved by its cases. One such fact is which events there can be
(`Stage.isOfAttempt_begin`), so a view that sees none of these sees nothing of an attempt.

What holds of performing some cues is put down as one law, `Stage.Follows`. It holds of each
cue by itself (`follows_perform`), and of two performances in a row if it holds of both
(`Follows.trans`), so it holds of all cues of a run (`follows_complete`).
-/

namespace Storyline

variable {σ : Type}

/-- Takes what is awaited, if anything is. -/
def Begun.finish (begun : Begun σ) : Log × Stage σ :=
  match begun.awaited with
  | none => (begun.log, begun.stage)
  | some awaited => (begun.log ++ (begun.stage.settle awaited).1, (begun.stage.settle awaited).2)

theorem Begun.finish_eq (begun : Begun σ) :
    begun.finish = (begun.log ++ (finish { begun with log := [] }).1,
      (finish { begun with log := [] }).2) := by
  obtain ⟨log, stage, awaited | _⟩ := begun
  · simp only [finish, List.append_nil]
  · rfl

/-- What is handed over in a call as long as there has been no fault. -/
def Found.args (found : Found σ) (label : Label) (attempt : Attempt) : Args :=
  .supply found.definition.params found.captures attempt.docString attempt.table
    { statement := attempt.statement, text := attempt.text, label := label.text, failed := false }

/-- Whether a fault is one that an attempt can end in. -/
def Fault.isOfAttempt : Fault → Bool
  | noMatch _ | failed _ | panicked _ | declined _ | noPrompt _ => true
  | unreadable _ _ | flaw _ => false

/-- Whether news are such as are told of an attempt. -/
def Trace.isOfAttempt : Trace → Bool
  | suspended _ | resumed _ | waiting _ | runFailed _ | faultAfterFailure _ => true
  | rangeClosed _ _ _ | splicingBackground _ | replayingOutline _ | finished _ => false

/-- What there can be in the log of an attempt. -/
inductive Event.IsOfAttempt : Event → Prop
  | called (attempt : Attempt) (index : Nat) (args : Args) :
      IsOfAttempt (.called attempt index args)
  | asked (attempt : Attempt) (confirmed : Bool) : IsOfAttempt (.asked attempt confirmed)
  | note (indent text : String) : IsOfAttempt (.wrote (.note indent text))
  | fault {f : Fault} (kind : f.isOfAttempt = true) (indent : String) :
      IsOfAttempt (.wrote (.fault indent f))
  | told {news : Trace} (kind : news.isOfAttempt = true) : IsOfAttempt (.told news)

namespace Stage

theorem perform_eq_finish (stage : Stage σ) (cast : Cast σ) (label : Label) (cue : Cue) :
    stage.perform cast label cue = (stage.begin cast label cue).finish := rfl

theorem complete_cons (stage : Stage σ) (cast : Cast σ) (label : Label) (cue : Cue)
    (cues : List Cue) :
    stage.complete cast label (cue :: cues) =
      ((stage.perform cast label cue).1 ++
          ((stage.perform cast label cue).2.complete cast label cues).1,
        ((stage.perform cast label cue).2.complete cast label cues).2) := rfl

variable {stage mid last : Stage σ} {cast : Cast σ} {label : Label} {log log' : Log}
  {cues cues' : List Cue}

/-- The law of performing cues on a stage, with this log and this stage afterwards. -/
structure Follows (stage : Stage σ) (cues : List Cue) (log : Log) (last : Stage σ) : Prop where
  /-- The stage knows whether there has been a fault. -/
  failed : last.failed = (stage.failed || log.isFailed)
  /-- The log keeps to the rules about faults. -/
  latched : log.Latched stage.failed
  /-- All visits are made. -/
  visits : log.visits = (cues.filterMap Cue.milestone?).filterMap Milestone.visit?
  /-- Unless there is a fault, all milestones are passed. -/
  milestones : last.failed = false → log.milestones = cues.filterMap Cue.milestone?
  /-- What is carried out are the first ones of those that the cues ask for. -/
  executions : log.executions <+: (cues.filterMap Cue.milestone?).filterMap Milestone.execution?

namespace Follows

theorem nil (stage : Stage σ) : Follows stage [] [] stage where
  failed := (Bool.or_false _).symm
  latched := trivial
  visits := rfl
  milestones _ := rfl
  executions := List.prefix_refl _

theorem trans (first : Follows stage cues log mid) (second : Follows mid cues' log' last) :
    Follows stage (cues ++ cues') (log ++ log') last where
  failed := by
    rw [second.failed, first.failed, Log.isFailed_append, Bool.or_assoc]
  latched := by
    rw [Log.latched_append, ← first.failed]
    exact ⟨first.latched, second.latched⟩
  visits := by
    rw [Log.visits_append, first.visits, second.visits, List.filterMap_append,
      List.filterMap_append]
  milestones := by
    intro unfailed
    have before : mid.failed = false := by
      rw [second.failed, Bool.or_eq_false_iff] at unfailed
      exact unfailed.1
    rw [Log.milestones_append, first.milestones before, second.milestones unfailed,
      List.filterMap_append]
  executions := by
    rw [Log.executions_append, List.filterMap_append, List.filterMap_append]
    cases hmid : mid.failed with
    | false =>
        rw [Log.executions, first.milestones hmid]
        exact (List.prefix_append_right_inj _).mpr second.executions
    | true =>
        have nothing : log'.executions = [] := by
          have latched := second.latched
          rw [hmid] at latched
          exact latched.executions_eq_nil
        rw [nothing, List.append_nil]
        exact first.executions.trans (List.prefix_append _ _)

/-- A cue that asks for no execution passes its milestone. -/
theorem of_milestones (failed : last.failed = (stage.failed || log.isFailed))
    (latched : log.Latched stage.failed) (passed : log.milestones = cues.filterMap Cue.milestone?) :
    Follows stage cues log last where
  failed := failed
  latched := latched
  visits := by rw [Log.visits_eq_milestones, passed]
  milestones _ := passed
  executions := by rw [Log.executions, passed]

/-- An attempt that is not carried out is one after a fault, or it ends in a fault. -/
theorem of_not_carried {attempt : Attempt} (failed : last.failed = (stage.failed || log.isFailed))
    (latched : log.Latched stage.failed) (not_carried : log.milestones = [])
    (fault : last.failed = true) : Follows stage [.attempt attempt] log last where
  failed := failed
  latched := latched
  visits := by
    rw [Log.visits_eq_milestones, not_carried]
    rfl
  milestones unfailed := by
    rw [fault] at unfailed
    cases unfailed
  executions := by
    rw [Log.executions, not_carried]
    exact List.nil_prefix

end Follows

/-! ## Faults -/

section Faults

variable (indent : String)

theorem isFailed_raise (stage : Stage σ) (fault : Fault) :
    (stage.raise indent fault).isFailed = true := rfl

theorem milestones_raise (stage : Stage σ) (fault : Fault) :
    (stage.raise indent fault).milestones = [] := rfl

/-- A first fault may be recorded, and a flaw may be recorded anywhere. -/
theorem latched_raise {fault : Fault} (allowed : stage.failed = true → fault.isFlaw = true) :
    (stage.raise indent fault).Latched stage.failed := by
  have told : (Event.told (if stage.failed then .faultAfterFailure fault
      else .runFailed fault)).attempts = false := by
    split <;> rfl
  apply Log.Latched.cons_silent told rfl
  refine ⟨fun failed => ⟨rfl, ?_⟩, rfl, trivial⟩
  intro fault' written
  cases written
  exact allowed failed

theorem latched_raise_unfailed (unfailed : stage.failed = false) (fault : Fault) :
    (stage.raise indent fault).Latched false := by
  rw [← unfailed]
  apply latched_raise
  intro failed
  rw [unfailed] at failed
  cases failed

theorem failed_judge (stage : Stage σ) (verdict : Verdict) :
    (stage.judge indent verdict).2.failed =
      (stage.failed || (stage.judge indent verdict).1.isFailed) := by
  rw [judge]
  split
  · exact (Bool.or_false _).symm
  · exact (Bool.or_true _).symm

theorem milestones_judge (stage : Stage σ) (verdict : Verdict) :
    (stage.judge indent verdict).1.milestones = [] := by
  rw [judge]
  split <;> rfl

theorem latched_judge (unfailed : stage.failed = false) (verdict : Verdict) :
    (stage.judge indent verdict).1.Latched false := by
  rw [judge]
  split
  · trivial
  · exact latched_raise_unfailed indent unfailed _

end Faults

/-! ## What is awaited -/

theorem failed_settle (stage : Stage σ) (awaited : Awaited) :
    (stage.settle awaited).2.failed = (stage.failed || (stage.settle awaited).1.isFailed) := by
  rw [settle]
  dsimp only
  split
  · rw [Log.isFailed_append, show Log.isFailed [.told (.resumed _)] = false from rfl,
      Bool.or_false]
    exact failed_judge _ stage _
  · exact (Bool.or_false _).symm
  · exact (Bool.or_true _).symm

theorem milestones_settle_signal (stage : Stage σ) (attempt : Attempt) (polls : Nat)
    (verdict : Verdict) :
    (stage.settle { attempt, polls, outcome := .signal verdict }).1.milestones = [] := by
  simp only [settle, Log.milestones_append, milestones_judge]
  rfl

theorem milestones_settle_answer (stage : Stage σ) (attempt : Attempt) (polls : Nat)
    (confirmed : Bool) :
    (stage.settle { attempt, polls, outcome := .answer confirmed }).1.milestones =
      [.execution (.question attempt)] := by
  cases confirmed <;> rfl

theorem latched_settle (unfailed : stage.failed = false) (awaited : Awaited) :
    (stage.settle awaited).1.Latched false := by
  rw [settle]
  dsimp only
  split
  · rw [Log.latched_append]
    exact ⟨latched_judge _ unfailed _, Log.Latched.cons_silent rfl rfl trivial⟩
  · exact Log.Latched.cons_unfailed rfl trivial
  · exact Log.Latched.cons_unfailed rfl (latched_raise_unfailed _ unfailed _)

/-! ## Attempts -/

section Attempts

variable {attempt : Attempt}

theorem mem_notes (args : Args) (reply : Reply) :
    ∀ event ∈ notes args reply, ∃ indent text, event = .wrote (.note indent text) := by
  intro event hevent
  rw [notes] at hevent
  split at hevent
  · cases hevent
  · obtain ⟨text, -, rfl⟩ := List.mem_map.mp hevent
    exact ⟨_, _, rfl⟩

/-- What a call does before its verdict is taken. -/
def calledLog (stage : Stage σ) (label : Label) (attempt : Attempt) (found : Found σ)
    (reply : Reply) : Log :=
  .called attempt found.index (stage.args label attempt found) ::
    notes (stage.args label attempt found) reply

section Called

variable (stage : Stage σ) (label : Label) (attempt : Attempt) (found : Found σ) (reply : Reply)

/-- A view that sees no notes sees nothing but the call. -/
theorem filterMap_calledLog {β : Type} {view : Event → Option β}
    (unseen : ∀ indent text, view (.wrote (.note indent text)) = none) :
    (stage.calledLog label attempt found reply).filterMap view =
      (view (.called attempt found.index (stage.args label attempt found))).toList := by
  have silent : (notes (stage.args label attempt found) reply).filterMap view = [] := by
    rw [List.filterMap_eq_nil_iff]
    intro event hevent
    obtain ⟨indent, text, rfl⟩ := mem_notes _ _ event hevent
    exact unseen indent text
  rw [calledLog, Log.filterMap_cons_toList, silent, List.append_nil]

theorem isFailed_calledLog : (stage.calledLog label attempt found reply).isFailed = false := by
  rw [Log.isFailed, Log.faults_eq_filterMap, filterMap_calledLog]
  · rfl
  · intro indent text
    rfl

theorem milestones_calledLog :
    (stage.calledLog label attempt found reply).milestones = [.execution (.call attempt)] :=
  filterMap_calledLog stage label attempt found reply fun _ _ => rfl

/-- A step is called only while there has been no fault, and this is what its context says. -/
theorem latched_calledLog (unfailed : stage.failed = false) :
    (stage.calledLog label attempt found reply).Latched false := by
  apply Log.Latched.cons_unfailed
  · simp only [Event.tellsFault, args, Args.supply]
    split
    · exact unfailed
    · rfl
  · apply Log.latched_of_silent
    intro event hevent
    obtain ⟨indent, text, rfl⟩ := mem_notes _ _ event hevent
    exact ⟨rfl, rfl⟩

end Called

/-- The call of a step that replies at once. -/
theorem call_now {found : Found σ} {reply : Reply} {host : σ} {verdict : Verdict}
    (hreply : found.definition.call (stage.args label attempt found) stage.host = (reply, host))
    (hnow : reply.completion = .now verdict) :
    (stage.call label attempt found).finish =
      (stage.calledLog label attempt found reply ++
          (({ stage with host } : Stage σ).judge attempt.statement.indent verdict).1,
        (({ stage with host } : Stage σ).judge attempt.statement.indent verdict).2) := by
  simp only [call, hreply, hnow, Begun.finish, calledLog]

/-- The call of a step that returns a signal. -/
theorem call_later {found : Found σ} {reply : Reply} {host : σ} {polls : Nat} {verdict : Verdict}
    (hreply : found.definition.call (stage.args label attempt found) stage.host = (reply, host))
    (hlater : reply.completion = .later polls verdict) :
    (stage.call label attempt found).finish =
      (stage.calledLog label attempt found reply ++
          .told (.suspended attempt.statement.number) ::
            (({ stage with host } : Stage σ).settle
              { attempt, polls, outcome := .signal verdict }).1,
        (({ stage with host } : Stage σ).settle
          { attempt, polls, outcome := .signal verdict }).2) := by
  simp only [call, hreply, hlater, Begun.finish, calledLog, List.append_assoc,
    List.singleton_append]

/-- What can come of beginning an attempt. -/
inductive Attempts (stage : Stage σ) (cast : Cast σ) (label : Label) (attempt : Attempt) :
    Begun σ → Prop
  /-- After a fault nothing is attempted. -/
  | idle (failed : stage.failed = true) : Attempts stage cast label attempt { stage }
  /-- There is no prompt to put a check to. -/
  | unprompted (unfailed : stage.failed = false) (kind : attempt.statement.kind = .ask)
      (nobody : cast.prompt = none) :
      Attempts stage cast label attempt
        { log := stage.raise attempt.statement.indent (.noPrompt attempt.text)
          stage := stage.fail }
  /-- No definition matches a step. -/
  | unmatched (unfailed : stage.failed = false) (kind : attempt.statement.kind ≠ .ask)
      (none_found : Definition.find? cast.definitions attempt.text = none) :
      Attempts stage cast label attempt
        { log := stage.raise attempt.statement.indent (.noMatch attempt.text)
          stage := stage.fail }
  /-- A check is put to the prompt, and the answer is awaited. -/
  | asked {prompt : Prompt σ} {answer : Answer} {host : σ} (unfailed : stage.failed = false)
      (kind : attempt.statement.kind = .ask) (there : cast.prompt = some prompt)
      (asked : prompt.ask attempt.text stage.host = (answer, host)) :
      Attempts stage cast label attempt
        { log := [.told (.waiting attempt.statement.number)]
          stage := { stage with host }
          awaited :=
            some { attempt, polls := answer.polls, outcome := .answer answer.confirmed } }
  /-- A step is called and replies at once. -/
  | replied {found : Found σ} {reply : Reply} {host : σ} {verdict : Verdict}
      (unfailed : stage.failed = false) (kind : attempt.statement.kind ≠ .ask)
      (first : Definition.find? cast.definitions attempt.text = some found)
      (called : found.definition.call (stage.args label attempt found) stage.host = (reply, host))
      (now : reply.completion = .now verdict) :
      Attempts stage cast label attempt
        { log := stage.calledLog label attempt found reply ++
            (({ stage with host } : Stage σ).judge attempt.statement.indent verdict).1
          stage := (({ stage with host } : Stage σ).judge attempt.statement.indent verdict).2 }
  /-- A step is called and returns a signal, which is awaited. -/
  | suspended {found : Found σ} {reply : Reply} {host : σ} {polls : Nat} {verdict : Verdict}
      (unfailed : stage.failed = false) (kind : attempt.statement.kind ≠ .ask)
      (first : Definition.find? cast.definitions attempt.text = some found)
      (called : found.definition.call (stage.args label attempt found) stage.host = (reply, host))
      (later : reply.completion = .later polls verdict) :
      Attempts stage cast label attempt
        { log := stage.calledLog label attempt found reply ++
            [.told (.suspended attempt.statement.number)]
          stage := { stage with host }
          awaited := some { attempt, polls, outcome := .signal verdict } }

/-- Nothing else can come of it. -/
theorem attempts_begin (stage : Stage σ) (cast : Cast σ) (label : Label) (attempt : Attempt) :
    stage.Attempts cast label attempt (stage.begin cast label (.attempt attempt)) := by
  rw [begin]
  cases failed : stage.failed with
  | true => exact .idle failed
  | false =>
      rw [if_neg Bool.false_ne_true]
      by_cases kind : attempt.statement.kind = .ask
      · rw [if_pos kind, runCheck]
        cases prompt : cast.prompt with
        | none => exact .unprompted failed kind prompt
        | some prompt' =>
            rcases asked : prompt'.ask attempt.text stage.host with ⟨answer, host⟩
            simp only [asked]
            exact .asked failed kind prompt asked
      · rw [if_neg kind, runStep]
        cases first : Definition.find? cast.definitions attempt.text with
        | none => exact .unmatched failed kind first
        | some found =>
            rcases called : found.definition.call (stage.args label attempt found) stage.host with
              ⟨reply, host⟩
            simp only [call, called]
            cases completion : reply.completion with
            | now verdict => exact .replied failed kind first called completion
            | later polls verdict => exact .suspended failed kind first called completion

theorem isOfAttempt_raise (stage : Stage σ) (indent : String) {fault : Fault}
    (kind : fault.isOfAttempt = true) :
    ∀ event ∈ stage.raise indent fault, event.IsOfAttempt := by
  rw [raise, List.forall_mem_cons, List.forall_mem_singleton]
  refine ⟨.told ?_, .fault kind indent⟩
  split <;> rfl

theorem isOfAttempt_judge (stage : Stage σ) (indent : String) (verdict : Verdict) :
    ∀ event ∈ (stage.judge indent verdict).1, event.IsOfAttempt := by
  cases verdict with
  | done => exact List.forall_mem_nil _
  | failed failure => exact stage.isOfAttempt_raise indent rfl
  | panicked panic => exact stage.isOfAttempt_raise indent rfl

theorem isOfAttempt_settle (stage : Stage σ) (awaited : Awaited) :
    ∀ event ∈ (stage.settle awaited).1, event.IsOfAttempt := by
  obtain ⟨attempt, polls, verdict | _ | _⟩ := awaited
  · rw [settle, List.forall_mem_append, List.forall_mem_singleton]
    exact ⟨stage.isOfAttempt_judge _ verdict, .told rfl⟩
  · rw [settle, List.forall_mem_cons]
    exact ⟨.asked attempt false, stage.isOfAttempt_raise _ rfl⟩
  · exact List.forall_mem_singleton.mpr (.asked attempt true)

theorem isOfAttempt_calledLog (stage : Stage σ) (label : Label) (attempt : Attempt)
    (found : Found σ) (reply : Reply) :
    ∀ event ∈ stage.calledLog label attempt found reply, event.IsOfAttempt := by
  rw [calledLog, List.forall_mem_cons]
  refine ⟨.called attempt _ _, ?_⟩
  intro event among
  obtain ⟨indent, text, rfl⟩ := mem_notes _ _ event among
  exact .note indent text

theorem isOfAttempt_begin (stage : Stage σ) (cast : Cast σ) (label : Label) (attempt : Attempt) :
    ∀ event ∈ (stage.begin cast label (.attempt attempt)).finish.1, event.IsOfAttempt := by
  have attempts := attempts_begin stage cast label attempt
  generalize stage.begin cast label (.attempt attempt) = begun at attempts ⊢
  cases attempts with
  | idle => exact List.forall_mem_nil _
  | unprompted | unmatched => exact stage.isOfAttempt_raise _ rfl
  | asked =>
      rw [Begun.finish, List.forall_mem_append, List.forall_mem_singleton]
      exact ⟨.told rfl, isOfAttempt_settle _ _⟩
  | replied =>
      rw [Begun.finish, List.forall_mem_append]
      exact ⟨isOfAttempt_calledLog stage label attempt _ _, isOfAttempt_judge _ _ _⟩
  | suspended =>
      rw [Begun.finish, List.forall_mem_append, List.forall_mem_append, List.forall_mem_singleton]
      exact ⟨⟨isOfAttempt_calledLog stage label attempt _ _, .told rfl⟩, isOfAttempt_settle _ _⟩

/-- A view that sees no event of an attempt sees nothing of it. -/
theorem filterMap_attempt {β : Type} {view : Event → Option β}
    (unseen : ∀ event : Event, event.IsOfAttempt → view event = none) (stage : Stage σ)
    (cast : Cast σ) (label : Label) (attempt : Attempt) :
    (stage.begin cast label (.attempt attempt)).finish.1.filterMap view = [] := by
  rw [List.filterMap_eq_nil_iff]
  intro event among
  exact unseen event (isOfAttempt_begin stage cast label attempt event among)

/-- What can be seen of a performance is what can be seen of its cues, if this is so for each cue
by itself. -/
theorem filterMap_complete {β : Type} {view : Event → Option β} {seen : Cue → Option β}
    (perform : ∀ stage : Stage σ, ∀ cue ∈ cues,
      (stage.perform cast label cue).1.filterMap view = (seen cue).toList) (stage : Stage σ) :
    (stage.complete cast label cues).1.filterMap view = cues.filterMap seen := by
  induction cues generalizing stage with
  | nil => rfl
  | cons cue cues ih =>
      have rest : ((stage.perform cast label cue).2.complete cast label cues).1.filterMap view =
          cues.filterMap seen := ih (fun stage cue among => perform stage cue (.tail _ among)) _
      rw [complete_cons, List.filterMap_append, perform stage cue List.mem_cons_self, rest,
        List.filterMap_cons]
      cases seen cue <;> rfl

theorem follows_raise (unfailed : stage.failed = false) (indent : String) (fault : Fault) :
    Follows stage [.attempt attempt] (stage.raise indent fault) stage.fail := by
  apply Follows.of_not_carried
  · rw [isFailed_raise, Bool.or_true]
    rfl
  · rw [unfailed]
    exact latched_raise_unfailed indent unfailed fault
  · exact milestones_raise indent stage fault
  · rfl

/-- A call follows the law, whatever comes of it later on. -/
theorem follows_called (unfailed : stage.failed = false) (kind : attempt.statement.kind ≠ .ask)
    (found : Found σ) (reply : Reply) (failed : last.failed = log.isFailed)
    (latched : log.Latched false) (nothing : log.milestones = []) :
    Follows stage [.attempt attempt] (stage.calledLog label attempt found reply ++ log) last := by
  have asked_for : [Cue.attempt attempt].filterMap Cue.milestone? =
      [.execution (.call attempt)] := by
    simp [Execution.of, kind]
  have faultless := isFailed_calledLog stage label attempt found reply
  apply Follows.of_milestones
  · rw [failed, unfailed, Log.isFailed_append, faultless, Bool.false_or, Bool.false_or]
  · rw [unfailed, Log.latched_append, faultless]
    exact ⟨latched_calledLog stage label attempt found reply unfailed, latched⟩
  · rw [Log.milestones_append, milestones_calledLog, nothing, asked_for]
    rfl

/-- An attempt follows the law, whatever comes of it. -/
theorem follows_attempt (stage : Stage σ) (cast : Cast σ) (label : Label) (attempt : Attempt) :
    Follows stage [.attempt attempt] (stage.begin cast label (.attempt attempt)).finish.1
      (stage.begin cast label (.attempt attempt)).finish.2 := by
  have attempts := attempts_begin stage cast label attempt
  generalize stage.begin cast label (.attempt attempt) = begun at attempts ⊢
  cases attempts with
  | idle failed => exact .of_not_carried (Bool.or_false _).symm trivial rfl failed
  | unprompted unfailed | unmatched unfailed => exact follows_raise unfailed _ _
  | @asked prompt answer host unfailed kind =>
      have asked_for : [Cue.attempt attempt].filterMap Cue.milestone? =
          [.execution (.question attempt)] := by
        simp [Execution.of, kind]
      apply Follows.of_milestones
      · exact failed_settle _ _
      · rw [unfailed]
        exact Log.Latched.cons_unfailed rfl (latched_settle rfl _)
      · rw [asked_for, ← milestones_settle_answer { stage with host } attempt answer.polls
          answer.confirmed]
        rfl
  | @replied found reply host verdict unfailed kind =>
      have still : ({ stage with host } : Stage σ).failed = false := unfailed
      apply follows_called unfailed kind found reply
      · rw [Begun.finish, failed_judge, still, Bool.false_or]
      · exact latched_judge _ still verdict
      · exact milestones_judge _ _ verdict
  | @suspended found reply host polls verdict unfailed kind =>
      have still : ({ stage with host } : Stage σ).failed = false := unfailed
      simp only [Begun.finish, List.append_assoc, List.singleton_append]
      apply follows_called unfailed kind found reply
      · rw [failed_settle, still, Bool.false_or, Log.isFailed_cons]
        rfl
      · exact Log.Latched.cons_silent rfl rfl (latched_settle still _)
      · rw [Log.milestones_cons, milestones_settle_signal]
        rfl

end Attempts

/-- Each cue of a walk is performed as the law says. -/
theorem follows_perform (stage : Stage σ) (cast : Cast σ) (label : Label) {cue : Cue}
    (plain : cue.isPlain = true) :
    Follows stage [cue] (stage.perform cast label cue).1 (stage.perform cast label cue).2 := by
  have finish_eq : stage.perform cast label cue = (stage.begin cast label cue).finish := rfl
  rw [finish_eq]
  cases cue with
  | visit index =>
      exact .of_milestones (Bool.or_false _).symm (Log.Latched.cons_silent rfl rfl trivial) rfl
  | write entry =>
      have faultless : (Event.wrote entry).fault? = none := Option.isNone_iff_eq_none.mp plain
      refine .of_milestones ?_ (Log.Latched.cons_silent rfl faultless trivial) rfl
      have unchanged : stage.failed = (stage.failed || Log.isFailed [.wrote entry]) := by
        rw [Log.isFailed_cons, faultless]
        exact (Bool.or_false _).symm
      exact unchanged
  | tell news =>
      have quiet : (Event.told news).attempts = false := by
        cases news with
        | waiting line => cases plain
        | _ => rfl
      exact .of_milestones (Bool.or_false _).symm (Log.Latched.cons_silent quiet rfl trivial) rfl
  | flaw indent flaw =>
      refine .of_milestones ?_ (latched_raise indent fun _ => rfl) rfl
      exact (Bool.or_true _).symm
  | attempt attempt => exact follows_attempt stage cast label attempt

/-- All cues of a walk are performed as the law says. -/
theorem follows_complete (stage : Stage σ) (cast : Cast σ) (label : Label)
    (plain : ∀ cue ∈ cues, cue.isPlain = true) :
    Follows stage cues (stage.complete cast label cues).1 (stage.complete cast label cues).2 := by
  induction cues generalizing stage with
  | nil => exact .nil stage
  | cons cue cues ih =>
      obtain ⟨plain_cue, plain_rest⟩ := List.forall_mem_cons.mp plain
      exact (follows_perform stage cast label plain_cue).trans (ih _ plain_rest)

end Stage

end Storyline

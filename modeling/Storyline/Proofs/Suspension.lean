import Mathlib.Data.List.Forall2
import Storyline.Proofs.Polling
import Storyline.Step.Stub

/-!
# Suspension is transparent

A cast is *delayed* to another one if that one comes to the same, but with signals in the place
of some immediate verdicts, and with other waiting times. The two casts may keep different
hosts, which a relation ties to each other (`Cast.DelayedTo`). Whatever a plan makes of the
invocations of a cast, one after the other, delays it (`Cast.delayedTo_delay`).

Performed by both casts, cues come to the same stages and logs, but for the news that a step is
suspended and resumed on either side of the record of its verdict (`Log.SuspendedTo`). So the
transcript, the calls and the questions stay what they are, and the polls are accounted for by
what is awaited.
-/

namespace Storyline

variable {σ τ : Type}

/-! ## Delays -/

/-- Whether the second completion has the verdict of the first one, and has it no earlier. -/
inductive Completion.DelayedTo : Completion → Completion → Prop
  | atOnce (verdict : Verdict) : DelayedTo (.now verdict) (.now verdict)
  | suspended (verdict : Verdict) (polls : Nat) : DelayedTo (.now verdict) (.later polls verdict)
  | prolonged (verdict : Verdict) (polls polls' : Nat) :
      DelayedTo (.later polls verdict) (.later polls' verdict)

section Delays

variable (R : σ → τ → Prop)

/-- Whether the second definition does what the first one does, but maybe later. -/
structure Definition.DelayedTo (definition : Definition σ) (definition' : Definition τ) :
    Prop where
  pattern : definition'.pattern = definition.pattern
  params : definition'.params = definition.params
  notes : ∀ args host host', R host host' →
    (definition'.call args host').1.notes = (definition.call args host).1.notes
  completion : ∀ args host host', R host host' →
    (definition.call args host).1.completion.DelayedTo (definition'.call args host').1.completion
  host : ∀ args host host', R host host' →
    R (definition.call args host).2 (definition'.call args host').2

/-- Whether the second prompt gives the answers of the first one, at any time. -/
structure Prompt.DelayedTo (prompt : Prompt σ) (prompt' : Prompt τ) : Prop where
  confirmed : ∀ question host host', R host host' →
    (prompt'.ask question host').1.confirmed = (prompt.ask question host).1.confirmed
  host : ∀ question host host', R host host' →
    R (prompt.ask question host).2 (prompt'.ask question host').2

/-- Whether the second cast does what the first one does, but maybe later. -/
structure Cast.DelayedTo (cast : Cast σ) (cast' : Cast τ) : Prop where
  definitions : List.Forall₂ (Definition.DelayedTo R) cast.definitions cast'.definitions
  prompt : Option.Rel (Prompt.DelayedTo R) cast.prompt cast'.prompt

/-- Whether the second definition has been found where the first one has been found. -/
structure Found.DelayedTo (found : Found σ) (found' : Found τ) : Prop where
  index : found'.index = found.index
  captures : found'.captures = found.captures
  definition : found.definition.DelayedTo R found'.definition

/-- Whether two stages are alike. -/
structure Stage.AlikeTo (stage : Stage σ) (stage' : Stage τ) : Prop where
  host : R stage.host stage'.host
  failed : stage'.failed = stage.failed

end Delays

variable {R : σ → τ → Prop}

theorem Definition.findFrom_delayedTo {definitions : List (Definition σ)}
    {definitions' : List (Definition τ)}
    (delayed : List.Forall₂ (Definition.DelayedTo R) definitions definitions') (text : String)
    (index : Nat) :
    Option.Rel (Found.DelayedTo R) (findFrom index text definitions)
      (findFrom index text definitions') := by
  induction delayed generalizing index with
  | nil => exact .none
  | cons first _ ih =>
      simp only [findFrom, first.pattern]
      split
      · exact .some ⟨rfl, rfl, first⟩
      · exact ih (index + 1)

/-! ### Plans -/

/-- A verdict that is there at once comes by a signal if a plan says for how many polls. -/
def Completion.delay : Completion → Option Nat → Completion
  | .now verdict, some polls => .later polls verdict
  | completion, _ => completion

/-- A definition whose calls go by a plan. The host counts the invocations. -/
def Definition.delay (plan : Nat → Option Nat) (definition : Definition σ) :
    Definition (σ × Nat) where
  pattern := definition.pattern
  params := definition.params
  call args host :=
    let (reply, next) := definition.call args host.1
    ({ reply with completion := reply.completion.delay (plan host.2) }, (next, host.2 + 1))

/-- A prompt whose answers go by a plan. -/
def Prompt.delay (plan : Nat → Option Nat) (prompt : Prompt σ) : Prompt (σ × Nat) where
  ask question host :=
    let (answer, next) := prompt.ask question host.1
    ({ answer with polls := (plan host.2).getD answer.polls }, (next, host.2 + 1))

/-- A cast whose invocations, counted from zero, go by a plan: one for which the plan gives a
number stays pending for so many polls, and any other one is left as it is. -/
def Cast.delay (plan : Nat → Option Nat) (cast : Cast σ) : Cast (σ × Nat) where
  definitions := cast.definitions.map (Definition.delay plan)
  prompt := cast.prompt.map (Prompt.delay plan)

theorem Completion.delayedTo_delay (completion : Completion) (polls? : Option Nat) :
    completion.DelayedTo (completion.delay polls?) := by
  cases completion with
  | now verdict =>
      cases polls? with
      | none => exact .atOnce verdict
      | some polls => exact .suspended verdict polls
  | later polls verdict => exact .prolonged verdict polls polls

/-- Every plan delays a cast, and leaves the host of the cast alone. -/
theorem Cast.delayedTo_delay (plan : Nat → Option Nat) (cast : Cast σ) :
    cast.DelayedTo (fun host host' => host'.1 = host) (cast.delay plan) where
  definitions := by
    rw [delay, List.forall₂_map_right_iff, List.forall₂_same]
    intro definition _
    refine ⟨rfl, rfl, ?_, ?_, ?_⟩
    · rintro args _ host rfl
      rfl
    · rintro args _ host rfl
      exact Completion.delayedTo_delay _ _
    · rintro args _ host rfl
      rfl
  prompt := by
    rw [delay]
    cases cast.prompt with
    | none => exact .none
    | some prompt =>
        refine .some ⟨?_, ?_⟩
        · rintro question _ host rfl
          rfl
        · rintro question _ host rfl
          rfl

/-! ## Logs -/

namespace Log

/-- Whether the second log is the first one with some steps suspended: between the call with its
notes and the next event stands the record of the verdict, and the news on either side of it,
with the line of the step, is all that is new. -/
inductive SuspendedTo : Log → Log → Prop
  | nil : SuspendedTo [] []
  | event {log log' : Log} (event : Event) (rest : SuspendedTo log log') :
      SuspendedTo (event :: log) (event :: log')
  | step {notes judged log log' : Log} {verdict : Verdict} (attempt : Attempt) (index : Nat)
      (args : Args) (noted : ∀ event ∈ notes, ∃ indent text, event = .wrote (.note indent text))
      (judges : judged.Judges attempt.statement.indent verdict) (rest : SuspendedTo log log') :
      SuspendedTo (.called attempt index args :: (notes ++ (judged ++ log)))
        (.called attempt index args ::
          (notes ++ .told (.suspended attempt.statement.number) ::
            (judged ++ .told (.resumed attempt.statement.number) :: log')))

/-- What is attempted, in order: the calls with what they are handed, and the questions with
their answers. -/
def attempted (log : Log) : Log := log.filter Event.attempts

/-- The news that has nothing to do with waiting. -/
def news (log : Log) : List Trace := log.trace.filter (!·.isPause)

theorem news_unpolled (log : Log) : log.unpolled.news = log.news := by
  rw [news, trace, filterMap_unpolled rfl]
  rfl

namespace SuspendedTo

variable {log log' other other' : Log}

theorem refl (log : Log) : SuspendedTo log log := by
  induction log with
  | nil => exact .nil
  | cons event log ih => exact .event event ih

theorem append (first : SuspendedTo log log') (second : SuspendedTo other other') :
    SuspendedTo (log ++ other) (log' ++ other') := by
  induction first with
  | nil => exact second
  | event event _ ih => exact .event event ih
  | step attempt index args noted judges _ ih =>
      have whole := SuspendedTo.step attempt index args noted judges ih
      simpa only [List.cons_append, List.append_assoc] using whole

/-- A view that leaves out the news of suspended steps is the same. -/
theorem filterMap_eq {β : Type} {view : Event → Option β}
    (suspended : ∀ line, view (.told (.suspended line)) = none)
    (resumed : ∀ line, view (.told (.resumed line)) = none) (delayed : SuspendedTo log log') :
    log'.filterMap view = log.filterMap view := by
  induction delayed with
  | nil => rfl
  | event event _ ih => rw [List.filterMap_cons, List.filterMap_cons, ih]
  | step attempt index args _ _ _ ih =>
      simp only [List.filterMap_cons, List.filterMap_append, suspended, resumed, ih]

theorem entries_eq (delayed : SuspendedTo log log') : log'.entries = log.entries :=
  delayed.filterMap_eq (fun _ => rfl) (fun _ => rfl)

theorem attempted_eq (delayed : SuspendedTo log log') : log'.attempted = log.attempted := by
  rw [attempted, attempted, ← List.filterMap_eq_filter]
  exact delayed.filterMap_eq (fun _ => rfl) (fun _ => rfl)

theorem news_eq (delayed : SuspendedTo log log') : log'.news = log.news := by
  rw [news, news, trace, trace, List.filter_filterMap, List.filter_filterMap]
  exact delayed.filterMap_eq (fun _ => rfl) (fun _ => rfl)

end SuspendedTo

end Log

/-! ## Performances -/

/-- Whether two performances are alike but for suspended steps. -/
def Stage.Transparent (R : σ → τ → Prop) (done : Log × Stage σ) (done' : Log × Stage τ) : Prop :=
  done.1.SuspendedTo done'.1 ∧ done.2.AlikeTo R done'.2

namespace Stage

variable {stage : Stage σ} {stage' : Stage τ} {cast : Cast σ} {cast' : Cast τ} {label : Label}

theorem raise_alike (alike : stage.AlikeTo R stage') (indent : String) (fault : Fault) :
    stage'.raise indent fault = stage.raise indent fault := by
  rw [raise, raise, alike.failed]

theorem fail_alike (alike : stage.AlikeTo R stage') : stage.fail.AlikeTo R stage'.fail :=
  ⟨alike.host, rfl⟩

theorem judge_alike (alike : stage.AlikeTo R stage') (indent : String) (verdict : Verdict) :
    (stage'.judge indent verdict).1 = (stage.judge indent verdict).1 ∧
      (stage.judge indent verdict).2.AlikeTo R (stage'.judge indent verdict).2 := by
  rw [judge, judge]
  cases verdict.fault? with
  | none => exact ⟨rfl, alike⟩
  | some fault => exact ⟨raise_alike alike indent fault, fail_alike alike⟩

theorem transparent_raise (alike : stage.AlikeTo R stage') (indent : String) (fault : Fault) :
    Transparent R (stage.raise indent fault, stage.fail)
      (stage'.raise indent fault, stage'.fail) := by
  refine ⟨?_, fail_alike alike⟩
  rw [raise_alike alike]
  exact .refl _

theorem args_alike (label : Label) (alike : stage.AlikeTo R stage') {found : Found σ}
    {found' : Found τ} (delayed : found.DelayedTo R found') (attempt : Attempt) :
    stage'.args label attempt found' = stage.args label attempt found := by
  rw [args, args, context, context, delayed.captures, delayed.definition.params, alike.failed]

theorem settle_signal_eq (stage : Stage σ) (attempt : Attempt) (polls : Nat) (verdict : Verdict) :
    stage.settle { attempt, polls, outcome := .signal verdict } =
      ((stage.judge attempt.statement.indent verdict).1 ++
          [.told (.resumed attempt.statement.number)],
        (stage.judge attempt.statement.indent verdict).2) := rfl

/-- A call is suspended at most. -/
theorem transparent_call (alike : stage.AlikeTo R stage') {found : Found σ} {found' : Found τ}
    (delayed : found.DelayedTo R found') (attempt : Attempt) :
    Transparent R (stage.call label attempt found).finish
      (stage'.call label attempt found').finish := by
  have args_eq := args_alike label alike delayed attempt
  rcases hreply : found.definition.call (stage.args label attempt found) stage.host with
    ⟨reply, host⟩
  rcases hreply' : found'.definition.call (stage'.args label attempt found') stage'.host with
    ⟨reply', host'⟩
  have notes := delayed.definition.notes (stage.args label attempt found) _ _ alike.host
  have completion := delayed.definition.completion (stage.args label attempt found) _ _ alike.host
  have hosts := delayed.definition.host (stage.args label attempt found) _ _ alike.host
  rw [← args_eq, hreply', args_eq, hreply] at notes completion hosts
  dsimp only at notes completion hosts
  have called : stage'.calledLog label attempt found' reply' =
      stage.calledLog label attempt found reply := by
    rw [calledLog, calledLog, args_eq, delayed.index, Stage.notes, Stage.notes, notes]
  have mid : AlikeTo R { stage with host } { stage' with host := host' } := ⟨hosts, alike.failed⟩
  generalize hcompletion : reply.completion = first at completion
  generalize hcompletion' : reply'.completion = second at completion
  cases completion with
  | atOnce verdict =>
      obtain ⟨judged, last⟩ := judge_alike mid attempt.statement.indent verdict
      rw [call_now hreply hcompletion, call_now hreply' hcompletion', called, judged]
      exact ⟨.refl _, last⟩
  | suspended verdict polls =>
      obtain ⟨judged, last⟩ := judge_alike mid attempt.statement.indent verdict
      rw [call_now hreply hcompletion, call_later hreply' hcompletion', called, settle_signal_eq,
        judged]
      refine ⟨?_, last⟩
      have step := Log.SuspendedTo.step attempt found.index (stage.args label attempt found)
        (mem_notes (stage.args label attempt found) reply)
        (judges_judge { stage with host } attempt.statement.indent verdict) .nil
      simpa only [calledLog, List.append_nil, List.cons_append, List.append_assoc] using step
  | prolonged verdict polls polls' =>
      obtain ⟨judged, last⟩ := judge_alike mid attempt.statement.indent verdict
      rw [call_later hreply hcompletion, call_later hreply' hcompletion', called,
        settle_signal_eq, settle_signal_eq, judged]
      exact ⟨.refl _, last⟩

theorem transparent_runStep (delayed : cast.DelayedTo R cast') (alike : stage.AlikeTo R stage')
    (attempt : Attempt) :
    Transparent R (stage.runStep cast label attempt).finish
      (stage'.runStep cast' label attempt).finish := by
  have found := Definition.findFrom_delayedTo delayed.definitions attempt.text 0
  rw [runStep, runStep, Definition.find?, Definition.find?]
  generalize Definition.findFrom 0 attempt.text cast.definitions = first at found
  generalize Definition.findFrom 0 attempt.text cast'.definitions = second at found
  cases found with
  | none => exact transparent_raise alike _ _
  | some delayed => exact transparent_call alike delayed attempt

theorem transparent_runCheck (delayed : cast.DelayedTo R cast') (alike : stage.AlikeTo R stage')
    (attempt : Attempt) :
    Transparent R (stage.runCheck cast attempt).finish (stage'.runCheck cast' attempt).finish := by
  have prompts := delayed.prompt
  rw [runCheck, runCheck]
  generalize cast.prompt = first at prompts
  generalize cast'.prompt = second at prompts
  cases prompts with
  | none => exact transparent_raise alike _ _
  | @some prompt prompt' same =>
      have confirmed := same.confirmed attempt.text _ _ alike.host
      have hosts := same.host attempt.text _ _ alike.host
      rcases hanswer : prompt.ask attempt.text stage.host with ⟨⟨polls, answer⟩, host⟩
      rcases hanswer' : prompt'.ask attempt.text stage'.host with ⟨⟨polls', answer'⟩, host'⟩
      rw [hanswer, hanswer'] at confirmed hosts
      dsimp only at confirmed hosts
      subst confirmed
      have mid : AlikeTo R { stage with host } { stage' with host := host' } :=
        ⟨hosts, alike.failed⟩
      simp only [hanswer, hanswer']
      cases answer' with
      | true => exact ⟨.refl _, mid⟩
      | false =>
          refine ⟨?_, fail_alike mid⟩
          have declined := raise_alike mid attempt.statement.indent (.declined attempt.text)
          simp only [Begun.finish, settle, declined]
          exact .refl _

/-- A cue comes to the same, but for a suspended step. -/
theorem transparent_perform (label : Label) (delayed : cast.DelayedTo R cast')
    (alike : stage.AlikeTo R stage') (cue : Cue) :
    Transparent R (stage.perform cast label cue) (stage'.perform cast' label cue) := by
  rw [perform_eq_finish, perform_eq_finish]
  cases cue with
  | visit | write | tell => exact ⟨.refl _, alike⟩
  | flaw indent flaw => exact transparent_raise alike indent (.flaw flaw)
  | attempt attempt =>
      rw [begin, begin, alike.failed]
      split
      · exact ⟨.nil, alike⟩
      split
      · exact transparent_runCheck delayed alike attempt
      · exact transparent_runStep delayed alike attempt

/-- Cues come to the same, but for suspended steps. -/
theorem transparent_complete (label : Label) (delayed : cast.DelayedTo R cast')
    (alike : stage.AlikeTo R stage') (cues : List Cue) :
    Transparent R (stage.complete cast label cues) (stage'.complete cast' label cues) := by
  induction cues generalizing stage stage' with
  | nil => exact ⟨.nil, alike⟩
  | cons cue cues ih =>
      obtain ⟨first, mid⟩ := transparent_perform label delayed alike cue
      obtain ⟨rest, last⟩ := ih mid
      rw [complete_cons, complete_cons]
      exact ⟨first.append rest, last⟩

end Stage

/-! ## Runs -/

/-- Whether the second run is the first one with some steps suspended. -/
structure Run.DelayedTo (R : σ → τ → Prop) (run : Run σ) (run' : Run τ) : Prop where
  /-- The same file has been run. -/
  path : run'.path = run.path
  /-- The hosts are left in states that belong together. -/
  host : R run.host run'.host
  /-- The same transcript has been written. -/
  entries : run'.log.entries = run.log.entries
  /-- The same calls have been made, and the same questions put and answered. -/
  attempted : run'.log.attempted = run.log.attempted
  /-- The same news has been told of anything but waiting. -/
  news : run'.log.news = run.log.news
  /-- Apart from the polls, all that is new is the news of suspended steps. -/
  log : run.log.unpolled.SuspendedTo run'.log.unpolled

theorem Run.delayedTo_of_log {run : Run σ} {run' : Run τ} (path : run'.path = run.path)
    (host : R run.host run'.host) (log : run.log.unpolled.SuspendedTo run'.log.unpolled) :
    run.DelayedTo R run' where
  path := path
  host := host
  entries := by
    have entries := log.entries_eq
    simp only [Log.entries] at entries
    rwa [Log.filterMap_unpolled rfl, Log.filterMap_unpolled rfl] at entries
  attempted := by
    have attempted := log.attempted_eq
    simp only [Log.attempted, ← List.filterMap_eq_filter] at attempted
    rwa [Log.filterMap_unpolled rfl, Log.filterMap_unpolled rfl,
      List.filterMap_eq_filter] at attempted
  news := by
    have news := log.news_eq
    rwa [Log.news_unpolled, Log.news_unpolled] at news
  log := log

namespace Interpreter

/-- The interpreter with another cast. -/
def recast (i : Interpreter σ) (cast : Cast τ) : Interpreter τ where
  vocabulary := i.vocabulary
  cast := cast
  coloring := i.coloring

variable {i : Interpreter σ} {cast' : Cast τ} {label : Label} {mode mode' : Mode} {host : σ}
  {host' : τ} {text : String}

theorem delayedTo_runText (delayed : i.cast.DelayedTo R cast') (hosts : R host host')
    (finished : (i.runText label mode host text).finished = true)
    (finished' : ((i.recast cast').runText label mode' host' text).finished = true) :
    (i.runText label mode host text).DelayedTo R
      ((i.recast cast').runText label mode' host' text) := by
  obtain ⟨log, last⟩ := complete_of_finished finished
  obtain ⟨log', last'⟩ := complete_of_finished finished'
  have start : ({ host } : Stage σ).AlikeTo R { host := host' } := ⟨hosts, rfl⟩
  obtain ⟨suspended, alike⟩ :=
    Stage.transparent_complete label delayed start (i.cues label text)
  apply Run.delayedTo_of_log
  · cases mode <;> cases mode' <;> rfl
  · rw [last, last']
    exact alike.host
  · rw [log, log']
    exact suspended

variable {read : String → Except String String} {source : Source}

theorem delayedTo_run (delayed : i.cast.DelayedTo R cast') (hosts : R host host')
    (finished : (i.run label mode host read source).finished = true)
    (finished' : ((i.recast cast').run label mode' host' read source).finished = true) :
    (i.run label mode host read source).DelayedTo R
      ((i.recast cast').run label mode' host' read source) := by
  cases source with
  | text text => exact delayedTo_runText delayed hosts finished finished'
  | path path =>
      have begun : isBegun mode = true := isBegun_of_finished i label host finished
      have begun' : isBegun mode' = true := isBegun_of_finished _ label host' finished'
      cases hread : read (Path.resolve path) with
      | error cause =>
          rw [i.run_path_of_error label host begun hread,
            run_path_of_error _ label host' begun' hread]
          exact Run.delayedTo_of_log rfl hosts (.refl _)
      | ok text =>
          simp only [i.run_path_of_ok label host begun hread] at finished ⊢
          simp only [run_path_of_ok _ label host' begun' hread] at finished' ⊢
          have same : (i.run label mode host read (.text text)).DelayedTo R
              ((i.recast cast').run label mode' host' read (.text text)) :=
            delayedTo_runText delayed hosts finished finished'
          have verdict :
              Log.isFailed ((i.recast cast').run label mode' host' read (.text text)).log =
                Log.isFailed (i.run label mode host read (.text text)).log := by
            rw [Log.isFailed, Log.faults, same.entries]
            rfl
          apply Run.delayedTo_of_log
          · rfl
          · exact same.host
          · rw [if_pos finished, if_pos finished', verdict, Log.unpolled_append,
              Log.unpolled_append]
            exact same.log.append (.refl _)

/-- Suspension is transparent. Whatever a cast does later instead of at once, and however long its
answers take, a run of a source comes to the same, and it is pending for what it awaits and for
nothing else, wherever it is dropped. So is the run without the delays. -/
theorem transparent_of_delayedTo (delayed : i.cast.DelayedTo R cast') (hosts : R host host')
    (label : Label) (read : String → Except String String) (source : Source) :
    (∀ mode mode', (i.run label mode host read source).finished = true →
      ((i.recast cast').run label mode' host' read source).finished = true →
        (i.run label mode host read source).DelayedTo R
            ((i.recast cast').run label mode' host' read source) ∧
          ∀ console,
            (i.recast cast').report console
                ((i.recast cast').run label mode' host' read source) =
              i.report console (i.run label mode host read source)) ∧
      i.IsPaced label host read source ∧ (i.recast cast').IsPaced label host' read source := by
  refine ⟨?_, i.isPaced label host read source, (i.recast cast').isPaced label host' read source⟩
  intro mode mode' finished finished'
  have same := delayedTo_run delayed hosts finished finished'
  refine ⟨same, ?_⟩
  intro console
  rw [report, report, Log.report, Log.report, same.entries]
  rfl

/-- An interpreter whose only step matches everything and makes a note, and whose prompt confirms
every check. -/
def resting : Interpreter Tally where
  cast :=
    { definitions :=
        [Stub.define { reply := { notes := ["resting"] } }
          { source := "", groups := 0, search := fun _ => some #v[some ""] } [.context] 0]
      prompt := some (Stub.prompt [] true 0) }
  coloring := .never

/-- A background, a scenario with a check, and an outline with two rows. -/
def proofing (_ : String) : Except String String :=
  .ok ("Background:\nGiven a\nScenario:\nConfirm b\nScenario Outline:\nGiven <n>\n" ++
    "Examples:\n|n|\n|1|\n|2|\n")

/-- Every invocation is held up, each one longer than the one before. -/
def risingPlan (invocation : Nat) : Option Nat := some (invocation + 1)

/-- The step of the background, the check, and the step of the outline in either row stay pending
for one, two, three and four polls. Undelayed, only the check is waited for, and for no poll. -/
theorem transparent_of_delayedTo_rising :
    resting.cast.DelayedTo (fun host host' => host'.1 = host) (resting.cast.delay risingPlan) ∧
      (resting.run ⟨""⟩ .blocking {} proofing (.path "proofing")).finished = true ∧
      ((resting.recast (resting.cast.delay risingPlan)).run ⟨""⟩ (.polled none) ({}, 0) proofing
        (.path "proofing")).finished = true ∧
      (resting.run ⟨""⟩ .blocking {} proofing (.path "proofing")).DelayedTo
        (fun host host' => host'.1 = host)
        ((resting.recast (resting.cast.delay risingPlan)).run ⟨""⟩ (.polled none) ({}, 0) proofing
          (.path "proofing")) ∧
      ((resting.recast (resting.cast.delay risingPlan)).run ⟨""⟩ (.polled none) ({}, 0) proofing
        (.path "proofing")).log.count .pending = 10 ∧
      ((resting.recast (resting.cast.delay risingPlan)).run ⟨""⟩ (.polled none) ({}, 0) proofing
        (.path "proofing")).log.pauses =
          [.suspended 2, .resumed 2, .waiting 4, .suspended 6, .resumed 6, .suspended 6,
            .resumed 6] ∧
      (resting.run ⟨""⟩ (.polled none) {} proofing (.path "proofing")).log.count .pending = 0 ∧
      (resting.run ⟨""⟩ .blocking {} proofing (.path "proofing")).log.pauses = [.waiting 4] := by
  have delayed := resting.cast.delayedTo_delay risingPlan
  have hosts : ((({}, 0) : Tally × Nat).1 = ({} : Tally)) := rfl
  obtain ⟨transparent, timely, late⟩ :=
    transparent_of_delayedTo delayed hosts ⟨""⟩ proofing (.path "proofing")
  have awaited : (resting.awaits ⟨""⟩ {} proofing (.path "proofing")).map
      (fun a => (a.polls, a.pauses)) = [(0, [.waiting 4])] := by
    decide +kernel
  have awaited' : ((resting.recast (resting.cast.delay risingPlan)).awaits ⟨""⟩ ({}, 0) proofing
      (.path "proofing")).map (fun a => (a.polls, a.pauses)) =
        [(1, [.suspended 2, .resumed 2]), (2, [.waiting 4]), (3, [.suspended 6, .resumed 6]),
          (4, [.suspended 6, .resumed 6])] := by
    decide +kernel
  obtain ⟨polls, pauses⟩ := timely.of_awaits awaited
  obtain ⟨polls', pauses'⟩ := late.of_awaits awaited'
  exact ⟨delayed, rfl, late.finished, (transparent .blocking (.polled none) rfl late.finished).1,
    polls', pauses' _ late.finished, polls, pauses .blocking rfl⟩

end Interpreter

end Storyline

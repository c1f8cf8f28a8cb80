import Mathlib.Data.List.Forall2
import Storyline.Proofs.Origins
import Storyline.Proofs.Polling
import Storyline.Proofs.Verdicts

/-!
# Channels of faults

A fault comes out in three places: the transcript marks it, the trace tells of it, and the report
names the first one. A stage decides what to tell before it writes, by a flag of its own, and the
report goes by what has been written; so that the three agree is an invariant of performing
(`Stage.Tells`). It holds of what a cue begins and of what comes of it, and hence of every session,
however far it gets (`Session.tells_drive`), and of every run (`Interpreter.accounts_run`).
-/

namespace Storyline

variable {σ : Type}

/-! ## News of faults -/

/-- The news of faults. `failed` says whether there was a fault before them. -/
def Fault.news (failed : Bool) : List Fault → List Trace
  | [] => []
  | fault :: later =>
      (if failed then .faultAfterFailure fault else .runFailed fault) :: news true later

/-- The verdict that the end of a run is told with. -/
def Trace.verdict? : Trace → Option Bool
  | finished success => some success
  | _ => none

/-- The news of a fault that an event tells. -/
def Event.notice? : Event → Option Trace
  | told news => if news.fault?.isSome then some news else none
  | _ => none

/-- The verdict that an event tells. -/
def Event.verdict? : Event → Option Bool
  | told news => news.verdict?
  | _ => none

namespace Fault

theorem news_append (failed : Bool) (faults later : List Fault) :
    news failed (faults ++ later) =
      news failed faults ++ news (failed || !faults.isEmpty) later := by
  induction faults generalizing failed with
  | nil => simp [news]
  | cons fault faults ih => simp [news, ih]

/-- After a fault all further ones are told as such. -/
theorem news_true (faults : List Fault) : news true faults = faults.map .faultAfterFailure := by
  induction faults with
  | nil => rfl
  | cons fault faults ih => rw [news, ih, if_pos rfl, List.map_cons]

theorem filterMap_fault?_news (failed : Bool) (faults : List Fault) :
    (news failed faults).filterMap Trace.fault? = faults := by
  induction faults generalizing failed with
  | nil => rfl
  | cons fault faults ih =>
      have first : (if failed then Trace.faultAfterFailure fault else .runFailed fault).fault? =
          some fault := by cases failed <;> rfl
      rw [news, List.filterMap_cons_some first, ih]

end Fault

namespace Log

/-- The news of faults that is told. -/
def notices (log : Log) : List Trace := log.trace.filter (·.fault?.isSome)

/-- The verdicts that are told. -/
def verdicts (log : Log) : List Bool := log.trace.filterMap Trace.verdict?

theorem notices_eq_filterMap (log : Log) : log.notices = log.filterMap Event.notice? := by
  rw [notices, trace, ← List.filterMap_eq_filter, List.filterMap_filterMap]
  apply List.filterMap_congr
  rintro event -
  cases event <;> rfl

theorem verdicts_eq_filterMap (log : Log) : log.verdicts = log.filterMap Event.verdict? := by
  rw [verdicts, trace, List.filterMap_filterMap]
  apply List.filterMap_congr
  rintro event -
  cases event <;> rfl

@[simp] theorem notices_append (log log' : Log) :
    (log ++ log').notices = log.notices ++ log'.notices := by simp [notices]

@[simp] theorem verdicts_append (log log' : Log) :
    (log ++ log').verdicts = log.verdicts ++ log'.verdicts := by simp [verdicts]

/-- Whether a log has nothing to do with faults. -/
structure IsMute (log : Log) : Prop where
  faults : log.faults = []
  notices : log.notices = []
  verdicts : log.verdicts = []

theorem isMute_nil : IsMute [] := ⟨rfl, rfl, rfl⟩

end Log

/-! ## The law of telling -/

namespace Stage

/-- Whether a log tells of its faults as it should on a stage, which is left like this. -/
structure Tells (stage : Stage σ) (log : Log) (last : Stage σ) : Prop where
  /-- The stage knows whether there has been a fault. -/
  failed : last.failed = (stage.failed || log.isFailed)
  /-- Told are the faults that are written. -/
  notices : log.notices = Fault.news stage.failed log.faults
  /-- No end is told. -/
  verdicts : log.verdicts = []

variable {stage mid last : Stage σ} {cast : Cast σ} {label : Label} {log log' : Log}
  {script : List Statement}

namespace Tells

theorem trans (first : Tells stage log mid) (second : Tells mid log' last) :
    Tells stage (log ++ log') last where
  failed := by rw [second.failed, first.failed, Log.isFailed_append, Bool.or_assoc]
  notices := by
    rw [Log.notices_append, first.notices, second.notices, first.failed, Log.faults_append,
      Fault.news_append]
    rfl
  verdicts := by rw [Log.verdicts_append, first.verdicts, second.verdicts, List.append_nil]

/-- Where there is no fault there is nothing to tell. -/
theorem of_isMute (mute : log.IsMute) (same : last.failed = stage.failed) :
    Tells stage log last where
  failed := by rw [same, Log.isFailed, mute.faults, List.isEmpty_nil, Bool.not_true, Bool.or_false]
  notices := by rw [mute.notices, mute.faults, Fault.news]
  verdicts := mute.verdicts

theorem refl (stage : Stage σ) : Tells stage [] stage := of_isMute Log.isMute_nil rfl

end Tells

theorem tells_raise (stage : Stage σ) (indent : String) (fault : Fault) :
    stage.Tells (stage.raise indent fault) stage.fail := by
  refine ⟨(Bool.or_true _).symm, ?_, ?_⟩
  · cases failed : stage.failed <;> simp only [raise, failed] <;> rfl
  · cases failed : stage.failed <;> simp only [raise, failed] <;> rfl

theorem tells_judge (stage : Stage σ) (indent : String) (verdict : Verdict) :
    stage.Tells (stage.judge indent verdict).1 (stage.judge indent verdict).2 := by
  rw [judge]
  split
  · exact .refl stage
  · exact tells_raise stage indent _

/-- What comes of something awaited. -/
theorem tells_settle (stage : Stage σ) (awaited : Awaited) :
    stage.Tells (stage.settle awaited).1 (stage.settle awaited).2 := by
  obtain ⟨attempt, polls, verdict | _ | _⟩ := awaited
  · have resumed : Log.IsMute [.told (.resumed attempt.statement.number)] := ⟨rfl, rfl, rfl⟩
    exact (tells_judge stage attempt.statement.indent verdict).trans (.of_isMute resumed rfl)
  · have asked : Log.IsMute [.asked attempt false] := ⟨rfl, rfl, rfl⟩
    have answered : stage.Tells [.asked attempt false] stage := .of_isMute asked rfl
    exact answered.trans (tells_raise stage attempt.statement.indent (.declined attempt.text))
  · exact .of_isMute ⟨rfl, rfl, rfl⟩ rfl

theorem isMute_calledLog (stage : Stage σ) (label : Label) (attempt : Attempt) (found : Found σ)
    (reply : Reply) : (stage.calledLog label attempt found reply).IsMute where
  faults := faults_calledLog stage label attempt found reply
  notices := by
    rw [Log.notices_eq_filterMap, filterMap_calledLog]
    · rfl
    · exact fun _ _ => rfl
  verdicts := by
    rw [Log.verdicts_eq_filterMap, filterMap_calledLog]
    · rfl
    · exact fun _ _ => rfl

/-- What beginning a cue of a walk does. -/
theorem tells_begin (stage : Stage σ) (cast : Cast σ) (label : Label) {cue : Cue}
    (origin : cue.IsOf script) :
    stage.Tells (stage.begin cast label cue).log (stage.begin cast label cue).stage := by
  cases origin with
  | visit | header | step | raw | rangeClosed | splicingBackground | replayingOutline =>
      exact .of_isMute ⟨rfl, rfl, rfl⟩ rfl
  | flaw _ f => exact tells_raise stage _ (.flaw f)
  | @attempt s fill =>
      have attempts := attempts_begin stage cast label (s.filled fill)
      generalize stage.begin cast label (.attempt (s.filled fill)) = begun at attempts ⊢
      cases attempts with
      | idle => exact .refl stage
      | unprompted | unmatched => exact tells_raise stage _ _
      | asked => exact .of_isMute ⟨rfl, rfl, rfl⟩ rfl
      | @replied found reply host =>
          have mute := isMute_calledLog stage label (s.filled fill) found reply
          have done : stage.Tells _ { stage with host } := .of_isMute mute rfl
          exact done.trans (tells_judge _ _ _)
      | @suspended found reply host =>
          have mute := isMute_calledLog stage label (s.filled fill) found reply
          have done : stage.Tells _ { stage with host } := .of_isMute mute rfl
          exact done.trans (.of_isMute ⟨rfl, rfl, rfl⟩ rfl)

theorem tells_perform (stage : Stage σ) (cast : Cast σ) (label : Label) {cue : Cue}
    (origin : cue.IsOf script) :
    stage.Tells (stage.perform cast label cue).1 (stage.perform cast label cue).2 := by
  have begun := tells_begin stage cast label origin
  rw [perform_eq_finish, Begun.finish]
  split
  · exact begun
  · exact begun.trans (tells_settle _ _)

theorem tells_complete (stage : Stage σ) (cast : Cast σ) (label : Label) {cues : List Cue}
    (origins : ∀ cue ∈ cues, cue.IsOf script) :
    stage.Tells (stage.complete cast label cues).1 (stage.complete cast label cues).2 := by
  induction cues generalizing stage with
  | nil => exact .refl stage
  | cons cue cues ih =>
      obtain ⟨origin, rest⟩ := List.forall_mem_cons.mp origins
      exact (tells_perform stage cast label origin).trans (ih _ rest)

end Stage

namespace Session

variable {session next : Session σ} {cast : Cast σ} {label : Label} {log : Log}
  {script : List Statement}

/-- One step of a session tells of its faults, and what it leaves to do are cues of the walk. -/
theorem tells_next? (step : session.next? cast label = some (log, next))
    (origins : ∀ cue ∈ session.todo, cue.IsOf script) :
    session.stage.Tells log next.stage ∧ ∀ cue ∈ next.todo, cue.IsOf script := by
  obtain ⟨stage, awaited, todo⟩ := session
  rcases awaited with _ | ⟨attempt, _ | polls, outcome⟩
  · cases todo with
    | nil => cases step
    | cons cue todo =>
        obtain ⟨origin, rest⟩ := List.forall_mem_cons.mp origins
        cases step
        exact ⟨Stage.tells_begin stage cast label origin, rest⟩
  · cases step
    exact ⟨Stage.tells_settle stage _, origins⟩
  · cases step
    exact ⟨.of_isMute ⟨rfl, rfl, rfl⟩ rfl, origins⟩

/-- However often a session is polled, it tells of its faults. -/
theorem tells_drive (session : Session σ) (cast : Cast σ) (label : Label) (polls : Option Nat)
    (origins : ∀ cue ∈ session.todo, cue.IsOf script) :
    session.stage.Tells (session.drive cast label polls).1
      (session.drive cast label polls).2.stage := by
  fun_induction drive session cast label polls with
  | case1 => exact .refl _
  | case2 => exact .refl _
  | case3 session polls hpolls log next step left rest last hdrive ih =>
      rw [hdrive] at ih
      obtain ⟨told, later⟩ := tells_next? step origins
      exact told.trans (ih later)

end Session

/-! ## What a run accounts for -/

/-- The text of a source, or the reason why there is none. -/
def Source.content (read : String → Except String String) : Source → Except String String
  | .text content => .ok content
  | .path file => read (Path.resolve file)

/-- News as they are recorded: how much they matter, what they say, and the fault in words. -/
def Trace.record (news : Trace) : Level × String × Option String :=
  (news.level, news.message, news.fault?.map Fault.message)

/-- Whether a line of a transcript marks the fault that news are about. -/
structure Transcript.Entry.Marks (entry : Entry) (news : Trace) : Prop where
  same : entry.fault? = news.fault?
  line : ∀ console? failed fault, news.fault? = some fault →
    ∃ indent, entry.render console? failed =
      indent ++ Style.error.paint console? ("^^^^^^ " ++ fault.message ++ " ^^^^^^")

/-- Whether the transcript, the trace and the report of a run say the same about its faults. -/
structure Run.Accounts (run : Run σ) (report : Report) : Prop where
  /-- Marked in the transcript are the faults that the trace tells of, in their order. -/
  markers : List.Forall₂ Transcript.Entry.Marks
    (run.log.entries.filter (·.fault?.isSome)) run.log.notices
  /-- The first one is a warning that the run has failed, and no other one is. -/
  records : run.log.notices.map Trace.record =
    match run.log.faults with
    | [] => []
    | first :: later =>
        (.warn, "run failed", some first.message) ::
          later.map fun fault => (.debug, "error after failure", some fault.message)
  /-- The report names the first one. -/
  fault : report.fault = run.log.notices.head?.bind Trace.fault?
  message : report.message = (run.log.notices.head?.bind Trace.fault?).map Fault.message
  /-- A run succeeds if there is none. -/
  success : report.success = run.log.faults.isEmpty
  /-- There is one warning if a run has failed, and none if it has not. -/
  warned : run.log.trace.countP (·.level = .warn) = if report.success then 0 else 1
  /-- The end of a run is told if it is the run of a file, together with the verdict. -/
  verdicts : run.log.verdicts = if run.path.isSome && run.finished then [report.success] else []
  last : run.path.isSome = true → run.finished = true →
    run.log.getLast? = some (.told (.finished report.success))

namespace Log

variable {log : Log}

/-- Where the faults told are those written, the marks are theirs. -/
theorem forall₂_marks (told : log.trace.filterMap Trace.fault? = log.faults) :
    List.Forall₂ Transcript.Entry.Marks (log.entries.filter (·.fault?.isSome)) log.notices := by
  have listed : (log.entries.filter (·.fault?.isSome)).map Transcript.Entry.fault? =
      log.notices.map Trace.fault? := by
    have marked : log.faults.map some =
        (log.entries.map Transcript.Entry.fault?).filter Option.isSome :=
      List.map_filterMap_some_eq_filter_map_isSome
    have noticed : (log.trace.filterMap Trace.fault?).map some =
        (log.trace.map Trace.fault?).filter Option.isSome :=
      List.map_filterMap_some_eq_filter_map_isSome
    rw [List.filter_map] at marked noticed
    calc (log.entries.filter (·.fault?.isSome)).map Transcript.Entry.fault?
        = log.faults.map some := marked.symm
      _ = (log.trace.filterMap Trace.fault?).map some := by rw [told]
      _ = log.notices.map Trace.fault? := noticed
  have paired : List.Forall₂ Eq
      ((log.entries.filter (·.fault?.isSome)).map Transcript.Entry.fault?)
      (log.notices.map Trace.fault?) := by
    rw [listed]
    exact List.forall₂_refl _
  rw [List.forall₂_map_left_iff, List.forall₂_map_right_iff] at paired
  apply paired.imp
  intro entry news same
  refine ⟨same, ?_⟩
  intro console? failed fault about
  rw [about] at same
  cases entry with
  | fault indent fault' =>
      cases same
      exact ⟨indent, rfl⟩
  | header | step | raw | note => cases same

/-- Warnings are about faults. -/
theorem countP_warn (log : Log) :
    log.trace.countP (·.level = .warn) = log.notices.countP (·.level = .warn) := by
  rw [notices, List.countP_filter]
  apply List.countP_congr
  rintro news -
  cases news <;> simp [Trace.level, Trace.fault?]

end Log

namespace Interpreter

variable {i : Interpreter σ} {label : Label} {mode : Mode} {host : σ} {script : List Statement}

/-- The run of a text tells of its faults, and of no end. -/
theorem tells_text (i : Interpreter σ) (label : Label) (mode : Mode) (host : σ)
    (read : String → Except String String) (text : String) :
    ∃ last, ({ host } : Stage σ).Tells (i.run label mode host read (.text text)).log last := by
  have origins := Walk.isOf_cues label (i.script text)
  cases mode with
  | blocking => exact ⟨_, Stage.tells_complete { host } i.cast label origins⟩
  | polled polls =>
      exact ⟨_, Session.tells_drive { stage := { host }, todo := i.cues label text } i.cast
        label polls origins⟩

theorem isBegun_blocking : isBegun .blocking = true := rfl

theorem path_text (i : Interpreter σ) (label : Label) (mode : Mode) (host : σ)
    (read : String → Except String String) (text : String) :
    (i.run label mode host read (.text text)).path = none := by
  cases mode <;> rfl

theorem success_report_eq (i : Interpreter σ) (console : Console) (run : Run σ) :
    (i.report console run).success = run.log.faults.isEmpty := by
  rw [Bool.eq_iff_iff, success_report, List.isEmpty_iff]

/-- A run accounts for its faults if it tells of them, and of its end as it should. -/
theorem accounts_of_notices (i : Interpreter σ) (console : Console) (run : Run σ)
    (notices : run.log.notices = Fault.news false run.log.faults)
    (verdicts : run.log.verdicts =
      if run.path.isSome && run.finished then [run.log.faults.isEmpty] else [])
    (last : run.path.isSome = true → run.finished = true →
      run.log.getLast? = some (.told (.finished run.log.faults.isEmpty))) :
    run.Accounts (i.report console run) := by
  have success := i.success_report_eq console run
  have first : (i.report console run).fault = run.log.notices.head?.bind Trace.fault? := by
    rw [report, Log.fault_report, notices]
    cases run.log.faults <;> rfl
  constructor
  · apply Log.forall₂_marks
    rw [← Fault.filterMap_fault?_news false run.log.faults, ← notices, Log.notices,
      List.filterMap_filter]
    apply List.filterMap_congr
    rintro news -
    cases news <;> rfl
  · rw [notices]
    cases run.log.faults with
    | nil => rfl
    | cons fault later =>
        rw [Fault.news, Fault.news_true, List.map_cons, List.map_map]
        rfl
  · exact first
  · rw [Report.message, first]
  · exact success
  · rw [Log.countP_warn, notices, success]
    cases run.log.faults with
    | nil => rfl
    | cons fault later =>
        have calm : (later.map Trace.faultAfterFailure).countP (·.level = .warn) = 0 := by
          rw [List.countP_map, List.countP_eq_zero]
          intro fault _
          exact Bool.false_ne_true
        rw [Fault.news, Fault.news_true, List.countP_cons, calm]
        rfl
  · rw [verdicts, success]
  · rw [success]
    exact last

/-- The run of a file that can be read. -/
theorem accounts_path {read : String → Except String String} {path text : String}
    (i : Interpreter σ) (label : Label) (mode : Mode) (host : σ) (console : Console)
    (readable : read (Path.resolve path) = .ok text) :
    (i.run label mode host read (.path path)).Accounts
      (i.report console (i.run label mode host read (.path path))) := by
  cases begun : isBegun mode with
  | false =>
      rw [i.run_path_of_not_begun label host read path begun]
      apply accounts_of_notices
      · rfl
      · rfl
      · intro _ finished
        cases finished
  | true =>
      obtain ⟨_, tells⟩ := i.tells_text label mode host read text
      rw [i.run_path_of_ok label host begun readable]
      generalize i.run label mode host read (.text text) = run at tells
      have told := tells.notices
      -- The end is told behind the run of the text, and it is no news of a fault.
      have ending : Log.faults [.told (.finished !run.log.isFailed)] = [] := rfl
      cases finished : run.finished with
      | false =>
          apply accounts_of_notices
          · rw [if_neg Bool.false_ne_true, List.append_nil, told]
          · rw [if_neg Bool.false_ne_true, List.append_nil, tells.verdicts]
            rfl
          · intro _ ended
            cases ended
      | true =>
          have verdict : (!run.log.isFailed) = run.log.faults.isEmpty := by
            rw [Log.isFailed, Bool.not_not]
          apply accounts_of_notices
          · rw [if_pos rfl, Log.notices_append, told, Log.faults_append, ending, List.append_nil]
            exact List.append_nil _
          · rw [if_pos rfl, Log.verdicts_append, tells.verdicts, Log.faults_append, ending,
              List.append_nil, ← verdict]
            rfl
          · intro _ _
            rw [if_pos rfl, List.getLast?_concat, Log.faults_append, ending, List.append_nil,
              verdict]

/-- Whatever comes of a run, all of its channels say the same about its faults. -/
theorem accounts_run (i : Interpreter σ) (label : Label) (mode : Mode) (host : σ)
    (read : String → Except String String) (source : Source) {text : String}
    (readable : source.content read = .ok text) (console : Console) :
    (i.run label mode host read source).Accounts
      (i.report console (i.run label mode host read source)) := by
  cases source with
  | text text =>
      obtain ⟨_, tells⟩ := i.tells_text label mode host read text
      have pathless := i.path_text label mode host read text
      apply accounts_of_notices
      · exact tells.notices
      · rw [tells.verdicts, pathless]
        rfl
      · intro path
        rw [pathless] at path
        cases path
  | path path => exact i.accounts_path label mode host console readable

/-- A file with two checks, and a table between them that belongs to nothing. -/
def hangingFile (_ : String) : Except String String := .ok "Scenario:\nAsk a\n\n|x|\nAsk b\n"

theorem accounts_run_declined :
    (Source.path "a").content hangingFile = .ok "Scenario:\nAsk a\n\n|x|\nAsk b\n" ∧
      ((answering false).run ⟨""⟩ .blocking {} hangingFile (.path "a")).log.faults =
        [.declined "a", .flaw .hangingTable] ∧
      ((answering false).run ⟨""⟩ .blocking {} hangingFile (.path "a")).Accounts
        ((answering false).report (.ansi false)
          ((answering false).run ⟨""⟩ .blocking {} hangingFile (.path "a"))) := by
  have faults : ((answering false).run ⟨""⟩ .blocking {} hangingFile (.path "a")).log.faults =
      [.declined "a", .flaw .hangingTable] := by
    have readable : hangingFile (Path.resolve "a") = .ok "Scenario:\nAsk a\n\n|x|\nAsk b\n" := rfl
    rw [(answering false).run_path_of_ok ⟨""⟩ {} isBegun_blocking readable, run, runText, cues,
      Walk.cues_eq_rounds]
    decide +kernel
  have accounts :=
    (answering false).accounts_run ⟨""⟩ .blocking {} hangingFile (.path "a") rfl (.ansi false)
  exact ⟨rfl, faults, accounts⟩

end Interpreter

end Storyline

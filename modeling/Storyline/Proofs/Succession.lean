import Storyline.Proofs.Joining
import Storyline.Proofs.Suspension

/-!
# Runs one after the other

A feature starts afresh. If a script is run without a fault, and then another one that begins with
a feature is run on the host that the first run has left, the two runs do together what one run of
both scripts does: the transcripts follow each other, and so do the calls and the questions
(`Interpreter.joins_runScript`).

The walk through both scripts asks for what the two walks ask for, and to perform cues only those
count that ask for something (`Stage.filterMap_acting`).
-/

namespace Storyline

variable {σ : Type}

namespace Stage

variable {cast : Cast σ} {label : Label} {cues : List Cue}

/-- To perform only the cues that ask for something comes to the same stage. A view sees the same
if it sees neither visits nor the news of a walk. -/
theorem filterMap_acting {β : Type} (view : Event → Option β)
    (visited : ∀ index, view (.visited index) = none)
    (told : ∀ news, (Cue.tell news).isPlain = true → view (.told news) = none) (stage : Stage σ)
    (cast : Cast σ) (label : Label) (plain : cues.all Cue.isPlain = true) :
    (stage.complete cast label (cues.filter Cue.isActing)).1.filterMap view =
        (stage.complete cast label cues).1.filterMap view ∧
      (stage.complete cast label (cues.filter Cue.isActing)).2 =
        (stage.complete cast label cues).2 := by
  induction cues generalizing stage with
  | nil => exact ⟨rfl, rfl⟩
  | cons cue cues ih =>
      rw [List.all_cons, Bool.and_eq_true] at plain
      obtain ⟨seen, last⟩ := ih (stage.perform cast label cue).2 plain.2
      rw [complete_cons, List.filterMap_append]
      by_cases acting : cue.isActing = true
      · rw [List.filter_cons_of_pos acting, complete_cons, List.filterMap_append, seen, last]
        exact ⟨rfl, rfl⟩
      · -- An idle cue changes nothing, and the view does not see what it leaves.
        have idle : (stage.perform cast label cue).1.filterMap view = [] ∧
            (stage.perform cast label cue).2 = stage := by
          cases cue with
          | visit index => exact ⟨List.filterMap_cons_none (visited index), rfl⟩
          | tell news => exact ⟨List.filterMap_cons_none (told news plain.1), rfl⟩
          | write | attempt | flaw => exact absurd rfl acting
        rw [List.filter_cons_of_neg acting, idle.1, List.nil_append]
        rw [idle.2] at seen last ⊢
        exact ⟨seen, last⟩

/-- What is asked for by two lists of cues, one after the other, is performed as they are, if the
first one leaves no fault. -/
theorem filterMap_complete_of_acting {β : Type} (view : Event → Option β)
    (visited : ∀ index, view (.visited index) = none)
    (told : ∀ news, (Cue.tell news).isPlain = true → view (.told news) = none)
    {first second : List Cue} {host mid : σ} (plain : cues.all Cue.isPlain = true)
    (plain₁ : first.all Cue.isPlain = true) (plain₂ : second.all Cue.isPlain = true)
    (split : cues.filter Cue.isActing = first.filter Cue.isActing ++ second.filter Cue.isActing)
    (there : (({ host } : Stage σ).complete cast label first).2 = { host := mid }) :
    (({ host } : Stage σ).complete cast label cues).1.filterMap view =
        (({ host } : Stage σ).complete cast label first).1.filterMap view ++
          (({ host := mid } : Stage σ).complete cast label second).1.filterMap view ∧
      (({ host } : Stage σ).complete cast label cues).2 =
        (({ host := mid } : Stage σ).complete cast label second).2 := by
  obtain ⟨seen, last⟩ := filterMap_acting view visited told { host } cast label plain
  obtain ⟨seen₁, last₁⟩ := filterMap_acting view visited told { host } cast label plain₁
  obtain ⟨seen₂, last₂⟩ := filterMap_acting view visited told { host := mid } cast label plain₂
  rw [← seen, ← last, split, complete_append, List.filterMap_append, last₁, there, seen₁, seen₂,
    last₂]
  exact ⟨rfl, rfl⟩

end Stage

/-! ## Transcripts one after the other -/

namespace Output

theorem console?_writeAll (out : Output) (entries : List Transcript.Entry) :
    (out.writeAll entries).console? = out.console? := by
  induction entries generalizing out with
  | nil => rfl
  | cons entry entries ih => exact ih (out.write entry)

/-- What has been written before stands in front, and makes no difference otherwise. -/
theorem writeAll_congr {out out' : Output} {before : String}
    (console : out.console? = out'.console?) (fault : out.fault = out'.fault)
    (failed : out.isFailed = out'.isFailed) (text : out.text = before ++ out'.text)
    (entries : List Transcript.Entry) :
    (out.writeAll entries).text = before ++ (out'.writeAll entries).text ∧
      (out.writeAll entries).fault = (out'.writeAll entries).fault := by
  induction entries generalizing out out' with
  | nil => exact ⟨text, fault⟩
  | cons entry entries ih =>
      apply ih
      · exact console
      · rw [write_fault, write_fault, fault]
      · rw [write_isFailed, write_isFailed, failed]
      · simp only [write, console, failed, text, String.append_assoc]

end Output

namespace Log

variable {log first second : Log}

/-- The verdict on two logs in a row, if the first one has no fault. -/
theorem report_of_entries (split : log.entries = first.entries ++ second.entries)
    (unfailed : first.faults = []) (console? : Option Console) :
    (log.report console?).transcript =
        (first.report console?).transcript ++ (second.report console?).transcript ∧
      (log.report console?).fault = (second.report console?).fault ∧
      (log.report console?).success = (second.report console?).success := by
  have faultless : (Output.writeAll { console? } first.entries).fault = none := by
    rw [Output.fault_writeAll, Option.none_or]
    exact congrArg List.head? unfailed
  have still : (Output.writeAll { console? } first.entries).isFailed = false := by
    rw [(Output.agrees_fresh console?).writeAll first.entries, faultless]
    rfl
  have kept : (Output.writeAll { console? } first.entries).console? = console? :=
    Output.console?_writeAll _ _
  have whole : Output.writeAll { console? } log.entries =
      (Output.writeAll { console? } first.entries).writeAll second.entries := by
    rw [split, Output.writeAll, List.foldl_append]
    rfl
  have start : (Output.writeAll { console? } first.entries).text =
      (Output.writeAll { console? } first.entries).text ++ ({ console? } : Output).text :=
    String.append_empty.symm
  obtain ⟨text, fault⟩ := Output.writeAll_congr kept faultless still start second.entries
  refine ⟨?_, ?_, ?_⟩
  · simp only [report, Output.report, whole]
    exact text
  · simp only [report, Output.report, whole]
    exact fault
  · simp only [report, Output.report, whole, fault]

end Log

/-! ## Runs -/

/-- Whether a run does what two runs do, one after the other. -/
structure Interpreter.Joins (i : Interpreter σ) (console : Console) (first second run : Run σ) :
    Prop where
  transcript : (i.report console run).transcript =
    (i.report console first).transcript ++ (i.report console second).transcript
  /-- The calls with what they are handed, and the questions with their answers. -/
  attempted : run.log.attempted = first.log.attempted ++ second.log.attempted
  success : (i.report console run).success = (i.report console second).success
  fault : (i.report console run).fault = (i.report console second).fault
  host : run.host = second.host

namespace Interpreter

variable {i : Interpreter σ} {label : Label} {mode mode₁ mode₂ : Mode} {host : σ}
  {script first second : List Statement}

theorem host_runScript (finished : (i.runScript label mode host script).finished = true) :
    (i.runScript label mode host script).host =
      (({ host } : Stage σ).complete i.cast label (Walk.cues label script)).2.host :=
  (runCues_of_finished (Walk.plain_cues label script) finished).2

/-- A run without a fault leaves the stage as it has been, but for the host. -/
theorem stage_of_unfailed (finished : (i.runScript label mode host script).finished = true)
    (unfailed : (i.runScript label mode host script).log.faults = []) :
    (({ host } : Stage σ).complete i.cast label (Walk.cues label script)).2 =
      { host := (i.runScript label mode host script).host } := by
  have law := Stage.follows_complete { host } i.cast label
    (List.all_eq_true.mp (Walk.plain_cues label script))
  have failed := law.failed
  rw [Log.isFailed, ← faults_runScript finished, unfailed] at failed
  rw [host_runScript finished]
  generalize (({ host } : Stage σ).complete i.cast label (Walk.cues label script)).2 = last
    at failed
  obtain ⟨host, _⟩ := last
  cases failed
  rfl

/-- **A feature starts afresh.** One run of a script, without a fault and without tags that are
left over, and of another one that begins with a feature does what a run of the first and then a
run of the second script do. -/
theorem joins_runScript (feature : Layout.BeginsFeature second) (taken : Layout.TagsTaken first)
    (console : Console) (finished₁ : (i.runScript label mode₁ host first).finished = true)
    (success : (i.report console (i.runScript label mode₁ host first)).success = true)
    (finished₂ : (i.runScript label mode₂ (i.runScript label mode₁ host first).host second).finished
      = true)
    (finished : (i.runScript label mode host (first ++ second)).finished = true) :
    i.Joins console (i.runScript label mode₁ host first)
      (i.runScript label mode₂ (i.runScript label mode₁ host first).host second)
      (i.runScript label mode host (first ++ second)) := by
  have unfailed := (success_report i console _).mp success
  have asked := Walk.acting_cues_append feature taken label
  have there := stage_of_unfailed finished₁ unfailed
  have seen {β : Type} {view : Event → Option β} (unseen : view .pending = none)
      (visited : ∀ index, view (.visited index) = none)
      (told : ∀ news, (Cue.tell news).isPlain = true → view (.told news) = none) :
      (i.runScript label mode host (first ++ second)).log.filterMap view =
        (i.runScript label mode₁ host first).log.filterMap view ++
          (i.runScript label mode₂ (i.runScript label mode₁ host first).host second).log.filterMap
            view := by
    rw [filterMap_runScript unseen finished, filterMap_runScript unseen finished₁,
      filterMap_runScript unseen finished₂]
    exact (Stage.filterMap_complete_of_acting view visited told (Walk.plain_cues _ _)
      (Walk.plain_cues _ _) (Walk.plain_cues _ _) asked there).1
  have entries : (i.runScript label mode host (first ++ second)).log.entries =
      (i.runScript label mode₁ host first).log.entries ++
        (i.runScript label mode₂ (i.runScript label mode₁ host first).host second).log.entries :=
    seen rfl (fun _ => rfl) (fun _ _ => rfl)
  obtain ⟨transcript, fault, success⟩ :=
    Log.report_of_entries entries unfailed (i.coloring.on console)
  refine ⟨transcript, ?_, success, fault, ?_⟩
  · simp only [Log.attempted, ← List.filterMap_eq_filter]
    apply seen rfl (fun _ => rfl)
    intro news plain
    cases news with
    | waiting line => cases plain
    | _ => rfl
  · have last := (Stage.filterMap_complete_of_acting (fun _ => (none : Option Unit))
      (fun _ => rfl) (fun _ _ => rfl) (Walk.plain_cues _ _) (Walk.plain_cues _ _)
      (Walk.plain_cues _ _) asked there).2
    rw [host_runScript finished, host_runScript finished₂, last]

/-- An outline that is replayed, and a background that is still open at the end. -/
def openScript : List Statement :=
  Script.parse .english "@a\nScenario Outline:\nAsk <n>\nExamples:\n|n|\n|1|\nBackground:\nAsk b\n"

/-- A tagged feature of one scenario. -/
def featureScript : List Statement := Script.parse .english "@c\nFeature:\nScenario:\nAsk d\n"

theorem joins_runScript_feature :
    Layout.BeginsFeature featureScript ∧ Layout.TagsTaken openScript ∧
      ((answering true).report (.ansi false)
        ((answering true).runScript ⟨""⟩ .blocking {} openScript)).success = true ∧
      ((answering true).runScript ⟨""⟩ .blocking {} (openScript ++ featureScript)).log.attempted =
        ((answering true).runScript ⟨""⟩ .blocking {} openScript).log.attempted ++
          ((answering true).runScript ⟨""⟩ .blocking
            ((answering true).runScript ⟨""⟩ .blocking {} openScript).host
              featureScript).log.attempted := by
  have feature : Layout.BeginsFeature featureScript :=
    ⟨featureScript.take 1, featureScript.get ⟨1, by decide +kernel⟩, featureScript.drop 2,
      by decide +kernel, by decide +kernel, by decide +kernel⟩
  have taken : Layout.TagsTaken openScript := by
    have first : ∀ k ∈ List.range openScript.length, Layout.kind? openScript k = some .tag →
        k < 1 := by
      decide +kernel
    intro tag t ht kind
    have inside : tag ∈ List.range openScript.length :=
      List.mem_range.mpr (List.getElem?_eq_some_iff.mp ht).1
    have above : tag < 1 := first tag inside (by rw [Layout.kind?, ht, Option.map_some, kind])
    exact ⟨1, openScript.get ⟨1, by decide +kernel⟩, above, by decide +kernel, by decide +kernel⟩
  have success : ((answering true).report (.ansi false)
      ((answering true).runScript ⟨""⟩ .blocking {} openScript)).success = true := by
    rw [success_report, runScript, Walk.cues_eq_rounds]
    decide +kernel
  have finished (host : Tally) (script : List Statement) :
      ((answering true).runScript ⟨""⟩ .blocking host script).finished = true := rfl
  have joins := joins_runScript feature taken (.ansi false) (finished {} _) success (finished _ _)
    (finished {} _)
  exact ⟨feature, taken, success, joins.attempted⟩

end Interpreter

end Storyline

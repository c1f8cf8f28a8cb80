import Mathlib.Data.List.Flatten
import Storyline.Proofs.Marks

/-!
# Narrower labels

A label is *narrower* than each part of its text: whatever mentions the label mentions the part.
So the narrower label lets fewer blocks through, and since the cursor in front of a line does
not depend on the label, the two walks stay in step line by line. What the narrower walk asks
for is asked for by the wider walk as well, in the same order (`Walk.sublist_acting`).

Lines and flaws carry over to the runs as they are. For what is carried out the steps have to
succeed: then only a flaw, a step that matches nothing, or a check without a prompt ends in a
fault, and whether a cue does is said without performing it (`Cue.isMet`).
-/

namespace Storyline

open scoped List

variable {σ τ : Type}

/-- What is carried out: a step is called, with the values that it is handed, or a check is put
to the prompt. -/
inductive Deed where
  | call (index : Nat) (attempt : Attempt) (values : List Value)
  | question (attempt : Attempt)
  deriving DecidableEq, Inhabited

/-- What an event carries out. -/
def Event.deed? : Event → Option Deed
  | called attempt index args => some (.call index attempt args.values)
  | asked attempt _ => some (.question attempt)
  | _ => none

/-- What a log carries out, in order. -/
def Log.deeds (log : Log) : List Deed := log.filterMap Event.deed?

/-- Whether all steps and the prompt do what they are asked for, now or later. -/
structure Cast.Succeeds (cast : Cast σ) : Prop where
  steps : ∀ definition ∈ cast.definitions, ∀ args host,
    (definition.call args host).1.completion.verdict = .done
  checks : ∀ prompt, cast.prompt = some prompt → ∀ question host,
    (prompt.ask question host).1.confirmed = true

namespace Cue

/-- Whether a cue asks for more than to come to a line and to tell of it. -/
def isActing : Cue → Bool
  | visit _ | tell _ => false
  | write _ | attempt _ | flaw _ _ => true

/-- Whether there is someone to carry out what a cue asks for. A flaw is never met. -/
def isMet (cast : Cast σ) : Cue → Bool
  | attempt a =>
      if a.statement.kind = .ask then cast.prompt.isSome
      else (Definition.find? cast.definitions a.text).isSome
  | flaw _ _ => false
  | visit _ | write _ | tell _ => true

/-- What is carried out for a cue that is met. -/
def deed? (cast : Cast σ) : Cue → Option Deed
  | attempt a =>
      if a.statement.kind = .ask then some (.question a)
      else
        (Definition.find? cast.definitions a.text).map fun found =>
          .call found.index a
            (found.definition.params.filterMap
              (Args.value? found.captures a.docString a.table))
  | _ => none

/-- A view that sees nothing in the cues that do not act can do without them. -/
theorem filterMap_acting {β : Type} {view : Cue → Option β}
    (unseen : ∀ cue, cue.isActing = false → view cue = none) (cues : List Cue) :
    (cues.filter isActing).filterMap view = cues.filterMap view := by
  rw [List.filterMap_filter]
  apply List.filterMap_congr
  intro cue _
  by_cases acting : cue.isActing = true
  · rw [if_pos acting]
  · rw [if_neg acting, unseen cue (Bool.eq_false_iff.mpr acting)]

end Cue

/-! ## Two walks in step -/

namespace Label

variable {wide narrow : Label}

theorem admits_of_part (part : wide.text.toList <:+: narrow.text.toList) {tags : List String}
    (admitted : narrow.admits tags = true) : wide.admits tags = true := by
  rw [admits_eq_true_iff] at admitted ⊢
  rcases admitted with unrestricted | ⟨tag, htag, mentioned⟩
  · left
    rw [unrestricted] at part
    exact String.toList_inj.mp (List.infix_nil.mp part)
  · right
    exact ⟨tag, htag, part.trans mentioned⟩

end Label

namespace Walk

open Cursor

variable {script : List Statement} {index : Nat} {s : Statement} {wide narrow : Label}

theorem acting_close (c : Cursor) : c.close.1.filter Cue.isActing = [] := by
  rw [close]
  split <;> rfl

theorem acting_closeBefore (c : Cursor) (s : Statement) :
    (c.closeBefore s).1.filter Cue.isActing = [] := by
  rw [closeBefore]
  split
  · exact acting_close c
  · rfl

/-- In the round of a line the label decides between everything and nothing, but for a line of
tags, which is written in any case. -/
theorem acting_round (label : Label) (hs : script[index]? = some s) :
    (round label script index).filter Cue.isActing =
      if s.kind = .tag then [.write (.raw s.text .tag)]
      else if Layout.eligible script label index then
        (((entered script index s).read s).1 ++
          (entered script index s).replays script s).filter Cue.isActing
      else [] := by
  rw [round_eq hs, visit_standing hs, look_standing, entered_admitted hs]
  simp only [List.filter_append, List.cons_append, List.filter_cons, acting_closeBefore,
    Cue.isActing, Bool.false_eq_true, if_false, List.nil_append]
  by_cases htag : s.kind = .tag
  · have no_replays : (entered script index s).replays script s = [] := by
      simp only [replays, htag]
    rw [if_pos htag, if_pos htag, no_replays]
    simp [Cue.isActing]
  · rw [if_neg htag, if_neg htag]
    by_cases eligible : Layout.eligible script label index = true
    · rw [if_pos eligible, if_pos eligible, if_pos eligible]
    · rw [if_neg eligible, if_neg eligible, if_neg eligible]
      rfl

theorem sublist_acting_round (part : wide.text.toList <:+: narrow.text.toList) (index : Nat) :
    (round narrow script index).filter Cue.isActing <+
      (round wide script index).filter Cue.isActing := by
  cases hs : script[index]? with
  | none => simp only [round, hs, List.Sublist.refl]
  | some s =>
      rw [acting_round narrow hs, acting_round wide hs]
      by_cases htag : s.kind = .tag
      · rw [if_pos htag, if_pos htag]
      · rw [if_neg htag, if_neg htag]
        by_cases eligible : Layout.eligible script narrow index = true
        · have still : Layout.eligible script wide index = true :=
            Label.admits_of_part part eligible
          rw [if_pos eligible, if_pos still]
        · rw [if_neg eligible]
          exact List.nil_sublist _

/-- What the walk under the narrower label asks for is part of what the walk under the wider one
asks for. -/
theorem sublist_acting (part : wide.text.toList <:+: narrow.text.toList)
    (script : List Statement) :
    (cues narrow script).filter Cue.isActing <+ (cues wide script).filter Cue.isActing := by
  rw [cues_eq_rounds, cues_eq_rounds, List.filter_append, List.filter_append,
    List.filter_flatMap, List.filter_flatMap]
  exact (List.Sublist.flatMap_right _ fun index _ => sublist_acting_round part index).append
    (List.Sublist.refl _)

/-- A view that sees nothing in the cues that do not act sees less under the narrower label. -/
theorem sublist_filterMap_cues {β : Type} {view : Cue → Option β}
    (unseen : ∀ cue, cue.isActing = false → view cue = none)
    (part : wide.text.toList <:+: narrow.text.toList) (script : List Statement) :
    (cues narrow script).filterMap view <+ (cues wide script).filterMap view := by
  rw [← Cue.filterMap_acting unseen, ← Cue.filterMap_acting unseen (cues wide script)]
  exact (sublist_acting part script).filterMap view

end Walk

/-! ## Steps that succeed -/

namespace Log

theorem deeds_append (log log' : Log) : (log ++ log').deeds = log.deeds ++ log'.deeds :=
  List.filterMap_append

theorem deeds_unpolled (log : Log) : log.unpolled.deeds = log.deeds := filterMap_unpolled rfl log

end Log

theorem Definition.mem_of_findFrom {definitions : List (Definition σ)} {index : Nat}
    {text : String} {found : Found σ} (h : findFrom index text definitions = some found) :
    found.definition ∈ definitions := by
  induction definitions generalizing index with
  | nil => cases h
  | cons definition rest ih =>
      rw [findFrom] at h
      split at h
      · cases h
        exact List.mem_cons_self
      · exact List.mem_cons_of_mem _ (ih h)

namespace Stage

variable {stage : Stage σ} {cast : Cast σ} {attempt : Attempt}

theorem deeds_calledLog (stage : Stage σ) (label : Label) (attempt : Attempt) (found : Found σ)
    (reply : Reply) :
    (stage.calledLog label attempt found reply).deeds =
      [.call found.index attempt (found.definition.params.filterMap
        (Args.value? found.captures attempt.docString attempt.table))] :=
  filterMap_calledLog stage label attempt found reply fun _ _ => rfl

/-- A step that succeeds, now or later, is called and nothing else. -/
theorem call_of_succeeds (stage : Stage σ) (label : Label) (attempt : Attempt) {found : Found σ}
    (succeeds : ∀ args host, (found.definition.call args host).1.completion.verdict = .done) :
    (stage.call label attempt found).finish.1.isFailed = false ∧
      (stage.call label attempt found).finish.1.deeds =
        [.call found.index attempt (found.definition.params.filterMap
          (Args.value? found.captures attempt.docString attempt.table))] := by
  have done := succeeds (stage.args label attempt found) stage.host
  rcases hreply : found.definition.call (stage.args label attempt found) stage.host with
    ⟨reply, host⟩
  rw [hreply] at done
  have faultless := isFailed_calledLog stage label attempt found reply
  have called := deeds_calledLog stage label attempt found reply
  cases hcompletion : reply.completion with
  | now verdict =>
      have hverdict : verdict = .done := by simpa [hcompletion, Completion.verdict] using done
      rw [call_now hreply hcompletion, hverdict, Log.isFailed_append, Log.deeds_append,
        faultless, called]
      exact ⟨rfl, rfl⟩
  | later polls verdict =>
      have hverdict : verdict = .done := by simpa [hcompletion, Completion.verdict] using done
      rw [call_later hreply hcompletion, hverdict, Log.isFailed_append, Log.deeds_append,
        faultless, called]
      exact ⟨rfl, rfl⟩

/-- If the steps succeed, performing a cue fails only where nobody is there to meet it. -/
theorem perform_of_succeeds (succeeds : cast.Succeeds) (label : Label)
    (unfailed : stage.failed = false) {cue : Cue} (plain : cue.isPlain = true) :
    (stage.perform cast label cue).1.isFailed = !cue.isMet cast ∧
      (cue.isMet cast = true →
        (stage.perform cast label cue).1.deeds = (cue.deed? cast).toList) := by
  rw [perform_eq_finish]
  cases cue with
  | visit index => exact ⟨rfl, fun _ => rfl⟩
  | tell news => exact ⟨rfl, fun _ => rfl⟩
  | flaw indent flaw => exact ⟨rfl, fun met => (Bool.false_ne_true met).elim⟩
  | write entry =>
      have faultless : (Event.wrote entry).fault? = none := Option.isNone_iff_eq_none.mp plain
      refine ⟨?_, fun _ => rfl⟩
      change Log.isFailed [.wrote entry] = false
      rw [Log.isFailed_cons, faultless]
      rfl
  | attempt attempt =>
      simp only [begin, unfailed, Bool.false_eq_true, if_false, Cue.isMet, Cue.deed?]
      by_cases hk : attempt.statement.kind = .ask
      · simp only [if_pos hk, runCheck]
        cases hprompt : cast.prompt with
        | none => exact ⟨rfl, fun met => (Bool.false_ne_true met).elim⟩
        | some prompt =>
            have confirmed := succeeds.checks prompt hprompt attempt.text stage.host
            rcases hanswer : prompt.ask attempt.text stage.host with ⟨⟨polls, answer⟩, host⟩
            rw [hanswer] at confirmed
            cases confirmed
            simp only [hanswer]
            exact ⟨rfl, fun _ => rfl⟩
      · simp only [if_neg hk, runStep]
        cases hfound : Definition.find? cast.definitions attempt.text with
        | none => exact ⟨rfl, fun met => (Bool.false_ne_true met).elim⟩
        | some found =>
            obtain ⟨faultless, called⟩ := call_of_succeeds stage label attempt
              (succeeds.steps _ (Definition.mem_of_findFrom hfound))
            exact ⟨faultless, fun _ => called⟩

/-- If the steps succeed, a performance fails only where nobody is there to meet a cue. -/
theorem complete_of_succeeds (succeeds : cast.Succeeds) (label : Label)
    (unfailed : stage.failed = false) {cues : List Cue} (plain : cues.all Cue.isPlain = true) :
    (stage.complete cast label cues).1.isFailed = !cues.all (Cue.isMet cast) ∧
      (cues.all (Cue.isMet cast) = true →
        (stage.complete cast label cues).1.deeds = cues.filterMap (Cue.deed? cast)) := by
  induction cues generalizing stage with
  | nil => exact ⟨rfl, fun _ => rfl⟩
  | cons cue cues ih =>
      rw [List.all_cons, Bool.and_eq_true] at plain
      obtain ⟨failed_eq, deeds_eq⟩ := perform_of_succeeds succeeds label unfailed plain.1
      have law := follows_perform stage cast label plain.1
      rw [complete_cons, Log.isFailed_append, Log.deeds_append, failed_eq, List.all_cons,
        List.filterMap_cons]
      cases hmet : cue.isMet cast with
      | false => exact ⟨rfl, fun met => (Bool.false_ne_true met).elim⟩
      | true =>
          have still : (stage.perform cast label cue).2.failed = false := by
            rw [law.failed, unfailed, failed_eq, hmet]
            rfl
          obtain ⟨rest_failed, rest_deeds⟩ := ih still plain.2
          refine ⟨?_, fun rest_met => ?_⟩
          · rw [rest_failed]
            rfl
          · rw [deeds_eq hmet, rest_deeds rest_met]
            cases cue.deed? cast <;> rfl

end Stage

namespace Interpreter

variable {label wide narrow : Label} {mode : Mode} {host : σ} {i : Interpreter σ}
  {script : List Statement}

/-- What a run comes to if the steps succeed. -/
theorem runScript_of_succeeds (succeeds : i.cast.Succeeds)
    (finished : (i.runScript label mode host script).finished = true) :
    (i.runScript label mode host script).log.isFailed =
        !(Walk.cues label script).all (Cue.isMet i.cast) ∧
      ((Walk.cues label script).all (Cue.isMet i.cast) = true →
        (i.runScript label mode host script).log.deeds =
          (Walk.cues label script).filterMap (Cue.deed? i.cast)) := by
  obtain ⟨rest, same, ended⟩ := i.unpolled_runCues label mode host (Walk.cues label script)
  rw [ended finished, List.append_nil] at same
  rw [runScript, ← Log.isFailed_unpolled, ← Log.deeds_unpolled, same, Log.isFailed_unpolled,
    Log.deeds_unpolled]
  exact Stage.complete_of_succeeds succeeds label rfl (Walk.plain_cuesFrom label script {})

/-- If all cues under a label are met, so are all cues under a narrower one. -/
theorem all_isMet_of_part (part : wide.text.toList <:+: narrow.text.toList) (cast : Cast σ)
    (met : (Walk.cues wide script).all (Cue.isMet cast) = true) :
    (Walk.cues narrow script).all (Cue.isMet cast) = true := by
  rw [List.all_eq_true] at met ⊢
  intro cue hcue
  by_cases acting : cue.isActing = true
  · have among := (Walk.sublist_acting part script).subset (List.mem_filter.mpr ⟨hcue, acting⟩)
    exact met cue (List.mem_of_mem_filter among)
  · cases cue with
    | visit | tell => rfl
    | write | attempt | flaw => exact absurd rfl acting

/-- Under a narrower label a run writes fewer lines and records fewer flaws, whatever the steps
do in either run. If the steps succeed and the run under the wider label has no fault, the run
under the narrower one has none either, and it carries out fewer steps and checks. In each case
the order is the same. -/
theorem sublist_of_narrower_label (part : wide.text.toList <:+: narrow.text.toList)
    (script : List Statement) :
    (∀ (i : Interpreter σ) (j : Interpreter τ) (mode mode' : Mode) (host : σ) (host' : τ),
        (i.runScript narrow mode host script).finished = true →
        (j.runScript wide mode' host' script).finished = true →
        i.coloring = .never → j.coloring = .never →
        (i.runScript narrow mode host script).log.marks <+
            (j.runScript wide mode' host' script).log.marks ∧
          i.ShowsLines (i.runScript narrow mode host script) ∧
          j.ShowsLines (j.runScript wide mode' host' script)) ∧
      ∀ (i : Interpreter σ) (mode mode' : Mode) (host host' : σ), i.cast.Succeeds →
        (i.runScript narrow mode host script).finished = true →
        (i.runScript wide mode' host' script).finished = true →
        (i.runScript wide mode' host' script).log.isFailed = false →
        (i.runScript narrow mode host script).log.isFailed = false ∧
          (i.runScript narrow mode host script).log.deeds <+
            (i.runScript wide mode' host' script).log.deeds := by
  constructor
  · intro i j mode mode' host host' finished finished' never never'
    refine ⟨?_, showsLines_of_never never _, showsLines_of_never never' _⟩
    rw [marks_runScript finished, marks_runScript finished']
    apply Walk.sublist_filterMap_cues _ part script
    intro cue idle
    cases cue with
    | visit | tell => rfl
    | write | attempt | flaw => cases idle
  · intro i mode mode' host host' succeeds finished finished' unfailed
    obtain ⟨failed_eq, deeds_eq⟩ := runScript_of_succeeds succeeds finished
    obtain ⟨failed_eq', deeds_eq'⟩ := runScript_of_succeeds succeeds finished'
    have met : (Walk.cues wide script).all (Cue.isMet i.cast) = true := by
      rw [failed_eq', Bool.not_eq_false'] at unfailed
      exact unfailed
    have still_met := all_isMet_of_part part i.cast met
    refine ⟨?_, ?_⟩
    · rw [failed_eq, still_met]
      rfl
    · rw [deeds_eq still_met, deeds_eq' met]
      apply Walk.sublist_filterMap_cues _ part script
      intro cue idle
      cases cue with
      | visit | tell => rfl
      | write | attempt | flaw => cases idle

theorem answering_succeeds : (answering true).cast.Succeeds where
  steps := nofun
  checks := by
    rintro prompt ⟨⟩ question host
    rfl

/-- Two scenarios of one check each. Their tags differ in how much they say. -/
def taggedScript : List Statement :=
  Script.parse .english "@slow\nScenario:\nAsk a\n@slowest\nScenario:\nAsk b\n"

theorem sublist_of_narrower_label_slowest :
    "@slow".toList <:+: "@slowest".toList ∧
      ((answering true).runScript ⟨"@slow"⟩ .blocking {} taggedScript).log.isFailed = false ∧
      ((answering true).runScript ⟨"@slowest"⟩ .blocking {} taggedScript).log.isFailed = false ∧
      ((answering true).runScript ⟨"@slowest"⟩ .blocking {} taggedScript).log.marks <+
        ((answering true).runScript ⟨"@slow"⟩ .blocking {} taggedScript).log.marks ∧
      ((answering true).runScript ⟨"@slowest"⟩ .blocking {} taggedScript).log.deeds <+
        ((answering true).runScript ⟨"@slow"⟩ .blocking {} taggedScript).log.deeds := by
  have part : (Label.mk "@slow").text.toList <:+: (Label.mk "@slowest").text.toList :=
    ⟨[], "est".toList, by decide⟩
  have unfailed :
      ((answering true).runScript ⟨"@slow"⟩ .blocking {} taggedScript).log.isFailed = false := by
    rw [runScript, Walk.cues_eq_rounds]
    decide +kernel
  obtain ⟨written, carried⟩ :=
    sublist_of_narrower_label part taggedScript
  obtain ⟨unfailed', deeds⟩ := carried (answering true) .blocking .blocking {} {}
    answering_succeeds rfl rfl unfailed
  have marks := (written (answering true) (answering true) .blocking .blocking {} {}
    rfl rfl rfl rfl).1
  exact ⟨part, unfailed, unfailed', marks, deeds⟩

end Interpreter

end Storyline

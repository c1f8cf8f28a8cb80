import Mathlib.Tactic.MkIffOfInductiveProp
import Storyline.Proofs.Rendition

/-!
# What a run has to meet

A script makes demands on a run: the attempts of its itinerary have to succeed, one after the
other, and a flaw of a line is a demand that nobody meets. `Itinerary.demands` lays them out in
the order of the visits. The first demand that is not met decides the run, and if all of them are
met the run succeeds (`Interpreter.verdict_of_demands`). So what is only written down, as the
lines of a background or what the label leaves out, decides nothing, and neither does a definition
that matches nothing that is attempted.
-/

namespace Storyline

variable {σ : Type}

/-- Something that a script asks of a run. -/
inductive Demand where
  /-- A flaw of a line, which nobody meets. -/
  | flaw (f : Flaw)
  /-- A step or a check, which has to succeed. -/
  | attempt (a : Attempt)
  deriving DecidableEq, Inhabited

namespace Demand

/-- The flaw, if the demand is one. -/
def flaw? : Demand → Option Flaw
  | flaw f => some f
  | attempt _ => none

/-- What is attempted, if something is. -/
def attempt? : Demand → Option Attempt
  | flaw _ => none
  | attempt a => some a

theorem attempt?_eq_some_iff {demand : Demand} {a : Attempt} :
    demand.attempt? = some a ↔ demand = attempt a := by
  cases demand <;> simp [attempt?]

/-- Demands without flaws are attempts. -/
theorem eq_map_attempt {demands : List Demand} (flawless : ∀ f, flaw f ∉ demands) :
    demands = (demands.filterMap attempt?).map attempt := by
  induction demands with
  | nil => rfl
  | cons demand demands ih =>
      have rest := ih fun f h => flawless f (List.mem_cons_of_mem _ h)
      cases demand with
      | flaw f => exact absurd List.mem_cons_self (flawless f)
      | attempt a => exact congrArg (attempt a :: ·) rest

end Demand

/-- What a cue asks of a run. -/
def Cue.demand? : Cue → Option Demand
  | attempt a => some (.attempt a)
  | flaw _ f => some (.flaw f)
  | _ => none

namespace Layout

variable (script : List Statement) (label : Label)

/-- The flaw of a line that the label lets through. -/
def flaw? (index : Nat) : Option Flaw :=
  match script[index]? with
  | none => none
  | some s =>
      if eligible script label index then
        match s.kind with
        | .dataTable => some .hangingTable
        | .docString => some .hangingDocString
        | .examples =>
            if lines script .outline index = [] then some .examplesWithoutOutline
            else if s.table = none then some .examplesWithoutTable
            else none
        | _ => none
      else none

/-- Whether a line has no flaw. -/
@[mk_iff]
structure IsSound (index : Nat) (s : Statement) : Prop where
  /-- It is no table line that belongs to nothing. -/
  no_table : s.kind ≠ .dataTable
  /-- It is no doc-string that belongs to nothing. -/
  no_docString : s.kind ≠ .docString
  /-- Examples have lines to replay, and a table. -/
  examples : s.kind = .examples → lines script .outline index ≠ [] ∧ s.table.isSome = true

variable {script label} {index : Nat} {s : Statement}

theorem flaw?_eq_none_iff (hs : script[index]? = some s) :
    flaw? script label index = none ↔
      (eligible script label index = true → IsSound script index s) := by
  by_cases admitted : eligible script label index = true
  · simp only [flaw?, hs, isSound_iff, admitted, if_true, forall_const]
    cases kind : s.kind with
    | examples =>
        by_cases outline : lines script .outline index = []
        · simp [outline]
        · simp [outline, Option.isSome_iff_ne_none]
    | _ => simp
  · simp [flaw?, hs, admitted]

end Layout

namespace Itinerary

variable (label : Label) (script : List Statement)

/-- What is attempted for a line, behind its own visit. -/
def attemptsAt (index : Nat) : List Attempt :=
  ((inserted label script index).filterMap Milestone.execution?).map Execution.attempt

/-- What is attempted for a script. -/
def attempts : List Attempt :=
  (List.range script.length).flatMap (attemptsAt label script)

/-- What is asked of a run for a line: not to have a flaw, and what is attempted for it. -/
def demandsAt (index : Nat) : List Demand :=
  (Layout.flaw? script label index).toList.map .flaw ++ (attemptsAt label script index).map .attempt

/-- What is asked of a run, in the order of the visits. -/
def demands : List Demand := (List.range script.length).flatMap (demandsAt label script)

end Itinerary

/-! ## The walk asks for what the itinerary says -/

/-- Whether a cue records a flaw. -/
def Cue.isFlaw : Cue → Bool
  | flaw _ _ => true
  | _ => false

namespace Cue

theorem demand?_of_idle (cue : Cue) (idle : cue.isActing = false) : cue.demand? = none := by
  cases cue <;> first | rfl | cases idle

theorem flaw_not_mem_of_flawless {cues : List Cue} (flawless : cues.any isFlaw = false) (f : Flaw) :
    .flaw f ∉ cues.filterMap demand? := by
  intro found
  obtain ⟨cue, hcue, demand⟩ := List.mem_filterMap.mp found
  have no_flaw := List.any_eq_false.mp flawless cue hcue
  cases cue with
  | flaw => exact no_flaw rfl
  | attempt | visit | write | tell => cases demand

/-- What cues attempt is what their milestones carry out. -/
theorem attempts_demands (cues : List Cue) :
    (cues.filterMap demand?).filterMap Demand.attempt? =
      ((cues.filterMap milestone?).filterMap Milestone.execution?).map Execution.attempt := by
  rw [List.filterMap_filterMap, List.filterMap_filterMap, List.map_filterMap]
  apply List.filterMap_congr
  intro cue _
  cases cue with
  | attempt a =>
      by_cases kind : a.statement.kind = .ask <;>
        simp [demand?, Demand.attempt?, Milestone.execution?, Execution.of, Execution.attempt, kind]
  | visit | write | flaw | tell => rfl

end Cue

namespace Cursor

variable (c : Cursor) (s : Statement)

theorem flawless_writes {α : Type} (entry : α → Transcript.Entry) (lines : List α) :
    (lines.map fun line => Cue.write (entry line)).any Cue.isFlaw = false := by
  rw [List.any_map, List.any_eq_false]
  intro line _
  exact Bool.false_ne_true

theorem flawless_announce (rows : Rows) : (announce rows).any Cue.isFlaw = false := by
  rw [announce]
  cases rows.line? <;> rfl

theorem flawless_execute : (c.execute s).any Cue.isFlaw = false := by
  rw [execute]
  split
  · rw [List.any_append, List.any_cons, flawless_writes]
    rfl
  · rw [List.any_cons, extras, flawless_writes]
    rfl

theorem flawless_recite (script : List Statement) (indices : List Nat) :
    (c.recite script indices).any Cue.isFlaw = false := by
  rw [recite, List.any_flatMap, List.any_eq_false]
  intro index _
  rw [List.any_cons]
  split
  · split
    · rw [flawless_execute]
      exact Bool.false_ne_true
    · exact Bool.false_ne_true
  · exact Bool.false_ne_true

theorem flawless_replays (script : List Statement) :
    (c.replays script s).any Cue.isFlaw = false := by
  rw [replays]
  split
  · exact flawless_recite c script _
  · split
    · rfl
    · split
      · rfl
      · rename_i later _
        have turns : (later.flatMap fun rows => announce rows ++
            { c with rows := some rows }.recite script c.outline.indices).any Cue.isFlaw =
              false := by
          rw [List.any_flatMap, List.any_eq_false]
          intro rows _
          rw [List.any_append, flawless_announce, flawless_recite]
          exact Bool.false_ne_true
        rw [List.any_append, flawless_recite, turns]
        rfl
  · rfl

end Cursor

/-- Rows can be picked out from a statement if it has a table. -/
theorem Rows.ofStatement?_eq_none_iff {s : Statement} :
    Rows.ofStatement? s = none ↔ s.table = none := by
  cases htable : s.tableLines with
  | nil => simp [ofStatement?, htable, Statement.table_of_tableLines_nil htable]
  | cons first rest => simp [ofStatement?, htable, Statement.table_of_tableLines_cons htable]

namespace Walk

open Cursor

variable {label : Label} {script : List Statement} {index : Nat} {s : Statement}

theorem length_range_entered (hs : script[index]? = some s)
    (kind : s.kind = .scenario ∨ s.kind = .examples) (recorded : Recorded) :
    ((entered script index s).range recorded).length =
      (Layout.lines script recorded index).length := by
  rw [(entered_of_replaying hs kind).2, Layout.length_range]

/-- What is left hanging or refused asks for nothing but its flaw. -/
theorem demands_flaw (indent : String) (f : Flaw) (entry : Transcript.Entry) (s : Statement) :
    (Cue.write entry :: extras s .plain ++ [Cue.flaw indent f]).filterMap Cue.demand? =
        [.flaw f] ∧
      (Cue.write entry :: Cue.flaw indent f :: extras s .plain).filterMap Cue.demand? =
        [.flaw f] := by
  have quiet : (extras s .plain).filterMap Cue.demand? = [] := by
    rw [extras, List.filterMap_map, List.filterMap_eq_nil_iff]
    intro line _
    rfl
  constructor
  · rw [List.cons_append, List.filterMap_cons_none rfl, List.filterMap_append, quiet]
    rfl
  · have asked : (Cue.flaw indent f).demand? = some (.flaw f) := rfl
    rw [List.filterMap_cons_none rfl, List.filterMap_cons_some asked, quiet]

/-- A line that is read asks for its flaw and for nothing else, if it has one. -/
theorem demands_read_of_flaw (hs : script[index]? = some s)
    (eligible : Layout.eligible script label index = true) {f : Flaw}
    (flawed : Layout.flaw? script label index = some f) :
    (((entered script index s).read s).1 ++
      (entered script index s).replays script s).filterMap Cue.demand? = [.flaw f] := by
  simp only [Layout.flaw?, hs, if_pos eligible] at flawed
  cases kind : s.kind with
  | dataTable | docString =>
      simp only [kind] at flawed
      cases flawed
      simp only [Cursor.read, replays, kind, List.append_nil]
      exact (demands_flaw _ _ _ s).1
  | examples =>
      have length : (entered script index s).outline.length = _ :=
        length_range_entered hs (.inr kind) .outline
      simp only [kind] at flawed
      by_cases outline : Layout.lines script .outline index = []
      · rw [if_pos outline] at flawed
        cases flawed
        rw [outline, List.length_nil] at length
        simp only [Cursor.read, replays, kind, readExamples, if_pos length, List.append_nil]
        exact (demands_flaw _ _ _ s).2
      · rw [if_neg outline] at flawed
        split at flawed
        · rename_i table
          cases flawed
          have some_lines : (entered script index s).outline.length ≠ 0 := by
            rw [length]
            exact mt List.length_eq_zero_iff.mp outline
          have no_rows := Rows.ofStatement?_eq_none_iff.mpr table
          simp only [Cursor.read, replays, kind, readExamples, if_neg some_lines, no_rows,
            Rows.ofExamples, Option.map_none, Option.getD_none, List.append_nil]
          exact (demands_flaw _ _ _ s).2
        · cases flawed
  | feature | rule | scenario | step | background | scenarioOutline | tag | comments | ask
  | unknown =>
      simp only [kind] at flawed
      cases flawed

/-- A line without a flaw records none. -/
theorem flawless_read (hs : script[index]? = some s) (sound : Layout.IsSound script index s) :
    ((entered script index s).read s).1.any Cue.isFlaw = false := by
  cases kind : s.kind <;> simp only [Cursor.read, kind]
  case scenario =>
    rw [readScenario]
    split <;> rfl
  case examples =>
    obtain ⟨outline, table⟩ := sound.examples kind
    have some_lines : (entered script index s).outline.length ≠ 0 := by
      have length : (entered script index s).outline.length = _ :=
        length_range_entered hs (.inr kind) .outline
      rw [length]
      exact mt List.length_eq_zero_iff.mp outline
    rw [readExamples]
    dsimp only
    rw [if_neg some_lines]
    cases picked : Rows.ofStatement? s with
    | none =>
        rw [Rows.ofStatement?_eq_none_iff.mp picked] at table
        cases table
    | some rows =>
        have names : (rows.line?.map fun line =>
            Cue.write (.raw line.text .plain)).toList.any Cue.isFlaw = false := by
          cases rows.line? <;> rfl
        dsimp only
        split
        · rw [List.any_cons, names]
          rfl
        · rw [List.any_append, List.any_cons, names, flawless_announce]
          rfl
  case step | ask => exact flawless_execute _ s
  case dataTable => exact absurd kind sound.no_table
  case docString => exact absurd kind sound.no_docString
  all_goals rfl

/-- The round of a line asks for what the itinerary says of the line. -/
theorem demands_round (label : Label) (hs : script[index]? = some s) :
    (round label script index).filterMap Cue.demand? =
      Itinerary.demandsAt label script index := by
  have attempted : ((round label script index).filterMap Cue.demand?).filterMap Demand.attempt? =
      Itinerary.attemptsAt label script index := by
    rw [Cue.attempts_demands, milestones_round label hs]
    rfl
  have acting := Cue.filterMap_acting Cue.demand?_of_idle (round label script index)
  rw [acting_round label hs] at acting
  cases flawed : Layout.flaw? script label index with
  | none =>
      have flawless (f : Flaw) : .flaw f ∉ (round label script index).filterMap Cue.demand? := by
        rw [← acting]
        by_cases tag : s.kind = .tag
        · rw [if_pos tag]
          exact List.not_mem_nil
        rw [if_neg tag]
        by_cases eligible : Layout.eligible script label index = true
        · have sound := (Layout.flaw?_eq_none_iff hs).mp flawed eligible
          rw [if_pos eligible, Cue.filterMap_acting Cue.demand?_of_idle]
          apply Cue.flaw_not_mem_of_flawless
          rw [List.any_append, flawless_read hs sound, flawless_replays]
          rfl
        · rw [if_neg eligible]
          exact List.not_mem_nil
      rw [Demand.eq_map_attempt flawless, attempted, Itinerary.demandsAt, flawed]
      rfl
  | some f =>
      have eligible : Layout.eligible script label index = true := by
        by_contra excluded
        simp [Layout.flaw?, hs, excluded] at flawed
      have no_tag : s.kind ≠ .tag := by
        intro tag
        simp [Layout.flaw?, hs, tag] at flawed
      have alone := demands_read_of_flaw hs eligible flawed
      rw [if_neg no_tag, if_pos eligible, Cue.filterMap_acting Cue.demand?_of_idle, alone]
        at acting
      rw [← acting] at attempted ⊢
      rw [Itinerary.demandsAt, flawed, ← attempted]
      rfl

/-- The walk asks for what the itinerary says. -/
theorem demands_cues (label : Label) (script : List Statement) :
    (cues label script).filterMap Cue.demand? = Itinerary.demands label script := by
  have closed : (standing script script.length).close.1.filterMap Cue.demand? = [] := by
    rw [← Cue.filterMap_acting Cue.demand?_of_idle, acting_close]
    rfl
  rw [cues_eq_rounds, List.filterMap_append, closed, List.append_nil, List.filterMap_flatMap,
    Itinerary.demands]
  apply List.flatMap_congr
  intro index hindex
  exact demands_round label (List.getElem?_eq_getElem (List.mem_range.mp hindex))

end Walk

end Storyline

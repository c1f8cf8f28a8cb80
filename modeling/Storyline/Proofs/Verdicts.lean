import Storyline.Proofs.Demands
import Storyline.Proofs.FirstFault
import Storyline.Proofs.Mentions

/-!
# Verdicts

What becomes of a demand depends on the cast and on the state of the host: it is met
(`Cast.Meets`), or it is violated and leaves a fault (`Cast.Violates`). Demands are met one after
the other, each on the host that the one before has left (`Cast.MeetsAll`), up to the first one
that is violated (`Cast.FirstViolated`).

Performing the cues of a walk follows these rules up to the first fault, and this is all that the
verdict needs.
-/

namespace Storyline

variable {σ : Type}

namespace Cast

/-- Whether a demand is met on a host, which is left in another state. -/
inductive Meets (cast : Cast σ) (label : Label) : Demand → σ → σ → Prop
  /-- The first definition that matches a step is called, and the step succeeds, now or later. -/
  | step {a : Attempt} {found : Found σ} {reply : Reply} {host next : σ}
      (kind : a.statement.kind ≠ .ask)
      (first : Definition.find? cast.definitions a.text = some found)
      (called : found.definition.call (({ host } : Stage σ).args label a found) host =
        (reply, next))
      (done : reply.completion.verdict = .done) : Meets cast label (.attempt a) host next
  /-- There is a prompt, and it confirms a check. -/
  | check {a : Attempt} {prompt : Prompt σ} {answer : Answer} {host next : σ}
      (kind : a.statement.kind = .ask) (there : cast.prompt = some prompt)
      (asked : prompt.ask a.text host = (answer, next)) (confirmed : answer.confirmed = true) :
      Meets cast label (.attempt a) host next

/-- Whether a demand is violated on a host, with this fault. -/
inductive Violates (cast : Cast σ) (label : Label) : Demand → σ → Fault → Prop
  | flaw (f : Flaw) (host : σ) : Violates cast label (.flaw f) host (.flaw f)
  /-- No definition matches a step. -/
  | unmatched {a : Attempt} (host : σ) (kind : a.statement.kind ≠ .ask)
      (none_found : Definition.find? cast.definitions a.text = none) :
      Violates cast label (.attempt a) host (.noMatch a.text)
  /-- A step fails or panics, now or later. -/
  | unsuccessful {a : Attempt} {found : Found σ} {reply : Reply} {host next : σ} {fault : Fault}
      (kind : a.statement.kind ≠ .ask)
      (first : Definition.find? cast.definitions a.text = some found)
      (called : found.definition.call (({ host } : Stage σ).args label a found) host =
        (reply, next))
      (fails : reply.completion.verdict.fault? = some fault) :
      Violates cast label (.attempt a) host fault
  /-- There is no prompt to put a check to. -/
  | unprompted {a : Attempt} (host : σ) (kind : a.statement.kind = .ask)
      (nobody : cast.prompt = none) : Violates cast label (.attempt a) host (.noPrompt a.text)
  /-- The prompt does not confirm a check. -/
  | declined {a : Attempt} {prompt : Prompt σ} {answer : Answer} {host next : σ}
      (kind : a.statement.kind = .ask) (there : cast.prompt = some prompt)
      (asked : prompt.ask a.text host = (answer, next)) (denied : answer.confirmed = false) :
      Violates cast label (.attempt a) host (.declined a.text)

/-- Whether demands are met one after the other. -/
inductive MeetsAll (cast : Cast σ) (label : Label) : List Demand → σ → σ → Prop
  | nil (host : σ) : MeetsAll cast label [] host host
  | cons {demand : Demand} {demands : List Demand} {host mid last : σ}
      (first : cast.Meets label demand host mid) (rest : MeetsAll cast label demands mid last) :
      MeetsAll cast label (demand :: demands) host last

/-- Whether the first demand that is not met leaves this fault. -/
def FirstViolated (cast : Cast σ) (label : Label) (demands : List Demand) (host : σ)
    (fault : Fault) : Prop :=
  ∃ before demand after mid, demands = before ++ demand :: after ∧
    cast.MeetsAll label before host mid ∧ cast.Violates label demand mid fault

variable {cast cast' : Cast σ} {label : Label} {demand : Demand} {demands : List Demand}
  {host last : σ} {fault : Fault}

/-- A demand is met or violated. -/
theorem meets_or_violates (cast : Cast σ) (label : Label) (demand : Demand) (host : σ) :
    (∃ next, cast.Meets label demand host next) ∨
      ∃ fault, cast.Violates label demand host fault := by
  cases demand with
  | flaw f => exact .inr ⟨_, .flaw f host⟩
  | attempt a =>
      by_cases kind : a.statement.kind = .ask
      · cases prompt : cast.prompt with
        | none => exact .inr ⟨_, .unprompted host kind prompt⟩
        | some prompt' =>
            rcases asked : prompt'.ask a.text host with ⟨answer, next⟩
            cases confirmed : answer.confirmed with
            | true => exact .inl ⟨next, .check kind prompt asked confirmed⟩
            | false => exact .inr ⟨_, .declined kind prompt asked confirmed⟩
      · cases first : Definition.find? cast.definitions a.text with
        | none => exact .inr ⟨_, .unmatched host kind first⟩
        | some found =>
            rcases called : found.definition.call (({ host } : Stage σ).args label a found) host
              with ⟨reply, next⟩
            cases verdict : reply.completion.verdict with
            | done => exact .inl ⟨next, .step kind first called verdict⟩
            | failed failure =>
                exact .inr ⟨.failed failure,
                  .unsuccessful kind first called (congrArg Verdict.fault? verdict)⟩
            | panicked panic =>
                exact .inr ⟨.ofPanic panic,
                  .unsuccessful kind first called (congrArg Verdict.fault? verdict)⟩

/-- All demands are met, or there is a first one that is violated. -/
theorem meetsAll_or_firstViolated (cast : Cast σ) (label : Label) (demands : List Demand)
    (host : σ) :
    (∃ last, cast.MeetsAll label demands host last) ∨
      ∃ fault, cast.FirstViolated label demands host fault := by
  induction demands generalizing host with
  | nil => exact .inl ⟨host, .nil host⟩
  | cons demand demands ih =>
      rcases cast.meets_or_violates label demand host with ⟨mid, met⟩ | ⟨fault, violated⟩
      · rcases ih mid with
          ⟨last, rest⟩ | ⟨fault, before, demand', after, mid', split, rest, violated⟩
        · exact .inl ⟨last, .cons met rest⟩
        · refine .inr ⟨fault, demand :: before, demand', after, mid', ?_, .cons met rest, violated⟩
          rw [split]
          rfl
      · exact .inr ⟨fault, [], demand, demands, host, rfl, .nil host, violated⟩

/-- A demand that is met is no flaw. -/
theorem MeetsAll.flawless (met : cast.MeetsAll label demands host last) (f : Flaw) :
    .flaw f ∉ demands := by
  induction met with
  | nil => exact List.not_mem_nil
  | cons first _ ih =>
      rw [List.mem_cons, not_or]
      refine ⟨?_, ih⟩
      rintro rfl
      cases first

/-- That nothing matches is the fault of a step that nothing matches, and of no verdict. -/
theorem Violates.unmatched_of_noMatch {text : String}
    (violated : cast.Violates label demand host (.noMatch text)) :
    ∃ a, demand = .attempt a ∧ a.text = text ∧ Definition.find? cast.definitions text = none := by
  generalize name : Fault.noMatch text = fault at violated
  cases violated with
  | unmatched _ kind none_found =>
      cases name
      exact ⟨_, rfl, rfl, none_found⟩
  | unsuccessful kind first called fails =>
      rename_i reply _
      subst name
      cases verdict : reply.completion.verdict <;> rw [verdict] at fails <;> cases fails
  | flaw | unprompted | declined => cases name

end Cast

/-! ## Performing cues -/

namespace Stage

variable {cast : Cast σ} {label : Label} {demand : Demand} {host next last : σ} {fault : Fault}
  {cue : Cue} {cues : List Cue}

theorem complete_append (stage : Stage σ) (cast : Cast σ) (label : Label) (cues rest : List Cue) :
    stage.complete cast label (cues ++ rest) =
      ((stage.complete cast label cues).1 ++
          ((stage.complete cast label cues).2.complete cast label rest).1,
        ((stage.complete cast label cues).2.complete cast label rest).2) := by
  induction cues generalizing stage with
  | nil => rfl
  | cons cue cues ih =>
      rw [List.cons_append, complete_cons, ih, complete_cons]
      simp only [List.append_assoc]

/-- A cue that asks for nothing leaves no fault and changes nothing. -/
theorem perform_of_no_demand (stage : Stage σ) (cast : Cast σ) (label : Label)
    (plain : cue.isPlain = true) (nothing : cue.demand? = none) :
    (stage.perform cast label cue).1.faults = [] ∧ (stage.perform cast label cue).2 = stage := by
  cases cue with
  | visit index => exact ⟨rfl, rfl⟩
  | tell news => exact ⟨rfl, rfl⟩
  | write entry =>
      have faultless : entry.fault? = none := Option.isNone_iff_eq_none.mp plain
      refine ⟨?_, rfl⟩
      change Log.faults [.wrote entry] = []
      rw [Log.faults_eq_filterMap]
      exact List.filterMap_cons_none faultless
  | attempt | flaw => cases nothing

theorem faults_calledLog (stage : Stage σ) (label : Label) (attempt : Attempt) (found : Found σ)
    (reply : Reply) : (stage.calledLog label attempt found reply).faults = [] := by
  rw [Log.faults_eq_filterMap, filterMap_calledLog]
  · rfl
  · intro indent text
    rfl

/-- A call leaves the fault of its verdict, be it there at once or later, and no other one. -/
theorem call_finish {attempt : Attempt} {found : Found σ} {reply : Reply}
    (called : found.definition.call (({ host } : Stage σ).args label attempt found) host =
      (reply, next)) :
    (({ host } : Stage σ).call label attempt found).finish.1.faults =
        reply.completion.verdict.fault?.toList ∧
      (({ host } : Stage σ).call label attempt found).finish.2 =
        { host := next, failed := reply.completion.verdict.fault?.isSome } := by
  have quiet := faults_calledLog ({ host } : Stage σ) label attempt found reply
  cases completion : reply.completion with
  | now verdict =>
      rw [call_now called completion, Log.faults_append, quiet, Completion.verdict, judge]
      cases verdict.fault? <;> exact ⟨rfl, rfl⟩
  | later polls verdict =>
      rw [call_later called completion, Log.faults_append, quiet, Completion.verdict]
      simp only [settle, judge]
      cases verdict.fault? <;> exact ⟨rfl, rfl⟩

/-- A demand that is met leaves no fault, and the host as it should be. -/
theorem perform_of_meets (asked : cue.demand? = some demand)
    (met : cast.Meets label demand host next) :
    (({ host } : Stage σ).perform cast label cue).1.faults = [] ∧
      (({ host } : Stage σ).perform cast label cue).2 = { host := next } := by
  cases cue with
  | visit | write | tell => cases asked
  | flaw =>
      cases asked
      cases met
  | attempt a =>
      cases asked
      rw [perform_eq_finish, begin, if_neg Bool.false_ne_true]
      cases met with
      | step kind first called done =>
          obtain ⟨faults, stage⟩ := call_finish called
          rw [done] at faults stage
          rw [if_neg kind, runStep]
          simp only [first]
          exact ⟨faults, stage⟩
      | check kind there asked confirmed =>
          rename_i prompt answer
          obtain ⟨polls, _ | _⟩ := answer
          · cases confirmed
          · rw [if_pos kind, runCheck]
            simp only [there, asked]
            exact ⟨rfl, rfl⟩

/-- A demand that is violated leaves its fault. -/
theorem perform_of_violates (asked : cue.demand? = some demand)
    (violated : cast.Violates label demand host fault) :
    (({ host } : Stage σ).perform cast label cue).1.faults = [fault] := by
  cases cue with
  | visit | write | tell => cases asked
  | flaw =>
      cases asked
      cases violated
      rfl
  | attempt a =>
      cases asked
      rw [perform_eq_finish, begin, if_neg Bool.false_ne_true]
      cases violated with
      | unmatched _ kind none_found =>
          rw [if_neg kind, runStep]
          simp only [none_found]
          rfl
      | unsuccessful kind first called fails =>
          obtain ⟨faults, -⟩ := call_finish called
          rw [fails] at faults
          rw [if_neg kind, runStep]
          simp only [first]
          exact faults
      | unprompted _ kind nobody =>
          rw [if_pos kind, runCheck]
          simp only [nobody]
          rfl
      | declined kind there asked denied =>
          rename_i prompt answer next
          obtain ⟨polls, _ | _⟩ := answer
          · rw [if_pos kind, runCheck]
            simp only [there, asked]
            rfl
          · cases denied

/-- Where all demands are met, there is no fault. -/
theorem complete_of_meetsAll (plain : cues.all Cue.isPlain = true)
    (met : cast.MeetsAll label (cues.filterMap Cue.demand?) host last) :
    (({ host } : Stage σ).complete cast label cues).1.faults = [] ∧
      (({ host } : Stage σ).complete cast label cues).2 = { host := last } := by
  induction cues generalizing host with
  | nil =>
      cases met
      exact ⟨rfl, rfl⟩
  | cons cue cues ih =>
      rw [List.all_cons, Bool.and_eq_true] at plain
      rw [complete_cons, Log.faults_append]
      cases asked : cue.demand? with
      | none =>
          obtain ⟨faults, stage⟩ := perform_of_no_demand { host } cast label plain.1 asked
          rw [List.filterMap_cons_none asked] at met
          rw [faults, stage]
          exact ih plain.2 met
      | some demand =>
          rw [List.filterMap_cons_some asked] at met
          cases met with
          | cons first rest =>
              obtain ⟨faults, stage⟩ := perform_of_meets asked first
              rw [faults, stage]
              exact ih plain.2 rest

/-- To a demand below some that are met the performance comes without a fault. -/
theorem complete_upto {before after : List Demand} {mid : σ} (plain : cues.all Cue.isPlain = true)
    (split : cues.filterMap Cue.demand? = before ++ demand :: after)
    (met : cast.MeetsAll label before host mid) :
    ∃ front cue back, cues = front ++ cue :: back ∧ cue.demand? = some demand ∧
      (({ host } : Stage σ).complete cast label front).1.faults = [] ∧
      (({ host } : Stage σ).complete cast label front).2 = { host := mid } := by
  obtain ⟨front, back, rfl, rfl, rest⟩ := List.filterMap_eq_append_iff.mp split
  obtain ⟨idle, cue, back, rfl, nothing, asked, -⟩ := List.filterMap_eq_cons_iff.mp rest
  rw [List.all_append, List.all_append, Bool.and_eq_true, Bool.and_eq_true] at plain
  obtain ⟨front_plain, idle_plain, -⟩ := plain
  have met_front : cast.MeetsAll label ((front ++ idle).filterMap Cue.demand?) host mid := by
    rw [List.filterMap_append, List.filterMap_eq_nil_iff.mpr nothing, List.append_nil]
    exact met
  have plain_front : (front ++ idle).all Cue.isPlain = true := by
    rw [List.all_append, front_plain, idle_plain]
    rfl
  obtain ⟨faults, stage⟩ := complete_of_meetsAll plain_front met_front
  exact ⟨front ++ idle, cue, back, (List.append_assoc _ _ _).symm, asked, faults, stage⟩

/-- The first demand that is violated leaves the first fault. -/
theorem complete_of_firstViolated (plain : cues.all Cue.isPlain = true)
    (violated : cast.FirstViolated label (cues.filterMap Cue.demand?) host fault) :
    (({ host } : Stage σ).complete cast label cues).1.faults.head? = some fault := by
  obtain ⟨before, demand, after, mid, split, met, violated⟩ := violated
  obtain ⟨front, cue, back, rfl, asked, faults, stage⟩ := complete_upto plain split met
  rw [complete_append, Log.faults_append, faults, stage, complete_cons, Log.faults_append,
    perform_of_violates asked violated]
  rfl

end Stage

/-! ## Demands of an itinerary -/

namespace Itinerary

variable {label : Label} {script : List Statement} {index : Nat} {s : Statement}

theorem attempts_demands (label : Label) (script : List Statement) :
    (demands label script).filterMap Demand.attempt? = attempts label script := by
  rw [demands, List.filterMap_flatMap, attempts]
  congr 1
  funext index
  have flaws : ((Layout.flaw? script label index).toList.map Demand.flaw).filterMap
      Demand.attempt? = [] := by
    cases Layout.flaw? script label index <;> rfl
  rw [demandsAt, List.filterMap_append, flaws, List.filterMap_map]
  exact List.filterMap_some

theorem mem_attempts {a : Attempt} :
    a ∈ attempts label script ↔ .attempt a ∈ demands label script := by
  rw [← attempts_demands, List.mem_filterMap]
  simp only [Demand.attempt?_eq_some_iff, exists_eq_right]

/-- There are no flaws among the demands if no line that is let through has one. -/
theorem flawless_iff :
    (∀ f, .flaw f ∉ demands label script) ↔
      ∀ index s, script[index]? = some s → Layout.eligible script label index = true →
        Layout.IsSound script index s := by
  constructor
  · intro flawless index s hs
    rw [← Layout.flaw?_eq_none_iff hs]
    cases flawed : Layout.flaw? script label index with
    | none => rfl
    | some f =>
        have inside : index ∈ List.range script.length :=
          List.mem_range.mpr (List.getElem?_eq_some_iff.mp hs).1
        have here : .flaw f ∈ demandsAt label script index := by
          rw [demandsAt, flawed]
          exact List.mem_cons_self
        exact absurd (List.mem_flatMap.mpr ⟨index, inside, here⟩) (flawless f)
  · intro sound f found
    obtain ⟨index, inside, here⟩ := List.mem_flatMap.mp found
    have hs := List.getElem?_eq_getElem (List.mem_range.mp inside)
    have none_here := (Layout.flaw?_eq_none_iff hs).mpr (sound index _ hs)
    rw [demandsAt, none_here] at here
    obtain ⟨a, -, impossible⟩ := List.mem_map.mp here
    cases impossible

/-- Without flaws the demands are attempts. -/
theorem demands_of_flawless (flawless : ∀ f, .flaw f ∉ demands label script) :
    demands label script = (attempts label script).map .attempt := by
  rw [← attempts_demands]
  exact Demand.eq_map_attempt flawless

/-- A step or a check that is only written down asks for nothing: outside of scenarios, and where
the label does not let it through. -/
theorem demandsAt_of_recorded (hs : script[index]? = some s)
    (executable : s.kind.isExecutable = true)
    (recorded : ¬(Layout.eligible script label index = true ∧
      Layout.block script index = .scenario)) :
    demandsAt label script index = [] := by
  have sound : Layout.IsSound script index s := by
    constructor <;>
    · intro kind
      rw [kind] at executable
      cases executable
  have flawless : Layout.flaw? script label index = none :=
    (Layout.flaw?_eq_none_iff hs).mpr fun _ => sound
  have nothing : inserted label script index = [] := by
    rw [inserted, hs]
    dsimp only
    split
    · rename_i eligible
      have elsewhere : Layout.block script index ≠ .scenario := fun block =>
        recorded ⟨eligible, block⟩
      split
      · rename_i kind
        rw [kind] at executable
        cases executable
      · rename_i kind
        rw [kind] at executable
        cases executable
      · exact if_neg elsewhere
    · rfl
  rw [demandsAt, flawless, attemptsAt, nothing]
  rfl

end Itinerary

/-! ## Definitions that match nothing -/

namespace Definition

variable {definitions before after : List (Definition σ)} {d : Definition σ} {text : String}

/-- The definition that is found is the first one that matches. -/
theorem findFrom_eq_findSome? (index : Nat) (text : String) (definitions : List (Definition σ)) :
    (findFrom index text definitions).map (fun found => (found.definition, found.captures)) =
      definitions.findSome? fun d => (d.pattern.captures text).map (Prod.mk d) := by
  induction definitions generalizing index with
  | nil => rfl
  | cons d definitions ih =>
      rw [findFrom, List.findSome?_cons]
      cases d.pattern.captures text with
      | none => exact ih (index + 1)
      | some captures => rfl

theorem find?_of_unmatched (unmatched : d.pattern.captures text = none) :
    (find? (before ++ after) text).map (fun found => (found.definition, found.captures)) =
      (find? (before ++ d :: after) text).map
        (fun found => (found.definition, found.captures)) := by
  rw [find?, find?, findFrom_eq_findSome?, findFrom_eq_findSome?, List.findSome?_append,
    List.findSome?_append, List.findSome?_cons, unmatched]
  rfl

end Definition

namespace Cast

variable {cast cast' : Cast σ} {label : Label} {demand : Demand} {demands : List Demand}
  {host next last : σ} {fault : Fault}

/-- Whether two casts carry out demands alike: they have the same prompt, and they find the same
definitions for the steps, be it at other places. -/
structure Agrees (cast cast' : Cast σ) (demands : List Demand) : Prop where
  prompt : cast'.prompt = cast.prompt
  found : ∀ a, .attempt a ∈ demands →
    (Definition.find? cast'.definitions a.text).map
        (fun found => (found.definition, found.captures)) =
      (Definition.find? cast.definitions a.text).map
        fun found => (found.definition, found.captures)

namespace Agrees

theorem step {a : Attempt} {found : Found σ} (agrees : cast.Agrees cast' demands)
    (asked : .attempt a ∈ demands) (first : Definition.find? cast.definitions a.text = some found) :
    ∃ index, Definition.find? cast'.definitions a.text = some { found with index } := by
  have same := agrees.found a asked
  rw [first, Option.map_some] at same
  obtain ⟨⟨index, definition, captures⟩, first', same⟩ := Option.map_eq_some_iff.mp same
  cases same
  exact ⟨index, first'⟩

theorem meets (agrees : cast.Agrees cast' demands) (asked : demand ∈ demands)
    (met : cast.Meets label demand host next) : cast'.Meets label demand host next := by
  cases met with
  | step kind first called done =>
      obtain ⟨index, first'⟩ := agrees.step asked first
      exact .step kind first' called done
  | check kind there question confirmed =>
      exact .check kind (agrees.prompt.trans there) question confirmed

theorem violates (agrees : cast.Agrees cast' demands) (asked : demand ∈ demands)
    (violated : cast.Violates label demand host fault) :
    cast'.Violates label demand host fault := by
  cases violated with
  | flaw f => exact .flaw f host
  | unmatched _ kind none_found =>
      have same := agrees.found _ asked
      rw [none_found, Option.map_none, Option.map_eq_none_iff] at same
      exact .unmatched host kind same
  | unsuccessful kind first called fails =>
      obtain ⟨index, first'⟩ := agrees.step asked first
      exact .unsuccessful kind first' called fails
  | unprompted _ kind nobody => exact .unprompted host kind (agrees.prompt.trans nobody)
  | declined kind there question denied =>
      exact .declined kind (agrees.prompt.trans there) question denied

theorem meetsAll {part : List Demand} (agrees : cast.Agrees cast' demands)
    (asked : ∀ demand ∈ part, demand ∈ demands) (met : cast.MeetsAll label part host last) :
    cast'.MeetsAll label part host last := by
  induction met with
  | nil host => exact .nil host
  | cons first _ ih =>
      obtain ⟨asked_first, asked_rest⟩ := List.forall_mem_cons.mp asked
      exact .cons (agrees.meets asked_first first) (ih asked_rest)

theorem firstViolated (agrees : cast.Agrees cast' demands)
    (violated : cast.FirstViolated label demands host fault) :
    cast'.FirstViolated label demands host fault := by
  obtain ⟨before, demand, after, mid, rfl, met, violated⟩ := violated
  refine ⟨before, demand, after, mid, rfl, agrees.meetsAll ?_ met, agrees.violates ?_ violated⟩
  · intro other here
    exact List.mem_append_left _ here
  · exact List.mem_append_right _ List.mem_cons_self

end Agrees

end Cast

/-! ## Runs -/

/-- How the demands of a script decide about a run on a host. -/
structure Report.Decides (report : Report) (cast : Cast σ) (label : Label)
    (script : List Statement) (host : σ) : Prop where
  /-- The run succeeds if no line that is let through has a flaw, and if all attempts of the
  itinerary succeed, one after the other. -/
  success : report.success = true ↔
    (∀ index s, script[index]? = some s → Layout.eligible script label index = true →
        Layout.IsSound script index s) ∧
      ∃ last, cast.MeetsAll label ((Itinerary.attempts label script).map .attempt) host last
  /-- Its fault is the one that the first demand leaves that is not met. -/
  fault : ∀ fault, report.fault = some fault ↔
    cast.FirstViolated label (Itinerary.demands label script) host fault
  /-- That nothing matches is a fault only for what the itinerary attempts. -/
  unmatched : ∀ text, report.fault = some (.noMatch text) →
    ∃ a ∈ Itinerary.attempts label script, a.text = text ∧
      Definition.find? cast.definitions text = none
  /-- What is only written down asks for nothing where it stands. -/
  recorded : ∀ index s, script[index]? = some s → s.kind.isExecutable = true →
    ¬(Layout.eligible script label index = true ∧ Layout.block script index = .scenario) →
      Itinerary.demandsAt label script index = []

namespace Interpreter

variable {i : Interpreter σ} {label : Label} {mode : Mode} {host : σ} {script : List Statement}

/-- What a view sees of a run that has come to its end, if it does not see the polls. -/
theorem filterMap_runScript {β : Type} {view : Event → Option β} (unseen : view .pending = none)
    (finished : (i.runScript label mode host script).finished = true) :
    (i.runScript label mode host script).log.filterMap view =
      (({ host } : Stage σ).complete i.cast label (Walk.cues label script)).1.filterMap view := by
  obtain ⟨rest, same, ended⟩ := i.unpolled_runCues label mode host (Walk.cues label script)
  rw [ended finished, List.append_nil] at same
  rw [runScript, ← Log.filterMap_unpolled unseen, same, Log.filterMap_unpolled unseen]

/-- A run that has not come to its end shows the first part of it. -/
theorem filterMap_runScript_prefix {β : Type} {view : Event → Option β}
    (unseen : view .pending = none) :
    (i.runScript label mode host script).log.filterMap view <+:
      (({ host } : Stage σ).complete i.cast label (Walk.cues label script)).1.filterMap view := by
  obtain ⟨rest, same, -⟩ := i.unpolled_runCues label mode host (Walk.cues label script)
  have whole := Log.filterMap_unpolled unseen
    (({ host } : Stage σ).complete i.cast label (Walk.cues label script)).1
  rw [← whole, ← same, Log.filterMap_unpolled unseen, List.filterMap_append]
  exact List.prefix_append _ _

theorem faults_runScript (finished : (i.runScript label mode host script).finished = true) :
    (i.runScript label mode host script).log.faults =
      (({ host } : Stage σ).complete i.cast label (Walk.cues label script)).1.faults := by
  rw [Log.faults_eq_filterMap, filterMap_runScript rfl finished, ← Log.faults_eq_filterMap]

theorem faults_of_meetsAll (finished : (i.runScript label mode host script).finished = true)
    {last : σ} (met : i.cast.MeetsAll label (Itinerary.demands label script) host last) :
    (i.runScript label mode host script).log.faults = [] := by
  rw [← Walk.demands_cues] at met
  rw [faults_runScript finished]
  exact (Stage.complete_of_meetsAll (Walk.plain_cues label script) met).1

theorem faults_of_firstViolated (finished : (i.runScript label mode host script).finished = true)
    {fault : Fault}
    (violated : i.cast.FirstViolated label (Itinerary.demands label script) host fault) :
    (i.runScript label mode host script).log.faults.head? = some fault := by
  rw [← Walk.demands_cues] at violated
  rw [faults_runScript finished]
  exact Stage.complete_of_firstViolated (Walk.plain_cues label script) violated

/-- A run without a fault is one that meets all demands. -/
theorem faults_eq_nil_iff (finished : (i.runScript label mode host script).finished = true) :
    (i.runScript label mode host script).log.faults = [] ↔
      ∃ last, i.cast.MeetsAll label (Itinerary.demands label script) host last := by
  constructor
  · intro unfailed
    rcases i.cast.meetsAll_or_firstViolated label (Itinerary.demands label script) host with
      met | ⟨fault, violated⟩
    · exact met
    · have first := faults_of_firstViolated finished violated
      rw [unfailed] at first
      cases first
  · rintro ⟨last, met⟩
    exact faults_of_meetsAll finished met

/-- The first fault of a run is that of the first demand that is violated. -/
theorem head?_faults_eq_some_iff (finished : (i.runScript label mode host script).finished = true)
    {fault : Fault} :
    (i.runScript label mode host script).log.faults.head? = some fault ↔
      i.cast.FirstViolated label (Itinerary.demands label script) host fault := by
  constructor
  · intro reported
    rcases i.cast.meetsAll_or_firstViolated label (Itinerary.demands label script) host with
      ⟨last, met⟩ | ⟨fault', violated⟩
    · rw [faults_of_meetsAll finished met] at reported
      cases reported
    · rw [faults_of_firstViolated finished violated] at reported
      cases reported
      exact violated
  · exact faults_of_firstViolated finished

theorem success_report (i : Interpreter σ) (console : Console) (run : Run σ) :
    (i.report console run).success = true ↔ run.log.faults = [] := by
  have success : (i.report console run).success = !(i.report console run).fault.isSome := rfl
  rw [success, report, Log.fault_report, ← List.head?_eq_none_iff]
  cases run.log.faults.head? <;> simp

/-- Meeting all demands of a script is to have no flaws, and to succeed in all attempts. -/
theorem meetsAll_demands_iff (cast : Cast σ) :
    (∃ last, cast.MeetsAll label (Itinerary.demands label script) host last) ↔
      (∀ index s, script[index]? = some s → Layout.eligible script label index = true →
          Layout.IsSound script index s) ∧
        ∃ last, cast.MeetsAll label ((Itinerary.attempts label script).map .attempt) host last := by
  rw [← Itinerary.flawless_iff]
  constructor
  · rintro ⟨last, met⟩
    have flawless := met.flawless
    rw [Itinerary.demands_of_flawless flawless] at met
    exact ⟨flawless, last, met⟩
  · rintro ⟨flawless, last, met⟩
    rw [← Itinerary.demands_of_flawless flawless] at met
    exact ⟨last, met⟩

/-- The demands of a script decide about a run. -/
theorem decides_runScript (finished : (i.runScript label mode host script).finished = true)
    (console : Console) :
    (i.report console (i.runScript label mode host script)).Decides i.cast label script host := by
  have first (fault : Fault) :
      (i.report console (i.runScript label mode host script)).fault = some fault ↔
        i.cast.FirstViolated label (Itinerary.demands label script) host fault := by
    rw [report, Log.fault_report]
    exact head?_faults_eq_some_iff finished
  refine ⟨?_, first, ?_, ?_⟩
  · rw [success_report, faults_eq_nil_iff finished]
    exact meetsAll_demands_iff i.cast
  · intro text reported
    obtain ⟨before, demand, after, mid, split, -, violated⟩ := (first _).mp reported
    obtain ⟨a, rfl, rfl, none_found⟩ := violated.unmatched_of_noMatch
    refine ⟨a, ?_, rfl, none_found⟩
    rw [Itinerary.mem_attempts, split]
    exact List.mem_append_right _ List.mem_cons_self
  · intro index s hs executable recorded
    exact Itinerary.demandsAt_of_recorded hs executable recorded

/-- **What decides about a run.** A run that has come to its end succeeds if no line that is let
through has a flaw and all attempts of the itinerary succeed; otherwise its fault is that of the
first demand that is not met. A definition that matches nothing that is attempted makes no
difference to this. -/
theorem verdict_of_demands (finished : (i.runScript label mode host script).finished = true)
    (console : Console) :
    (i.report console (i.runScript label mode host script)).Decides i.cast label script host ∧
      ∀ before d after, i.cast.definitions = before ++ d :: after →
        (∀ a ∈ Itinerary.attempts label script, d.pattern.search a.text = none) →
          ∀ j : Interpreter σ, j.cast = { i.cast with definitions := before ++ after } →
            ∀ mode', (j.runScript label mode' host script).finished = true →
              (j.report console (j.runScript label mode' host script)).success =
                  (i.report console (i.runScript label mode host script)).success ∧
                (j.report console (j.runScript label mode' host script)).fault =
                  (i.report console (i.runScript label mode host script)).fault := by
  refine ⟨decides_runScript finished console, ?_⟩
  intro before d after definitions unmatched j without mode' finished'
  have agrees : j.cast.Agrees i.cast (Itinerary.demands label script) := by
    constructor
    · rw [without]
    · intro a asked
      rw [without, definitions]
      have passed : d.pattern.captures a.text = none :=
        Option.map_eq_none_iff.mpr (unmatched a (Itinerary.mem_attempts.mpr asked))
      exact (Definition.find?_of_unmatched passed).symm
  have fault_eq : (j.report console (j.runScript label mode' host script)).fault =
      (i.report console (i.runScript label mode host script)).fault := by
    rw [report, report, Log.fault_report, Log.fault_report]
    rcases j.cast.meetsAll_or_firstViolated label (Itinerary.demands label script) host with
      ⟨last, met⟩ | ⟨fault, violated⟩
    · have met' := agrees.meetsAll (fun _ asked => asked) met
      rw [faults_of_meetsAll finished' met, faults_of_meetsAll finished met']
    · rw [faults_of_firstViolated finished' violated,
        faults_of_firstViolated finished (agrees.firstViolated violated)]
  refine ⟨?_, fault_eq⟩
  exact congrArg (fun fault => !fault.isSome) fault_eq

/-- The table between two checks is the first demand that is not met. -/
theorem verdict_of_demands_hanging :
    ((answering true).runScript ⟨""⟩ .blocking {} hangingScript).finished = true ∧
      (answering true).cast.FirstViolated ⟨""⟩ (Itinerary.demands ⟨""⟩ hangingScript) {}
        (.flaw .hangingTable) := by
  have finished : ((answering true).runScript ⟨""⟩ .blocking {} hangingScript).finished = true :=
    rfl
  have verdict := verdict_of_demands finished (.ansi false)
  refine ⟨finished, (verdict.1.fault _).mp ?_⟩
  rw [report, Log.fault_report, runScript, Walk.cues_eq_rounds]
  decide +kernel

/-- A background with a table that belongs to nothing, and a tagged scenario to go before. -/
def splicedTableScript : List Statement :=
  Script.parse .english "Background:\n  | x |\n@slow\nScenario: s\n"

/-- That the label lets a line through where it is visited is not enough for the line to count:
the table of a background is passed over in the replay. -/
theorem not_attached_of_success :
    ¬(((answering true).report (.ansi false)
          ((answering true).runScript ⟨"@slow"⟩ .blocking {} splicedTableScript)).success = true →
        ∀ cues c s, Walk.Steps ⟨"@slow"⟩ splicedTableScript {} cues c →
          c.visited? splicedTableScript = some s → c.check ⟨"@slow"⟩ s = true →
            s.kind ≠ .dataTable) := by
  intro attached
  have success : ((answering true).report (.ansi false)
      ((answering true).runScript ⟨"@slow"⟩ .blocking {} splicedTableScript)).success = true := by
    rw [success_report, runScript, Walk.cues_eq_rounds]
    decide +kernel
  -- Four steps lead to the table, in the replay that the scenario has started.
  have there : ((Walk.after ⟨"@slow"⟩ splicedTableScript 4 {}).bind fun walk =>
      (walk.2.visited? splicedTableScript).map fun s =>
        (s.kind, walk.2.check ⟨"@slow"⟩ s)) = some (.dataTable, true) := by
    decide +kernel
  obtain ⟨⟨cues, c⟩, walked, there⟩ := Option.bind_eq_some_iff.mp there
  obtain ⟨s, visited, same⟩ := Option.map_eq_some_iff.mp there
  obtain ⟨kind, passed⟩ := Prod.mk.inj same
  exact attached success cues c s (Walk.steps_of_after walked) visited passed kind

end Interpreter

end Storyline

import Storyline.Proofs.Attachments
import Storyline.Proofs.Verdicts

/-!
# What a step is handed

A step is called for a line of the script, in its own scenario or in a replay
(`Itinerary.Fills`). The definition that is called is the first one that matches the text of the
line, with its placeholders filled in. It is handed one value for each parameter that it has
declared, in the order of the declarations, and a context if it has declared one
(`Args.Answers`).
-/

namespace Storyline

variable {σ : Type}

/-! ## Values -/

/-- Whether a value is what a parameter asks for, with these groups and for this attempt. -/
inductive Value.Answers (groups : List String) (attempt : Attempt) : Param → Value → Prop
  | captures : Answers groups attempt .captures (.captures groups)
  | docString : Answers groups attempt .docString (.docString (attempt.docString.getD ""))
  | table : Answers groups attempt .table (.table (attempt.table.getD {}))

/-- Whether a step is handed what has been declared, and nothing else. -/
structure Args.Answers (args : Args) (params : List Param) (groups : List String)
    (attempt : Attempt) (context : Context) : Prop where
  /-- There is one value for each parameter but the context, in the order of the declarations. -/
  values : List.Forall₂ (Value.Answers groups attempt) (params.filter (· ≠ .context)) args.values
  context : args.context = if .context ∈ params then some context else none
  captures : args.captures = if .captures ∈ params then groups else []
  docString : args.docString = if .docString ∈ params then attempt.docString.getD "" else ""
  table : args.table = if .table ∈ params then attempt.table.getD {} else {}

namespace Args

variable {params : List Param} {groups : List String} {attempt : Attempt}

theorem forall₂_values (params : List Param) (groups : List String) (attempt : Attempt) :
    List.Forall₂ (Value.Answers groups attempt) (params.filter (· ≠ .context))
      (params.filterMap (value? groups attempt.docString attempt.table)) := by
  induction params with
  | nil => exact .nil
  | cons param params ih =>
      cases param with
      | captures => exact .cons .captures ih
      | docString => exact .cons .docString ih
      | table => exact .cons .table ih
      | context => exact ih

/-- Asking for a value finds it if its parameter has been declared. -/
theorem findSome?_values {β : Type} {pick : Value → Option β} (param : Param) (answer : β)
    (picks : ∀ p, (value? groups attempt.docString attempt.table p).bind pick =
      if p = param then some answer else none) (params : List Param) :
    (params.filterMap (value? groups attempt.docString attempt.table)).findSome? pick =
      if param ∈ params then some answer else none := by
  induction params with
  | nil => rfl
  | cons p params ih =>
      have first := picks p
      cases value : value? groups attempt.docString attempt.table p with
      | none =>
          rw [value, Option.bind_none] at first
          have other : p ≠ param := by
            rintro rfl
            simp at first
          rw [List.filterMap_cons_none value, ih]
          simp [other.symm]
      | some v =>
          rw [value, Option.bind_some] at first
          rw [List.filterMap_cons_some value, List.findSome?_cons, first]
          by_cases same : p = param
          · simp [same]
          · rw [if_neg same, ih]
            simp [Ne.symm same]

theorem supply_answers (params : List Param) (groups : List String) (attempt : Attempt)
    (context : Context) :
    (supply params groups attempt.docString attempt.table context).Answers params groups attempt
      context where
  values := forall₂_values params groups attempt
  context := by simp [supply]
  captures := by
    rw [captures, supply, findSome?_values .captures groups (by rintro (_ | _ | _ | _) <;> rfl)]
    split <;> rfl
  docString := by
    rw [docString, supply, findSome?_values .docString (attempt.docString.getD "")
      (by rintro (_ | _ | _ | _) <;> rfl)]
    split <;> rfl
  table := by
    rw [table, supply, findSome?_values .table (attempt.table.getD {})
      (by rintro (_ | _ | _ | _) <;> rfl)]
    split <;> rfl

end Args

/-! ## Calls -/

/-- The call that an event makes: for which attempt, of the definition at which place, and with
what it is handed. -/
def Event.call? : Event → Option (Attempt × Nat × Args)
  | called attempt index args => some (attempt, index, args)
  | _ => none

/-- The definition that is found stands at its place, it matches, and none above it does. -/
theorem Definition.findFrom_eq_some {definitions : List (Definition σ)} {start : Nat}
    {text : String} {found : Found σ} (h : findFrom start text definitions = some found) :
    ∃ k, found.index = start + k ∧ definitions[k]? = some found.definition ∧
      found.definition.pattern.captures text = some found.captures ∧
      ∀ j d, j < k → definitions[j]? = some d → d.pattern.captures text = none := by
  induction definitions generalizing start with
  | nil => cases h
  | cons definition definitions ih =>
      rw [findFrom] at h
      split at h
      · rename_i captures matched
        cases h
        exact ⟨0, rfl, rfl, matched, fun j d above => absurd above (Nat.not_lt_zero j)⟩
      · rename_i unmatched
        obtain ⟨k, place, here, matched, first⟩ := ih h
        refine ⟨k + 1, by omega, here, matched, ?_⟩
        intro j d above there
        cases j with
        | zero =>
            cases there
            exact unmatched
        | succ j => exact first j d (Nat.lt_of_succ_lt_succ above) there

namespace Stage

variable {stage : Stage σ} {cast : Cast σ} {label : Label} {cue : Cue} {cues : List Cue}

theorem calls_call (stage : Stage σ) (label : Label) (attempt : Attempt) (found : Found σ) :
    (stage.call label attempt found).finish.1.filterMap Event.call? =
      [(attempt, found.index, stage.args label attempt found)] := by
  rcases hreply : found.definition.call (stage.args label attempt found) stage.host with
    ⟨reply, host⟩
  have called : (stage.calledLog label attempt found reply).filterMap Event.call? =
      [(attempt, found.index, stage.args label attempt found)] :=
    filterMap_calledLog stage label attempt found reply fun _ _ => rfl
  cases completion : reply.completion with
  | now verdict =>
      rw [call_now hreply completion, List.filterMap_append, called, judge]
      cases verdict.fault? <;> rfl
  | later polls verdict =>
      rw [call_later hreply completion, List.filterMap_append, called]
      simp only [settle, judge]
      cases verdict.fault? <;> rfl

/-- A cue calls at most the first definition that matches its step, and only as long as there has
been no fault. -/
theorem mem_calls_perform {call : Attempt × Nat × Args}
    (made : call ∈ (stage.perform cast label cue).1.filterMap Event.call?) :
    ∃ attempt found, cue = .attempt attempt ∧ attempt.statement.kind ≠ .ask ∧
      Definition.find? cast.definitions attempt.text = some found ∧
      call = (attempt, found.index, found.args label attempt) := by
  rw [perform_eq_finish] at made
  cases cue with
  | visit | write | tell | flaw => cases made
  | attempt attempt =>
      have attempts := attempts_begin stage cast label attempt
      generalize stage.begin cast label (.attempt attempt) = begun at attempts made
      have handed {found : Found σ} {reply : Reply} {after : Log} (unfailed : stage.failed = false)
          (nothing : after.filterMap Event.call? = [])
          (made : call ∈
            (stage.calledLog label attempt found reply ++ after).filterMap Event.call?) :
          call = (attempt, found.index, found.args label attempt) := by
        rw [List.filterMap_append, nothing, List.append_nil,
          filterMap_calledLog stage label attempt found reply fun _ _ => rfl] at made
        rw [List.mem_singleton.mp made, args, context, Found.args, unfailed]
      cases attempts with
      | idle | unprompted | unmatched => cases made
      | @asked prompt answer host =>
          obtain ⟨polls, _ | _⟩ := answer <;> cases made
      | @replied found reply host verdict unfailed kind first =>
          refine ⟨attempt, found, rfl, kind, first, handed unfailed ?_ made⟩
          rw [judge]
          cases verdict.fault? <;> rfl
      | @suspended found reply host polls verdict unfailed kind first =>
          simp only [Begun.finish, List.append_assoc] at made
          refine ⟨attempt, found, rfl, kind, first, handed unfailed ?_ made⟩
          simp only [settle, judge]
          cases verdict.fault? <;> rfl

theorem mem_calls_complete {call : Attempt × Nat × Args}
    (made : call ∈ (stage.complete cast label cues).1.filterMap Event.call?) :
    ∃ attempt found, .attempt attempt ∈ cues ∧ attempt.statement.kind ≠ .ask ∧
      Definition.find? cast.definitions attempt.text = some found ∧
      call = (attempt, found.index, found.args label attempt) := by
  induction cues generalizing stage with
  | nil => cases made
  | cons cue cues ih =>
      rw [complete_cons, List.filterMap_append, List.mem_append] at made
      rcases made with now | later
      · obtain ⟨attempt, found, rfl, called⟩ := mem_calls_perform now
        exact ⟨attempt, found, List.mem_cons_self, called⟩
      · obtain ⟨attempt, found, asked, called⟩ := ih later
        exact ⟨attempt, found, List.mem_cons_of_mem _ asked, called⟩

/-- Below demands that are met a step is called if a definition matches it. -/
theorem call_mem_of_meetsAll {host mid : σ} {before after : List Demand} {attempt : Attempt}
    {found : Found σ} (plain : cues.all Cue.isPlain = true)
    (split : cues.filterMap Cue.demand? = before ++ .attempt attempt :: after)
    (met : cast.MeetsAll label before host mid) (kind : attempt.statement.kind ≠ .ask)
    (first : Definition.find? cast.definitions attempt.text = some found) :
    (attempt, found.index, found.args label attempt) ∈
      (({ host } : Stage σ).complete cast label cues).1.filterMap Event.call? := by
  obtain ⟨front, cue, back, rfl, asked, -, stage⟩ := complete_upto plain split met
  have called : (({ host := mid } : Stage σ).perform cast label cue).1.filterMap Event.call? =
      [(attempt, found.index, found.args label attempt)] := by
    cases cue with
    | visit | write | tell | flaw => cases asked
    | attempt a =>
        cases asked
        rw [perform_eq_finish, begin, if_neg Bool.false_ne_true, if_neg kind, runStep]
        simp only [first]
        exact calls_call _ label attempt found
  rw [complete_append, stage, List.filterMap_append, complete_cons, List.filterMap_append, called]
  exact List.mem_append_right _ List.mem_cons_self

end Stage

/-! ## Where a line is carried out -/

namespace Itinerary

variable {label : Label} {script : List Statement} {index line : Nat} {a : Attempt}

/-- How placeholders are filled where a line is carried out. -/
inductive Fills (label : Label) (script : List Statement) (line : Nat) :
    (String → String) → Prop
  /-- In a scenario, where it stands. -/
  | own (eligible : Layout.eligible script label line = true)
      (block : Layout.block script line = .scenario) : Fills label script line id
  /-- In the background that is replayed for a scenario. -/
  | background {header : Nat} {s : Statement} (here : script[header]? = some s)
      (kind : s.kind = .scenario) (eligible : Layout.eligible script label header = true)
      (inside : line ∈ Layout.indices script .background header) : Fills label script line id
  /-- In the outline that is replayed for a row of examples. -/
  | row {header : Nat} {s : Statement} {t : Table} {row : List String}
      (here : script[header]? = some s) (kind : s.kind = .examples)
      (eligible : Layout.eligible script label header = true)
      (inside : line ∈ Layout.indices script .outline header) (table : s.table = some t)
      (below : row ∈ t.body) :
      Fills label script line (Placeholder.substitute (t.header.getD []) row)

/-- Whether an attempt is made for an executable line, with all of its texts filled in. -/
structure CarriesOut (label : Label) (script : List Statement) (line : Nat) (s : Statement)
    (fill : String → String) (a : Attempt) : Prop where
  here : script[line]? = some s
  executable : s.kind.isExecutable = true
  fills : Fills label script line fill
  statement : a.statement = s
  /-- The body is filled in, -/
  text : a.text = fill s.body
  /-- and the doc-string, -/
  docString : a.docString = s.docString.map fill
  /-- and the cells of the table, one by one. -/
  table : a.table = s.table.map fun t => { rows := t.rows.map fun row => row.map fill }

theorem carriesOut_filled {s : Statement} {fill : String → String} (here : script[line]? = some s)
    (executable : s.kind.isExecutable = true) (fills : Fills label script line fill) :
    CarriesOut label script line s fill (s.filled fill) where
  here := here
  executable := executable
  fills := fills
  statement := rfl
  text := rfl
  docString := rfl
  table := rfl

theorem CarriesOut.eq_filled {s : Statement} {fill : String → String}
    (carried : CarriesOut label script line s fill a) : a = s.filled fill := by
  calc
    a = ⟨a.statement, a.text, a.docString, a.table⟩ := rfl
    _ = s.filled fill := by
      rw [carried.statement, carried.text, carried.docString, carried.table]
      rfl

theorem mem_executions {fill : String → String} {s : Statement} {e : Execution}
    (found : e ∈ executions fill s) : s.kind.isExecutable = true ∧ e.attempt = s.filled fill := by
  rw [executions] at found
  split at found
  · rename_i executable
    rw [List.mem_singleton.mp found, Execution.of]
    refine ⟨executable, ?_⟩
    split <;> rfl
  · cases found

theorem mem_recital {fill : String → String} {indices : List Nat} {e : Execution}
    (found : .execution e ∈ recital script fill indices) :
    ∃ line ∈ indices, ∃ s, script[line]? = some s ∧ s.kind.isExecutable = true ∧
      e.attempt = s.filled fill := by
  obtain ⟨line, inside, found⟩ := List.mem_flatMap.mp found
  rcases List.mem_cons.mp found with visit | found
  · cases visit
  obtain ⟨e', found, same⟩ := List.mem_map.mp found
  cases same
  obtain ⟨s, here, found⟩ := List.mem_flatMap.mp found
  exact ⟨line, inside, s, Option.mem_toList.mp here, mem_executions found⟩

/-- What a line inserts is carried out for an executable line of the script. -/
theorem carriesOut_of_mem_inserted {e : Execution}
    (found : .execution e ∈ inserted label script index) :
    ∃ line s fill, CarriesOut label script line s fill e.attempt := by
  rw [inserted] at found
  split at found
  · cases found
  rename_i s here
  split at found
  swap
  · cases found
  rename_i eligible
  split at found
  · rename_i kind
    obtain ⟨line, inside, t, there, executable, filled⟩ := mem_recital found
    rw [filled]
    exact ⟨line, t, id, carriesOut_filled there executable
      (.background here kind eligible inside)⟩
  · rename_i kind
    obtain ⟨fill, row, found⟩ := List.mem_flatMap.mp found
    obtain ⟨line, inside, t, there, executable, filled⟩ := mem_recital found
    rw [filled]
    refine ⟨line, t, fill, carriesOut_filled there executable ?_⟩
    rw [Statement.fills] at row
    split at row
    · cases row
    · rename_i table
      obtain ⟨cells, below, rfl⟩ := List.mem_map.mp row
      exact .row here kind eligible inside table below
  · split at found
    · rename_i block
      obtain ⟨e, found, same⟩ := List.mem_map.mp found
      cases same
      obtain ⟨executable, filled⟩ := mem_executions found
      rw [filled]
      exact ⟨index, s, id, carriesOut_filled here executable (.own eligible block)⟩
    · cases found

/-- What is attempted is carried out for an executable line of the script. -/
theorem carriesOut_of_mem (found : a ∈ attempts label script) :
    ∃ line s fill, CarriesOut label script line s fill a := by
  obtain ⟨index, -, found⟩ := List.mem_flatMap.mp found
  obtain ⟨e, carried, rfl⟩ := List.mem_map.mp found
  obtain ⟨milestone, found, same⟩ := List.mem_filterMap.mp carried
  cases milestone with
  | visit => cases same
  | execution e' =>
      cases same
      exact carriesOut_of_mem_inserted found

end Itinerary

/-! ## Runs -/

/-- What the groups of a pattern match, from the first one on. -/
theorem Pattern.captures_eq (p : Pattern) (text : String) :
    p.captures text = (p.search text).map fun found =>
      List.ofFn fun k : Fin p.groups => (found.get k.succ).getD "" := by
  rw [captures]
  congr 1
  funext found
  apply List.ext_getElem
  · simp
  · intro k hk hk'
    simp [Vector.get]

/-- What is handed over in a call: the definition at this place is the first one that matches, and
it gets what it has declared. -/
structure Cast.Hands (cast : Cast σ) (label : Label) (s : Statement) (attempt : Attempt)
    (index : Nat) (args : Args) (d : Definition σ)
    (found : Vector (Option String) (d.pattern.groups + 1)) : Prop where
  here : cast.definitions[index]? = some d
  matched : d.pattern.search attempt.text = some found
  first : ∀ j d', j < index → cast.definitions[j]? = some d' →
    d'.pattern.search attempt.text = none
  /-- A group that took no part in the match is empty. -/
  answers : args.Answers d.params
    (List.ofFn fun k : Fin d.pattern.groups => (found.get k.succ).getD "")
    attempt { statement := s, text := attempt.text, label := label.text, failed := false }

theorem Cast.hands_of_find? {cast : Cast σ} {attempt : Attempt} {found : Found σ} (label : Label)
    (first : Definition.find? cast.definitions attempt.text = some found) :
    ∃ groups, cast.Hands label attempt.statement attempt found.index (found.args label attempt)
      found.definition groups := by
  obtain ⟨k, place, here, matched, first⟩ := Definition.findFrom_eq_some first
  rw [Nat.zero_add] at place
  rw [Pattern.captures_eq] at matched
  obtain ⟨groups, searched, captures⟩ := Option.map_eq_some_iff.mp matched
  refine ⟨groups, place ▸ here, searched, ?_, ?_⟩
  · intro j d above there
    exact Option.map_eq_none_iff.mp (first j d (place ▸ above) there)
  · rw [captures]
    exact Args.supply_answers found.definition.params found.captures attempt _

namespace Interpreter

variable {i : Interpreter σ} {label : Label} {mode : Mode} {host : σ} {script : List Statement}
  {attempt : Attempt} {index : Nat} {args : Args}

/-- A step is called for a line that is carried out, and it is the first definition that matches
which is called. -/
theorem carriesOut_of_called
    (called : .called attempt index args ∈ (i.runScript label mode host script).log) :
    ∃ line s fill, Itinerary.CarriesOut label script line s fill attempt ∧ s.kind = .step ∧
      ∃ found, Definition.find? i.cast.definitions attempt.text = some found ∧
        found.index = index ∧ found.args label attempt = args := by
  have shown : (i.runScript label mode host script).log.filterMap Event.call? <+: _ :=
    filterMap_runScript_prefix rfl
  have made := shown.subset (List.mem_filterMap.mpr ⟨_, called, rfl⟩)
  obtain ⟨a, found, asked, kind, first, same⟩ := Stage.mem_calls_complete made
  cases same
  have demanded : .attempt attempt ∈ Itinerary.demands label script := by
    rw [← Walk.demands_cues]
    exact List.mem_filterMap.mpr ⟨_, asked, rfl⟩
  obtain ⟨line, s, fill, carried⟩ :=
    Itinerary.carriesOut_of_mem (Itinerary.mem_attempts.mpr demanded)
  have step : s.kind = .step := by
    have executable := carried.executable
    rw [carried.statement] at kind
    cases h : s.kind <;> simp_all [Keyword.isExecutable]
  exact ⟨line, s, fill, carried, step, found, first, rfl, rfl⟩

/-- **What a step is handed.** A step is called for a line of the script that is carried out, and
the first definition that matches the text of the line, with its placeholders filled in, gets what
it has declared: the groups of the match, the doc-string and the table of the line, and the context.
-/
theorem hands_of_called
    (called : .called attempt index args ∈ (i.runScript label mode host script).log) :
    ∃ line s fill d found, Itinerary.CarriesOut label script line s fill attempt ∧
      s.kind = .step ∧ i.cast.Hands label s attempt index args d found ∧
      s.HasDocString s.docString ∧
      s.table = if s.outsideTables = [] then none
        else some ⟨s.outsideTables.map fun line => Table.parseRow line.text⟩ := by
  obtain ⟨line, s, fill, carried, step, found, first, rfl, rfl⟩ := carriesOut_of_called called
  obtain ⟨groups, hands⟩ := Cast.hands_of_find? label first
  rw [carried.statement] at hands
  exact ⟨line, s, fill, _, groups, carried, step, hands, s.hasDocString, s.table_eq_outside⟩

/-- A step is called where all demands above it are met, if a definition matches it. -/
theorem called_of_meetsAll (finished : (i.runScript label mode host script).finished = true)
    {before after : List Demand} {mid : σ} {found : Found σ}
    (split : Itinerary.demands label script = before ++ .attempt attempt :: after)
    (met : i.cast.MeetsAll label before host mid) (kind : attempt.statement.kind ≠ .ask)
    (first : Definition.find? i.cast.definitions attempt.text = some found) :
    .called attempt found.index (found.args label attempt) ∈
      (i.runScript label mode host script).log := by
  rw [← Walk.demands_cues] at split
  have made := Stage.call_mem_of_meetsAll (Walk.plain_cues label script) split met kind first
  rw [← filterMap_runScript rfl finished] at made
  obtain ⟨event, here, same⟩ := List.mem_filterMap.mp made
  cases event with
  | called => cases same; exact here
  | _ => cases same

/-- An interpreter whose second definition matches everything and wants to know all. Its group
takes part where the text begins with the letter z. -/
def curious : Interpreter Tally where
  cast :=
    { definitions :=
        [({} : Stub).define
          { source := "z"
            groups := 0
            search := fun text => if 'z' ∈ text.toList then some #v[some "z"] else none } [] 0,
          ({} : Stub).define
          { source := "(z)?"
            groups := 1
            search := fun text =>
              if text.toList.head? = some 'z' then some #v[some "z", some "z"]
              else some #v[some "", none] }
          [.table, .captures, .context, .docString] 1] }

/-- A text without the letter z is left to the second definition, and its group takes no part. -/
theorem find?_curious {text : String} (other : 'z' ∉ text.toList) :
    ∃ found, Definition.find? curious.cast.definitions text = some found ∧ found.index = 1 ∧
      found.definition.params = [.table, .captures, .context, .docString] ∧
      found.captures = [""] := by
  have first : text.toList.head? ≠ some 'z' := fun first => other (List.mem_of_head? first)
  simp [curious, Definition.find?, Definition.findFrom, Pattern.captures, Stub.define, other, first]

/-- The step that a script begins with is handed to the second definition, if its text has no
letter z. -/
theorem called_curious
    (asked : (Itinerary.demands ⟨""⟩ script).head?.bind Demand.attempt? = some attempt)
    (step : attempt.statement.kind = .step) (other : 'z' ∉ attempt.text.toList) :
    .called attempt 1
        { values := [.table (attempt.table.getD {}), .captures [""],
            .docString (attempt.docString.getD "")]
          context := some
            { statement := attempt.statement, text := attempt.text, label := "",
              failed := false } } ∈
      (curious.runScript ⟨""⟩ .blocking {} script).log := by
  obtain ⟨demand, first, asked⟩ := Option.bind_eq_some_iff.mp asked
  obtain rfl := Demand.attempt?_eq_some_iff.mp asked
  obtain ⟨rest, split⟩ := List.head?_eq_some_iff.mp first
  have no_check : attempt.statement.kind ≠ .ask := by
    rw [step]
    decide
  have finished : (curious.runScript ⟨""⟩ .blocking {} script).finished = true := rfl
  obtain ⟨found, matched, place, params, captures⟩ := find?_curious other
  have called := called_of_meetsAll finished split (.nil _) no_check matched
  rw [place, Found.args, params, captures] at called
  exact called

/-- An outline of one step with a table and a doc-string. -/
def attachedScript : List Statement :=
  Script.parse .english
    "Scenario Outline:\nGiven <n>\n|<n>|\n  \"\"\"\n   x<n>\n  \"\"\"\nExamples:\n|n|\n|1|\n"

theorem hands_of_called_attached :
    ∃ attempt args,
      .called attempt 1 args ∈ (curious.runScript ⟨""⟩ .blocking {} attachedScript).log ∧
        attempt.text = "1" ∧
        args.values = [.table ⟨[["1"]]⟩, .captures [""], .docString " x1"] ∧
        args.context = some
          { statement := attempt.statement, text := "1", label := "", failed := false } ∧
        ∃ line s fill d found,
          Itinerary.CarriesOut ⟨""⟩ attachedScript line s fill attempt ∧ s.kind = .step ∧
            curious.cast.Hands ⟨""⟩ s attempt 1 args d found ∧ s.HasDocString s.docString ∧
            s.table = if s.outsideTables = [] then none
              else some ⟨s.outsideTables.map fun line => Table.parseRow line.text⟩ := by
  have demanded : ((Itinerary.demands ⟨""⟩ attachedScript).head?.bind Demand.attempt?).map
      (fun a => (a.text, a.statement.kind, a.docString, a.table)) =
        some ("1", .step, some " x1", some ⟨[["1"]]⟩) := by
    decide +kernel
  obtain ⟨attempt, asked, same⟩ := Option.map_eq_some_iff.mp demanded
  simp only [Prod.mk.injEq] at same
  obtain ⟨text, kind, docString, table⟩ := same
  have called := called_curious asked kind (by rw [text]; decide)
  refine ⟨attempt, _, called, text, ?_, ?_, hands_of_called called⟩
  · rw [docString, table]
    rfl
  · rw [text]

end Interpreter

end Storyline

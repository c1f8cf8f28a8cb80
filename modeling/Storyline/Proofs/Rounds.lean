import Storyline.Proofs.Standing

/-!
# Rounds

The walk comes in rounds, one for each line of the script: the line is visited, and what it
replays is replayed. After a round the cursor stands in front of the next line. So the cues
of a script are the cues of its rounds, one after the other, and what is left to say of a
walk can be said round by round (`Walk.cues_eq_rounds`).

Inside a round there are replays of a background, or of an outline for one row after the
other. A replay is a recital of the lines of its range: every line is visited, and the
executable ones are carried out.
-/

namespace Storyline

open Layout (endsBlock resets)

/-- The rows below the one picked out, from the next one on. -/
def Rows.later (rows : Rows) : List Rows :=
  (List.range' (rows.current + 1) rows.below).map fun current => { rows with current }

/-- The rows of the table attached to a statement, without its header row. -/
def Rows.ofExamples (s : Statement) : List Rows := ((Rows.ofStatement? s).map Rows.later).getD []

/-- The indices of a range. -/
def Range.indices (range : Range) : List Nat := List.range' range.start range.length

namespace Rows

theorem later_of_next?_eq_none {rows : Rows} (h : rows.next? = none) : rows.later = [] := by
  rw [next?] at h
  split at h
  · cases h
  · rename_i hlast
    have none_below : rows.below = 0 := by
      rw [below]
      omega
    simp [later, none_below]

theorem later_of_next?_eq_some {rows next : Rows} (h : rows.next? = some next) :
    rows.later = next :: next.later := by
  rw [next?] at h
  split at h
  · rename_i hlast
    cases h
    have below_next : rows.below = { rows with current := rows.current + 1 }.below + 1 := by
      simp only [below]
      omega
    rw [later, below_next, List.range'_succ]
    rfl
  · cases h

end Rows

namespace Cursor

/-- The cues of a recital: the lines with these indices are visited, and the executable
ones are carried out. -/
def recite (c : Cursor) (script : List Statement) (indices : List Nat) : List Cue :=
  indices.flatMap fun index =>
    .visit index ::
      match script[index]? with
      | some s => if s.kind.isExecutable then c.execute s else []
      | none => []

/-- The cues of the replays that a line starts, for a cursor in the scope of the line. The
first row of examples has been announced together with the line. -/
def replays (c : Cursor) (script : List Statement) (s : Statement) : List Cue :=
  match s.kind with
  | .scenario => c.recite script c.background.indices
  | .examples =>
      if c.outline.length = 0 then []
      else
        match Rows.ofExamples s with
        | [] => []
        | first :: later =>
            { c with rows := some first }.recite script c.outline.indices ++
              later.flatMap fun rows =>
                announce rows ++ { c with rows := some rows }.recite script c.outline.indices
  | _ => []

variable {script : List Statement} {label : Label} {c : Cursor} {s : Statement}

/-- A recital depends on the block and on the row in turn, and on nothing else. -/
theorem recite_congr {c d : Cursor} (block : c.block = d.block) (rows : c.rows = d.rows)
    (script : List Statement) (indices : List Nat) :
    c.recite script indices = d.recite script indices := by
  have fill_eq : c.fill = d.fill := by
    funext text
    simp only [fill, rows]
  simp only [recite, execute, attempt, block, fill_eq]

theorem closeBefore_of_not_recording (h : c.recording = none) (s : Statement) :
    c.closeBefore s = ([], c) := by
  rw [closeBefore]
  split
  · simp only [close, h]
  · rfl

theorem scope_executable (hs : s.kind.isExecutable = true) : c.scope s = c := by
  apply scope_of_not_ends
  have isHeader : s.isHeader = s.kind.isHeader := rfl
  cases hk : s.kind <;> simp_all [Keyword.isExecutable, endsBlock, Keyword.isHeader]

theorem read_executable (c : Cursor) (hs : s.kind.isExecutable = true) :
    c.read s = (c.execute s, c.advance) := by
  rw [Cursor.read]
  cases hk : s.kind with
  | step | ask => rfl
  | feature | rule | background | scenario | scenarioOutline | examples | docString | dataTable
  | tag | comments | unknown =>
      rw [hk] at hs
      cases hs

/-- A visit inside a replay: only an executable line does anything. -/
theorem visit_replaying_eq (replaying : c.replay.isSome = true) (h : c.recording = none)
    (admitted : c.admitted label = true) (s : Statement) :
    c.visit label s =
      (.visit c.line :: (if s.kind.isExecutable then c.execute s else []), c.advance) := by
  rw [visit, closeBefore_of_not_recording h, lookWhere, replaying]
  by_cases hs : s.kind.isExecutable = true
  · have no_tag : s.kind ≠ .tag := by
      rintro hk
      rw [hk] at hs
      cases hs
    simp [hs, look, scope_executable hs, no_tag, admitted, read_executable c hs]
  · simp [hs]

/-- Reading a line moves on, unless the line may start a replay. -/
theorem read_snd (no_scenario : s.kind ≠ .scenario) (no_examples : s.kind ≠ .examples) :
    (c.read s).2 = c.advance := by
  rw [Cursor.read]
  cases hk : s.kind <;> simp_all

theorem next?_of_not_replaying (label : Label) (h : c.replay = none)
    (hs : script[c.line]? = some s) :
    c.next? label script = some (c.visit label s) := by
  simp [next?, h, hs]

theorem next?_of_inside (label : Label) {replay : Replay} (h : c.replay = some replay)
    (inside : c.line ≠ replay.stop) (hs : script[c.line]? = some s) :
    c.next? label script = some (c.visit label s) := by
  simp [next?, h, inside, hs]

theorem next?_of_stop (label : Label) (script : List Statement) {replay : Replay}
    (h : c.replay = some replay) (stop : c.line = replay.stop) :
    c.next? label script = some (c.goOn replay) := by
  simp [next?, h, stop]

theorem goOn_of_no_rows (h : c.rows = none) (replay : Replay) :
    c.goOn replay = ([], { c with line := replay.home + 1, replay := none }) := by
  simp [goOn, h]

theorem goOn_of_last_row {rows : Rows} (h : c.rows = some rows) (hlast : rows.next? = none)
    (replay : Replay) :
    c.goOn replay =
      ([], { c.leaveExamples with line := replay.home + 1, replay := none }) := by
  simp [goOn, h, hlast]

theorem goOn_of_next_row {rows next : Rows} (h : c.rows = some rows)
    (hnext : rows.next? = some next) (replay : Replay) :
    c.goOn replay = (announce next, { c with rows := some next, line := c.outline.start }) := by
  simp [goOn, h, hnext]

end Cursor

namespace Walk

open Cursor

variable {script : List Statement} {label : Label} {c : Cursor} {s : Statement}

theorem cuesFrom_of_none (h : c.next? label script = none) :
    cuesFrom label script c = c.close.1 := by
  rw [cuesFrom]
  split
  · rfl
  · rename_i hsome
    rw [h] at hsome
    cases hsome

theorem cuesFrom_of_some {cues : List Cue} {next : Cursor}
    (h : c.next? label script = some (cues, next)) :
    cuesFrom label script c = cues ++ cuesFrom label script next := by
  rw [cuesFrom]
  split
  · rename_i hnone
    rw [h] at hnone
    cases hnone
  · rename_i hsome
    rw [h] at hsome
    cases hsome
    rfl

/-! ## Replays -/

/-- A replay recites the lines of its range down to the stop. -/
theorem cuesFrom_replaying (label : Label) {replay : Replay} (h : c.replay = some replay)
    (recording : c.recording = none) (admitted : c.admitted label = true) (n : Nat)
    (hn : c.line + n = replay.stop) (hle : replay.stop ≤ script.length) :
    cuesFrom label script c =
      c.recite script (List.range' c.line n) ++
        cuesFrom label script { c with line := replay.stop } := by
  induction n generalizing c with
  | zero =>
      rw [← hn]
      rfl
  | succ n ih =>
      have inside : c.line < script.length := by omega
      have hs : script[c.line]? = some script[c.line] := List.getElem?_eq_getElem inside
      have step := next?_of_inside label h (by omega) hs
      rw [visit_replaying_eq (by rw [h]; rfl) recording admitted] at step
      rw [cuesFrom_of_some step, ih (c := c.advance) h recording admitted (by
        rw [advance_line]; omega), List.range'_succ]
      simp only [recite, List.flatMap_cons, hs, List.append_assoc]
      rfl

/-- The replay of a background: its lines are recited, and the cursor comes back behind the
header that started the replay. -/
theorem cuesFrom_background (label : Label) {replay : Replay} (h : c.replay = some replay)
    (rows : c.rows = none) (recording : c.recording = none) (admitted : c.admitted label = true)
    (hle : replay.stop ≤ script.length) (hline : c.line ≤ replay.stop) :
    cuesFrom label script c =
      c.recite script (List.range' c.line (replay.stop - c.line)) ++
        cuesFrom label script { c with line := replay.home + 1, replay := none } := by
  have stop := next?_of_stop (c := { c with line := replay.stop }) label script h rfl
  rw [goOn_of_no_rows (c := { c with line := replay.stop }) rows] at stop
  rw [cuesFrom_replaying label h recording admitted (replay.stop - c.line) (by omega) hle,
    cuesFrom_of_some stop]
  rfl

/-- The replays of an outline: its lines are recited for the row in turn, and then for each
of the later rows, which is announced before. The cursor comes back behind the header that
started the replays, in no block of examples any more. -/
theorem cuesFrom_outline (label : Label) {c : Cursor} {replay : Replay} {rows : Rows}
    (h : c.replay = some replay) (hrows : c.rows = some rows) (recording : c.recording = none)
    (admitted : c.admitted label = true) (hle : replay.stop ≤ script.length)
    (hline : c.line = c.outline.start) (hstop : replay.stop = c.outline.stop) :
    cuesFrom label script c =
      c.recite script c.outline.indices ++
        (rows.later.flatMap fun rows =>
          announce rows ++ { c with rows := some rows }.recite script c.outline.indices) ++
        cuesFrom label script
          { c.leaveExamples with line := replay.home + 1, replay := none } := by
  -- One turn recites the lines for the row in turn and stands at the stop.
  have turn := cuesFrom_replaying label h recording admitted c.outline.length
    (by rw [hstop, hline, Range.stop]) hle
  rw [hline] at turn
  have stop := next?_of_stop (c := { c with line := replay.stop }) label script h rfl
  cases hnext : rows.next? with
  | none =>
      rw [goOn_of_last_row (c := { c with line := replay.stop }) hrows hnext] at stop
      rw [Rows.later_of_next?_eq_none hnext, turn, cuesFrom_of_some stop]
      simp only [List.flatMap_nil, List.nil_append, List.append_nil]
      rfl
  | some next =>
      have fewer : next.below < rows.below := Rows.below_lt_of_next? hnext
      rw [goOn_of_next_row (c := { c with line := replay.stop }) hrows hnext] at stop
      have again := cuesFrom_outline label
        (c := { c with rows := some next, line := c.outline.start }) h rfl recording admitted
        hle rfl hstop
      rw [Rows.later_of_next?_eq_some hnext, turn, cuesFrom_of_some stop, List.flatMap_cons]
      simp only [List.append_assoc]
      congr 2
      rw [List.append_assoc] at again
      exact again
termination_by rows.below

/-- The header of a scenario starts a replay of the background, unless it has no lines. -/
theorem cuesFrom_readScenario (hk : s.kind = .scenario) (replay : c.replay = none)
    (rows : c.rows = none) (recording : c.recording = none) (admitted : c.admitted label = true)
    (hle : c.background.stop ≤ script.length) :
    cuesFrom label script (c.readScenario s).2 =
      c.replays script s ++ cuesFrom label script c.advance := by
  simp only [replays, hk, readScenario]
  by_cases hempty : c.background.length = 0
  · rw [if_pos hempty, Range.indices, hempty]
    rfl
  · have home : { c with line := c.line + 1, replay := none } = c.advance := by
      rw [advance, ← replay]
    have replaying : (c.enter c.background).replay =
        some { home := c.line, stop := c.background.stop } := rfl
    have spliced := cuesFrom_background label replaying rows recording admitted hle
      (Nat.le_add_right _ _)
    rw [if_neg hempty, spliced, ← home]
    simp only [enter, Range.stop, Nat.add_sub_cancel_left]
    rfl

/-- The header of examples starts a replay of the outline for each row below the header row
of its table, if there are such rows and the outline has lines. -/
theorem cuesFrom_readExamples (hk : s.kind = .examples) (replay : c.replay = none)
    (recording : c.recording = none) (admitted : c.admitted label = true)
    (hle : c.outline.stop ≤ script.length) :
    cuesFrom label script (c.readExamples s).2 =
      c.replays script s ++ cuesFrom label script c.leaveExamples.advance := by
  simp only [replays, hk, readExamples, Rows.ofExamples]
  by_cases hempty : c.outline.length = 0
  · rw [if_pos hempty, if_pos hempty]
    rfl
  rw [if_neg hempty, if_neg hempty]
  cases htable : Rows.ofStatement? s with
  | none => rfl
  | some rows =>
      cases hfirst : rows.next? with
      | none =>
          simp only [hfirst, Option.map_some, Option.getD_some,
            Rows.later_of_next?_eq_none hfirst]
          rfl
      | some first =>
          have home : { c.leaveExamples with line := c.line + 1, replay := none } =
              c.leaveExamples.advance := by
            rw [advance, leaveExamples_replay, replay]
            rfl
          have replaying : ({ c with rows := some first }.enter c.outline).replay =
              some { home := c.line, stop := c.outline.stop } := rfl
          have replayed := cuesFrom_outline label replaying rfl recording admitted hle rfl rfl
          have turn (rows : Rows) :
              { { c with rows := some first }.enter c.outline with rows := some rows }.recite
                  script c.outline.indices =
                { c with rows := some rows }.recite script c.outline.indices :=
            recite_congr rfl rfl script c.outline.indices
          simp only [hfirst, Option.map_some, Option.getD_some,
            Rows.later_of_next?_eq_some hfirst]
          rw [replayed, ← home]
          simp only [enter, leaveExamples] at turn ⊢
          simp only [turn]

/-! ## The round of a line -/

/-- The cursor that has entered the scope of a line. -/
def entered (script : List Statement) (index : Nat) (s : Statement) : Cursor :=
  ((standing script index).closeBefore s).2.scope s

/-- The cues of the round of a line: the visit of the line, and then its replays. -/
def round (label : Label) (script : List Statement) (index : Nat) : List Cue :=
  match script[index]? with
  | none => []
  | some s =>
      ((standing script index).visit label s).1 ++
        if (entered script index s).admitted label then (entered script index s).replays script s
        else []

section Round

variable {index : Nat}

theorem round_eq (hs : script[index]? = some s) :
    round label script index =
      ((standing script index).visit label s).1 ++
        if (entered script index s).admitted label then (entered script index s).replays script s
        else [] := by
  simp only [round, hs]

theorem index_le (hs : script[index]? = some s) : index ≤ script.length :=
  Nat.le_of_lt (List.getElem?_eq_some_iff.mp hs).1

theorem entered_replay (hs : script[index]? = some s) : (entered script index s).replay = none := by
  simp [entered, standing_replay (index_le hs)]

theorem entered_rows (hs : script[index]? = some s) : (entered script index s).rows = none := by
  simp [entered, standing_rows (index_le hs)]

/-- In the scope of a line the tags in force are those that the layout says. -/
theorem entered_tags (hs : script[index]? = some s) :
    (entered script index s).tags = Layout.tags script (index + 1) := by
  rw [entered, scope_tags, closeBefore_tags, standing_tags (index_le hs), Layout.tags_succ hs]

theorem entered_admitted (hs : script[index]? = some s) (label : Label) :
    (entered script index s).admitted label = Layout.eligible script label index := by
  rw [admitted, entered_tags hs, Layout.eligible]

/-- At the header of a scenario or of examples nothing is being recorded any more, and the
ranges are those in force. -/
theorem entered_of_replaying (hs : script[index]? = some s)
    (hk : s.kind = .scenario ∨ s.kind = .examples) :
    (entered script index s).recording = none ∧
      ∀ block, (entered script index s).range block = Layout.range script block index := by
  have ends : endsBlock s = true := by
    have isHeader : s.isHeader = s.kind.isHeader := rfl
    rcases hk with hk | hk <;> simp [endsBlock, isHeader, hk, Keyword.isHeader]
  have line := standing_line (index_le hs)
  refine ⟨?_, fun block => ?_⟩
  · rw [entered, scope_recording, closeBefore_of_ends ends]
    rcases hk with hk | hk <;> simp [hk]
  · have closed := (standing_remembers (index_le hs)).range_close
      (by rw [line]; exact index_le hs)
      (fun t ht => by rw [line, hs] at ht; cases ht; exact ends) block
    rw [entered, scope_range, closeBefore_of_ends ends, closed, line, if_neg, if_neg]
    · rcases hk with hk | hk <;> simp [resets, hk]
    · rcases hk with hk | hk <;> cases block <;> simp [hk, Recorded.keyword]

/-- A visit outside of replays looks at the line. -/
theorem visit_standing (hs : script[index]? = some s) :
    (standing script index).visit label s =
      (.visit index :: ((standing script index).closeBefore s).1 ++
          (((standing script index).closeBefore s).2.look label s).1,
        (((standing script index).closeBefore s).2.look label s).2) := by
  simp [visit, lookWhere, standing_replay (index_le hs), standing_line (index_le hs)]

/-- What looking at a line comes to, in the scope of the line. -/
theorem look_standing :
    ((standing script index).closeBefore s).2.look label s =
      if s.kind = .tag then ([.write (.raw s.text .tag)], (entered script index s).advance)
      else if (entered script index s).admitted label then (entered script index s).read s
      else ([], (entered script index s).pass s) := rfl

theorem past_eq_advance (hk : s.kind ≠ .examples) :
    (standing script index).past s = (entered script index s).advance := by
  simp only [past, if_neg hk]
  rfl

theorem past_eq_leaveExamples (hs : script[index]? = some s) (hk : s.kind = .examples) :
    (standing script index).past s = (entered script index s).leaveExamples.advance := by
  rw [leaveExamples, ← entered_rows hs]
  simp only [past, if_pos hk]
  rfl

/-- A line that starts no replay is passed. -/
theorem visit_standing_snd (hs : script[index]? = some s)
    (plain : (entered script index s).admitted label = true →
      s.kind ≠ .scenario ∧ s.kind ≠ .examples) :
    ((standing script index).visit label s).2 = (standing script index).past s := by
  rw [visit_standing hs, look_standing]
  by_cases htag : s.kind = .tag
  · rw [if_pos htag, past_eq_advance (by rw [htag]; decide)]
  rw [if_neg htag]
  by_cases hadmitted : (entered script index s).admitted label = true
  · obtain ⟨no_scenario, no_examples⟩ := plain hadmitted
    rw [if_pos hadmitted, past_eq_advance no_examples]
    exact read_snd no_scenario no_examples
  · rw [if_neg hadmitted, Cursor.pass]
    by_cases hk : s.kind = .examples
    · rw [if_pos hk, past_eq_leaveExamples hs hk]
    · rw [if_neg hk, past_eq_advance hk]

/-- After the visit of a line its replays follow, and then the cursor is past the line. -/
theorem cuesFrom_visit (label : Label) (hs : script[index]? = some s) :
    cuesFrom label script ((standing script index).visit label s).2 =
      (if (entered script index s).admitted label then (entered script index s).replays script s
        else []) ++
        cuesFrom label script ((standing script index).past s) := by
  by_cases hadmitted : (entered script index s).admitted label = true
  · have read_eq (no_tag : s.kind ≠ .tag) : ((standing script index).visit label s).2 =
        ((entered script index s).read s).2 := by
      rw [visit_standing hs, look_standing, if_neg no_tag, if_pos hadmitted]
    rw [if_pos hadmitted]
    by_cases hscenario : s.kind = .scenario
    · obtain ⟨recording, ranges⟩ := entered_of_replaying hs (.inl hscenario)
      have stop := Layout.stop_range_le .background (index_le hs)
      rw [← ranges .background] at stop
      rw [read_eq (by rw [hscenario]; decide), past_eq_advance (by rw [hscenario]; decide),
        ← cuesFrom_readScenario hscenario (entered_replay hs) (entered_rows hs) recording
          hadmitted stop]
      simp only [Cursor.read, hscenario]
    by_cases hexamples : s.kind = .examples
    · obtain ⟨recording, ranges⟩ := entered_of_replaying hs (.inr hexamples)
      have stop := Layout.stop_range_le .outline (index_le hs)
      rw [← ranges .outline] at stop
      rw [read_eq (by rw [hexamples]; decide), past_eq_leaveExamples hs hexamples,
        ← cuesFrom_readExamples hexamples (entered_replay hs) recording hadmitted stop]
      simp only [Cursor.read, hexamples]
    have no_replays : (entered script index s).replays script s = [] := by
      rw [replays]
      split <;> simp_all
    rw [no_replays, visit_standing_snd hs fun _ => ⟨hscenario, hexamples⟩, List.nil_append]
  · rw [if_neg hadmitted, visit_standing_snd hs fun h => absurd h hadmitted, List.nil_append]

/-- The cues from a line on are those of its round, and then those from the next line on. -/
theorem cuesFrom_standing (label : Label) (hs : script[index]? = some s) :
    cuesFrom label script (standing script index) =
      round label script index ++ cuesFrom label script (standing script (index + 1)) := by
  have step : (standing script index).next? label script =
      some (((standing script index).visit label s).1,
        ((standing script index).visit label s).2) :=
    next?_of_not_replaying label (standing_replay (index_le hs))
      (by rw [standing_line (index_le hs), hs])
  rw [cuesFrom_of_some step, cuesFrom_visit label hs, round_eq hs, standing_succ hs,
    List.append_assoc]

end Round

/-- The cues of a script are those of its rounds, and what ends the block that is being
recorded at the end of the script. -/
theorem cues_eq_rounds (label : Label) (script : List Statement) :
    cues label script =
      (List.range script.length).flatMap (round label script) ++
        (standing script script.length).close.1 := by
  have rest (n index : Nat) (h : index + n = script.length) :
      cuesFrom label script (standing script index) =
        (List.range' index n).flatMap (round label script) ++
          (standing script script.length).close.1 := by
    induction n generalizing index with
    | zero =>
        have hindex : index = script.length := by omega
        subst hindex
        apply cuesFrom_of_none
        have line := standing_line (Nat.le_refl script.length)
        simp [next?, standing_replay (Nat.le_refl script.length), line]
    | succ n ih =>
        have hs : script[index]? = some script[index] := List.getElem?_eq_getElem (by omega)
        rw [cuesFrom_standing label hs, ih (index + 1) (by omega), List.range'_succ,
          List.flatMap_cons, List.append_assoc]
  have all := rest script.length 0 (Nat.zero_add _)
  rw [← List.range_eq_range'] at all
  exact all

end Walk

end Storyline

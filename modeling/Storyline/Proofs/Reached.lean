import Storyline.Proofs.Visits

/-!
# Where a walk can be

A walk is never anywhere but in one of two places: in front of a line, where the cursor is the
standing one, or in a replay. In a replay the cursor is the one that has entered the scope of the
header that started it, moved to a line of the replayed range, with a row of the attached table
picked out if the header is one of examples. `Walk.Reached` says so; each step of the walk keeps it
(`Reached.next`), so it holds wherever the steps of the walk lead (`Reached.steps`).
-/

namespace Storyline

open Layout (endsBlock)

namespace Walk

/-- What a header replays: a scenario the background, and examples the outline for one of their
rows. -/
inductive Replays (s : Statement) : Recorded → Option Rows → Prop
  | background (kind : s.kind = .scenario) : Replays s .background none
  | outline {rows : Rows} (kind : s.kind = .examples) (row : rows ∈ Rows.ofExamples s) :
      Replays s .outline (some rows)

theorem Replays.kind {s : Statement} {block : Recorded} {rows : Option Rows}
    (replays : Replays s block rows) : s.kind = .scenario ∨ s.kind = .examples := by
  cases replays with
  | background kind => exact .inl kind
  | outline kind _ => exact .inr kind

/-- The cursor in a replay that the header at `home` has started. -/
def replaying (script : List Statement) (home : Nat) (s : Statement) (block : Recorded)
    (rows : Option Rows) (line : Nat) : Cursor :=
  { entered script home s with
    line, rows
    replay := some { home, stop := (Layout.range script block home).stop } }

/-- Whether a walk can come to a cursor. -/
inductive Reached (label : Label) (script : List Statement) : Cursor → Prop
  /-- In front of a line, or at the end of the script. -/
  | outside {index : Nat} (le : index ≤ script.length) :
      Reached label script (standing script index)
  /-- In a replay: in front of a line of the replayed range, or at its stop. -/
  | inside {home line : Nat} {s : Statement} {block : Recorded} {rows : Option Rows}
      (header : script[home]? = some s)
      (eligible : Layout.eligible script label home = true)
      (replays : Replays s block rows)
      (lower : (Layout.range script block home).start ≤ line)
      (upper : line ≤ (Layout.range script block home).stop) :
      Reached label script (replaying script home s block rows line)

end Walk

/-- The rows that examples are replayed for are those below the first line of their table. -/
theorem Rows.mem_ofExamples {rows : Rows} {s : Statement} :
    rows ∈ Rows.ofExamples s ↔
      rows.lines = s.tableLines ∧ 0 < rows.current ∧ rows.current < s.tableLines.length := by
  obtain ⟨lines, current⟩ := rows
  cases h : s.tableLines with
  | nil => simp [ofExamples, ofStatement?, h]
  | cons first rest =>
      simp only [ofExamples, ofStatement?, h, Option.map_some, Option.getD_some, later, below,
        List.mem_map, List.mem_range', Rows.mk.injEq, List.length_cons]
      constructor
      · rintro ⟨_, ⟨k, hk, rfl⟩, rfl, rfl⟩
        exact ⟨rfl, by omega, by omega⟩
      · rintro ⟨rfl, positive, inside⟩
        exact ⟨current, ⟨current - 1, by omega, by omega⟩, rfl, rfl⟩

theorem Rows.next?_mem_ofExamples {rows next : Rows} {s : Statement}
    (row : rows ∈ Rows.ofExamples s) (h : rows.next? = some next) : next ∈ Rows.ofExamples s := by
  obtain ⟨lines, positive, -⟩ := Rows.mem_ofExamples.mp row
  rw [next?] at h
  split at h
  · rename_i more
    cases h
    rw [lines] at more
    exact Rows.mem_ofExamples.mpr ⟨lines, Nat.succ_pos _, more⟩
  · cases h

namespace Layout

variable {script : List Statement}

/-- A line of a recorded block that is in force stands in the script above, and it is neither a
header nor a line of tags. -/
theorem getElem?_of_range {block : Recorded} {bound line : Nat}
    (lower : (range script block bound).start ≤ line)
    (upper : line < (range script block bound).stop) :
    ∃ t, script[line]? = some t ∧ endsBlock t = false := by
  cases h : inForce? script block bound with
  | none =>
      simp only [range, h, Range.stop] at lower upper
      omega
  | some header =>
      simp only [range, h, Range.stop] at lower upper
      obtain ⟨k, rfl⟩ := Nat.exists_eq_add_of_le lower
      have inside : k < (blockBelow script header).length := by omega
      have no_end := List.all_eq_true.mp List.all_takeWhile _ (List.getElem_mem inside)
      refine ⟨(blockBelow script header)[k], ?_, by simpa using no_end⟩
      exact getElem?_of_part (List.takeWhile_prefix _) inside

end Layout

namespace Walk

open Cursor

variable {label : Label} {script : List Statement} {c : Cursor} {s t : Statement}
  {cues : List Cue} {home line index : Nat} {block : Recorded} {rows : Option Rows}

/-! ## Inside of replays -/

theorem replaying_recording (header : script[home]? = some s) (replays : Replays s block rows) :
    (replaying script home s block rows line).recording = none :=
  (entered_of_replaying header replays.kind).1

theorem replaying_range (header : script[home]? = some s) (replays : Replays s block rows)
    (other : Recorded) :
    (replaying script home s block rows line).range other = Layout.range script other home := by
  rw [← (entered_of_replaying header replays.kind).2 other]
  cases other <;> rfl

theorem replaying_admitted (header : script[home]? = some s) (label : Label) :
    (replaying script home s block rows line).admitted label =
      Layout.eligible script label home := entered_admitted header label

theorem entered_line (hs : script[index]? = some s) : (entered script index s).line = index := by
  simp [entered, standing_line (index_le hs)]

/-- A header enters the first line of the range that it replays. -/
theorem enter_entered (header : script[home]? = some s) (replays : Replays s block rows) :
    { entered script home s with rows }.enter ((entered script home s).range block) =
      replaying script home s block rows (Layout.range script block home).start := by
  rw [(entered_of_replaying header replays.kind).2 block]
  simp only [enter, replaying, entered_line header]

/-- Back from a replay of the background, the cursor is past the scenario. -/
theorem standing_of_background (header : script[home]? = some s) (kind : s.kind = .scenario) :
    { replaying script home s block none line with line := home + 1, replay := none } =
      standing script (home + 1) := by
  have replay := entered_replay header
  have rows := entered_rows header
  rw [standing_succ header, past_eq_advance (by rw [kind]; decide), advance, entered_line header]
  simp only [replaying, ← replay, ← rows]

/-- Back from the replays of an outline, the cursor is past the examples. -/
theorem standing_of_outline (header : script[home]? = some s) (kind : s.kind = .examples) :
    { (replaying script home s block rows line).leaveExamples with
        line := home + 1, replay := none } = standing script (home + 1) := by
  have replay := entered_replay header
  rw [standing_succ header, past_eq_leaveExamples header kind, advance, leaveExamples_line,
    entered_line header]
  simp only [replaying, leaveExamples, ← replay]

/-! ## One step -/

/-- At the stop of a replay the walk goes on with the next row, or past the header. -/
theorem Reached.goOn (header : script[home]? = some s)
    (eligible : Layout.eligible script label home = true) (replays : Replays s block rows)
    (replay : Replay) (here : replay.home = home) :
    Reached label script ((replaying script home s block rows line).goOn replay).2 := by
  have below : home + 1 ≤ script.length := (List.getElem?_eq_some_iff.mp header).1
  subst here
  cases replays with
  | background kind =>
      rw [goOn_of_no_rows rfl, standing_of_background header kind]
      exact .outside below
  | outline kind row =>
      rename_i picked
      cases hnext : picked.next? with
      | none =>
          rw [goOn_of_last_row rfl hnext, standing_of_outline header kind]
          exact .outside below
      | some following =>
          have again : Replays s .outline (some following) :=
            .outline kind (Rows.next?_mem_ofExamples row hnext)
          have outline : (replaying script replay.home s .outline (some following) line).outline =
              Layout.range script .outline replay.home := replaying_range header again .outline
          rw [goOn_of_next_row rfl hnext]
          change Reached label script (replaying script replay.home s .outline (some following)
            (replaying script replay.home s .outline (some following) line).outline.start)
          rw [outline]
          exact .inside header eligible again (Nat.le_refl _) (Nat.le_add_right _ _)

/-- The visit of a line of a replayed range moves on. -/
theorem visit_replayed (header : script[home]? = some s)
    (eligible : Layout.eligible script label home = true) (replays : Replays s block rows) :
    (replaying script home s block rows line).visit label t =
      (.visit line :: (if t.kind.isExecutable then
          (replaying script home s block rows line).execute t else []),
        replaying script home s block rows (line + 1)) := by
  have admitted : (replaying script home s block rows line).admitted label = true := by
    rw [replaying_admitted header, eligible]
  exact visit_replaying_eq rfl (replaying_recording header replays) admitted t

theorem Reached.readScenario (hs : script[index]? = some s) (kind : s.kind = .scenario)
    (eligible : Layout.eligible script label index = true) :
    Reached label script ((entered script index s).readScenario s).2 := by
  have replays : Replays s .background none := .background kind
  rw [Cursor.readScenario]
  split
  · rw [← past_eq_advance (by rw [kind]; decide), ← standing_succ hs]
    exact .outside (List.getElem?_eq_some_iff.mp hs).1
  · have entering := enter_entered hs replays
    rw [← entered_rows hs] at entering
    change Reached label script ((entered script index s).enter
      ((entered script index s).range .background))
    rw [entering, entered_rows hs]
    exact .inside hs eligible replays (Nat.le_refl _) (Nat.le_add_right _ _)

theorem Reached.readExamples (hs : script[index]? = some s) (kind : s.kind = .examples)
    (eligible : Layout.eligible script label index = true) :
    Reached label script ((entered script index s).readExamples s).2 := by
  have left : Reached label script (entered script index s).leaveExamples.advance := by
    rw [← past_eq_leaveExamples hs kind, ← standing_succ hs]
    exact .outside (List.getElem?_eq_some_iff.mp hs).1
  rw [Cursor.readExamples]
  dsimp only
  split
  · exact left
  split
  · exact left
  rename_i rows table
  split
  · exact left
  · rename_i first hfirst
    have row : first ∈ Rows.ofExamples s := by
      rw [Rows.ofExamples, table]
      change first ∈ rows.later
      rw [Rows.later_of_next?_eq_some hfirst]
      exact List.mem_cons_self
    change Reached label script ({ entered script index s with rows := some first }.enter
      ((entered script index s).range .outline))
    rw [enter_entered hs (.outline kind row)]
    exact .inside hs eligible (.outline kind row) (Nat.le_refl _) (Nat.le_add_right _ _)

/-- The visit of a line outside of replays passes the line, or starts a replay. -/
theorem Reached.visit_standing (hs : script[index]? = some s) :
    Reached label script ((standing script index).visit label s).2 := by
  by_cases plain : (entered script index s).admitted label = true →
      s.kind ≠ .scenario ∧ s.kind ≠ .examples
  · rw [visit_standing_snd hs plain, ← standing_succ hs]
    exact .outside (List.getElem?_eq_some_iff.mp hs).1
  · rw [Classical.not_imp, Classical.not_and_iff_not_or_not, not_not, not_not] at plain
    obtain ⟨admitted, kind⟩ := plain
    have eligible : Layout.eligible script label index = true := by
      rw [← entered_admitted hs]
      exact admitted
    have no_tag : s.kind ≠ .tag := by
      rcases kind with kind | kind <;> simp [kind]
    rw [Walk.visit_standing hs, look_standing, if_neg no_tag, if_pos admitted]
    rcases kind with kind | kind
    · simp only [Cursor.read, kind]
      exact .readScenario hs kind eligible
    · simp only [Cursor.read, kind]
      exact .readExamples hs kind eligible

/-- Each step of a walk leads to where a walk can be. -/
theorem Reached.next {next : Cursor} (reached : Reached label script c)
    (step : c.next? label script = some (cues, next)) : Reached label script next := by
  cases reached with
  | outside le =>
      rename_i index
      rw [next?, standing_replay le, standing_line le] at step
      obtain ⟨s, hs, hvisit⟩ := Option.map_eq_some_iff.mp step
      have visited : Reached label script ((standing script index).visit label s).2 :=
        .visit_standing hs
      rwa [hvisit] at visited
  | inside header eligible replays lower upper =>
      rename_i home line s block rows
      rcases Nat.eq_or_lt_of_le upper with stop | inside
      · have gone : Reached label script ((replaying script home s block rows line).goOn
            { home, stop := (Layout.range script block home).stop }).2 :=
          .goOn header eligible replays _ rfl
        rw [next?_of_stop label script rfl stop] at step
        rwa [Option.some.inj step] at gone
      · obtain ⟨t, ht, -⟩ := Layout.getElem?_of_range lower inside
        have moved : Reached label script (replaying script home s block rows (line + 1)) :=
          .inside header eligible replays (Nat.le_succ_of_le lower) inside
        rw [next?_of_inside label rfl (Nat.ne_of_lt inside) ht] at step
        have there : ((replaying script home s block rows line).visit label t).2 =
            replaying script home s block rows (line + 1) :=
          congrArg Prod.snd (visit_replayed header eligible replays)
        rw [Option.some.inj step] at there
        rw [← there] at moved
        exact moved

/-- The steps of a walk lead to where a walk can be. -/
theorem Reached.steps (reached : Reached label script c) {last : Cursor}
    (steps : Steps label script c cues last) : Reached label script last := by
  induction steps with
  | refl c => exact reached
  | step first _ ih => exact ih (reached.next first)

/-- A walk begins in front of the first line. -/
theorem Reached.start (label : Label) (script : List Statement) : Reached label script {} :=
  Reached.outside (Nat.zero_le script.length)

/-! ## Visits -/

/-- Some steps of a walk, if it does not end before. -/
def after (label : Label) (script : List Statement) : Nat → Cursor → Option (List Cue × Cursor)
  | 0, c => some ([], c)
  | n + 1, c =>
      (c.next? label script).bind fun (cues, next) =>
        (after label script n next).map fun (rest, last) => (cues ++ rest, last)

theorem steps_of_after {n : Nat} {last : Cursor} (h : after label script n c = some (cues, last)) :
    Steps label script c cues last := by
  induction n generalizing c cues with
  | zero =>
      cases h
      exact .refl _
  | succ n ih =>
      obtain ⟨⟨first, next⟩, step, h⟩ := Option.bind_eq_some_iff.mp h
      obtain ⟨⟨rest, there⟩, later, same⟩ := Option.map_eq_some_iff.mp h
      cases same
      exact .step step (ih later)

end Walk

namespace Cursor

/-- The statement that the next step visits. There is none at the end of the script, and none at
the stop of a replay. -/
def visited? (c : Cursor) (script : List Statement) : Option Statement :=
  if c.replay.any (·.stop = c.line) then none else script[c.line]?

/-- The line that decides about a visit: the visited line itself, or in a replay the header that
has started it. -/
def home (c : Cursor) : Nat := (c.replay.map Replay.home).getD c.line

/-- The bound below all headers that have been visited. -/
def bound (c : Cursor) : Nat :=
  match c.replay with
  | none => c.line
  | some replay => replay.home + 1

variable {label : Label} {script : List Statement} {c next : Cursor} {s : Statement}
  {cues : List Cue}

theorem getElem?_of_visited? (h : c.visited? script = some s) : script[c.line]? = some s := by
  rw [visited?] at h
  split at h
  · cases h
  · exact h

theorem next?_of_visited? (label : Label) (h : c.visited? script = some s) :
    c.next? label script = some (c.visit label s) := by
  have hs := getElem?_of_visited? h
  cases replay : c.replay with
  | none => exact next?_of_not_replaying label replay hs
  | some replay' =>
      refine next?_of_inside label replay (fun stop => ?_) hs
      rw [visited?, replay, stop] at h
      simp at h

/-- A visit leads below the visited line, unless it is part of a replay. -/
theorem bound_visit (c : Cursor) (label : Label) (s : Statement) :
    (c.visit label s).2.bound = if c.replay.isNone then c.line + 1 else c.bound := by
  cases replay : c.replay with
  | none =>
      rcases passed_visit replay label s with ⟨none_left, line⟩ | ⟨stop, some_left⟩
      · simp [bound, none_left, line]
      · simp [bound, some_left]
  | some replay' =>
      obtain ⟨same, -, -⟩ := visit_replaying (c := c) (by rw [replay]; rfl) label s
      simp [bound, same, replay]

theorem bound_goOn (c : Cursor) {replay : Replay} (h : c.replay = some replay) :
    (c.goOn replay).2.bound = replay.home + 1 := by
  rw [goOn]
  split
  · split
    · simp [bound, h]
    · rfl
  · rfl

/-- Looking at a line is no visit. -/
theorem visit_not_mem_lookWhere (c : Cursor) (label : Label) (s : Statement) (index : Nat) :
    .visit index ∉ (c.lookWhere label s).1 := by
  have silent {cues : List Cue} (silent : cues.all Cue.isSilent = true) : .visit index ∉ cues := by
    intro visit
    cases List.all_eq_true.mp silent _ visit
  rw [lookWhere]
  split
  · exact List.not_mem_nil
  rw [look]
  split
  · simp
  split
  · by_cases hs : s.kind.isExecutable = true
    · rw [read_executable _ hs, execute, extras]
      split <;> simp
    · exact silent (silent_read _ s (Bool.eq_false_iff.mpr hs))
  · exact List.not_mem_nil

end Cursor

/-- The header that a cue comes to, if it comes to one. -/
def Cue.header? (script : List Statement) : Cue → Option Nat
  | visit index => if script[index]?.any (·.isHeader) then some index else none
  | _ => none

/-- The headers that cues come to, in the order of the visits. -/
def Cue.headers (script : List Statement) (cues : List Cue) : List Nat :=
  cues.filterMap (Cue.header? script)

namespace Walk

open Cursor

variable {label : Label} {script : List Statement} {c last : Cursor} {s : Statement}
  {cues : List Cue}

theorem headers_of_no_visit (none_visited : ∀ index, Cue.visit index ∉ cues) :
    Cue.headers script cues = [] := by
  apply List.filterMap_eq_nil_iff.mpr
  intro cue hcue
  cases cue with
  | visit index => exact absurd hcue (none_visited index)
  | write | attempt | flaw | tell => rfl

theorem headers_of_silent (silent : cues.all Cue.isSilent = true) :
    Cue.headers script cues = [] := by
  apply headers_of_no_visit
  intro index visit
  cases List.all_eq_true.mp silent _ visit

theorem headers_visit (script : List Statement) (c : Cursor) (label : Label) (s : Statement) :
    Cue.headers script (c.visit label s).1 = (Cue.header? script (.visit c.line)).toList := by
  have closed : Cue.headers script (c.closeBefore s).1 = [] :=
    headers_of_silent (silent_closeBefore c s)
  have looked : Cue.headers script ((c.closeBefore s).2.lookWhere label s).1 = [] :=
    headers_of_no_visit (visit_not_mem_lookWhere _ label s)
  simp only [Cue.headers] at closed looked ⊢
  rw [visit, List.cons_append, List.filterMap_cons, List.filterMap_append, closed, looked]
  cases Cue.header? script (.visit c.line) <;> rfl

/-- Each step keeps that the last header visited is the last one above the bound. -/
theorem Reached.headers {next : Cursor} (reached : Reached label script c)
    (step : c.next? label script = some (cues, next)) :
    (Cue.headers script cues).getLast?.or (Layout.header? script c.bound) =
      Layout.header? script next.bound := by
  cases reached with
  | outside le =>
      rename_i index
      have line := standing_line le
      have replay := standing_replay le
      rw [next?, replay, line] at step
      obtain ⟨s, hs, hvisit⟩ := Option.map_eq_some_iff.mp step
      have headers := headers_visit script (standing script index) label s
      have below := bound_visit (standing script index) label s
      have above : (standing script index).bound = index := by simp only [bound, replay, line]
      rw [hvisit, line] at headers below
      rw [replay, Option.isNone_none, if_pos rfl] at below
      rw [headers, Cue.header?, hs, Option.any_some, above, below, Layout.header?_succ hs]
      by_cases header : s.isHeader = true <;> simp [header]
  | inside header eligible replays lower upper =>
      rename_i home line s block rows
      rcases Nat.eq_or_lt_of_le upper with stop | inside
      · have silent := silent_goOn (replaying script home s block rows line)
          { home, stop := (Layout.range script block home).stop }
        have same := bound_goOn (replaying script home s block rows line) rfl
        rw [next?_of_stop label script rfl stop] at step
        rw [Option.some.inj step] at silent same
        rw [headers_of_silent silent, same]
        rfl
      · obtain ⟨t, ht, no_end⟩ := Layout.getElem?_of_range lower inside
        rw [endsBlock, Bool.or_eq_false_iff] at no_end
        have headers := headers_visit script (replaying script home s block rows line) label t
        have same := bound_visit (replaying script home s block rows line) label t
        rw [next?_of_inside label rfl (Nat.ne_of_lt inside) ht] at step
        rw [Option.some.inj step] at headers same
        have none_visited : Cue.header? script (.visit line) = none := by
          simp [Cue.header?, ht, no_end.1]
        change Cue.headers script cues = (Cue.header? script (.visit line)).toList at headers
        rw [headers, none_visited, same]
        rfl

/-- The last header that a walk has visited is the last one above the bound. In a replay this is
the header that has started it. -/
theorem Reached.headers_steps (reached : Reached label script c)
    (steps : Steps label script c cues last) :
    (Cue.headers script cues).getLast?.or (Layout.header? script c.bound) =
      Layout.header? script last.bound := by
  induction steps with
  | refl c => rfl
  | step first _ ih =>
      rw [← ih (reached.next first), ← reached.headers first, Cue.headers, List.filterMap_append,
        List.getLast?_append, Option.or_assoc]
      rfl

end Walk

end Storyline

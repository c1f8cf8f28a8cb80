import Mathlib.Algebra.Ring.Parity
import Storyline.Proofs.Demands
import Storyline.Proofs.Gathering

/-!
# Where a line belongs

A script holds each line of its source once and in its place (`Script.parse_keeps_lines`). A line
is attached to a statement, or it is the first line of a statement of its own. Which of the two it
is depends on two things above it (`Script.isRuled_gather`): whether the number of delimiters is
odd, and what the nearest statement is. The gatherer knows both: it holds a statement *inside* as
long as a doc-string is open, and between doc-strings it holds the nearest statement *open* if that
one takes tables and doc-strings (`Hold.Upholds`).
-/

namespace Storyline

variable {σ : Type}

/-! ## What the gatherer holds -/

/-- Whether a doc-string is open behind these lines: the number of delimiters among them is odd. -/
def Script.IsInside (before : List Line) : Prop := Odd (before.countP (·.kind = .docString))

namespace Hold

/-- Takes lines one after the other: the statements that are complete then, and what is held. -/
def takeAll : Hold → List Line → List Statement × Hold
  | hold, [] => ([], hold)
  | hold, line :: rest =>
      ((hold.take line).1 ++ ((hold.take line).2.takeAll rest).1,
        ((hold.take line).2.takeAll rest).2)

/-- What a gatherer knows of the lines that it has taken: `done` are the complete statements. -/
structure Upholds (hold : Hold) (done : List Statement) (before : List Line) : Prop where
  /-- No line is lost. -/
  lines : (done ++ hold.released).flatMap Statement.lines = before
  /-- A statement is held inside exactly while a doc-string is open. -/
  inside : (∃ s, hold = inside s) ↔ Script.IsInside before
  /-- A statement is held open if it takes tables and doc-strings. -/
  rightful : hold.IsRightful
  /-- If nothing is held, the last statement takes none. -/
  closed : hold = nothing → ∀ s, done.getLast? = some s → s.kind.takesExtras = false

variable {hold : Hold} {done : List Statement} {before : List Line}

theorem isInside_append (before : List Line) (line : Line) :
    Script.IsInside (before ++ [line]) ↔ (Script.IsInside before ↔ line.kind ≠ .docString) := by
  rw [Script.IsInside, Script.IsInside, List.countP_append, List.countP_singleton]
  by_cases delimiter : line.kind = .docString
  · simp [delimiter, Nat.odd_add_one]
  · simp [delimiter]

/-- A delimiter opens a doc-string or closes the one that is open. -/
theorem inside_take (hold : Hold) (line : Line) :
    (∃ s, (hold.take line).2 = inside s) ↔ ((∃ s, hold = inside s) ↔ line.kind ≠ .docString) := by
  have start_inside : (∃ s, (start line).2 = inside s) ↔ line.kind = .docString := by
    rw [start]
    split
    · simp [*]
    · split <;> simp [*]
  cases hold with
  | nothing => simp [take, start_inside]
  | openTo s =>
      rw [take]
      split
      · simp [*]
      split
      · simp [*]
      · simp [start_inside]
  | inside s =>
      rw [take]
      split
      · simp [*]
      split <;> simp_all

/-- If nothing is held any more, the statement released last takes no tables. -/
theorem closed_take (rightful : hold.IsRightful) (line : Line)
    (nothing_held : (hold.take line).2 = nothing) :
    ∃ s, (hold.take line).1.getLast? = some s ∧ s.kind.takesExtras = false := by
  have closed_start (released : (start line).2 = nothing) :
      (start line).1 = [.ofLine line] ∧ line.kind.takesExtras = false := by
    rw [start] at released ⊢
    split at released
    · cases released
    split at released
    · cases released
    · rename_i other closed
      rw [if_neg other, if_neg closed]
      exact ⟨rfl, Bool.eq_false_iff.mpr closed⟩
  cases hold with
  | nothing =>
      obtain ⟨begun, closed⟩ := closed_start nothing_held
      exact ⟨.ofLine line, by rw [take, begun]; rfl, closed⟩
  | openTo s =>
      rw [take] at nothing_held ⊢
      split at nothing_held
      · cases nothing_held
      split at nothing_held
      · cases nothing_held
      · rename_i other no_table
        obtain ⟨begun, closed⟩ := closed_start nothing_held
        rw [if_neg other, if_neg no_table, begun]
        exact ⟨.ofLine line, rfl, closed⟩
  | inside s =>
      rw [take] at nothing_held ⊢
      split at nothing_held
      · cases nothing_held
      split at nothing_held
      · rename_i closes alone
        rw [if_neg closes, if_pos alone]
        refine ⟨s.attach line, rfl, ?_⟩
        rw [Statement.kind_attach, alone]
        rfl
      · cases nothing_held

theorem upholds_nil : nothing.Upholds [] [] where
  lines := rfl
  inside := by simp [Script.IsInside]
  rightful := trivial
  closed _ s last := by cases last

/-- What a gatherer knows it still knows after the next line. -/
theorem Upholds.take (upholds : hold.Upholds done before) (line : Line) :
    (hold.take line).2.Upholds (done ++ (hold.take line).1) (before ++ [line]) where
  lines := by
    rw [← upholds.lines, List.append_assoc, List.flatMap_append, List.flatMap_append,
      Script.flatMap_lines_take, List.flatMap_append, List.append_assoc]
  inside := by rw [inside_take, upholds.inside, isInside_append]
  rightful := (isRightful_take upholds.rightful line).1
  closed nothing_held s last := by
    obtain ⟨t, released, closed⟩ := closed_take upholds.rightful line nothing_held
    rw [List.getLast?_append, released] at last
    cases last
    exact closed

theorem Upholds.takeAll (upholds : hold.Upholds done before) (lines : List Line) :
    (hold.takeAll lines).2.Upholds (done ++ (hold.takeAll lines).1) (before ++ lines) := by
  induction lines generalizing hold done before with
  | nil => simpa [Hold.takeAll] using upholds
  | cons line lines ih =>
      have rest := ih (upholds.take line)
      simpa [Hold.takeAll] using rest

end Hold

namespace Script

/-! ## The lines of a script -/

theorem readLines_eq_mapIdx (v : Vocabulary) (number : Nat) (texts : List String) :
    readLines v number texts =
      texts.mapIdx fun index text => Line.read v (number + index) text := by
  induction texts generalizing number with
  | nil => rfl
  | cons text texts ih =>
      rw [readLines, ih, List.mapIdx_cons]
      simp only [Nat.add_zero, Nat.add_assoc, Nat.add_comm 1]

/-- The lines of a source are read one by one, and numbered from one on. -/
theorem sourceLines_eq_mapIdx (v : Vocabulary) (source : String) :
    sourceLines v source = (Text.lines source.toList).mapIdx fun index text =>
      Line.read v (index + 1) (String.ofList text) := by
  rw [sourceLines, readLines_eq_mapIdx]
  apply List.ext_getElem
  · simp
  · intro index _ _
    simp [Nat.add_comm 1]

/-- A script holds the lines of its source, each once and in their order, and attached are only
lines of steps, checks, examples and doc-strings that stand alone. Attached lines are mere lines, so
nothing is attached to them. -/
theorem parse_keeps_lines (v : Vocabulary) (source : String) :
    (parse v source).flatMap Statement.lines =
        (Text.lines source.toList).mapIdx (fun index text =>
          Line.read v (index + 1) (String.ofList text)) ∧
      ((parse v source).flatMap Statement.lines).map Line.number =
        List.range' 1 (Text.lines source.toList).length ∧
      ∀ s ∈ parse v source, s.extras ≠ [] →
        s.kind = .step ∨ s.kind = .ask ∨ s.kind = .examples ∨ s.kind = .docString := by
  have kept : (parse v source).flatMap Statement.lines = sourceLines v source :=
    flatMap_lines_gather .nothing (sourceLines v source)
  rw [kept, sourceLines_eq_mapIdx]
  refine ⟨rfl, ?_, ?_⟩
  · apply List.ext_getElem
    · simp
    · intro index _ _
      simp [Nat.add_comm 1]
  · intro s hs attached
    have may := (extras_of_mem_parse v source s hs).resolve_right attached
    revert may
    cases s.kind <;> simp [Keyword.mayHold, Keyword.takesExtras, Keyword.isExecutable]

/-! ## Places -/

/-- The index that the first line of a statement has among all lines of its script. -/
def place (script : List Statement) (n : Nat) : Nat :=
  ((script.take n).flatMap Statement.lines).length

/-- Whether the line with this index is the first line of the statement with index `n`. -/
def Begins (script : List Statement) (n index : Nat) (line : Line) : Prop :=
  ∃ s, script[n]? = some s ∧ s.toLine = line ∧ place script n = index

/-- Whether the line with this index is attached to the statement with index `n`. -/
def Attaches (script : List Statement) (n index : Nat) (line : Line) : Prop :=
  ∃ s k, script[n]? = some s ∧ s.extras[k]? = some line ∧ place script n + (k + 1) = index

/-- Whether the statement with index `n` is the nearest one that begins above the line with this
index. -/
structure IsNearest (script : List Statement) (n index : Nat) : Prop where
  inside : n < script.length
  above : place script n < index
  nearest : ∀ m, m < script.length → place script m < index → m ≤ n

variable {script above rest : List Statement} {s : Statement} {line : Line} {m n index : Nat}

theorem place_succ (here : script[n]? = some s) :
    place script (n + 1) = place script n + (s.extras.length + 1) := by
  have lines : s.lines.length = s.extras.length + 1 := rfl
  rw [place, List.take_add_one, here, List.flatMap_append, List.length_append, ← lines]
  simp [place]

theorem place_le (below : m ≤ n) : place script m ≤ place script n := by
  have part : script.take m <+: script.take n := List.take_prefix_take_left below
  exact (part.flatMap Statement.lines).length_le

theorem place_append (above rest : List Statement) :
    place (above ++ rest) above.length = (above.flatMap Statement.lines).length := by
  rw [place, List.take_left]

theorem getElem?_of_split (above : List Statement) (s : Statement) (below : List Statement) :
    (above ++ s :: below)[above.length]? = some s := by
  rw [List.getElem?_append_right (Nat.le_refl _), Nat.sub_self, List.getElem?_cons_zero]

theorem IsNearest.unique (first : IsNearest script m index) (second : IsNearest script n index) :
    m = n :=
  Nat.le_antisymm (second.nearest m first.inside first.above)
    (first.nearest n second.inside second.above)

/-- Attached lines stand between the first lines of two statements. -/
theorem Attaches.between (attached : Attaches script n index line) :
    n < script.length ∧ place script n < index ∧ index < place script (n + 1) := by
  obtain ⟨s, k, here, extra, rfl⟩ := attached
  have inside := (List.getElem?_eq_some_iff.mp here).1
  have attached := (List.getElem?_eq_some_iff.mp extra).1
  have next := place_succ here
  omega

/-- A line is attached to the nearest statement above it. -/
theorem Attaches.isNearest (attached : Attaches script n index line) :
    IsNearest script n index := by
  obtain ⟨inside, above, below⟩ := attached.between
  refine ⟨inside, above, ?_⟩
  intro m _ above'
  by_contra later
  have beyond : place script (n + 1) ≤ place script m := place_le (by omega)
  omega

/-- The nearest statement above the first line of a statement is the one before. -/
theorem Begins.isNearest_iff (begins : Begins script n index line) :
    IsNearest script m index ↔ m + 1 = n := by
  obtain ⟨s, here, -, rfl⟩ := begins
  have inside := (List.getElem?_eq_some_iff.mp here).1
  have before (j : Nat) (hj : j < script.length) (lower : place script j < place script n) :
      j + 1 ≤ n := by
    by_contra later
    have beyond : place script n ≤ place script j := place_le (by omega)
    omega
  constructor
  · intro nearest
    have lower := before m nearest.inside nearest.above
    have previous := place_succ (List.getElem?_eq_getElem (show n - 1 < script.length by omega))
    rw [Nat.sub_add_cancel (by omega)] at previous
    have reached := nearest.nearest (n - 1) (by omega) (by omega)
    omega
  · rintro rfl
    have previous := place_succ (List.getElem?_eq_getElem (show m < script.length by omega))
    refine ⟨by omega, by omega, ?_⟩
    intro j hj lower
    have bound := before j hj lower
    omega

theorem Begins.not_attaches (begins : Begins script n index line) {other : Line} :
    ¬ Attaches script m index other := by
  intro attached
  obtain ⟨inside, above, below⟩ := attached.between
  have previous := begins.isNearest_iff.mp attached.isNearest
  obtain ⟨s, -, -, place_eq⟩ := begins
  rw [previous] at below
  omega

/-! ## Gathering line by line -/

theorem gather_append (hold : Hold) (before after : List Line) :
    gather hold (before ++ after) =
      (hold.takeAll before).1 ++ gather (hold.takeAll before).2 after := by
  induction before generalizing hold with
  | nil => rfl
  | cons line before ih => rw [List.cons_append, gather, ih, Hold.takeAll, List.append_assoc]

/-- A held statement is the next one of the script, with what else is attached to it. -/
theorem gather_held {hold : Hold} (held : hold.released = [s]) (lines : List Line) :
    ∃ t more, gather hold lines = t :: more ∧ t.toLine = s.toLine ∧ s.extras <+: t.extras := by
  induction lines generalizing hold s with
  | nil => exact ⟨s, [], held, rfl, List.prefix_refl _⟩
  | cons line lines ih =>
      have longer {hold : Hold} (held : hold.released = [s.attach line]) :
          ∃ t more, gather hold lines = t :: more ∧ t.toLine = s.toLine ∧
            s.extras <+: t.extras := by
        obtain ⟨t, more, gathered, same, extended⟩ := ih held
        exact ⟨t, more, gathered, same, (List.prefix_append _ _).trans extended⟩
      rw [gather]
      cases hold with
      | nothing => cases held
      | openTo held' =>
          cases held
          rw [Hold.take]
          split
          · exact longer rfl
          split
          · exact longer rfl
          · exact ⟨s, _, rfl, rfl, List.prefix_refl _⟩
      | inside held' =>
          cases held
          rw [Hold.take]
          split
          · exact longer rfl
          split
          · exact ⟨s.attach line, _, rfl, rfl, List.prefix_append _ _⟩
          · exact longer rfl

/-- A line that is attached to nothing begins the next statement of the script. -/
theorem gather_start (line : Line) (lines : List Line) :
    ∃ t more, (Hold.start line).1 ++ gather (Hold.start line).2 lines = t :: more ∧
      t.toLine = line := by
  rw [Hold.start]
  split
  · obtain ⟨t, more, gathered, same, -⟩ :=
      gather_held (Hold.released_inside (.ofLine line)) lines
    exact ⟨t, more, gathered, same⟩
  split
  · obtain ⟨t, more, gathered, same, -⟩ :=
      gather_held (Hold.released_openTo (.ofLine line)) lines
    exact ⟨t, more, gathered, same⟩
  · exact ⟨.ofLine line, _, rfl, rfl⟩

/-! ## What is decided about a line -/

theorem begins_of_split (above : List Statement) (s : Statement) (below : List Statement) :
    Begins (above ++ s :: below) above.length (above.flatMap Statement.lines).length s.toLine :=
  ⟨s, getElem?_of_split above s below, rfl, place_append above _⟩

theorem attaches_of_split (above below : List Statement) {held : Statement}
    (extended : (held.attach line).extras <+: s.extras) :
    Attaches (above ++ s :: below) above.length
      ((above ++ [held]).flatMap Statement.lines).length line := by
  obtain ⟨later, extras⟩ := extended
  refine ⟨s, held.extras.length, getElem?_of_split above s below, ?_, ?_⟩
  · rw [← extras, Statement.extras_attach, List.append_assoc,
      List.getElem?_append_right (Nat.le_refl _), Nat.sub_self]
    rfl
  · rw [place_append, List.flatMap_append, List.length_append]
    simp [Statement.lines]

/-- What is decided about a line by the lines above it. -/
inductive Decided (script : List Statement) (before : List Line) (line : Line) : Prop
  /-- It is attached, inside of a doc-string. -/
  | inside (n : Nat) (attaches : Attaches script n before.length line)
      (inside : IsInside before)
  /-- It is attached to a statement that takes it. -/
  | taken (n : Nat) (s : Statement) (attaches : Attaches script n before.length line)
      (here : script[n]? = some s) (outside : ¬ IsInside before)
      (extra : line.kind = .docString ∨ line.kind = .dataTable) (takes : s.kind.takesExtras = true)
  /-- It begins a statement, since it is neither a delimiter nor a table line, or since the
  statement before takes neither. -/
  | begun (n : Nat) (begins : Begins script n before.length line) (outside : ¬ IsInside before)
      (closed : line.kind = .docString ∨ line.kind = .dataTable →
        ∀ m s, m + 1 = n → script[m]? = some s → s.kind.takesExtras = false)

section Gathered

variable {hold : Hold} {done : List Statement} {before : List Line} {held : Statement}

theorem decided_nothing (upholds : Hold.nothing.Upholds done before) (line : Line)
    (after : List Line) : Decided (done ++ gather .nothing (line :: after)) before line := by
  have outside : ¬ IsInside before := by simp [← upholds.inside]
  have lines := upholds.lines
  rw [Hold.released_nothing, List.append_nil] at lines
  obtain ⟨t, more, started, rfl⟩ := gather_start line after
  rw [gather, Hold.take, started]
  have begins := begins_of_split done t more
  rw [lines] at begins
  refine .begun done.length begins outside ?_
  rintro - m s last here
  apply upholds.closed rfl
  rw [List.getElem?_append_left (by omega)] at here
  rw [List.getLast?_eq_getElem?, ← last, Nat.add_sub_cancel, here]

theorem decided_openTo (upholds : (Hold.openTo held).Upholds done before) (line : Line)
    (after : List Line) : Decided (done ++ gather (.openTo held) (line :: after)) before line := by
  have outside : ¬ IsInside before := by simp [← upholds.inside]
  have lines := upholds.lines
  rw [Hold.released_openTo] at lines
  by_cases extra : line.kind = .docString ∨ line.kind = .dataTable
  · -- The statement is held on, with the line attached to it.
    have kept : ∃ hold : Hold, hold.released = [held.attach line] ∧
        (Hold.openTo held).take line = ([], hold) := by
      rw [Hold.take]
      by_cases opens : line.kind = .docString
      · exact ⟨_, rfl, if_pos opens⟩
      · rw [if_neg opens, if_pos (extra.resolve_left opens)]
        exact ⟨_, rfl, rfl⟩
    obtain ⟨hold, holds, taken⟩ := kept
    obtain ⟨t, more, gathered, same, extended⟩ := gather_held holds after
    rw [gather, taken, List.nil_append, gathered]
    have attaches := attaches_of_split done more extended
    rw [lines] at attaches
    have here : (done ++ t :: more)[done.length]? = some t := by simp
    refine .taken done.length t attaches here outside extra ?_
    have takes : held.kind.takesExtras = true := upholds.rightful
    rw [← takes, ← Statement.kind_attach held line]
    exact congrArg (fun line : Line => line.kind.takesExtras) same
  · -- The statement is complete, and the line begins the next one.
    obtain ⟨t, more, started, rfl⟩ := gather_start line after
    have released : (Hold.openTo held).take t.toLine =
        (held :: (Hold.start t.toLine).1, (Hold.start t.toLine).2) := by
      rw [not_or] at extra
      rw [Hold.take, if_neg extra.1, if_neg extra.2]
    rw [gather, released, List.cons_append, started, List.append_cons]
    have begins := begins_of_split (done ++ [held]) t more
    rw [lines] at begins
    exact .begun _ begins outside fun again => absurd again extra

theorem decided_inside (upholds : (Hold.inside held).Upholds done before) (line : Line)
    (after : List Line) : Decided (done ++ gather (.inside held) (line :: after)) before line := by
  have inside : IsInside before := upholds.inside.mp ⟨held, rfl⟩
  have lines := upholds.lines
  rw [Hold.released_inside] at lines
  have attached : ∃ t more, gather (.inside held) (line :: after) = t :: more ∧
      (held.attach line).extras <+: t.extras := by
    rw [gather, Hold.take]
    split
    · obtain ⟨t, more, gathered, -, extended⟩ :=
        gather_held (Hold.released_inside (held.attach line)) after
      exact ⟨t, more, gathered, extended⟩
    split
    · exact ⟨held.attach line, _, rfl, List.prefix_refl _⟩
    · obtain ⟨t, more, gathered, -, extended⟩ :=
        gather_held (Hold.released_openTo (held.attach line)) after
      exact ⟨t, more, gathered, extended⟩
  obtain ⟨t, more, gathered, extended⟩ := attached
  have attaches := attaches_of_split done more extended
  rw [lines] at attaches
  rw [gathered]
  exact .inside done.length attaches inside

/-- The lines above a line decide about it. -/
theorem decided_gather (before : List Line) (line : Line) (after : List Line) :
    Decided (gather .nothing (before ++ line :: after)) before line := by
  have upholds := Hold.upholds_nil.takeAll before
  rw [gather_append]
  rw [List.nil_append, List.nil_append] at upholds
  cases held : (Hold.nothing.takeAll before).2 with
  | nothing =>
      rw [held] at upholds
      exact decided_nothing upholds line after
  | openTo s =>
      rw [held] at upholds
      exact decided_openTo upholds line after
  | inside s =>
      rw [held] at upholds
      exact decided_inside upholds line after

end Gathered

end Script

/-! ## Lines that hang -/

/-- A run that has come to its end has reported the flaw of each line that the label lets
through. -/
theorem Interpreter.flaw_mem_faults {i : Interpreter σ} {label : Label} {mode : Mode} {host : σ}
    {script : List Statement} {n : Nat} {f : Flaw}
    (finished : (i.runScript label mode host script).finished = true)
    (flawed : Layout.flaw? script label n = some f) :
    .flaw f ∈ (i.runScript label mode host script).log.faults := by
  have inside : n < script.length := by
    by_contra outside
    simp [Layout.flaw?, List.getElem?_eq_none (Nat.le_of_not_lt outside)] at flawed
  have asked : .flaw f ∈ (Walk.cues label script).filterMap Cue.demand? := by
    rw [Walk.demands_cues, Itinerary.demands, List.mem_flatMap]
    refine ⟨n, List.mem_range.mpr inside, ?_⟩
    rw [Itinerary.demandsAt, flawed]
    exact List.mem_cons_self
  obtain ⟨cue, hcue, demand⟩ := List.mem_filterMap.mp asked
  cases cue with
  | visit | write | attempt | tell => cases demand
  | flaw indent f' =>
      cases demand
      have marked : .flaw indent f ∈ (i.runScript label mode host script).log.marks := by
        rw [marks_runScript finished]
        exact List.mem_filterMap.mpr ⟨_, hcue, rfl⟩
      obtain ⟨event, hevent, mark⟩ := List.mem_filterMap.mp marked
      rw [Log.faults_eq_filterMap]
      refine List.mem_filterMap.mpr ⟨event, hevent, ?_⟩
      cases event with
      | wrote entry =>
          cases entry with
          | fault indent' fault => cases fault <;> cases mark; rfl
          | header | step | raw | note => cases mark
      | visited | called | asked | pending | told => cases mark

/-- Whether each run that comes to its end, and whose label lets a line through, reports a flaw of
the line. -/
def Script.Reports (script : List Statement) (n : Nat) (f : Flaw) : Prop :=
  ∀ {σ : Type} (i : Interpreter σ) (label : Label) (mode : Mode) (host : σ),
    (i.runScript label mode host script).finished = true →
      Layout.eligible script label n = true →
        .flaw f ∈ (i.runScript label mode host script).log.faults

namespace Script

/-- Whether the rule of attachment holds of a line with these lines above it. -/
structure IsRuled (script : List Statement) (before : List Line) (line : Line) : Prop where
  /-- Attached is what stands inside of a doc-string, and the delimiters and table lines below a
  step, a check or examples. -/
  attaches : (∃ n, Attaches script n before.length line) ↔
    IsInside before ∨
      ¬ IsInside before ∧ (line.kind = .docString ∨ line.kind = .dataTable) ∧
        ∃ n s, IsNearest script n before.length ∧ script[n]? = some s ∧
          (s.kind = .step ∨ s.kind = .ask ∨ s.kind = .examples)
  /-- It is attached to the nearest statement above. -/
  nearest : ∀ n, Attaches script n before.length line → IsNearest script n before.length
  /-- All other lines begin statements. -/
  begins : (∃ n, Begins script n before.length line) ↔
    ¬ ∃ n, Attaches script n before.length line
  /-- Outside of doc-strings a delimiter or a table line begins a statement if there is no
  statement above, or if the nearest one takes neither. -/
  hangs : ¬ IsInside before → line.kind = .docString ∨ line.kind = .dataTable →
    ((∃ n, Begins script n before.length line) ↔
      ∀ n s, IsNearest script n before.length → script[n]? = some s →
        s.kind ≠ .step ∧ s.kind ≠ .ask ∧ s.kind ≠ .examples)
  /-- Such a line is reported. -/
  reported : ∀ n, Begins script n before.length line →
    (line.kind = .docString → Reports script n .hangingDocString) ∧
      (line.kind = .dataTable → Reports script n .hangingTable)

theorem takesExtras_iff {kind : Keyword} :
    kind.takesExtras = true ↔ kind = .step ∨ kind = .ask ∨ kind = .examples := by
  cases kind <;> simp [Keyword.takesExtras, Keyword.isExecutable]

/-- Where a line belongs is decided by the number of delimiters above it and by the nearest
statement above it. -/
theorem isRuled_gather (before : List Line) (line : Line) (after : List Line) :
    IsRuled (gather .nothing (before ++ line :: after)) before line := by
  have decided := decided_gather before line after
  generalize gather .nothing (before ++ line :: after) = script at decided
  have attaches : (∃ n, Attaches script n before.length line) ↔
      IsInside before ∨
        ¬ IsInside before ∧ (line.kind = .docString ∨ line.kind = .dataTable) ∧
          ∃ n s, IsNearest script n before.length ∧ script[n]? = some s ∧
            (s.kind = .step ∨ s.kind = .ask ∨ s.kind = .examples) := by
    cases decided with
    | inside n attaches inside => exact ⟨fun _ => .inl inside, fun _ => ⟨n, attaches⟩⟩
    | taken n s attaches here outside extra takes =>
        refine ⟨fun _ => .inr ⟨outside, extra, n, s, attaches.isNearest, here, ?_⟩,
          fun _ => ⟨n, attaches⟩⟩
        exact takesExtras_iff.mp takes
    | begun n begins outside closed =>
        constructor
        · rintro ⟨m, attaches⟩
          exact absurd attaches begins.not_attaches
        · rintro (inside | ⟨-, extra, m, s, nearest, here, takes⟩)
          · exact absurd inside outside
          · have closed := closed extra m s (begins.isNearest_iff.mp nearest) here
            rw [takesExtras_iff.mpr takes] at closed
            cases closed
  have begins : (∃ n, Begins script n before.length line) ↔
      ¬ ∃ n, Attaches script n before.length line := by
    constructor
    · rintro ⟨n, begins⟩ ⟨m, attaches⟩
      exact begins.not_attaches attaches
    · intro alone
      cases decided with
      | inside n attaches | taken n s attaches => exact absurd ⟨n, attaches⟩ alone
      | begun n begins => exact ⟨n, begins⟩
  refine ⟨attaches, fun n attached => attached.isNearest, begins, ?_, ?_⟩
  · intro outside extra
    rw [begins, attaches]
    simp only [outside, extra, not_false_eq_true, true_and, false_or, not_exists, not_and, not_or]
  · rintro n ⟨s, here, rfl, -⟩
    have flawed {f : Flaw} (flaw : ∀ label, Layout.eligible script label n = true →
        Layout.flaw? script label n = some f) : Reports script n f :=
      fun i label mode host finished eligible =>
        i.flaw_mem_faults finished (flaw label eligible)
    constructor
    · intro kind
      apply flawed
      intro label eligible
      simp [Layout.flaw?, here, eligible, kind]
    · intro kind
      apply flawed
      intro label eligible
      simp [Layout.flaw?, here, eligible, kind]

/-- Below a closed doc-string a step still takes a table; a blank line ends this. -/
example : (parse .english "Given a\n\"\"\"\nb\n\"\"\"\n| c |\n\n| d |\n").map
    (·.extras.length) = [4, 0, 0] := by
  decide +kernel

end Script

end Storyline

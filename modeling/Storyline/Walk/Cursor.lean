import Storyline.Label
import Storyline.Rows
import Storyline.Walk.Cue
import Storyline.Walk.Tags

/-!
# Walking through a script

A single cursor walks through the flat list of statements. The lines of a background and
of a scenario outline are not carried out where they stand. Only the range of indices is
recorded; the cursor is moved into the range to *replay* it, and comes back when it
reaches the end of the range:

* a scenario replays the background before its own lines;
* examples replay the outline once for each row below the header row of their table.

While a range is replayed only executable lines are looked at. A replay comes back to the
line after the header that started it, so the cursor passes each line once outside of
replays; inside a replay it moves on towards the end of the script, or the next row is
picked out. `Cursor.measure` counts these three, and the walk ends (`walk`).
-/

namespace Storyline

/-- The kind of block that the cursor is in. -/
inductive Block where
  /-- Below the header of a feature or of a rule, or below no header at all. -/
  | feature
  /-- In a scenario, or in the background that goes before its lines. -/
  | scenario
  /-- In the lines of a background, which are recorded. -/
  | background
  /-- In the lines of a scenario outline, which are recorded. -/
  | outline
  /-- In the outline that is replayed for a row of examples. -/
  | examples
  deriving DecidableEq, Inhabited

/-- A range of statement indices. -/
structure Range where
  /-- The first index. -/
  start : Nat := 0
  /-- The number of indices. -/
  length : Nat := 0
  deriving DecidableEq, Inhabited

/-- The first index behind the range. -/
def Range.stop (range : Range) : Nat := range.start + range.length

/-- A replay in progress. -/
structure Replay where
  /-- The index of the header that started the replay. -/
  home : Nat
  /-- The first index behind the replayed range. -/
  stop : Nat
  deriving DecidableEq, Inhabited

/-- A position in a script, and all that is remembered of the way to it. -/
structure Cursor where
  /-- The index of the next statement. -/
  line : Nat := 0
  /-- The replay that the cursor is in. -/
  replay : Option Replay := none
  /-- The kind of block that the cursor is in. -/
  block : Block := .feature
  /-- The range of the background in force. -/
  background : Range := {}
  /-- The range of the scenario outline in force. -/
  outline : Range := {}
  /-- The block that is being recorded. -/
  recording : Option Recorded := none
  /-- The tags in force. -/
  tags : Tags := {}
  /-- The examples that are being replayed, at the row in turn. -/
  rows : Option Rows := none
  deriving DecidableEq, Inhabited

namespace Cursor

/-- The range of a recorded block. -/
def range (c : Cursor) : Recorded → Range
  | .background => c.background
  | .outline => c.outline

/-- Sets the range of a recorded block. -/
def setRange (c : Cursor) (block : Recorded) (range : Range) : Cursor :=
  match block with
  | .background => { c with background := range }
  | .outline => { c with outline := range }

/-- Ends the block that is being recorded, in front of the current line. -/
def close (c : Cursor) : List Cue × Cursor :=
  match c.recording with
  | none => ([], c)
  | some block =>
      let start := (c.range block).start
      let length := c.line - start
      ([.tell (.rangeClosed block start length)],
        { c.setRange block { start, length } with recording := none })

/-- Moves on to the next line. -/
def advance (c : Cursor) : Cursor := { c with line := c.line + 1 }

/-- Moves into a range, to replay it. -/
def enter (c : Cursor) (range : Range) : Cursor :=
  { c with line := range.start, replay := some { home := c.line, stop := range.stop } }

/-- Leaves a block of examples for good. -/
def leaveExamples (c : Cursor) : Cursor := { c with block := .feature, rows := none }

/-- What is told and written when the row picked out comes to its turn. -/
def announce (rows : Rows) : List Cue :=
  .tell (.replayingOutline rows.current) ::
    (rows.line?.map fun line => .write (.raw line.text .plain)).toList

/-- Goes on behind the end of a replay: with the next row of examples, or behind the
header that started the replay. -/
def goOn (c : Cursor) (replay : Replay) : List Cue × Cursor :=
  match c.rows with
  | some rows =>
      match rows.next? with
      | some next => (announce next, { c with rows := some next, line := c.outline.start })
      | none => ([], { c.leaveExamples with line := replay.home + 1, replay := none })
  | none => ([], { c with line := replay.home + 1, replay := none })

/-- What a line changes about blocks, ranges and tags, before anything is done with it. -/
def scope (c : Cursor) (s : Statement) : Cursor :=
  let tags := c.tags.enter s.kind
  match s.kind with
  | .feature | .rule => { c with block := .feature, background := {}, outline := {}, tags }
  | .background =>
      { c with block := .background, recording := some .background, tags
               background := { start := c.line + 1 } }
  | .scenarioOutline =>
      { c with block := .outline, recording := some .outline, tags
               outline := { start := c.line + 1 } }
  | .scenario => { c with block := .scenario, tags }
  | .examples => { c with block := .examples, tags }
  | .tag => { c with tags := c.tags.collect s.body }
  | _ => c

/-- Whether the label lets the current block through. -/
def admitted (c : Cursor) (label : Label) : Bool := label.admits c.tags.inForce

/-- The attached lines of a statement, as they stand. -/
def extras (s : Statement) (tone : Tone) : List Cue :=
  s.extras.map fun line => .write (.raw line.text tone)

/-- A text with its placeholders filled from the row in turn, if there is one. -/
def fill (c : Cursor) (text : String) : String :=
  match c.rows with
  | some rows => rows.fill text
  | none => text

/-- A step or a check, with its placeholders filled in. -/
def attempt (c : Cursor) (s : Statement) : Attempt where
  statement := s
  text := c.fill s.body
  docString := s.docString.map c.fill
  table := s.table.map (·.mapCells c.fill)

/-- An executable line. It is carried out in a scenario and for a row of examples, and
only written down elsewhere. -/
def execute (c : Cursor) (s : Statement) : List Cue :=
  if c.block = .scenario ∨ c.block = .examples then
    .write (.step s.toLine (c.fill s.body)) ::
      (s.extras.map fun line => .write (.raw (c.fill line.text) .plain)) ++
      [.attempt (c.attempt s)]
  else
    .write (.raw s.text .dim) :: extras s .dim

/-- A table line or a doc-string that belongs to nothing. -/
def hanging (s : Statement) (flaw : Flaw) : List Cue :=
  .write (.raw s.text .plain) :: extras s .plain ++ [.flaw s.indent flaw]

/-- The header of a scenario: the background goes before the lines of the scenario. -/
def readScenario (c : Cursor) (s : Statement) : List Cue × Cursor :=
  if c.background.length = 0 then ([.write (.header s.toLine)], c.advance)
  else
    ([.write (.header s.toLine), .tell (.splicingBackground s.number)], c.enter c.background)

/-- The header of examples: the outline is replayed for the first row. -/
def readExamples (c : Cursor) (s : Statement) : List Cue × Cursor :=
  let refuse (flaw : Flaw) : List Cue × Cursor :=
    (.write (.header s.toLine) :: .flaw s.indent flaw :: extras s .plain,
      c.leaveExamples.advance)
  if c.outline.length = 0 then refuse .examplesWithoutOutline
  else
    match Rows.ofStatement? s with
    | none => refuse .examplesWithoutTable
    | some rows =>
        let names : List Cue := (rows.line?.map fun line => .write (.raw line.text .plain)).toList
        match rows.next? with
        | none => (.write (.header s.toLine) :: names, c.leaveExamples.advance)
        | some first =>
            (.write (.header s.toLine) :: names ++ announce first,
              { c with rows := some first }.enter c.outline)

/-- The tone of a line that says nothing to the walk. -/
def tone (c : Cursor) : Tone :=
  if c.block = .background ∨ c.block = .outline then .dim else .plain

/-- Reads a line that the label lets through, in its own scope. -/
def read (c : Cursor) (s : Statement) : List Cue × Cursor :=
  match s.kind with
  | .feature | .rule | .background | .scenarioOutline =>
      ([.write (.header s.toLine)], c.advance)
  | .scenario => c.readScenario s
  | .examples => c.readExamples s
  | .step | .ask => (c.execute s, c.advance)
  | .dataTable => (hanging s .hangingTable, c.advance)
  | .docString => (hanging s .hangingDocString, c.advance)
  | .comments => ([.write (.raw s.text .comment)], c.advance)
  | .tag | .unknown => ([.write (.raw s.text c.tone)], c.advance)

/-- Passes a line that the label does not let through. -/
def pass (c : Cursor) (s : Statement) : Cursor :=
  if s.kind = .examples then c.leaveExamples.advance else c.advance

/-- Looks at a line, in the block that it belongs to. Tag lines are written whatever the
label says, since they belong to the block below them. -/
def look (c : Cursor) (label : Label) (s : Statement) : List Cue × Cursor :=
  let c := c.scope s
  if s.kind = .tag then ([.write (.raw s.text .tag)], c.advance)
  else if c.admitted label then c.read s
  else ([], c.pass s)

/-- Ends the block that is being recorded in front of a header or a tag line. -/
def closeBefore (c : Cursor) (s : Statement) : List Cue × Cursor :=
  if s.isHeader || s.kind = .tag then c.close else ([], c)

/-- Looks at a line outside of replays, and inside of replays if it is executable. -/
def lookWhere (c : Cursor) (label : Label) (s : Statement) : List Cue × Cursor :=
  if c.replay.isSome && !s.kind.isExecutable then ([], c.advance) else c.look label s

/-- Visits a statement: the block that is being recorded may end, and then the line is
looked at. -/
def visit (c : Cursor) (label : Label) (s : Statement) : List Cue × Cursor :=
  let closed := c.closeBefore s
  let looked := closed.2.lookWhere label s
  (.visit c.line :: closed.1 ++ looked.1, looked.2)

/-- One step of the walk, or nothing when the script is at its end. -/
def next? (c : Cursor) (label : Label) (script : List Statement) : Option (List Cue × Cursor) :=
  match c.replay with
  | some replay =>
      if c.line = replay.stop then some (c.goOn replay)
      else script[c.line]?.map (c.visit label)
  | none => script[c.line]?.map (c.visit label)

end Cursor

end Storyline

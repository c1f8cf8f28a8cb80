import Storyline.Proofs.Belonging
import Storyline.Proofs.Reading

/-!
# Quoted texts

Any text can be handed to a step: it is quoted below the step, between two delimiters, with all its
lines indented as far as the delimiters are. Reading gives the text back exactly
(`Script.docString_quoted`). Its lines may look like headers, tables, tags or comments, may be blank
or indented further; only a line that reads as a delimiter itself would end the quotation.

The argument follows the text through the three passes. The source falls into the lines that it was
written in (`Text.lines_joined`), the gatherer attaches all of them to the step
(`Hold.takeAll_quotation`), and the margin that a line was indented by is what it loses again
(`Line.withoutMargin_read`).
-/

namespace Storyline

/-! ## Lines written one under the other -/

namespace Text

/-- What ends a line. -/
inductive Ending where
  /-- A line feed. -/
  | feed
  /-- A carriage return and a line feed. -/
  | returnFeed

/-- The characters of a line ending. -/
def Ending.text : Ending → String
  | feed => "\n"
  | returnFeed => "\r\n"

/-- Whether a text can be written as one line and read back: it has no line feed, and no carriage
return at its end, which would count as part of the line ending. -/
structure IsLine (text : List Char) : Prop where
  unbroken : '\n' ∉ text
  whole : text.getLast? ≠ some '\r'

instance (text : List Char) : Decidable (IsLine text) :=
  decidable_of_iff ('\n' ∉ text ∧ text.getLast? ≠ some '\r')
    ⟨fun isLine => ⟨isLine.1, isLine.2⟩, fun isLine => ⟨isLine.1, isLine.2⟩⟩

/-- Whether a line is over where this text follows. -/
def ClosesLine (after : List Char) : Prop :=
  after = [] ∨ ∃ (ending : Ending) (rest : List Char), after = ending.text.toList ++ rest

variable {text before after line rest : List Char}

theorem linesFrom_feed (held rest : List Char) :
    linesFrom held ('\n' :: rest) = closeLine held :: lines rest := rfl

theorem linesFrom_cons {c : Char} (other : c ≠ '\n') (held rest : List Char) :
    linesFrom held (c :: rest) = linesFrom (c :: held) rest := by
  rw [linesFrom.eq_def]
  split
  · contradiction
  · rename_i same
    cases same
    exact absurd rfl other
  · rename_i same
    cases same
    rfl

/-- A line feed ends a line, whatever follows. -/
theorem linesFrom_append_feed (held text rest : List Char) :
    linesFrom held (text ++ '\n' :: rest) = linesFrom held (text ++ ['\n']) ++ lines rest := by
  induction text generalizing held with
  | nil =>
      rw [List.nil_append, List.nil_append, linesFrom_feed, linesFrom_feed]
      rfl
  | cons c text ih =>
      rw [List.cons_append, List.cons_append]
      by_cases feed : c = '\n'
      · subst feed
        rw [linesFrom_feed, linesFrom_feed, List.cons_append]
        exact congrArg (closeLine held :: ·) (ih [])
      · rw [linesFrom_cons feed, linesFrom_cons feed, ih]

/-- Behind a line feed the lines begin anew. -/
theorem lines_append (begins : before = [] ∨ before.getLast? = some '\n') (after : List Char) :
    lines (before ++ after) = lines before ++ lines after := by
  rcases begins with rfl | last
  · rfl
  · obtain ⟨text, rfl⟩ := List.getLast?_eq_some_iff.mp last
    rw [List.append_assoc]
    exact linesFrom_append_feed [] text after

theorem linesFrom_append (unbroken : '\n' ∉ text) (held rest : List Char) :
    linesFrom held (text ++ rest) = linesFrom (text.reverse ++ held) rest := by
  induction text generalizing held with
  | nil => rfl
  | cons c text ih =>
      rw [List.mem_cons, not_or] at unbroken
      obtain ⟨other, unbroken⟩ := unbroken
      rw [List.cons_append, linesFrom_cons (Ne.symm other), ih unbroken, List.reverse_cons,
        List.append_assoc]
      rfl

theorem closeLine_reverse (whole : line.getLast? ≠ some '\r') : closeLine line.reverse = line := by
  rw [closeLine.eq_def]
  split
  · rename_i rest reversed
    refine absurd ?_ whole
    rw [← List.head?_reverse, reversed]
    rfl
  · exact List.reverse_reverse line

/-- A line with its ending is read as the line. -/
theorem lines_ended (isLine : IsLine line) (ending : Ending) (rest : List Char) :
    lines (line ++ (ending.text.toList ++ rest)) = line :: lines rest := by
  cases ending with
  | feed =>
      change linesFrom [] (line ++ '\n' :: rest) = _
      rw [linesFrom_append isLine.unbroken, linesFrom_feed, List.append_nil,
        closeLine_reverse isLine.whole]
  | returnFeed =>
      change linesFrom [] (line ++ '\r' :: '\n' :: rest) = _
      rw [linesFrom_append isLine.unbroken, linesFrom_cons (by decide), linesFrom_feed,
        List.append_nil]
      exact congrArg (· :: lines rest) (List.reverse_reverse line)

/-- The last line of a source may lack its ending, unless it is empty. -/
theorem lines_closed (isLine : IsLine line) (nonempty : line ≠ []) (closes : ClosesLine after) :
    ∃ below, lines (line ++ after) = line :: below := by
  rcases closes with rfl | ⟨ending, rest, rfl⟩
  · refine ⟨[], ?_⟩
    have reversed : line.reverse.isEmpty = false := by simpa using nonempty
    rw [lines, linesFrom_append isLine.unbroken, List.append_nil, linesFrom, reversed,
      List.reverse_reverse]
    rfl
  · exact ⟨lines rest, lines_ended isLine ending rest⟩

/-- Lines that are written one under the other are read one by one. -/
theorem lines_joined {texts : List (List Char)} {last : List Char} (ending : Ending)
    (isLine : ∀ text ∈ texts, IsLine text) (ends : texts.getLast? = some last)
    (nonempty : last ≠ []) (closes : ClosesLine after) :
    ∃ below, lines (ending.text.toList.intercalate texts ++ after) = texts ++ below := by
  induction texts with
  | nil => cases ends
  | cons first texts ih =>
      obtain ⟨first_line, isLine⟩ := List.forall_mem_cons.mp isLine
      cases texts with
      | nil =>
          cases ends
          rw [List.intercalate_singleton]
          exact lines_closed first_line nonempty closes
      | cons second texts =>
          rw [List.getLast?_cons_cons] at ends
          obtain ⟨below, rest⟩ := ih isLine ends
          refine ⟨below, ?_⟩
          rw [List.intercalate_cons_cons, List.append_assoc, List.append_assoc,
            lines_ended first_line, rest]
          rfl

/-! ## Margins -/

/-- A margin is taken off again. -/
theorem dropMargin_append {margin : List Char} (blank : ∀ c ∈ margin, isBlank c = true)
    (text : List Char) : dropMargin margin.length (margin ++ text) = text := by
  induction margin with
  | nil => cases text <;> rfl
  | cons c margin ih =>
      obtain ⟨first, blank⟩ := List.forall_mem_cons.mp blank
      rw [List.length_cons, List.cons_append, dropMargin, if_pos first]
      exact ih blank

/-- A margin is the indentation of what stands behind it. -/
theorem indent_append {margin : List Char} (blank : ∀ c ∈ margin, isBlank c = true)
    (first : ∀ c, text.head? = some c → isBlank c = false) :
    indent (margin ++ text) = margin := by
  have stops : text.takeWhile isBlank = [] := by
    cases text with
    | nil => rfl
    | cons c text => exact List.takeWhile_cons_of_neg (by simp [first c rfl])
  rw [indent, List.takeWhile_append_of_pos blank, stops, List.append_nil]

end Text

/-! ## Lines of a quotation -/

namespace Line

variable {v : Vocabulary} {margin : String}

/-- The number of a line has no say in its category. -/
theorem kind_read (v : Vocabulary) (number other : Nat) (text : String) :
    (read v number text).kind = (read v other text).kind := by
  unfold read
  dsimp only
  split <;> rfl

theorem withoutMargin_read (blank : ∀ c ∈ margin.toList, Text.isBlank c = true) (number : Nat)
    (text : String) :
    Statement.withoutMargin margin.length (read v number (margin ++ text)) = text := by
  rw [Statement.withoutMargin, read_text, String.toList_append]
  exact (congrArg String.ofList (Text.dropMargin_append blank text.toList)).trans
    String.ofList_toList

/-- The opening delimiter is indented by the margin. -/
theorem indent_read_delimiter (blank : ∀ c ∈ margin.toList, Text.isBlank c = true) (number : Nat) :
    (read v number (margin ++ "\"\"\"")).indent = margin := by
  have quote : ∀ c, "\"\"\"".toList.head? = some c → Text.isBlank c = false := by
    rintro _ ⟨⟩
    rfl
  rw [read_indent, String.toList_append, Text.indent_append blank quote, String.ofList_toList]

end Line

/-! ## Gathering a quotation -/

namespace Hold

variable {step opening closing : Line} {body : List Line}

theorem take_step {hold : Hold} (outside : ¬ ∃ s, hold = .inside s) (kind : step.kind = .step) :
    hold.take step = (hold.released, .openTo (.ofLine step)) := by
  have started : start step = ([], .openTo (.ofLine step)) := by
    rw [start, kind]
    rfl
  cases hold with
  | nothing => exact started
  | openTo s =>
      rw [take, started, kind]
      rfl
  | inside s => exact absurd ⟨s, rfl⟩ outside

/-- Inside of a doc-string every line is attached. -/
theorem takeAll_inside (s : Statement) (body : List Line)
    (inside : ∀ line ∈ body, line.kind ≠ .docString) :
    (Hold.inside s).takeAll body = ([], .inside { s with extras := s.extras ++ body }) := by
  induction body generalizing s with
  | nil => rw [takeAll, List.append_nil]
  | cons line body ih =>
      obtain ⟨other, inside⟩ := List.forall_mem_cons.mp inside
      have taken : (Hold.inside s).take line = ([], .inside (s.attach line)) := by
        rw [take, if_pos other]
      rw [takeAll, taken, ih _ inside, Statement.extras_attach, List.append_assoc]
      rfl

theorem takeAll_append (hold : Hold) (lines more : List Line) :
    hold.takeAll (lines ++ more) =
      ((hold.takeAll lines).1 ++ ((hold.takeAll lines).2.takeAll more).1,
        ((hold.takeAll lines).2.takeAll more).2) := by
  induction lines generalizing hold with
  | nil => rfl
  | cons line lines ih =>
      rw [List.cons_append, takeAll, ih, takeAll, List.append_assoc]

/-- A step takes all of the quotation below it, and goes on taking. -/
theorem takeAll_quotation (kind : step.kind = .step) (opens : opening.kind = .docString)
    (inside : ∀ line ∈ body, line.kind ≠ .docString) (closes : closing.kind = .docString) :
    (Hold.openTo (.ofLine step)).takeAll (opening :: (body ++ [closing])) =
      ([], .openTo { step with extras := opening :: (body ++ [closing]) }) := by
  have opened : (Hold.openTo (.ofLine step)).take opening =
      ([], .inside { step with extras := [opening] }) := by
    rw [take, if_pos opens]
    rfl
  have closed : (Hold.inside { step with extras := opening :: body }).take closing =
      ([], .openTo { step with extras := opening :: (body ++ [closing]) }) := by
    have other : step.kind ≠ .docString := by rw [kind]; decide
    rw [take, if_neg (not_not_intro closes), if_neg other]
    rfl
  rw [takeAll, opened, takeAll_append, takeAll_inside _ _ inside]
  dsimp only
  rw [List.singleton_append, takeAll, closed]
  rfl

end Hold

namespace Script

variable {v : Vocabulary} {step opening closing : Line} {before body after : List Line}

/-- The first doc-string of a statement ends at the next delimiter, whatever is attached below. -/
theorem docString_of_quotation {s : Statement} {below : List Line}
    (quotation : opening :: (body ++ [closing]) ++ below = s.extras)
    (opens : opening.kind = .docString) (inside : ∀ line ∈ body, line.kind ≠ .docString)
    (closes : closing.kind = .docString) :
    s.docString =
      some (Text.joinLines (body.map (Statement.withoutMargin opening.indent.length))) := by
  have found : Statement.openDocString s.extras =
      some (opening, body ++ closing :: below) := by
    rw [← quotation, List.cons_append, Statement.openDocString, if_pos opens, List.append_assoc]
    rfl
  have kept : (body ++ closing :: below).takeWhile (·.kind ≠ .docString) = body := by
    rw [List.takeWhile_append_of_pos (by simpa using inside),
      List.takeWhile_cons_of_neg (by simp [closes]), List.append_nil]
  rw [Statement.docString, found, Option.map_some]
  dsimp only
  rw [kept]

/-- What is quoted below a step outside of doc-strings is the doc-string of the step. -/
theorem gather_quotation (outside : ¬ IsInside before) (kind : step.kind = .step)
    (opens : opening.kind = .docString) (inside : ∀ line ∈ body, line.kind ≠ .docString)
    (closes : closing.kind = .docString) (after : List Line) :
    ∃ n s, (gather .nothing (before ++ step :: (opening :: (body ++ [closing]) ++ after)))[n]? =
        some s ∧ s.toLine = step ∧
      place (gather .nothing (before ++ step :: (opening :: (body ++ [closing]) ++ after))) n =
        before.length ∧
      s.docString =
        some (Text.joinLines (body.map (Statement.withoutMargin opening.indent.length))) := by
  have upholds := Hold.upholds_nil.takeAll before
  rw [List.nil_append, List.nil_append] at upholds
  obtain ⟨s, more, gathered, same, quotation, attached⟩ := gather_held
    (Hold.released_openTo { step with extras := opening :: (body ++ [closing]) }) after
  have script : gather .nothing (before ++ step :: (opening :: (body ++ [closing]) ++ after)) =
      ((Hold.nothing.takeAll before).1 ++ (Hold.nothing.takeAll before).2.released) ++
        s :: more := by
    have outside' : ¬ ∃ s, (Hold.nothing.takeAll before).2 = .inside s := by
      rwa [upholds.inside]
    rw [gather_append, gather, Hold.take_step outside' kind, gather_append,
      Hold.takeAll_quotation kind opens inside closes, gathered, List.append_assoc]
    rfl
  rw [script]
  refine ⟨((Hold.nothing.takeAll before).1 ++ (Hold.nothing.takeAll before).2.released).length,
    s, getElem?_of_split _ _ _, same, ?_, docString_of_quotation attached opens inside closes⟩
  rw [place_append, upholds.lines]

/-! ## Reading a quotation -/

theorem readLines_append (v : Vocabulary) (number : Nat) (texts more : List String) :
    readLines v number (texts ++ more) =
      readLines v number texts ++ readLines v (number + texts.length) more := by
  induction texts generalizing number with
  | nil => rfl
  | cons text texts ih =>
      rw [List.cons_append, readLines, ih, readLines, List.length_cons, List.cons_append,
        Nat.add_assoc, Nat.add_comm 1]

theorem exists_of_mem_readLines {number : Nat} {texts : List String} {line : Line}
    (found : line ∈ readLines v number texts) :
    ∃ text ∈ texts, ∃ number, line = Line.read v number text := by
  rw [readLines_eq_mapIdx] at found
  obtain ⟨index, inside, rfl⟩ := List.mem_mapIdx.mp found
  exact ⟨texts[index], List.getElem_mem inside, _, rfl⟩

theorem withoutMargin_readLines {margin : String}
    (blank : ∀ c ∈ margin.toList, Text.isBlank c = true) (number : Nat) (texts : List String) :
    (readLines v number (texts.map (margin ++ ·))).map (Statement.withoutMargin margin.length) =
      texts := by
  induction texts generalizing number with
  | nil => rfl
  | cons text texts ih =>
      rw [List.map_cons, readLines, List.map_cons, ih, Line.withoutMargin_read blank]

/-- The lines of a step with texts quoted below it. -/
def quoted (step margin : String) (texts : List String) : List String :=
  step :: ((margin ++ "\"\"\"") :: (texts.map (margin ++ ·) ++ [margin ++ "\"\"\""]))

theorem readLines_quoted (v : Vocabulary) (number : Nat) (step margin : String)
    (texts below : List String) :
    ∃ rest, readLines v number (quoted step margin texts ++ below) =
      Line.read v number step ::
        (Line.read v (number + 1) (margin ++ "\"\"\"") ::
          (readLines v (number + 2) (texts.map (margin ++ ·)) ++
            [Line.read v (number + 2 + (texts.map (margin ++ ·)).length) (margin ++ "\"\"\"")]) ++
          rest) := by
  rw [quoted, List.cons_append, List.cons_append, readLines, readLines, readLines_append,
    readLines_append]
  exact ⟨_, rfl⟩

/-- Whether texts can be quoted below a step, behind this margin. -/
structure IsQuotable (v : Vocabulary) (step margin : String) (texts : List String) : Prop where
  kind : (Line.read v 1 step).kind = .step
  whole : Text.IsLine step.toList
  blank : ∀ c ∈ margin.toList, Text.isBlank c = true ∧ c ≠ '\n' ∧ c ≠ '\r'
  isLine : ∀ text ∈ texts, Text.IsLine text.toList
  /-- The delimiter reads as one. -/
  delimits : (Line.read v 1 (margin ++ "\"\"\"")).kind = .docString
  /-- No other line of the quotation does. -/
  inside : ∀ text ∈ texts, (Line.read v 1 (margin ++ text)).kind ≠ .docString

/-- A text behind a margin is still a line. -/
theorem isLine_append {margin text : String}
    (blank : ∀ c ∈ margin.toList, Text.isBlank c = true ∧ c ≠ '\n' ∧ c ≠ '\r')
    (isLine : Text.IsLine text.toList) : Text.IsLine (margin ++ text).toList where
  unbroken := by
    rw [String.toList_append, List.mem_append, not_or]
    exact ⟨fun feed => (blank _ feed).2.1 rfl, isLine.unbroken⟩
  whole := by
    rw [String.toList_append, List.getLast?_append, ne_eq, Option.or_eq_some_iff, not_or]
    refine ⟨isLine.whole, ?_⟩
    rintro ⟨-, last⟩
    exact (blank _ (List.mem_of_getLast? last)).2.2 rfl

theorem IsQuotable.isLine_quoted {step margin : String} {texts : List String}
    (quotable : IsQuotable v step margin texts) :
    ∀ text ∈ (quoted step margin texts).map String.toList, Text.IsLine text := by
  have delimiter : Text.IsLine (margin ++ "\"\"\"").toList := by
    apply isLine_append quotable.blank
    exact ⟨by decide, by decide⟩
  intro text found
  obtain ⟨text, among, rfl⟩ := List.mem_map.mp found
  rw [quoted, List.mem_cons, List.mem_cons, List.mem_append, List.mem_singleton,
    List.mem_map] at among
  rcases among with rfl | rfl | ⟨text, among, rfl⟩ | rfl
  · exact quotable.whole
  · exact delimiter
  · exact isLine_append quotable.blank (quotable.isLine text among)
  · exact delimiter

/-- The source is read as the lines above the step, the step with its quotation, and the rest. -/
theorem sourceLines_quoted {step margin before after : String} {texts : List String}
    (quotable : IsQuotable v step margin texts) (ending : Text.Ending)
    (begins : before = "" ∨ before.toList.getLast? = some '\n')
    (closes : Text.ClosesLine after.toList) :
    ∃ below, sourceLines v
        (before ++ String.intercalate ending.text (quoted step margin texts) ++ after) =
      sourceLines v before ++
        readLines v (1 + (sourceLines v before).length) (quoted step margin texts ++ below) := by
  have last : ((quoted step margin texts).map String.toList).getLast? =
      some (margin ++ "\"\"\"").toList := by
    rw [quoted, ← List.cons_append, ← List.cons_append, List.map_append, List.getLast?_append]
    rfl
  have nonempty : (margin ++ "\"\"\"").toList ≠ [] := by simp
  obtain ⟨below, joined⟩ :=
    Text.lines_joined ending quotable.isLine_quoted last nonempty closes
  have begins' : before.toList = [] ∨ before.toList.getLast? = some '\n' := by
    refine begins.imp_left ?_
    rintro rfl
    rfl
  have again : ((quoted step margin texts).map String.toList).map String.ofList =
      quoted step margin texts := by
    simp [Function.comp_def]
  have length : (sourceLines v before).length =
      ((Text.lines before.toList).map String.ofList).length := by
    rw [sourceLines_eq_mapIdx, List.length_mapIdx, List.length_map]
  refine ⟨below.map String.ofList, ?_⟩
  rw [length, sourceLines, String.toList_append, String.toList_append, String.toList_intercalate,
    List.append_assoc, Text.lines_append begins', joined, List.map_append, List.map_append, again,
    readLines_append]
  rfl

/-- A text that is quoted below a step is the doc-string of the step, exactly as it was. The step
may stand anywhere outside of doc-strings, and anything may follow. -/
theorem docString_quoted {step margin before after : String} {texts : List String}
    (quotable : IsQuotable v step margin texts) (ending : Text.Ending)
    (begins : before = "" ∨ before.toList.getLast? = some '\n')
    (even : Even ((sourceLines v before).countP (·.kind = .docString)))
    (closes : Text.ClosesLine after.toList) :
    ∃ n s, (parse v (before ++ String.intercalate ending.text (quoted step margin texts) ++
          after))[n]? = some s ∧
      s.toLine = Line.read v (1 + (sourceLines v before).length) step ∧
      place (parse v (before ++ String.intercalate ending.text (quoted step margin texts) ++
          after)) n = (sourceLines v before).length ∧
      s.kind = .step ∧ s.docString = some (String.intercalate "\n" texts) := by
  obtain ⟨below, lines⟩ := sourceLines_quoted quotable ending begins closes
  have outside : ¬ IsInside (sourceLines v before) := Nat.not_odd_iff_even.mpr even
  have blank : ∀ c ∈ margin.toList, Text.isBlank c = true := fun c hc => (quotable.blank c hc).1
  rw [parse, lines]
  -- Of the lines above only their number and the parity of their delimiters count.
  generalize sourceLines v before = above at outside ⊢
  obtain ⟨rest, parts⟩ := readLines_quoted v (1 + above.length) step margin texts below
  have kind : (Line.read v (1 + above.length) step).kind = .step :=
    (Line.kind_read v _ 1 step).trans quotable.kind
  have delimits (number : Nat) : (Line.read v number (margin ++ "\"\"\"")).kind = .docString :=
    (Line.kind_read v number 1 _).trans quotable.delimits
  have inside : ∀ line ∈ readLines v (1 + above.length + 2) (texts.map (margin ++ ·)),
      line.kind ≠ .docString := by
    intro line found
    obtain ⟨_, indented, number, rfl⟩ := exists_of_mem_readLines found
    obtain ⟨text, among, rfl⟩ := List.mem_map.mp indented
    rw [Line.kind_read v number 1]
    exact quotable.inside text among
  obtain ⟨n, s, here, same, at_place, docString⟩ :=
    gather_quotation outside kind (delimits _) inside (delimits _) rest
  rw [Line.indent_read_delimiter blank, withoutMargin_readLines blank] at docString
  rw [parts]
  exact ⟨n, s, here, same, at_place, (congrArg Line.kind same).trans kind, docString⟩

/-- A quotation of lines that look like anything but text. -/
theorem docString_quoted_disguised :
    IsQuotable .english "  Given a note" "\u3000 " ["| x |", "", "  Scenario: s", "@slow"] ∧
      ∃ n s, (parse .english ("Scenario: t\n" ++ String.intercalate Text.Ending.feed.text
            (quoted "  Given a note" "\u3000 " ["| x |", "", "  Scenario: s", "@slow"]) ++
          "\n  | y |\n"))[n]? = some s ∧
        s.toLine = Line.read .english 2 "  Given a note" ∧
        place (parse .english ("Scenario: t\n" ++ String.intercalate Text.Ending.feed.text
            (quoted "  Given a note" "\u3000 " ["| x |", "", "  Scenario: s", "@slow"]) ++
          "\n  | y |\n")) n = 1 ∧
        s.kind = .step ∧ s.docString = some "| x |\n\n  Scenario: s\n@slow" := by
  have quotable : IsQuotable .english "  Given a note" "\u3000 "
      ["| x |", "", "  Scenario: s", "@slow"] := by
    refine ⟨by decide +kernel, by decide, ?_, by decide, by decide +kernel, by decide +kernel⟩
    rintro _ (_ | ⟨_, _ | ⟨_, ⟨⟩⟩⟩) <;> decide
  exact ⟨quotable, docString_quoted quotable .feed (.inr (by decide)) (by decide +kernel)
    (.inr ⟨.feed, "  | y |\n".toList, rfl⟩)⟩

end Script

end Storyline

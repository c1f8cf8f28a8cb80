import Storyline.Proofs.Channels
import Storyline.Proofs.Characters

/-!
# Painting

A painted transcript is the plain one with terminal codes in it. A text *reads* as another one if
its codes can be taken out and the other one is left, whatever follows (`Style.Reads`); this goes
part by part, so a line that is put together from painted parts reads as the line that is put
together from the plain ones. A text without escapes has no codes to lose: the lines of a run have
no escapes if its source has none (`Interpreter.isClean_run`). Of the console it is asked that it
paints with terminal codes (`Console.IsAnsi`).

Nothing in a run goes by the painting (`Interpreter.paints_run`).
-/

namespace Storyline

variable {σ : Type}

/-! ## Codes -/

namespace Text

/-- The character that terminal codes begin with. -/
def escape : Char := '\x1b'

/-- Whether a character may stand between the bracket of a code and its closing letter. -/
def isParameter (c : Char) : Bool := c.isDigit || c == ';'

/-- The number of characters in the code that a text begins with, if it begins with one. -/
def codeLength? : List Char → Option Nat
  | first :: '[' :: rest =>
      if first = escape ∧ (rest.dropWhile isParameter).head? = some 'm' then
        some ((rest.takeWhile isParameter).length + 3)
      else none
  | _ => none

/-- A text without its codes; the next `skip` characters belong to a code. -/
def withoutCodesFrom (skip : Nat) : List Char → List Char
  | [] => []
  | c :: rest =>
      match skip with
      | n + 1 => withoutCodesFrom n rest
      | 0 =>
          match codeLength? (c :: rest) with
          | some n => withoutCodesFrom (n - 1) rest
          | none => c :: withoutCodesFrom 0 rest

/-- A text without its codes. -/
def withoutCodes (text : List Char) : List Char := withoutCodesFrom 0 text

/-- Whether a text has no escapes. -/
def IsClean (text : String) : Prop := Only (· ≠ escape) text

instance (text : String) : Decidable (IsClean text) :=
  inferInstanceAs (Decidable (Only (· ≠ escape) text))

theorem withoutCodesFrom_append (skipped rest : List Char) :
    withoutCodesFrom skipped.length (skipped ++ rest) = withoutCodes rest := by
  induction skipped with
  | nil => rfl
  | cons c skipped ih => exact ih

theorem codeLength?_of_ne {c : Char} (other : c ≠ escape) (rest : List Char) :
    codeLength? (c :: rest) = none := by
  rw [codeLength?.eq_def]
  split
  · rename_i same
    cases same
    exact if_neg fun code => other code.1
  · rfl

/-- Without escapes nothing is taken out. -/
theorem withoutCodes_append {text : List Char} (clean : ∀ c ∈ text, c ≠ escape)
    (rest : List Char) : withoutCodes (text ++ rest) = text ++ withoutCodes rest := by
  induction text with
  | nil => rfl
  | cons c text ih =>
      obtain ⟨other, clean⟩ := List.forall_mem_cons.mp clean
      rw [withoutCodes, List.cons_append, withoutCodesFrom, codeLength?_of_ne other]
      exact congrArg (c :: ·) (ih clean)

/-- A code is taken out as a whole. -/
theorem withoutCodes_code {parameter : List Char} (parameters : ∀ c ∈ parameter, isParameter c)
    (rest : List Char) :
    withoutCodes (escape :: '[' :: (parameter ++ 'm' :: rest)) = withoutCodes rest := by
  have letter : isParameter 'm' = false := rfl
  have taken : (parameter ++ 'm' :: rest).takeWhile isParameter = parameter := by
    rw [List.takeWhile_append_of_pos parameters, List.takeWhile_cons_of_neg (by simp [letter]),
      List.append_nil]
  have dropped : (parameter ++ 'm' :: rest).dropWhile isParameter = 'm' :: rest := by
    rw [List.dropWhile_append_of_pos parameters, List.dropWhile_cons_of_neg (by simp [letter])]
  have length : codeLength? (escape :: '[' :: (parameter ++ 'm' :: rest)) =
      some (parameter.length + 3) := by
    rw [codeLength?, taken, dropped]
    exact if_pos ⟨rfl, rfl⟩
  -- The escape is taken out itself, and all of the code behind it is skipped.
  have tail := withoutCodesFrom_append ('[' :: (parameter ++ ['m'])) rest
  rw [withoutCodes, withoutCodesFrom, length, ← tail]
  simp

end Text

namespace Style

/-- A text without its codes. -/
def erase (text : String) : String := String.ofList (Text.withoutCodes text.toList)

/-- Whether a text reads as another one when its codes are taken out, whatever follows. -/
def Reads (painted text : String) : Prop :=
  ∀ rest : List Char,
    Text.withoutCodes (painted.toList ++ rest) = text.toList ++ Text.withoutCodes rest

variable {painted painted' text text' : String}

theorem Reads.erase_eq (reads : Reads painted text) : erase painted = text := by
  have whole := reads []
  rw [List.append_nil] at whole
  rw [erase, whole, show Text.withoutCodes [] = [] from rfl, List.append_nil, String.ofList_toList]

theorem Reads.append (first : Reads painted text) (second : Reads painted' text') :
    Reads (painted ++ painted') (text ++ text') := by
  intro rest
  rw [String.toList_append, String.toList_append, List.append_assoc, List.append_assoc, first,
    second]

theorem reads_self (clean : Text.IsClean text) : Reads text text :=
  fun rest => Text.withoutCodes_append clean rest

theorem reads_code {parameter : String}
    (parameters : Text.Only (Text.isParameter ·) parameter) :
    Reads (Console.code parameter) "" := by
  intro rest
  have taken := Text.withoutCodes_code parameters rest
  simpa [Console.code, Text.escape] using taken

theorem reads_codes (attributes : List Attribute) : Reads (Console.codes attributes) "" := by
  induction attributes with
  | nil => exact reads_self Text.only_empty
  | cons first rest ih =>
      have code : Reads (Console.code (Console.parameterOf first)) "" := by
        cases first <;> exact reads_code (by decide)
      rw [Console.codes, List.map_cons, String.join_cons]
      exact code.append ih

theorem reads_reset : Reads Console.reset "" := reads_code (by decide)

theorem attributes_ne_nil (style : Style) : style.attributes ≠ [] := by
  cases style <;> decide

/-- A text that there is something of is painted with codes around it. -/
theorem paint_of_ne {console : Console} (ansi : console.IsAnsi) (style : Style)
    (something : text ≠ "") :
    style.paint (some console) text =
      Console.codes style.attributes ++ text ++ Console.reset := by
  have shown : text.isEmpty = false := by simpa using something
  simp only [paint, shown]
  exact ansi style.attributes text style.attributes_ne_nil

variable {console? : Option Console}

/-- A painted text reads as the text. -/
theorem reads_paint (ansi : ∀ console ∈ console?, console.IsAnsi) (style : Style)
    (clean : Text.IsClean text) : Reads (style.paint console? text) text := by
  cases console? with
  | none => exact reads_self clean
  | some console =>
      by_cases something : text = ""
      · subst something
        exact reads_self clean
      · rw [paint_of_ne (ansi console rfl) style something]
        have whole := ((reads_codes style.attributes).append (reads_self clean)).append reads_reset
        simpa using whole

/-- What is painted is empty if and only if there is nothing to paint. -/
theorem isEmpty_paint (ansi : ∀ console ∈ console?, console.IsAnsi) (style : Style)
    (text : String) : (style.paint console? text).isEmpty = text.isEmpty := by
  cases console? with
  | none => rfl
  | some console =>
      by_cases something : text = ""
      · subst something
        rfl
      · rw [paint_of_ne (ansi console rfl) style something, Bool.eq_iff_iff, String.isEmpty_iff,
          String.isEmpty_iff]
        simp [Console.reset, Console.code, something]

end Style

/-! ## Entries -/

namespace Transcript

/-- Whether the texts of an entry have no escapes. -/
def Entry.IsClean : Entry → Prop
  | header line =>
      Text.IsClean line.indent ∧ Text.IsClean line.keyword ∧ Text.IsClean line.body
  | step line body => Text.IsClean line.indent ∧ Text.IsClean line.keyword ∧ Text.IsClean body
  | raw text _ => Text.IsClean text
  | note indent text => Text.IsClean indent ∧ Text.IsClean text
  | fault indent f => Text.IsClean indent ∧ Text.IsClean f.message

namespace Entry

variable {entry : Entry} {indent keyword body keyword' body' : String}

/-- A line reads as the one with the plain parts, if the painted body is not empty just where the
plain one is not. -/
theorem reads_keywordLine (indent_clean : Text.IsClean indent)
    (keyword_reads : Style.Reads keyword' keyword) (body_reads : Style.Reads body' body)
    (same : body'.isEmpty = body.isEmpty) :
    Style.Reads (keywordLine indent keyword' body') (keywordLine indent keyword body) := by
  have front := (Style.reads_self indent_clean).append keyword_reads
  have space : Text.IsClean " " := by decide
  rw [keywordLine, keywordLine, same]
  split
  · exact front
  · exact (front.append (Style.reads_self space)).append body_reads

theorem isClean_keywordLine (indent_clean : Text.IsClean indent)
    (keyword_clean : Text.IsClean keyword) (body_clean : Text.IsClean body) :
    Text.IsClean (keywordLine indent keyword body) := by
  have front := Text.only_append.mpr ⟨indent_clean, keyword_clean⟩
  have space : Text.IsClean " " := by decide
  rw [keywordLine]
  split
  · exact front
  · exact Text.only_append.mpr ⟨Text.only_append.mpr ⟨front, space⟩, body_clean⟩

theorem isClean_headerKeyword {line : Line} (clean : Text.IsClean line.keyword) :
    Text.IsClean (headerKeyword line) := by
  have colon : Text.IsClean (if line.colon then ":" else "") := by cases line.colon <;> decide
  exact Text.only_append.mpr ⟨clean, colon⟩

theorem isClean_marker {f : Fault} (clean : Text.IsClean f.message) :
    Text.IsClean (marker f) := by
  have opening : Text.IsClean "^^^^^^ " := by decide
  have closing : Text.IsClean " ^^^^^^" := by decide
  exact Text.only_append.mpr ⟨Text.only_append.mpr ⟨opening, clean⟩, closing⟩

theorem plain_raw (text : String) (tone : Tone) : (raw text tone).plain = text := by
  cases tone <;> rfl

/-- However an entry is painted, it reads as the plain one. -/
theorem IsClean.reads_render {console? : Option Console} (clean : entry.IsClean)
    (ansi : ∀ console ∈ console?, console.IsAnsi) (failed : Bool) :
    Style.Reads (entry.render console? failed) entry.plain := by
  cases entry with
  | header line =>
      obtain ⟨indent, keyword, body⟩ := clean
      have head := isClean_headerKeyword keyword
      cases failed with
      | true => exact Style.reads_paint ansi .dim (isClean_keywordLine indent head body)
      | false =>
          exact reads_keywordLine indent (Style.reads_paint ansi .header head)
            (Style.reads_paint ansi .keyword body) (Style.isEmpty_paint ansi .keyword _)
  | step line body =>
      obtain ⟨indent, keyword, body⟩ := clean
      cases failed with
      | true => exact Style.reads_paint ansi .dim (isClean_keywordLine indent keyword body)
      | false =>
          exact reads_keywordLine indent (Style.reads_paint ansi .keyword keyword)
            (Style.reads_self body) rfl
  | raw text tone =>
      rw [plain_raw]
      cases failed with
      | true => exact Style.reads_paint ansi .dim clean
      | false =>
          cases tone with
          | plain => exact Style.reads_self clean
          | dim => exact Style.reads_paint ansi .dim clean
          | comment => exact Style.reads_paint ansi .comment clean
          | tag => exact Style.reads_paint ansi .tag clean
  | note indent text =>
      obtain ⟨indent_clean, text_clean⟩ := clean
      have margin : Text.IsClean "  " := by decide
      exact ((Style.reads_self indent_clean).append (Style.reads_self margin)).append
        (Style.reads_paint ansi .comment text_clean)
  | fault indent f =>
      obtain ⟨indent_clean, message_clean⟩ := clean
      exact (Style.reads_self indent_clean).append
        (Style.reads_paint ansi .error (isClean_marker message_clean))

/-- Whether an entry fades behind a fault: a header, a step, or a raw line. -/
def fades : Entry → Bool
  | header _ | step _ _ | raw _ _ => true
  | note _ _ | fault _ _ => false

/-- Behind a fault an entry that fades is painted dim as a whole. -/
theorem render_true_of_fades (console? : Option Console) (faded : entry.fades = true) :
    entry.render console? true = Style.dim.paint console? entry.plain := by
  cases entry with
  | header | step => rfl
  | raw text tone =>
      rw [plain_raw]
      rfl
  | note | fault => cases faded

/-- A mark that is a line is an entry that fades. -/
theorem fades_of_mark {text : String} (mark : entry.mark? = some (.line text)) :
    entry.fades = true ∧ entry.plain = text := by
  cases entry with
  | header | step | raw =>
      cases mark
      exact ⟨rfl, rfl⟩
  | note => cases mark
  | fault indent f => cases f <;> cases mark

end Entry

/-! ## Transcripts -/

/-- The lines that entries are written as. `failed` says whether there was a fault before. -/
def renderings (console? : Option Console) (failed : Bool) : List Entry → List String
  | [] => []
  | entry :: entries =>
      entry.render console? failed ::
        renderings console? (failed || entry.fault?.isSome) entries

/-- Lines put together to a text, each ended by a line feed. -/
def joined (lines : List String) : String := String.join (lines.map (· ++ "\n"))

theorem joined_cons (line : String) (lines : List String) :
    joined (line :: lines) = line ++ "\n" ++ joined lines := by
  rw [joined, List.map_cons, String.join_cons]
  rfl

/-- Of the entries before an entry it only matters whether there is a fault among them. -/
theorem getElem?_renderings (console? : Option Console) (failed : Bool) (entries : List Entry)
    (k : Nat) :
    (renderings console? failed entries)[k]? =
      entries[k]?.map fun entry =>
        entry.render console? (failed || (entries.take k).any (·.fault?.isSome)) := by
  induction entries generalizing failed k with
  | nil => rfl
  | cons entry entries ih =>
      cases k with
      | zero => simp [renderings]
      | succ k => simp [renderings, ih, Bool.or_assoc]

/-- However a transcript is painted, it reads as the plain one. -/
theorem reads_renderings {entries : List Entry} {console? : Option Console}
    (clean : ∀ entry ∈ entries, entry.IsClean) (ansi : ∀ console ∈ console?, console.IsAnsi)
    (failed : Bool) :
    Style.Reads (joined (renderings console? failed entries))
      (joined (renderings none failed entries)) := by
  induction entries generalizing failed with
  | nil => exact Style.reads_self Text.only_empty
  | cons entry entries ih =>
      obtain ⟨first, rest⟩ := List.forall_mem_cons.mp clean
      have feed : Text.IsClean "\n" := by decide
      rw [renderings, renderings, joined_cons, joined_cons, Entry.render_none]
      exact ((first.reads_render ansi failed).append (Style.reads_self feed)).append (ih rest _)

end Transcript

open Transcript (renderings joined)

theorem Output.text_renderings (out : Output) (entries : List Transcript.Entry) :
    (out.writeAll entries).text =
      out.text ++ joined (renderings out.console? out.isFailed entries) := by
  induction entries generalizing out with
  | nil => exact String.append_empty.symm
  | cons entry entries ih =>
      change ((out.write entry).writeAll entries).text = _
      rw [ih, write_isFailed, renderings, Transcript.joined_cons]
      simp [write, String.append_assoc]

namespace Log

theorem transcript_report (console? : Option Console) (log : Log) :
    (log.report console?).transcript = joined (renderings console? false log.entries) := by
  rw [report, Output.report, Output.text_renderings]
  exact String.empty_append

/-- The notes that are written. -/
def notes (log : Log) : List String :=
  log.entries.filterMap fun | .note _ text => some text | _ => none

/-- Whether a report that is painted for a console is the same as a bare one, but for the paint. -/
structure Paints (log : Log) (console : Console) (shown bare : Report) : Prop where
  success : shown.success = bare.success
  fault : shown.fault = bare.fault
  /-- Without its codes the painted transcript is the plain one. -/
  erased : Style.erase shown.transcript = bare.transcript
  /-- The transcripts are written line by line. -/
  shown_lines : shown.transcript = joined (renderings (some console) false log.entries)
  bare_lines : bare.transcript = joined (renderings none false log.entries)
  /-- Behind a fault a header, a step or a raw line is painted dim as a whole, unless it is
  empty. -/
  dimmed : ∀ k entry text earlier, log.entries[k]? = some entry →
    entry.mark? = some (.line text) → text ≠ "" →
    earlier ∈ log.entries.take k → earlier.fault?.isSome = true →
      (renderings none false log.entries)[k]? = some text ∧
        (renderings (some console) false log.entries)[k]? =
          some ("\x1b[2m" ++ text ++ "\x1b[0m")

theorem paints_report {log : Log} {console : Console} (ansi : console.IsAnsi)
    (clean : ∀ entry ∈ log.entries, entry.IsClean) :
    log.Paints console (log.report (some console)) (log.report none) := by
  have shown_lines := transcript_report (some console) log
  have bare_lines := transcript_report none log
  refine ⟨?_, ?_, ?_, shown_lines, bare_lines, ?_⟩
  · have success (console? : Option Console) :
        (log.report console?).success = !(log.report console?).fault.isSome := rfl
    rw [success, success, fault_report, fault_report]
  · rw [fault_report, fault_report]
  · rw [shown_lines, bare_lines]
    have painter : ∀ painter ∈ some console, painter.IsAnsi := by
      rintro _ ⟨⟩
      exact ansi
    exact (Transcript.reads_renderings clean painter false).erase_eq
  · intro k entry text earlier here mark something before fault
    have failed : (log.entries.take k).any (·.fault?.isSome) = true :=
      List.any_eq_true.mpr ⟨earlier, before, fault⟩
    obtain ⟨faded, plain⟩ := Transcript.Entry.fades_of_mark mark
    constructor
    · rw [Transcript.getElem?_renderings, here, Option.map_some, Transcript.Entry.render_none,
        plain]
    · rw [Transcript.getElem?_renderings, here, failed, Option.map_some, Bool.or_true,
        Transcript.Entry.render_true_of_fades _ faded, plain, Style.paint_of_ne ansi .dim something]
      rfl

end Log

/-! ## Runs -/

namespace Transcript

/-- An entry of a run has no escapes if its script has none, nor what has been said. -/
theorem Entry.isClean_of {script : List Statement} {entry : Entry} (origin : entry.IsOf script)
    (clean : Script.Only (· ≠ Text.escape) script)
    (notes : ∀ indent text, entry = .note indent text → Text.IsClean text)
    (messages : ∀ fault, entry.fault? = some fault → Text.IsClean fault.message) :
    entry.IsClean := by
  have itself {s : Statement} (here : s ∈ script) : s.toLine.Only (· ≠ Text.escape) :=
    clean s here s.toLine List.mem_cons_self
  cases origin with
  | cue origin =>
      cases origin with
      | header here => exact ⟨(itself here).indent, (itself here).keyword, (itself here).body⟩
      | step here fills =>
          have body := fills.only clean (itself here).body
          exact ⟨(itself here).indent, (itself here).keyword, body⟩
      | raw here belongs fills => exact fills.only clean (clean _ here _ belongs).text
  | note here text => exact ⟨(itself here).indent, notes _ _ rfl⟩
  | fault here f => exact ⟨(itself here).indent, messages _ rfl⟩

end Transcript

namespace Interpreter

/-- The interpreter with another choice about painting. -/
def colored (i : Interpreter σ) (coloring : Coloring) : Interpreter σ := { i with coloring }

variable {i : Interpreter σ} {label : Label} {mode : Mode} {host : σ}
  {read : String → Except String String} {source : Source}

theorem isClean_text {text : String} (clean : Text.IsClean text)
    (notes : ∀ text' ∈ (i.run label mode host read (.text text)).log.notes, Text.IsClean text')
    (messages : ∀ fault ∈ (i.run label mode host read (.text text)).log.faults,
      Text.IsClean fault.message) :
    ∀ entry ∈ (i.run label mode host read (.text text)).log.entries, entry.IsClean := by
  have origins := i.writesOf_runText label mode host text
  intro entry written
  apply Transcript.Entry.isClean_of (origins entry written) (Script.only_parse _ clean)
  · rintro indent note rfl
    exact notes note (List.mem_filterMap.mpr ⟨_, written, rfl⟩)
  · intro fault found
    exact messages fault (List.mem_filterMap.mpr ⟨entry, written, found⟩)

/-- The entries of a run have no escapes if its source has none, nor what has been said. -/
theorem isClean_run (content : ∀ text, source.content read = .ok text → Text.IsClean text)
    (notes : ∀ text ∈ (i.run label mode host read source).log.notes, Text.IsClean text)
    (messages : ∀ fault ∈ (i.run label mode host read source).log.faults,
      Text.IsClean fault.message) :
    ∀ entry ∈ (i.run label mode host read source).log.entries, entry.IsClean := by
  cases source with
  | text text => exact isClean_text (content text rfl) notes messages
  | path path =>
      cases begun : isBegun mode with
      | false =>
          rw [i.run_path_of_not_begun label host read path begun]
          exact List.forall_mem_nil _
      | true =>
          cases readable : read (Path.resolve path) with
          | error cause =>
              rw [i.run_path_of_error label host begun readable] at messages ⊢
              have message := messages _ (List.mem_singleton.mpr rfl)
              exact List.forall_mem_singleton.mpr ⟨Text.only_empty, message⟩
          | ok text =>
              have entries : (i.run label mode host read (.path path)).log.entries =
                  (i.run label mode host read (.text text)).log.entries := by
                rw [i.run_path_of_ok label host begun readable, Log.entries_append]
                split <;> exact List.append_nil _
              rw [Log.notes, entries] at notes
              rw [Log.faults, entries] at messages
              rw [entries]
              exact isClean_text (content text readable) notes messages

/-- **Painting is all that painting does.** With styles and without them an interpreter does the
same, and its reports differ in the paint alone, on every console that paints with terminal
codes. -/
theorem paints_run (i : Interpreter σ) (label : Label) (mode : Mode) (host : σ)
    (read : String → Except String String) (source : Source) {shown bare : Coloring}
    {console console' : Console} (ansi : console.IsAnsi) (painted : shown.on console = some console)
    (unpainted : bare.on console' = none)
    (content : ∀ text, source.content read = .ok text → Text.IsClean text)
    (notes : ∀ text ∈ (i.run label mode host read source).log.notes, Text.IsClean text)
    (messages : ∀ fault ∈ (i.run label mode host read source).log.faults,
      Text.IsClean fault.message) :
    (i.colored shown).run label mode host read source =
        (i.colored bare).run label mode host read source ∧
      (i.run label mode host read source).log.Paints console
        ((i.colored shown).report console
          ((i.colored shown).run label mode host read source))
        ((i.colored bare).report console'
          ((i.colored bare).run label mode host read source)) := by
  have same (coloring : Coloring) : (i.colored coloring).run label mode host read source =
      i.run label mode host read source := rfl
  refine ⟨rfl, ?_⟩
  have reports := Log.paints_report ansi (isClean_run content notes messages)
  rw [report, report, same, same]
  simpa only [colored, painted, unpainted] using reports

/-- Behind the check that is declined all lines are dim. -/
theorem paints_run_declined :
    (Console.ansi false).IsAnsi ∧
      Coloring.always.on (.ansi false) = some (.ansi false) ∧
      Coloring.never.on (.ansi true) = none ∧
      (∀ text, (Source.path "a").content hangingFile = .ok text → Text.IsClean text) ∧
      ((answering false).run ⟨""⟩ .blocking {} hangingFile (.path "a")).log.notes = [] ∧
      ((answering false).run ⟨""⟩ .blocking {} hangingFile (.path "a")).log.faults =
        [.declined "a", .flaw .hangingTable] ∧
      ((answering false).run ⟨""⟩ .blocking {} hangingFile (.path "a")).log.Paints (.ansi false)
        (((answering false).colored .always).report (.ansi false)
          (((answering false).colored .always).run ⟨""⟩ .blocking {} hangingFile (.path "a")))
        (((answering false).colored .never).report (.ansi true)
          (((answering false).colored .never).run ⟨""⟩ .blocking {} hangingFile
            (.path "a"))) := by
  have clean (text : String) (readable : (Source.path "a").content hangingFile = .ok text) :
      Text.IsClean text := by
    cases readable
    decide
  have readable : hangingFile (Path.resolve "a") = .ok "Scenario:\nAsk a\n\n|x|\nAsk b\n" := rfl
  obtain ⟨notes, faults⟩ :
      ((answering false).run ⟨""⟩ .blocking {} hangingFile (.path "a")).log.notes = [] ∧
        ((answering false).run ⟨""⟩ .blocking {} hangingFile (.path "a")).log.faults =
          [.declined "a", .flaw .hangingTable] := by
    rw [(answering false).run_path_of_ok ⟨""⟩ {} isBegun_blocking readable, run, runText, cues,
      Walk.cues_eq_rounds]
    decide +kernel
  have ansi := Console.isAnsi_ansi false
  have painted : Coloring.always.on (.ansi false) = some (.ansi false) := rfl
  have unpainted : Coloring.never.on (.ansi true) = none := rfl
  have reports := (answering false).paints_run ⟨""⟩ .blocking {} hangingFile (.path "a") ansi
    painted unpainted clean (by rw [notes]; exact List.forall_mem_nil _) (by rw [faults]; decide)
  exact ⟨ansi, painted, unpainted, clean, notes, faults, reports.2⟩

end Interpreter

end Storyline

import Storyline.Fault
import Storyline.Line
import Storyline.Style

/-!
# Transcripts

A transcript is a sequence of entries, each written as one line. An `Output` writes
entries as they come and keeps the first fault among them. From the first fault on,
headers, steps and raw lines are painted dim as a whole; notes and fault markers keep
their look.

What an entry is written as depends on the entry, on the console that it is painted for, if
any, and on whether a fault came before it (`Entry.render`), and on nothing else.
-/

namespace Storyline

/-- The look of a line that is written as it stands. -/
inductive Tone where
  /-- No style. -/
  | plain
  /-- A line that is recorded and not carried out. -/
  | dim
  /-- A comment. -/
  | comment
  /-- A line of tags. -/
  | tag
  deriving DecidableEq, Inhabited

namespace Tone

/-- The style of a tone, if it has one. -/
def style? : Tone → Option Style
  | plain => none
  | dim => some .dim
  | comment => some .comment
  | tag => some .tag

/-- Paints a text in a tone. -/
def paint (console? : Option Console) (tone : Tone) (text : String) : String :=
  match tone.style? with
  | none => text
  | some style => style.paint console? text

end Tone

namespace Transcript

/-- One line of a transcript, before it is put into words. -/
inductive Entry where
  /-- A header. -/
  | header (line : Line)
  /-- An executable line, with the body that is carried out. -/
  | step (line : Line) (body : String)
  /-- A text as it stands. -/
  | raw (text : String) (tone : Tone)
  /-- A note that a step makes, under a line with this indentation. -/
  | note (indent text : String)
  /-- A fault, under a line with this indentation. -/
  | fault (indent : String) (f : Fault)
  deriving DecidableEq, Inhabited

namespace Entry

/-- Indentation and keyword, and behind a space the body unless it is empty. -/
def keywordLine (indent keyword body : String) : String :=
  if body.isEmpty then indent ++ keyword else indent ++ keyword ++ " " ++ body

/-- The keyword of a header as written. -/
def headerKeyword (line : Line) : String := line.keyword ++ (if line.colon then ":" else "")

/-- The marker of a fault. -/
def marker (f : Fault) : String := "^^^^^^ " ++ f.message ++ " ^^^^^^"

/-- An entry in words. `failed` says whether a fault came before. -/
def render (console? : Option Console) (failed : Bool) : Entry → String
  | header line =>
      if failed then
        Style.dim.paint console? (keywordLine line.indent (headerKeyword line) line.body)
      else
        keywordLine line.indent (Style.header.paint console? (headerKeyword line))
          (Style.keyword.paint console? line.body)
  | step line body =>
      if failed then Style.dim.paint console? (keywordLine line.indent line.keyword body)
      else keywordLine line.indent (Style.keyword.paint console? line.keyword) body
  | raw text tone => if failed then Style.dim.paint console? text else tone.paint console? text
  | note indent text => indent ++ "  " ++ Style.comment.paint console? text
  | fault indent f => indent ++ Style.error.paint console? (marker f)

/-- The fault of an entry, if it is one. -/
def fault? : Entry → Option Fault
  | fault _ f => some f
  | _ => none

end Entry

end Transcript

/-- The verdict on a run. -/
structure Report where
  /-- Whether no fault was recorded. -/
  success : Bool
  /-- The transcript, each of its lines ended by a line feed. -/
  transcript : String
  /-- The first fault. -/
  fault : Option Fault
  deriving DecidableEq, Inhabited

/-- The first fault of a report in words. -/
def Report.message (report : Report) : Option String := report.fault.map Fault.message

/-- A transcript being written. -/
structure Output where
  /-- The console that it is painted for, if it is painted. -/
  console? : Option Console
  /-- The lines written so far. -/
  text : String := ""
  /-- The number of entries written so far. -/
  lines : Nat := 0
  /-- The first fault written so far. -/
  fault : Option Fault := none
  /-- Whether a fault has been written. -/
  isFailed : Bool := false

namespace Output

/-- Writes one entry. A fault is kept unless there is one already. -/
def write (out : Output) (entry : Transcript.Entry) : Output where
  console? := out.console?
  text := out.text ++ entry.render out.console? out.isFailed ++ "\n"
  lines := out.lines + 1
  fault := out.fault.or entry.fault?
  isFailed := out.isFailed || entry.fault?.isSome

/-- Writes entries in turn. -/
def writeAll (out : Output) (entries : List Transcript.Entry) : Output :=
  entries.foldl write out

/-- The verdict on what has been written. -/
def report (out : Output) : Report where
  success := !out.fault.isSome
  transcript := out.text
  fault := out.fault

@[simp] theorem write_console? (out : Output) (entry : Transcript.Entry) :
    (out.write entry).console? = out.console? := rfl

@[simp] theorem write_lines (out : Output) (entry : Transcript.Entry) :
    (out.write entry).lines = out.lines + 1 := rfl

@[simp] theorem write_fault (out : Output) (entry : Transcript.Entry) :
    (out.write entry).fault = out.fault.or entry.fault? := rfl

@[simp] theorem write_isFailed (out : Output) (entry : Transcript.Entry) :
    (out.write entry).isFailed = (out.isFailed || entry.fault?.isSome) := rfl

end Output

end Storyline

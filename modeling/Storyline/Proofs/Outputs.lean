import Storyline.Proofs.Painting

/-!
# What an output keeps

Whatever is written to an output, and in whatever order, it counts its entries, it keeps the first
fault and knows that there is one, and its transcript has one line for each entry, in their order
(`Output.keeps_writeAll`). A line depends on its entry and on the console that it is painted for.
Headers, steps and raw lines also depend on whether a fault came before: then the line is painted
dim as a whole (`Transcript.Entry.isRendered`).
-/

namespace Storyline

namespace Transcript

/-- How a fault makes a difference to the entries behind it. -/
structure Entry.IsRendered (console? : Option Console) : Prop where
  /-- An entry that fades is shown dim as a whole, -/
  dim : ∀ console, console? = some console → ∀ entry : Entry, entry.fades = true →
    entry.plain ≠ "" → entry.render console? true = console.apply [.dim] entry.plain
  /-- which in a terminal are these codes around the plain line. -/
  codes : ∀ console, console? = some console → console.IsAnsi → ∀ entry : Entry,
    entry.fades = true → entry.plain ≠ "" →
      entry.render console? true = "\x1b[2m" ++ entry.plain ++ "\x1b[0m"
  /-- It stays plain if it is empty, or if there is no console. -/
  bare : ∀ entry : Entry, entry.fades = true → console? = none ∨ entry.plain = "" →
    entry.render console? true = entry.plain
  /-- The tone of a raw line does not show any more. -/
  toneless : ∀ text tone, (raw text tone).plain = text ∧
    (raw text tone).render console? true = (raw text .plain).render console? true
  /-- All other entries look the same behind a fault. -/
  steady : ∀ entry : Entry, entry.fades = false → ∀ failed,
    entry.render console? failed = entry.render console? false

theorem Entry.isRendered (console? : Option Console) : IsRendered console? where
  dim := by
    rintro console rfl entry faded something
    have shown : entry.plain.isEmpty = false := by simpa using something
    rw [render_true_of_fades _ faded, Style.paint]
    simp [shown, Style.attributes]
  codes := by
    rintro console rfl ansi entry faded something
    rw [render_true_of_fades _ faded, Style.paint_of_ne ansi .dim something]
    rfl
  bare := by
    intro entry faded nothing
    rw [render_true_of_fades _ faded]
    rcases nothing with rfl | empty
    · rfl
    · rw [empty]
      cases console? <;> rfl
  toneless text tone := ⟨plain_raw text tone, rfl⟩
  steady entry steady _ := by
    cases entry with
    | header | step | raw => cases steady
    | note | fault => rfl

/-- The lines of a transcript. The entries above a line only matter by whether there is a fault
among them. -/
theorem joined_renderings (console? : Option Console) (entries : List Entry) :
    joined (renderings console? false entries) =
      String.join (entries.mapIdx fun k entry =>
        entry.render console? ((entries.take k).any (·.fault?.isSome)) ++ "\n") := by
  rw [joined]
  congr 1
  apply List.ext_getElem?
  intro k
  rw [List.getElem?_map, getElem?_renderings, List.getElem?_mapIdx, Option.map_map]
  simp only [Bool.false_or]
  rfl

end Transcript

open Transcript (Entry)

namespace Output

theorem lines_writeAll (out : Output) (entries : List Entry) :
    (out.writeAll entries).lines = out.lines + entries.length := by
  induction entries generalizing out with
  | nil => rfl
  | cons entry entries ih =>
      have written : (out.writeAll (entry :: entries)).lines =
          ((out.write entry).writeAll entries).lines := rfl
      rw [written, ih, write_lines, List.length_cons]
      omega

/-- What an output keeps of the entries that have been written to it. -/
structure Keeps (console? : Option Console) (entries : List Entry) (out : Output) : Prop where
  /-- It has counted them. -/
  lines : out.lines = entries.length
  /-- It knows whether there is a fault among them. -/
  failed : out.isFailed = true ↔ ∃ entry ∈ entries, entry.fault?.isSome = true
  /-- The verdict is a success if there is none. -/
  success : out.report.success = true ↔ ∀ entry ∈ entries, entry.fault? = none
  /-- Otherwise it names the first one. -/
  fault : out.report.fault = entries.findSome? Entry.fault?
  /-- The transcript has a line for each of them, with a line feed behind it. -/
  transcript : out.report.transcript =
    String.join (entries.mapIdx fun k entry =>
      entry.render console? ((entries.take k).any (·.fault?.isSome)) ++ "\n")

/-- A fresh output keeps the first fault that is written to it, -/
theorem fault_fresh (console? : Option Console) (entries : List Entry) :
    (({ console? } : Output).writeAll entries).fault = entries.findSome? Entry.fault? := by
  rw [fault_writeAll, Option.none_or, List.head?_filterMap]

/-- and it knows of it. -/
theorem isFailed_fresh (console? : Option Console) (entries : List Entry) :
    (({ console? } : Output).writeAll entries).isFailed =
      (entries.findSome? Entry.fault?).isSome := by
  rw [(agrees_fresh console?).writeAll entries, fault_fresh]

/-- **An output keeps account of what is written.** It keeps what there is to keep of any entries,
whatever the coloring and the console, and only headers, steps and raw lines show that a fault came
before. -/
theorem keeps_writeAll (coloring : Coloring) (console : Console) (entries : List Entry) :
    Keeps (coloring.on console) entries
        (({ console? := coloring.on console } : Output).writeAll entries) ∧
      Entry.IsRendered (coloring.on console) := by
  generalize coloring.on console = console?
  refine ⟨⟨?_, ?_, ?_, fault_fresh console? entries, ?_⟩, Entry.isRendered console?⟩
  · rw [lines_writeAll]
    exact Nat.zero_add _
  · rw [isFailed_fresh, List.findSome?_isSome_iff]
  · rw [report, fault_fresh, Bool.not_eq_true', Option.isSome_eq_false_iff,
      Option.isNone_iff_eq_none, List.findSome?_eq_none_iff]
  · have written := text_renderings { console? } entries
    rw [Transcript.joined_renderings] at written
    exact written.trans String.empty_append

/-- Two lines of tags, with a check between them that is declined. -/
def taggedEntries : List Entry :=
  [.raw "@a" .tag, .fault "  " (.declined "c"), .raw "@b" .tag, .raw "" .plain, .note "" "n"]

theorem keeps_writeAll_dimmed :
    (({ console? := Coloring.always.on (.ansi false) } : Output).writeAll taggedEntries).report =
        { success := false
          transcript := "\x1b[36m@a\x1b[0m\n" ++
            "  \x1b[31m^^^^^^ Not confirmed: c ^^^^^^\x1b[0m\n" ++
            "\x1b[2m@b\x1b[0m\n" ++
            "\n" ++
            "  \x1b[2m\x1b[3mn\x1b[0m\n"
          fault := some (.declined "c") } ∧
      ∀ tone, (Entry.raw "@b" tone).render (Coloring.always.on (.ansi false)) true =
        "\x1b[2m@b\x1b[0m" := by
  obtain ⟨keeps, rendered⟩ := keeps_writeAll .always (.ansi false) taggedEntries
  have fault := keeps.fault
  have transcript := keeps.transcript
  have failed : ¬ ∀ entry ∈ taggedEntries, entry.fault? = none := by decide
  have success := mt keeps.success.mp failed
  constructor
  · generalize Output.report _ = report at fault transcript success ⊢
    obtain ⟨_, _, _⟩ := report
    simp only [Bool.not_eq_true] at success fault transcript
    rw [success, fault, transcript]
    decide +kernel
  · intro tone
    obtain ⟨plain, -⟩ := rendered.toneless "@b" tone
    rw [rendered.codes _ rfl (Console.isAnsi_ansi false) _ rfl (by rw [plain]; decide), plain]
    rfl

end Output

end Storyline

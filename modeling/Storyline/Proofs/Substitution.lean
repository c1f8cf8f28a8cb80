import Storyline.Proofs.Characters
import Storyline.Proofs.Occurrences

/-!
# Substitution

`Placeholder.substitute` goes over a text character by character. Seen as a whole, the text is cut
into its placeholders, and each placeholder whose name stands over a cell of the row becomes that
cell; everything else is kept (`Placeholder.IsFilled`). What is put in is not looked at again, since
only the text itself is cut.

A name that goes across lines is the name of no column of an examples table. So such a table
fills a text line by line, and a doc-string as well.
-/

namespace Storyline

namespace Placeholder

/-- Whether a column is the one with this name: the first one, where a header repeats itself. -/
structure IsColumn (header : List String) (name : List Char) (column : Nat) : Prop where
  named : header[column]? = some (String.ofList name)
  first : ∀ earlier < column, header[earlier]? ≠ some (String.ofList name)

/-- Whether a part of a text becomes this in a row below a header. -/
inductive Part.Becomes (header row : List String) : Part → List Char → Prop where
  | char (c : Char) : Becomes header row (.char c) [c]
  /-- A placeholder becomes the cell in the column with its name. -/
  | cell {name : List Char} {column : Nat} {value : String}
      (isColumn : IsColumn header name column) (here : row[column]? = some value) :
      Becomes header row (.placeholder name) value.toList
  /-- A placeholder stays where there is no such column, or the row is too short for it. -/
  | itself {name : List Char}
      (missing : ∀ column, IsColumn header name column → row[column]? = none) :
      Becomes header row (.placeholder name) (bracketed name)

/-- Whether a text is filled in from a row below a header: its parts are taken one by one. -/
def IsFilled (header row : List String) (text result : String) : Prop :=
  ∃ parts fillings, IsCut text.toList parts ∧
    List.Forall₂ (Part.Becomes header row) parts fillings ∧ result.toList = fillings.flatten

variable {header row : List String} {name : List Char} {column : Nat}

/-! ## Cells -/

/-- The value of a name in a row below a header. -/
def valueIn? (header row : List String) (name : List Char) : Option (List Char) :=
  (cell? header row (String.ofList name)).map String.toList

theorem toList_substitute (header row : List String) (text : String) :
    (substitute header row text).toList =
      (parts text.toList).flatMap (Part.filled (valueIn? header row)) := by
  rw [substitute, String.toList_ofList]
  exact scan_eq_flatMap (valueIn? header row) none text.toList

/-- The header is searched for the column with the name. -/
theorem findIdx?_eq_some_iff :
    header.findIdx? (· == String.ofList name) = some column ↔ IsColumn header name column := by
  rw [List.findIdx?_eq_some_iff_getElem]
  constructor
  · rintro ⟨inside, named, first⟩
    refine ⟨?_, fun earlier before named => ?_⟩
    · rw [List.getElem?_eq_getElem inside, beq_iff_eq.mp named]
    · obtain ⟨inside, same⟩ := List.getElem?_eq_some_iff.mp named
      exact first earlier before (beq_iff_eq.mpr same)
  · rintro ⟨named, first⟩
    obtain ⟨inside, same⟩ := List.getElem?_eq_some_iff.mp named
    refine ⟨inside, beq_iff_eq.mpr same, fun earlier before named => ?_⟩
    apply first earlier before
    rw [List.getElem?_eq_getElem (before.trans inside), beq_iff_eq.mp named]

theorem cell?_eq_some_iff {value : String} :
    cell? header row (String.ofList name) = some value ↔
      ∃ column, IsColumn header name column ∧ row[column]? = some value := by
  rw [cell?, Option.bind_eq_some_iff]
  simp only [findIdx?_eq_some_iff]

theorem cell?_eq_none_iff :
    cell? header row (String.ofList name) = none ↔
      ∀ column, IsColumn header name column → row[column]? = none := by
  simp only [Option.eq_none_iff_forall_ne_some, ne_eq, cell?_eq_some_iff, not_exists, not_and]
  exact forall_comm.trans (forall_congr' fun _ => forall_comm)

/-- A part becomes what it is filled with, and nothing else. -/
theorem Part.becomes_iff {part : Part} {filling : List Char} :
    part.Becomes header row filling ↔ part.filled (valueIn? header row) = filling := by
  cases part with
  | char c =>
      constructor
      · rintro ⟨⟩
        rfl
      · rintro rfl
        exact .char c
  | placeholder name =>
      rw [filled, valueIn?]
      cases cell : cell? header row (String.ofList name) with
      | none =>
          have missing := cell?_eq_none_iff.mp cell
          constructor
          · rintro (_ | ⟨isColumn, here⟩ | _)
            · rw [missing _ isColumn] at here
              cases here
            · rfl
          · rintro rfl
            exact .itself missing
      | some value =>
          obtain ⟨column, isColumn, here⟩ := cell?_eq_some_iff.mp cell
          constructor
          · rintro (_ | ⟨isColumn', here'⟩ | missing)
            · have again := cell?_eq_some_iff.mpr ⟨_, isColumn', here'⟩
              rw [cell] at again
              cases again
              rfl
            · rw [missing column isColumn] at here
              cases here
          · rintro rfl
            exact .cell isColumn here

/-- The substitution gives the text filled in, and no other text is the text filled in. -/
theorem substitute_eq_iff {text result : String} :
    substitute header row text = result ↔ IsFilled header row text result := by
  -- What becomes of the parts is what they are filled with.
  have fillings_iff (parts : List Part) (fillings : List (List Char)) :
      List.Forall₂ (Part.Becomes header row) parts fillings ↔
        parts.map (Part.filled (valueIn? header row)) = fillings := by
    rw [← List.forall₂_eq_eq_eq, List.forall₂_map_left_iff]
    simp only [← Part.becomes_iff]
  rw [← String.toList_inj, toList_substitute]
  constructor
  · intro same
    exact ⟨parts text.toList, _, isCut_parts _, (fillings_iff _ _).mpr rfl, same.symm⟩
  · rintro ⟨cut, fillings, isCut, becomes, same⟩
    rw [same, ← (fillings_iff _ _).mp becomes, (isCut_parts _).unique isCut]
    rfl

/-! ## Lines -/

section Lines

variable {value? : List Char → Option (List Char)} {name : List Char}

/-- What is held back with a line feed in it comes out as it is. -/
theorem scan_broken (kept : ∀ name, '\n' ∈ name → value? name = none) (broken : '\n' ∈ name)
    (text : List Char) :
    scan value? (some name) text = '<' :: (name.reverse ++ scan value? none text) := by
  induction text generalizing name with
  | nil => rw [scan, scan, List.append_nil]
  | cons c text ih =>
      rw [scan, scan]
      split
      · rfl
      split
      · rename_i closes
        have itself : filled value? name.reverse = bracketed name.reverse := by
          rw [filled, kept _ (List.mem_reverse.mpr broken)]
          exact ite_self _
        rw [itself, bracketed, closes]
        simp
      · rw [ih (List.mem_cons_of_mem c broken), List.reverse_cons, List.append_assoc]
        rfl

/-- A line feed is scanned over: what is in front of it and what is behind it are scanned each on
its own. -/
theorem scan_append_feed (kept : ∀ name, '\n' ∈ name → value? name = none)
    (pending : Option (List Char)) (text rest : List Char) :
    scan value? pending (text ++ '\n' :: rest) =
      scan value? pending text ++ '\n' :: scan value? none rest := by
  induction text generalizing pending with
  | nil =>
      cases pending with
      | none =>
          rw [List.nil_append, scan, scan, if_neg (by decide)]
          rfl
      | some name =>
          rw [List.nil_append, scan, scan, if_neg (by decide), if_neg (by decide),
            scan_broken kept List.mem_cons_self, List.reverse_cons, List.append_assoc]
          rfl
  | cons c text ih =>
      cases pending with
      | none =>
          rw [List.cons_append, scan, scan, ih, ih]
          split <;> rfl
      | some name =>
          rw [List.cons_append, scan, scan, ih, ih, ih]
          split
          · rw [List.cons_append, List.append_assoc]
          split
          · rw [List.append_assoc]
          · rfl

/-- No column has a name that goes across lines, if no cell of the header does. -/
theorem valueIn?_broken (unbroken : ∀ cell ∈ header, '\n' ∉ cell.toList) (broken : '\n' ∈ name) :
    valueIn? header row name = none := by
  rw [valueIn?, Option.map_eq_none_iff, cell?_eq_none_iff]
  intro column isColumn
  refine absurd ?_ (unbroken _ (List.mem_of_getElem? isColumn.named))
  rwa [String.toList_ofList]

/-- Lines are filled one by one. -/
theorem substitute_joinLines (unbroken : ∀ cell ∈ header, '\n' ∉ cell.toList)
    (lines : List String) :
    substitute header row (Text.joinLines lines) =
      Text.joinLines (lines.map (substitute header row)) := by
  have feed (first rest : String) :
      substitute header row (first ++ "\n" ++ rest) =
        substitute header row first ++ "\n" ++ substitute header row rest := by
    rw [← String.toList_inj]
    simp only [substitute, String.toList_append, String.toList_ofList, List.append_assoc]
    exact scan_append_feed (fun _ => valueIn?_broken unbroken) none first.toList rest.toList
  induction lines with
  | nil => rfl
  | cons first lines ih =>
      cases lines with
      | nil => simp only [Text.joinLines, List.map_cons, List.map_nil, String.intercalate_singleton]
      | cons next lines =>
          simp only [Text.joinLines, List.map_cons, String.intercalate_cons_cons] at ih ⊢
          rw [feed, ih]

end Lines

end Placeholder

/-! ## Doc-strings -/

namespace Statement

/-- The lines of the first attached doc-string, if there is one. -/
def docLines (s : Statement) : Option (List String) :=
  (openDocString s.extras).map fun (opening, rest) =>
    (rest.takeWhile (·.kind ≠ .docString)).map (withoutMargin opening.indent.length)

theorem docString_eq (s : Statement) : s.docString = s.docLines.map Text.joinLines := by
  rw [docString, docLines, Option.map_map]
  rfl

/-- The doc-string of a statement is filled line by line, if texts are. -/
theorem docString_filled {fill : String → String}
    (linewise : ∀ lines, fill (Text.joinLines lines) = Text.joinLines (lines.map fill))
    (s : Statement) :
    (s.filled fill).docString = s.docLines.map fun lines => Text.joinLines (lines.map fill) := by
  have given : (s.filled fill).docString = s.docString.map fill := rfl
  rw [given, docString_eq, Option.map_map]
  exact congrArg (s.docLines.map ·) (funext linewise)

end Statement

namespace Script

variable {s : Statement}

/-- No cell of an attached table goes across lines. -/
theorem unbroken_header {v : Vocabulary} {source : String} {t : Table}
    (here : s ∈ parse v source) (table : s.table = some t) :
    ∀ cell ∈ t.header.getD [], '\n' ∉ cell.toList := by
  intro cell among feed
  cases header : t.header with
  | none =>
      rw [header] at among
      cases among
  | some names =>
      rw [header] at among
      have row : names ∈ t.rows := List.mem_of_mem_head? header
      exact (unbroken_parse v source).table here table row among _ feed rfl

/-- A row of examples fills texts line by line. -/
theorem fill_joinLines {v : Vocabulary} {source : String} {fill : String → String}
    (here : s ∈ parse v source) (row : fill ∈ s.fills) (lines : List String) :
    fill (Text.joinLines lines) = Text.joinLines (lines.map fill) := by
  rw [Statement.fills] at row
  split at row
  · cases row
  · rename_i t table
    obtain ⟨cells, -, rfl⟩ := List.mem_map.mp row
    exact Placeholder.substitute_joinLines (unbroken_header here table) lines

end Script

namespace Placeholder

/-- What substitution is. -/
structure SubstitutionLaws : Prop where
  /-- The text is cut into its placeholders, and each becomes the cell of its column or stays. -/
  filled : ∀ header row text result,
    substitute header row text = result ↔ IsFilled header row text result
  /-- Placeholders never overlap. -/
  disjoint : ∀ text name name' i j, OccursAt text i name → OccursAt text j name' → i < j →
    i + (bracketed name).length ≤ j
  /-- Lines are filled one by one, if no name of the header goes across lines. -/
  linewise : ∀ header row lines, (∀ cell ∈ header, '\n' ∉ cell.toList) →
    substitute header row (Text.joinLines lines) =
      Text.joinLines (lines.map (substitute header row))
  /-- In the tables of a script no name does. -/
  unbroken : ∀ v source, ∀ s ∈ Script.parse v source, ∀ t, s.table = some t →
    ∀ cell ∈ t.header.getD [], '\n' ∉ cell.toList
  /-- So the rows of a script fill doc-strings line by line. -/
  docStrings : ∀ v source, ∀ s ∈ Script.parse v source, ∀ fill ∈ s.fills,
    ∀ attached : Statement, (attached.filled fill).docString =
      attached.docLines.map fun lines => Text.joinLines (lines.map fill)

/-- **Substitution goes by the placeholders of a text.** -/
theorem substitute_spec : SubstitutionLaws where
  filled _ _ _ _ := substitute_eq_iff
  disjoint _ _ _ _ _ first second := first.le_of_lt second
  linewise _ _ lines unbroken := substitute_joinLines unbroken lines
  unbroken _ _ _ here _ table := Script.unbroken_header here table
  docStrings _ _ _ here _ row attached := attached.docString_filled (Script.fill_joinLines here row)

/-- A bracket that is closed on the next line hides no placeholder. -/
theorem substitute_across_lines :
    (∀ cell ∈ ["n"], '\n' ∉ cell.toList) ∧
      substitute ["n"] ["1"] (Text.joinLines ["<n", "> <n>"]) =
        Text.joinLines (["<n", "> <n>"].map (substitute ["n"] ["1"])) ∧
      ["<n", "> <n>"].map (substitute ["n"] ["1"]) = ["<n", "> 1"] :=
  ⟨by decide, substitute_spec.linewise ["n"] ["1"] ["<n", "> <n>"] (by decide), by decide +kernel⟩

end Placeholder

end Storyline

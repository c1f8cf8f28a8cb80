import Mathlib.Data.List.Forall2
import Storyline.Placeholder

/-!
# Placeholders in a text

What a placeholder is can be said without scanning: a bracketed name that stands somewhere in the
text (`Placeholder.OccursAt`). No two of them overlap, so a text falls into its placeholders and the
characters around them, in one way only (`Placeholder.IsCut`). The scanner finds exactly these
parts, and filling a text is filling its parts one by one (`Placeholder.scan_eq_flatMap`).
-/

namespace Storyline.Placeholder

/-- Whether a placeholder may have this name. -/
structure IsName (name : List Char) : Prop where
  nonempty : name ≠ []
  unbracketed : ∀ c ∈ name, c ≠ '<' ∧ c ≠ '>'

/-- Whether a placeholder with this name begins at an index of a text. -/
structure OccursAt (text : List Char) (index : Nat) (name : List Char) : Prop where
  isName : IsName name
  here : bracketed name <+: text.drop index

/-- A part of a text. -/
inductive Part where
  /-- A character that belongs to no placeholder. -/
  | char (c : Char)
  /-- A placeholder with this name. -/
  | placeholder (name : List Char)
  deriving DecidableEq

namespace Part

/-- A part as it stands in the text. -/
def text : Part → List Char
  | char c => [c]
  | placeholder name => bracketed name

/-- What is put in place of a part. -/
def filled (value? : List Char → Option (List Char)) : Part → List Char
  | char c => [c]
  | placeholder name => (value? name).getD (bracketed name)

end Part

/-- Whether a text is cut into its placeholders and its other characters. -/
structure IsCut (text : List Char) (parts : List Part) : Prop where
  whole : parts.flatMap Part.text = text
  /-- The placeholders among the parts are those of the text, each at its place. -/
  every : ∀ index name, OccursAt text index name ↔
    ∃ before after, parts = before ++ .placeholder name :: after ∧
      (before.flatMap Part.text).length = index

/-- The parts of a bracketed name. -/
def closed (name : List Char) : List Part :=
  if name.isEmpty then (bracketed name).map .char else [.placeholder name]

/-- The parts of a text behind what is pending, as it is when the text is scanned. -/
def partsFrom : (pending : Option (List Char)) → List Char → List Part
  | none, [] => []
  | some name, [] => ('<' :: name.reverse).map .char
  | none, c :: rest => if c = '<' then partsFrom (some []) rest else .char c :: partsFrom none rest
  | some name, c :: rest =>
      if c = '<' then ('<' :: name.reverse).map .char ++ partsFrom (some []) rest
      else if c = '>' then closed name.reverse ++ partsFrom none rest
      else partsFrom (some (c :: name)) rest

/-- The parts of a text. -/
def parts (text : List Char) : List Part := partsFrom none text

variable {value? : List Char → Option (List Char)} {name name' text front rest : List Char}
  {pending : Option (List Char)}

/-! ## Filling part by part -/

theorem flatMap_chars {f : Part → List Char} (kept : ∀ c, f (.char c) = [c]) (text : List Char) :
    (text.map Part.char).flatMap f = text := by
  rw [List.flatMap_map]
  simp only [kept]
  exact List.flatMap_singleton' text

theorem filled_eq_flatMap (value? : List Char → Option (List Char)) (name : List Char) :
    filled value? name = (closed name).flatMap (Part.filled value?) := by
  rw [filled, closed]
  split
  · exact (flatMap_chars (fun _ => rfl) _).symm
  · exact (List.append_nil _).symm

/-- Scanning a text fills its parts one by one. -/
theorem scan_eq_flatMap (value? : List Char → Option (List Char)) (pending : Option (List Char))
    (text : List Char) :
    scan value? pending text = (partsFrom pending text).flatMap (Part.filled value?) := by
  have chars (text : List Char) : (text.map Part.char).flatMap (Part.filled value?) = text :=
    flatMap_chars (fun _ => rfl) text
  induction text generalizing pending with
  | nil =>
      cases pending with
      | none => rfl
      | some name => exact (chars ('<' :: name.reverse)).symm
  | cons c text ih =>
      cases pending with
      | none =>
          rw [scan, partsFrom]
          split
          · exact ih (some [])
          · exact congrArg (c :: ·) (ih none)
      | some name =>
          rw [scan, partsFrom]
          split
          · rw [List.flatMap_append, chars, ih]
            rfl
          split
          · rw [List.flatMap_append, filled_eq_flatMap, ih]
          · exact ih (some (c :: name))

/-- Where nothing has a value every text stays as it is. -/
theorem scan_none (pending : Option (List Char)) (text : List Char) :
    scan (fun _ => none) pending text =
      (pending.elim [] fun name => '<' :: name.reverse) ++ text := by
  induction text generalizing pending with
  | nil => cases pending <;> simp [scan]
  | cons c text ih =>
      cases pending with
      | none =>
          rw [scan]
          split
          · rename_i opens
            rw [ih, opens]
            rfl
          · rw [ih]
            rfl
      | some name =>
          rw [scan]
          split
          · rename_i opens
            rw [ih, opens]
            rfl
          split
          · rename_i closes
            have itself : filled (fun _ => none) name.reverse = bracketed name.reverse := by
              rw [filled]
              split <;> rfl
            rw [itself, ih, closes]
            simp [bracketed]
          · rw [ih]
            simp

theorem flatMap_text (text : List Char) : (parts text).flatMap Part.text = text := by
  have itself : Part.text = Part.filled fun _ => none := by
    funext part
    cases part <;> rfl
  rw [itself, parts, ← scan_eq_flatMap, scan_none]
  rfl

/-! ## The parts are the placeholders -/

/-- A placeholder that is found has a name. -/
theorem isName_of_mem (held : ∀ name, pending = some name → ∀ c ∈ name, c ≠ '<' ∧ c ≠ '>')
    (found : .placeholder name ∈ partsFrom pending text) : IsName name := by
  have no_char {text : List Char} : .placeholder name ∉ text.map Part.char := by
    intro among
    obtain ⟨_, _, same⟩ := List.mem_map.mp among
    cases same
  -- By induction on the text. What is pending grows with it, so it is taken along.
  induction text generalizing pending with
  | nil =>
      cases pending with
      | none => cases found
      | some held_name => exact absurd found no_char
  | cons c text ih =>
      have fresh : ∀ name, some [] = some name → ∀ c ∈ name, c ≠ '<' ∧ c ≠ '>' := by
        rintro _ ⟨rfl⟩
        exact List.forall_mem_nil _
      cases pending with
      | none =>
          rw [partsFrom] at found
          split at found
          · exact ih fresh found
          · rcases List.mem_cons.mp found with same | later
            · cases same
            · exact ih (by nofun) later
      | some held_name =>
          have unbracketed := held held_name rfl
          rw [partsFrom] at found
          split at found
          · rcases List.mem_append.mp found with flushed | later
            · exact absurd flushed no_char
            · exact ih fresh later
          rename_i not_open
          split at found
          · rcases List.mem_append.mp found with here | later
            · rw [closed] at here
              split at here
              · exact absurd here no_char
              · rename_i nonempty
                cases List.mem_singleton.mp here
                refine ⟨by simpa using nonempty, fun c hc => unbracketed c ?_⟩
                exact List.mem_reverse.mp hc
            · exact ih (by nofun) later
          · rename_i not_close
            apply ih _ found
            rintro _ ⟨rfl⟩
            exact List.forall_mem_cons.mpr ⟨⟨not_open, not_close⟩, unbracketed⟩

theorem isName_of_mem_parts (found : .placeholder name ∈ parts text) : IsName name :=
  isName_of_mem (by nofun) found

/-- An opening bracket gives up what is pending. -/
theorem partsFrom_append_open (pending : Option (List Char)) (front rest : List Char) :
    partsFrom pending (front ++ '<' :: rest) =
      partsFrom pending front ++ partsFrom none ('<' :: rest) := by
  have opened : partsFrom none ('<' :: rest) = partsFrom (some []) rest := by
    rw [partsFrom, if_pos rfl]
  rw [opened]
  induction front generalizing pending with
  | nil =>
      cases pending with
      | none => exact opened
      | some name =>
          have flushed : partsFrom (some name) ('<' :: rest) =
              ('<' :: name.reverse).map .char ++ partsFrom (some []) rest := by
            rw [partsFrom, if_pos rfl]
          exact flushed
  | cons c front ih =>
      cases pending with
      | none =>
          rw [List.cons_append, partsFrom, partsFrom, ih, ih]
          split <;> rfl
      | some name =>
          rw [List.cons_append, partsFrom, partsFrom, ih, ih, ih]
          split
          · rw [List.append_assoc]
          split
          · rw [List.append_assoc]
          · rfl

theorem partsFrom_name (unbracketed : ∀ c ∈ name, c ≠ '<' ∧ c ≠ '>') (held rest : List Char) :
    partsFrom (some held) (name ++ '>' :: rest) =
      closed (held.reverse ++ name) ++ partsFrom none rest := by
  induction name generalizing held with
  | nil =>
      rw [List.nil_append, partsFrom, if_neg (by decide), if_pos rfl, List.append_nil]
  | cons c name ih =>
      obtain ⟨⟨not_open, not_close⟩, unbracketed⟩ := List.forall_mem_cons.mp unbracketed
      rw [List.cons_append, partsFrom, if_neg not_open, if_neg not_close, ih unbracketed,
        List.reverse_cons, List.append_assoc]
      rfl

/-- A placeholder is a part wherever it stands. -/
theorem parts_append_bracketed (isName : IsName name) (front rest : List Char) :
    parts (front ++ (bracketed name ++ rest)) =
      parts front ++ .placeholder name :: parts rest := by
  have named : closed name = [.placeholder name] := by
    rw [closed, if_neg]
    simpa using isName.nonempty
  have found : parts (bracketed name ++ rest) = .placeholder name :: parts rest := by
    rw [parts, bracketed, List.cons_append, partsFrom, if_pos rfl, List.append_assoc]
    exact (partsFrom_name isName.unbracketed [] rest).trans (congrArg (· ++ _) named)
  rw [← found]
  exact partsFrom_append_open none front (name ++ ['>'] ++ rest)

theorem parts_cons_bracketed (isName : IsName name) (rest : List Char) :
    parts (bracketed name ++ rest) = .placeholder name :: parts rest :=
  parts_append_bracketed isName [] rest

/-- Where the text ends with another character than a bracket, this is a part of its own. -/
theorem partsFrom_append_char {c : Char} (opens : c ≠ '<') (closes : c ≠ '>')
    (pending : Option (List Char)) (text : List Char) :
    partsFrom pending (text ++ [c]) = partsFrom pending text ++ [.char c] := by
  induction text generalizing pending with
  | nil =>
      cases pending with
      | none =>
          rw [List.nil_append, partsFrom, partsFrom, if_neg opens]
          rfl
      | some name =>
          rw [List.nil_append, partsFrom, partsFrom, if_neg opens, if_neg closes, partsFrom,
            List.reverse_cons, ← List.cons_append, List.map_append]
          rfl
  | cons d text ih =>
      cases pending with
      | none =>
          rw [List.cons_append, partsFrom, partsFrom, ih, ih]
          split <;> rfl
      | some name =>
          rw [List.cons_append, partsFrom, partsFrom, ih, ih, ih]
          split
          · rw [List.append_assoc]
          split
          · rw [List.append_assoc]
          · rfl

/-- Every text is cut into its placeholders and its other characters. -/
theorem isCut_parts (text : List Char) : IsCut text (parts text) where
  whole := flatMap_text text
  every index name := by
    constructor
    · rintro ⟨isName, rest, here⟩
      have inside : index ≤ text.length := by
        by_contra beyond
        rw [List.drop_of_length_le (by omega)] at here
        cases here
      refine ⟨parts (text.take index), parts rest, ?_, ?_⟩
      · rw [← parts_append_bracketed isName, here, List.take_append_drop]
      · rw [flatMap_text, List.length_take, Nat.min_eq_left inside]
    · rintro ⟨before, after, split, rfl⟩
      have found : .placeholder name ∈ parts text := by
        rw [split]
        exact List.mem_append_right _ List.mem_cons_self
      refine ⟨isName_of_mem_parts found, after.flatMap Part.text, ?_⟩
      conv_rhs => rw [← flatMap_text text, split, List.flatMap_append, List.drop_left]
      rfl

/-! ## There is one way to cut -/

theorem Part.text_ne_nil (part : Part) : part.text ≠ [] := by
  cases part <;> exact List.cons_ne_nil _ _

/-- A placeholder stays one when something is put in front of the text. -/
theorem occursAt_append {index : Nat} (front : List Char) :
    OccursAt (front ++ text) (front.length + index) name ↔ OccursAt text index name := by
  have behind : (front ++ text).drop (front.length + index) = text.drop index := by
    rw [← List.drop_drop, List.drop_left]
  constructor
  · intro occurs
    exact ⟨occurs.isName, behind ▸ occurs.here⟩
  · intro occurs
    exact ⟨occurs.isName, behind.symm ▸ occurs.here⟩

/-- What is behind the first part is cut as well. -/
theorem IsCut.tail {part : Part} {rest : List Part} (cut : IsCut text (part :: rest)) :
    IsCut (rest.flatMap Part.text) rest where
  whole := rfl
  every index name := by
    have whole : text = part.text ++ rest.flatMap Part.text := cut.whole.symm
    have longer : 0 < part.text.length := List.length_pos_iff.mpr part.text_ne_nil
    rw [← occursAt_append part.text, ← whole, cut.every]
    constructor
    · rintro ⟨before, after, split, length⟩
      cases before with
      | nil =>
          rw [List.flatMap_nil, List.length_nil] at length
          omega
      | cons first before =>
          rw [List.cons_append, List.cons.injEq] at split
          obtain ⟨rfl, split⟩ := split
          rw [List.flatMap_cons, List.length_append] at length
          exact ⟨before, after, split, by omega⟩
    · rintro ⟨before, after, rfl, rfl⟩
      refine ⟨part :: before, after, rfl, ?_⟩
      rw [List.flatMap_cons, List.length_append]

/-- A placeholder at the beginning is the first part. -/
theorem IsCut.head_of_occursAt {parts : List Part} (cut : IsCut text parts)
    (occurs : OccursAt text 0 name) : parts.head? = some (.placeholder name) := by
  obtain ⟨before, after, rfl, length⟩ := (cut.every 0 name).mp occurs
  cases before with
  | nil => rfl
  | cons first before =>
      rw [List.flatMap_cons, List.length_append] at length
      have longer : 0 < first.text.length := List.length_pos_iff.mpr first.text_ne_nil
      omega

/-- The first part of a cut is a part of every cut. -/
theorem IsCut.head_eq {part part' : Part} {rest rest' : List Part}
    (cut : IsCut text (part :: rest)) (cut' : IsCut text (part' :: rest')) : part = part' := by
  have opening {part : Part} {rest : List Part} {name : List Char}
      (cut : IsCut text (part :: rest)) (same : part = .placeholder name) :
      OccursAt text 0 name :=
    (cut.every 0 name).mpr ⟨[], rest, by rw [same, List.nil_append], rfl⟩
  cases part with
  | placeholder name =>
      exact (Option.some.inj (cut'.head_of_occursAt (opening cut rfl))).symm
  | char c =>
      cases part' with
      | placeholder name => exact Option.some.inj (cut.head_of_occursAt (opening cut' rfl))
      | char d =>
          have first := cut.whole.trans cut'.whole.symm
          exact congrArg Part.char (List.cons.inj first).1

/-- A text is cut in one way only. -/
theorem IsCut.unique {parts parts' : List Part} (cut : IsCut text parts)
    (cut' : IsCut text parts') : parts = parts' := by
  -- By induction on the first cut. The second one loses the same part.
  induction parts generalizing text parts' with
  | nil =>
      cases parts' with
      | nil => rfl
      | cons part' rest' =>
          have nothing := cut'.whole.trans cut.whole.symm
          exact absurd (List.append_eq_nil_iff.mp nothing).1 part'.text_ne_nil
  | cons part rest ih =>
      cases parts' with
      | nil =>
          have nothing := cut.whole.trans cut'.whole.symm
          exact absurd (List.append_eq_nil_iff.mp nothing).1 part.text_ne_nil
      | cons part' rest' =>
          cases cut.head_eq cut'
          have same : rest'.flatMap Part.text = rest.flatMap Part.text :=
            List.append_cancel_left (cut'.whole.trans cut.whole.symm)
          have behind := cut'.tail
          rw [same] at behind
          exact congrArg (part :: ·) (ih cut.tail behind)

/-- A placeholder is over before the next one begins. -/
theorem OccursAt.le_of_lt {i j : Nat} (first : OccursAt text i name)
    (second : OccursAt text j name') (lt : i < j) : i + (bracketed name).length ≤ j := by
  by_contra overlaps
  rw [Nat.not_le] at overlaps
  obtain ⟨after, whole⟩ := first.here
  obtain ⟨rest, opens⟩ := second.here
  obtain ⟨k, rfl⟩ := Nat.exists_eq_add_of_le (Nat.succ_le_of_lt lt)
  -- The second bracket would stand behind the first one, in the name or at its end.
  have bracket : text[i + (k + 1)]? = some '<' := by
    have here : (text.drop (i + 1 + k))[0]? = some '<' := by
      rw [← opens]
      rfl
    rw [List.getElem?_drop] at here
    rwa [show i + (k + 1) = i + 1 + k + 0 by omega]
  have inside : k < (name ++ ['>']).length := by
    rw [bracketed, List.length_cons] at overlaps
    omega
  have among : (name ++ ['>'])[k]? = some '<' := by
    rw [← List.getElem?_drop, ← whole, bracketed, List.cons_append, List.getElem?_cons_succ,
      List.getElem?_append_left inside] at bracket
    exact bracket
  rcases List.mem_append.mp (List.mem_of_getElem? among) with named | closing
  · exact (first.isName.unbracketed _ named).1 rfl
  · cases List.mem_singleton.mp closing

end Storyline.Placeholder

import Storyline.Walk.Cursor

/-!
# The layout of a script

What becomes of a line depends on the lines above it: on the header that it stands below,
on the background and the outline that are in force there, and on the tags. This module
says so for each line by looking at the script itself. Nothing here walks.

Everything is said of a *bound*: the lines with a smaller index are the lines above it.
What holds at line `i`, the line itself included, is what is said of the bound `i + 1`.
-/

namespace Storyline

/-- The header that a recorded block stands below. -/
def Recorded.keyword : Recorded → Keyword
  | background => .background
  | outline => .scenarioOutline

namespace Layout

variable (script : List Statement)

/-- Whether the lines of a background or of an outline end in front of this line. -/
def endsBlock (s : Statement) : Bool := s.isHeader || s.kind = .tag

/-- Whether no block above this line is in force below it. -/
def resets (s : Statement) : Bool := s.kind = .feature || s.kind = .rule

/-- The nearest line above a bound that is wanted, unless the search ends in a nearer one. -/
def nearest (wanted ends : Statement → Bool) : Nat → Option Nat
  | 0 => none
  | bound + 1 =>
      match script[bound]? with
      | none => nearest wanted ends bound
      | some s =>
          if wanted s then some bound
          else if ends s then none
          else nearest wanted ends bound

/-- The last header above a bound. -/
def header? (bound : Nat) : Option Nat := nearest script (·.isHeader) (fun _ => false) bound

/-- The header of the recorded block that is in force: the last one of its kind since the
last feature or rule. -/
def inForce? (block : Recorded) (bound : Nat) : Option Nat :=
  nearest script (·.kind = block.keyword) resets bound

/-- The lines of the block below a header, up to the first header or line of tags. -/
def blockBelow (header : Nat) : List Statement :=
  (script.drop (header + 1)).takeWhile fun s => !endsBlock s

/-- The lines of the recorded block that is in force. -/
def lines (block : Recorded) (bound : Nat) : List Statement :=
  match inForce? script block bound with
  | none => []
  | some header => blockBelow script header

/-- The lines between a header and the next one. -/
def linesBelow (header : Nat) : List Statement :=
  (script.drop (header + 1)).takeWhile fun s => !s.isHeader

/-- The indices of the lines of the recorded block that is in force. -/
def indices (block : Recorded) (bound : Nat) : List Nat :=
  match inForce? script block bound with
  | none => []
  | some header => List.range' (header + 1) (blockBelow script header).length

/-- The range of the recorded block that is in force. -/
def range (block : Recorded) (bound : Nat) : Range :=
  match inForce? script block bound with
  | none => {}
  | some header => { start := header + 1, length := (blockBelow script header).length }

/-- The bodies of the tag lines between a bound and the last header above it. -/
def tagsAbove : Nat → List String
  | 0 => []
  | bound + 1 =>
      match script[bound]? with
      | none => tagsAbove bound
      | some s =>
          if s.isHeader then []
          else if s.kind = .tag then tagsAbove bound ++ [s.body]
          else tagsAbove bound

/-- The tags that belong to a header: those of the tag lines right above it. -/
def tagsOf : Option Nat → String
  | none => ""
  | some header => String.intercalate " " (tagsAbove script header)

/-- The category of a line. -/
def kind? (index : Nat) : Option Keyword := script[index]?.map (·.kind)

/-- The tags of the block below a header. Examples have those of their outline as well, and
a background has none. -/
def blockTags (header : Nat) : String :=
  match kind? script header with
  | some .scenario | some .scenarioOutline => tagsOf script (some header)
  | some .examples =>
      tagsOf script (inForce? script .outline header) ++ " " ++ tagsOf script (some header)
  | _ => ""

/-- The tags in force below a bound. -/
def tags (bound : Nat) : Tags where
  pending := tagsAbove script bound
  feature := tagsOf script (nearest script (·.kind = .feature) (fun _ => false) bound)
  rule := tagsOf script (nearest script (·.kind = .rule) (·.kind = .feature) bound)
  block := ((header? script bound).map (blockTags script)).getD ""
  outline := tagsOf script (inForce? script .outline bound)

/-- Whether the label lets a line through. -/
def eligible (label : Label) (index : Nat) : Bool :=
  label.admits (tags script (index + 1)).inForce

/-- The kind of block that the lines below a bound are in, if they are no headers. -/
def block (bound : Nat) : Block :=
  match (header? script bound).bind (kind? script) with
  | some .scenario => .scenario
  | some .background => .background
  | some .scenarioOutline => .outline
  | _ => .feature

variable {script}

section Nearest

variable {wanted ends : Statement → Bool} {bound : Nat} {s : Statement}

theorem nearest_succ (h : script[bound]? = some s) :
    nearest script wanted ends (bound + 1) =
      if wanted s then some bound
      else if ends s then none
      else nearest script wanted ends bound := by
  simp only [nearest, h]

/-- The nearest wanted line is above the bound, and no line in between is wanted or ends
the search. -/
theorem nearest_eq_some {j : Nat} (h : nearest script wanted ends bound = some j) :
    j < bound ∧ (∃ s, script[j]? = some s ∧ wanted s = true) ∧
      ∀ k t, j < k → k < bound → script[k]? = some t → wanted t = false ∧ ends t = false := by
  induction bound with
  | zero => cases h
  | succ bound ih =>
      cases hs : script[bound]? with
      | none =>
          simp only [nearest, hs] at h
          obtain ⟨hlt, hj, hbetween⟩ := ih h
          refine ⟨by omega, hj, fun k t hk hk' ht => ?_⟩
          rcases Nat.lt_succ_iff_lt_or_eq.mp hk' with hk' | rfl
          · exact hbetween k t hk hk' ht
          · rw [hs] at ht
            cases ht
      | some s =>
          rw [nearest_succ hs] at h
          by_cases hwanted : wanted s = true
          · rw [if_pos hwanted] at h
            cases h
            exact ⟨Nat.lt_succ_self _, ⟨s, hs, hwanted⟩, fun k _ hk hk' _ => by omega⟩
          · rw [if_neg hwanted] at h
            by_cases hends : ends s = true
            · rw [if_pos hends] at h
              cases h
            · rw [if_neg hends] at h
              obtain ⟨hlt, hj, hbetween⟩ := ih h
              refine ⟨by omega, hj, fun k t hk hk' ht => ?_⟩
              rcases Nat.lt_succ_iff_lt_or_eq.mp hk' with hk' | rfl
              · exact hbetween k t hk hk' ht
              · rw [hs] at ht
                cases ht
                exact ⟨by simpa using hwanted, by simpa using hends⟩

end Nearest

/-- The lines below a header reach down to the first line that ends them. -/
theorem length_blockBelow {header bound : Nat} (hlt : header < bound)
    (hle : bound ≤ script.length)
    (between : ∀ k t, header < k → k < bound → script[k]? = some t → endsBlock t = false)
    (ends : ∀ s, script[bound]? = some s → endsBlock s = true) :
    (blockBelow script header).length = bound - (header + 1) := by
  have split : script.drop (header + 1) =
      (script.drop (header + 1)).take (bound - (header + 1)) ++ script.drop bound := by
    have rest : script.drop bound =
        (script.drop (header + 1)).drop (bound - (header + 1)) := by
      rw [List.drop_drop]
      congr 1
      omega
    rw [rest, List.take_append_drop]
  have inside : ∀ t ∈ (script.drop (header + 1)).take (bound - (header + 1)),
      (!endsBlock t) = true := by
    intro t ht
    obtain ⟨k, hk⟩ := List.mem_iff_getElem?.mp ht
    rw [List.getElem?_take] at hk
    split at hk
    · rw [List.getElem?_drop] at hk
      rw [between (header + 1 + k) t (by omega) (by omega) hk]
      rfl
    · cases hk
  have below : (script.drop bound).takeWhile (fun s => !endsBlock s) = [] := by
    cases hs : script[bound]? with
    | none =>
        rw [List.getElem?_eq_none_iff] at hs
        rw [List.drop_of_length_le hs, List.takeWhile_nil]
    | some s =>
        obtain ⟨hb, rfl⟩ := List.getElem?_eq_some_iff.mp hs
        rw [List.drop_eq_getElem_cons hb, List.takeWhile_cons, ends _ hs]
        rfl
  rw [blockBelow, split, List.takeWhile_append_of_pos inside, below, List.append_nil,
    List.length_take, List.length_drop]
  omega

theorem stop_range_le (block : Recorded) {bound : Nat} (hle : bound ≤ script.length) :
    (range script block bound).stop ≤ script.length := by
  cases h : inForce? script block bound with
  | none => simp [range, h, Range.stop]
  | some header =>
      have above : header < bound := (nearest_eq_some h).1
      have short : (blockBelow script header).length ≤ (script.drop (header + 1)).length :=
        (List.takeWhile_sublist _).length_le
      rw [List.length_drop] at short
      simp only [range, h, Range.stop]
      omega

/-! ## One line further down -/

section Succ

variable {index : Nat} {s : Statement}

theorem tagsAbove_succ (h : script[index]? = some s) :
    tagsAbove script (index + 1) =
      if s.isHeader then []
      else if s.kind = .tag then tagsAbove script index ++ [s.body]
      else tagsAbove script index := by
  simp only [tagsAbove, h]

theorem header?_succ (h : script[index]? = some s) :
    header? script (index + 1) = if s.isHeader then some index else header? script index := by
  simp [header?, nearest_succ h]

theorem inForce?_succ (h : script[index]? = some s) (block : Recorded) :
    inForce? script block (index + 1) =
      if s.kind = block.keyword then some index
      else if resets s then none
      else inForce? script block index := by
  simp [inForce?, nearest_succ h]

theorem range_succ (h : script[index]? = some s) (block : Recorded)
    (same : s.kind ≠ block.keyword) :
    range script block (index + 1) = if resets s then {} else range script block index := by
  by_cases hreset : resets s = true <;> simp [range, inForce?_succ h, same, hreset]

/-- A line changes the tags in force as the walk has it. -/
theorem tags_succ (h : script[index]? = some s) :
    tags script (index + 1) =
      if s.kind = .tag then (tags script index).collect s.body
      else (tags script index).enter s.kind := by
  have isHeader : s.isHeader = s.kind.isHeader := rfl
  cases hk : s.kind <;>
    simp [tags, Tags.enter, Tags.collect, Tags.taken, tagsAbove_succ h, header?_succ h,
      inForce?_succ h, nearest_succ h, hk, isHeader, Keyword.isHeader, resets, tagsOf,
      blockTags, kind?, h, Recorded.keyword]

theorem block_succ (h : script[index]? = some s) :
    block script (index + 1) =
      match s.kind with
      | .scenario => .scenario
      | .background => .background
      | .scenarioOutline => .outline
      | .feature | .rule | .examples => .feature
      | _ => block script index := by
  have isHeader : s.isHeader = s.kind.isHeader := rfl
  cases hk : s.kind <;>
    simp [block, header?_succ h, hk, isHeader, Keyword.isHeader, kind?, h]

/-- A line that is no header leaves the kind of the block and the tags in force as they are. -/
theorem inForce_succ (hs : script[index]? = some s) (no_header : s.isHeader = false) :
    block script (index + 1) = block script index ∧
      (tags script (index + 1)).inForce = (tags script index).inForce := by
  have isHeader : s.isHeader = s.kind.isHeader := rfl
  rw [tags_succ hs, block_succ hs]
  cases hk : s.kind <;>
    simp_all [Keyword.isHeader, Tags.enter, Tags.collect, Tags.inForce]

end Succ

/-- A block stays in force down to the next line of its kind, or to the next feature or rule. -/
theorem lines_of_between (block : Recorded) {bound n : Nat}
    (between : ∀ k t, k < n → script[bound + k]? = some t →
      t.kind ≠ block.keyword ∧ resets t = false) :
    lines script block (bound + n) = lines script block bound := by
  induction n with
  | zero => rfl
  | succ n ih =>
      have above := ih fun k t hk => between k t (Nat.lt_succ_of_lt hk)
      have same : inForce? script block (bound + n + 1) = inForce? script block (bound + n) := by
        cases hs : script[bound + n]? with
        | none => simp [inForce?, nearest, hs]
        | some s =>
            obtain ⟨other, no_reset⟩ := between n s (Nat.lt_succ_self n) hs
            rw [inForce?_succ hs, if_neg other, no_reset]
            rfl
      rw [← above, ← Nat.add_assoc, lines, same, lines]

/-! ## Parts of a script -/

section Parts

variable {header : Nat}

/-- A line of a part of the script, at its place in the script. -/
theorem getElem?_of_part {lines : List Statement} {start k : Nat}
    (here : lines <+: script.drop start) (hk : k < lines.length) :
    script[start + k]? = some lines[k] := by
  rw [← List.getElem?_drop]
  exact List.prefix_iff_getElem?.mp here k hk

/-- The lines of a part of the script are those with the indices from its start on. -/
theorem flatMap_range' {β : Type} {lines : List Statement} {start : Nat}
    (here : lines <+: script.drop start) (f : Statement → List β) :
    ((List.range' start lines.length).flatMap fun index => script[index]?.toList.flatMap f) =
      lines.flatMap f := by
  induction lines generalizing start with
  | nil => rfl
  | cons line lines ih =>
      have first : script[start]? = some line := getElem?_of_part here (Nat.zero_lt_succ _)
      have next : lines <+: script.drop (start + 1) := by
        obtain ⟨rest, hrest⟩ := here
        refine ⟨rest, ?_⟩
        rw [← List.tail_drop, ← hrest]
        rfl
      rw [List.length_cons, List.range'_succ, List.flatMap_cons, ih next, first]
      simp

/-- The lines of the recorded block in force are those with its indices. -/
theorem flatMap_indices {β : Type} (block : Recorded) (bound : Nat) (f : Statement → List β) :
    ((indices script block bound).flatMap fun index => script[index]?.toList.flatMap f) =
      (lines script block bound).flatMap f := by
  rw [indices, lines]
  cases inForce? script block bound with
  | none => rfl
  | some header => exact flatMap_range' (List.takeWhile_prefix _) f

/-- The lines of a recorded block are no headers. -/
theorem isHeader_of_mem_indices {block : Recorded} {bound index : Nat}
    (hindex : index ∈ indices script block bound) :
    ∃ t, script[index]? = some t ∧ t.isHeader = false := by
  rw [indices] at hindex
  cases hblock : inForce? script block bound with
  | none =>
      rw [hblock] at hindex
      cases hindex
  | some header =>
      rw [hblock] at hindex
      obtain ⟨k, hk, rfl⟩ := List.mem_range'.mp hindex
      have no_end := List.all_eq_true.mp List.all_takeWhile _ (List.getElem_mem hk)
      rw [Bool.not_eq_true', endsBlock, Bool.or_eq_false_iff] at no_end
      refine ⟨(blockBelow script header)[k], ?_, no_end.1⟩
      rw [Nat.one_mul]
      exact getElem?_of_part (List.takeWhile_prefix _) hk

theorem linesBelow_upto (script : List Statement) (header : Nat) :
    linesBelow script header <+: script.drop (header + 1) := List.takeWhile_prefix _

theorem getElem?_linesBelow {k : Nat} (hk : k < (linesBelow script header).length) :
    script[header + 1 + k]? = some (linesBelow script header)[k] ∧
      (linesBelow script header)[k].isHeader = false := by
  refine ⟨getElem?_of_part (linesBelow_upto script header) hk, ?_⟩
  have no_header := List.all_eq_true.mp List.all_takeWhile _ (List.getElem_mem hk)
  simpa using no_header

/-- From a header to the next one the kind of the block and the tags in force are the same. -/
theorem inForce_below (script : List Statement) (header : Nat) {k : Nat}
    (hk : k ≤ (linesBelow script header).length) :
    block script (header + 1 + k) = block script (header + 1) ∧
      (tags script (header + 1 + k)).inForce = (tags script (header + 1)).inForce := by
  induction k with
  | zero => exact ⟨rfl, rfl⟩
  | succ k ih =>
      obtain ⟨hs, no_header⟩ := getElem?_linesBelow (Nat.lt_of_succ_le hk)
      obtain ⟨same_block, same_tags⟩ := inForce_succ hs no_header
      obtain ⟨block_eq, tags_eq⟩ := ih (Nat.le_of_succ_le hk)
      exact ⟨same_block.trans block_eq, same_tags.trans tags_eq⟩

/-- Below the last line of a section the next header stands, or nothing. -/
theorem isHeader_next {s : Statement}
    (hs : script[header + 1 + (linesBelow script header).length]? = some s) :
    s.isHeader = true := by
  have split : linesBelow script header ++ (script.drop (header + 1)).dropWhile (!·.isHeader) =
      script.drop (header + 1) := List.takeWhile_append_dropWhile
  rw [← List.getElem?_drop, ← split, List.getElem?_append_right (Nat.le_refl _), Nat.sub_self,
    ← List.head?_eq_getElem?] at hs
  have next := List.head?_dropWhile_not (!·.isHeader) (script.drop (header + 1))
  rw [hs] at next
  simpa using next

end Parts

end Layout

end Storyline

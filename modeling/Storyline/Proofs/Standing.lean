import Storyline.Proofs.Layout
import Storyline.Walk

/-!
# The cursor in front of a line

A replay puts the cursor back to where it came from. So the cursor in front of a line,
outside of replays, depends on the lines above and on nothing else: neither on the label
nor on what has been replayed. `Walk.standing` is this cursor, and each of its fields is
what the layout of the script says.
-/

namespace Storyline

open Layout (endsBlock resets)

namespace Cursor

/-- The cursor behind a line, once a replay that the line starts is over. -/
def past (c : Cursor) (s : Statement) : Cursor :=
  let there := (c.closeBefore s).2.scope s
  { there.advance with block := if s.kind = .examples then .feature else there.block }

/-! ## What ending a block leaves alone -/

@[simp] theorem close_block (c : Cursor) : c.close.2.block = c.block := by
  rw [close]
  split
  · rfl
  · rename_i block _; cases block <;> rfl

@[simp] theorem close_tags (c : Cursor) : c.close.2.tags = c.tags := by
  rw [close]
  split
  · rfl
  · rename_i block _; cases block <;> rfl

@[simp] theorem close_recording (c : Cursor) : c.close.2.recording = none := by
  rw [close]
  split
  · assumption
  · rfl

/-- Ending a block sets the length of its range, and of no other one. -/
theorem range_close (c : Cursor) (block : Recorded) :
    c.close.2.range block =
      if c.recording = some block then
        { start := (c.range block).start, length := c.line - (c.range block).start }
      else c.range block := by
  rw [close]
  cases h : c.recording with
  | none => simp
  | some recorded => cases recorded <;> cases block <;> simp [range, setRange]

@[simp] theorem closeBefore_block (c : Cursor) (s : Statement) :
    (c.closeBefore s).2.block = c.block := by
  rw [closeBefore]; split <;> simp

@[simp] theorem closeBefore_tags (c : Cursor) (s : Statement) :
    (c.closeBefore s).2.tags = c.tags := by
  rw [closeBefore]; split <;> simp

theorem closeBefore_of_ends {c : Cursor} {s : Statement} (h : endsBlock s = true) :
    c.closeBefore s = c.close := by
  rw [closeBefore, if_pos]
  simpa [endsBlock] using h

theorem closeBefore_of_not_ends {c : Cursor} {s : Statement} (h : endsBlock s = false) :
    c.closeBefore s = ([], c) := by
  rw [closeBefore, if_neg]
  simpa [endsBlock] using h

/-! ## What entering the scope of a line changes -/

theorem scope_tags (c : Cursor) (s : Statement) :
    (c.scope s).tags = if s.kind = .tag then c.tags.collect s.body else c.tags.enter s.kind := by
  cases hk : s.kind <;> simp [scope, hk, Tags.enter]

theorem scope_block (c : Cursor) (s : Statement) :
    (c.scope s).block =
      match s.kind with
      | .feature | .rule => .feature
      | .scenario => .scenario
      | .background => .background
      | .scenarioOutline => .outline
      | .examples => .examples
      | _ => c.block := by
  cases hk : s.kind <;> simp [scope, hk]

theorem scope_recording (c : Cursor) (s : Statement) :
    (c.scope s).recording =
      match s.kind with
      | .background => some .background
      | .scenarioOutline => some .outline
      | _ => c.recording := by
  cases hk : s.kind <;> simp [scope, hk]

theorem scope_range (c : Cursor) (s : Statement) (block : Recorded) :
    (c.scope s).range block =
      if s.kind = block.keyword then { start := c.line + 1 }
      else if resets s then {}
      else c.range block := by
  cases hk : s.kind <;> cases block <;>
    simp [scope, hk, range, Recorded.keyword, resets]

theorem scope_of_not_ends {c : Cursor} {s : Statement} (h : endsBlock s = false) :
    c.scope s = c := by
  have isHeader : s.isHeader = s.kind.isHeader := rfl
  rw [scope]
  cases hk : s.kind <;> simp_all [endsBlock, Keyword.isHeader]

/-! ## What passing a line changes -/

@[simp] theorem past_line (c : Cursor) (s : Statement) : (c.past s).line = c.line + 1 := by
  simp [past]

@[simp] theorem past_replay (c : Cursor) (s : Statement) : (c.past s).replay = c.replay := by
  simp [past]

@[simp] theorem past_rows (c : Cursor) (s : Statement) : (c.past s).rows = c.rows := by
  simp [past]

theorem past_tags (c : Cursor) (s : Statement) :
    (c.past s).tags = if s.kind = .tag then c.tags.collect s.body else c.tags.enter s.kind := by
  simp [past, advance, scope_tags]

theorem past_block (c : Cursor) (s : Statement) :
    (c.past s).block =
      match s.kind with
      | .scenario => .scenario
      | .background => .background
      | .scenarioOutline => .outline
      | .feature | .rule | .examples => .feature
      | _ => c.block := by
  cases hk : s.kind <;> simp [past, advance, scope_block, hk]

theorem past_range (c : Cursor) (s : Statement) (block : Recorded) :
    (c.past s).range block = ((c.closeBefore s).2.scope s).range block := by
  cases block <;> rfl

theorem past_recording (c : Cursor) (s : Statement) :
    (c.past s).recording = ((c.closeBefore s).2.scope s).recording := rfl

/-! ## The recorded blocks -/

/-- What a cursor outside of replays remembers of the blocks above it. A block that is
being recorded has no length yet, and all lines down to the cursor belong to it; the range
of any other block is the one in force. -/
structure Remembers (script : List Statement) (c : Cursor) : Prop where
  recording : ∀ block, c.recording = some block →
    ∃ header, Layout.inForce? script block c.line = some header ∧
      c.range block = { start := header + 1 } ∧
      ∀ k t, header < k → k < c.line → script[k]? = some t → endsBlock t = false
  recorded : ∀ block, c.recording ≠ some block →
    c.range block = Layout.range script block c.line

variable {script : List Statement} {c : Cursor} {s : Statement}

/-- Where a block ends, each range is the one in force. -/
theorem Remembers.range_close (h : Remembers script c) (hle : c.line ≤ script.length)
    (ends : ∀ s, script[c.line]? = some s → endsBlock s = true) (block : Recorded) :
    c.close.2.range block = Layout.range script block c.line := by
  rw [Cursor.range_close]
  by_cases hrec : c.recording = some block
  · obtain ⟨header, hforce, hrange, between⟩ := h.recording block hrec
    have above : header < c.line := (Layout.nearest_eq_some hforce).1
    rw [if_pos hrec, Layout.range, hforce, hrange]
    simp only [Layout.length_blockBelow above hle between ends]
  · rw [if_neg hrec, h.recorded block hrec]

theorem Remembers.past (h : Remembers script c) (hs : script[c.line]? = some s) :
    Remembers script (c.past s) := by
  have hle : c.line ≤ script.length := Nat.le_of_lt (List.getElem?_eq_some_iff.mp hs).1
  by_cases hends : endsBlock s = true
  · -- The line ends what is being recorded, and may be the header of a recorded block.
    have closed := h.range_close hle fun t ht => by rw [hs] at ht; cases ht; exact hends
    constructor
    · intro block hrec
      have hkind : s.kind = block.keyword := by
        rw [past_recording, closeBefore_of_ends hends, scope_recording] at hrec
        cases hk : s.kind <;> cases block <;> simp_all [Recorded.keyword]
      refine ⟨c.line, ?_, ?_, fun k _ hk hk' _ => ?_⟩
      · rw [past_line, Layout.inForce?_succ hs, if_pos hkind]
      · rw [past_range, scope_range, if_pos hkind, closeBefore_line]
      · rw [past_line] at hk'
        omega
    · intro block hrec
      have hkind : s.kind ≠ block.keyword := by
        rintro hkind
        apply hrec
        rw [past_recording, scope_recording, hkind]
        cases block <;> rfl
      rw [past_range, scope_range, if_neg hkind, closeBefore_of_ends hends, closed, past_line,
        Layout.range_succ hs block hkind]
  · -- The line belongs to what is being recorded.
    have hends : endsBlock s = false := by simpa using hends
    have same : (c.past s).recording = c.recording ∧
        ∀ block, (c.past s).range block = c.range block := by
      refine ⟨?_, fun block => ?_⟩
      · rw [past_recording, closeBefore_of_not_ends hends, scope_of_not_ends hends]
      · rw [past_range, closeBefore_of_not_ends hends, scope_of_not_ends hends]
    have kept : resets s = false ∧ ∀ block : Recorded, s.kind ≠ block.keyword := by
      have isHeader : s.isHeader = s.kind.isHeader := rfl
      refine ⟨?_, fun block => ?_⟩
      · cases hk : s.kind <;> simp_all [endsBlock, resets, Keyword.isHeader]
      · cases block <;> cases hk : s.kind <;>
          simp_all [endsBlock, Recorded.keyword, Keyword.isHeader]
    constructor
    · intro block hrec
      obtain ⟨header, hforce, hrange, between⟩ := h.recording block (same.1 ▸ hrec)
      refine ⟨header, ?_, ?_, fun k t hk hk' ht => ?_⟩
      · rw [past_line, Layout.inForce?_succ hs, if_neg (kept.2 block), kept.1]
        exact hforce
      · rw [same.2, hrange]
      · rw [past_line] at hk'
        rcases Nat.lt_succ_iff_lt_or_eq.mp hk' with hk' | rfl
        · exact between k t hk hk' ht
        · rw [hs] at ht
          cases ht
          exact hends
    · intro block hrec
      rw [same.2, h.recorded block (same.1 ▸ hrec), past_line,
        Layout.range_succ hs block (kept.2 block), kept.1]
      rfl

end Cursor

namespace Walk

/-- The cursor in front of a line, outside of replays. -/
def standing (script : List Statement) : Nat → Cursor
  | 0 => {}
  | index + 1 =>
      match script[index]? with
      | none => standing script index
      | some s => (standing script index).past s

variable {script : List Statement} {index : Nat} {s : Statement}

theorem standing_succ (h : script[index]? = some s) :
    standing script (index + 1) = (standing script index).past s := by
  simp only [standing, h]

/-- Passing lines one by one establishes whatever holds at first and survives each line. -/
theorem standing_induction {motive : Nat → Cursor → Prop} (zero : motive 0 {})
    (succ : ∀ index s c, script[index]? = some s → motive index c →
      motive (index + 1) (c.past s))
    (h : index ≤ script.length) : motive index (standing script index) := by
  induction index with
  | zero => exact zero
  | succ index ih =>
      have hs : script[index]? = some script[index] := List.getElem?_eq_getElem h
      rw [standing_succ hs]
      exact succ index _ _ hs (ih (Nat.le_of_lt h))

theorem standing_line (h : index ≤ script.length) : (standing script index).line = index := by
  apply standing_induction (motive := fun index c => c.line = index) rfl _ h
  intro index s c _ hc
  rw [Cursor.past_line, hc]

theorem standing_replay (h : index ≤ script.length) : (standing script index).replay = none := by
  apply standing_induction (motive := fun _ c => c.replay = none) rfl _ h
  intro index s c _ hc
  rw [Cursor.past_replay, hc]

theorem standing_rows (h : index ≤ script.length) : (standing script index).rows = none := by
  apply standing_induction (motive := fun _ c => c.rows = none) rfl _ h
  intro index s c _ hc
  rw [Cursor.past_rows, hc]

theorem standing_tags (h : index ≤ script.length) :
    (standing script index).tags = Layout.tags script index := by
  apply standing_induction (motive := fun index c => c.tags = Layout.tags script index) rfl _ h
  intro index s c hs hc
  rw [Cursor.past_tags, Layout.tags_succ hs, hc]

theorem standing_block (h : index ≤ script.length) :
    (standing script index).block = Layout.block script index := by
  apply standing_induction (motive := fun index c => c.block = Layout.block script index) rfl _ h
  intro index s c hs hc
  have past := Cursor.past_block c s
  have below := Layout.block_succ hs
  cases hk : s.kind <;> simp [past, below, hc, hk]

theorem standing_remembers (h : index ≤ script.length) :
    (standing script index).Remembers script := by
  apply (standing_induction
    (motive := fun index c => c.line = index ∧ c.Remembers script) _ _ h).2
  · refine ⟨rfl, nofun, fun block _ => ?_⟩
    cases block <;> rfl
  · rintro index s c hs ⟨rfl, hc⟩
    exact ⟨Cursor.past_line c s, hc.past hs⟩

end Walk

end Storyline

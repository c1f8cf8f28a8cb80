import Storyline.Proofs.Verdicts

/-!
# Scripts one after the other

What the round of a line asks for depends on the line and on what the layout says there: the tags
in force, the kind of the block, and the lines of the recorded blocks. Two places are *alike* if
the layout says the same there (`Layout.Alike`). They stay alike from one line to the next, if the
lines are the same, so whole parts of two scripts can be compared.

If a script is put in front of another one that begins with a feature, its own lines are where
they were. The lines of the other one are further down, and from the feature on everything there
is alike: the feature resets the tags and the blocks. So the walk through both asks for what the
walks through each of them ask for (`Walk.acting_cues_append`).
-/

namespace Storyline

open Layout (endsBlock resets)

namespace Layout

/-- Whether the layouts of two scripts say the same of two bounds. -/
structure Alike (script script' : List Statement) (bound bound' : Nat) : Prop where
  tags : tags script bound = tags script' bound'
  block : block script bound = block script' bound'
  lines : ∀ recorded, lines script recorded bound = lines script' recorded bound'

variable {script script' : List Statement} {index index' : Nat} {s : Statement} {label : Label}

theorem lines_succ (hs : script[index]? = some s) (recorded : Recorded) :
    lines script recorded (index + 1) =
      if s.kind = recorded.keyword then blockBelow script index
      else if resets s then []
      else lines script recorded index := by
  by_cases keyword : s.kind = recorded.keyword
  · simp [lines, inForce?_succ hs, keyword]
  · by_cases reset : resets s = true <;> simp [lines, inForce?_succ hs, keyword, reset]

namespace Alike

/-- Behind the same line two bounds are still alike, if the same block stands below it. -/
theorem succ (alike : Alike script script' index index') (hs : script[index]? = some s)
    (hs' : script'[index']? = some s)
    (below : blockBelow script index = blockBelow script' index') :
    Alike script script' (index + 1) (index' + 1) where
  tags := by rw [tags_succ hs, tags_succ hs', alike.tags]
  block := by rw [block_succ hs, block_succ hs', alike.block]
  lines recorded := by rw [lines_succ hs, lines_succ hs', below, alike.lines]

/-- Behind a feature two bounds are alike, if it has the same tags. -/
theorem of_feature (hs : script[index]? = some s) (hs' : script'[index']? = some s)
    (kind : s.kind = .feature) (pending : tagsAbove script index = tagsAbove script' index') :
    Alike script script' (index + 1) (index' + 1) where
  tags := by
    have taken : (Layout.tags script index).pending = (Layout.tags script' index').pending :=
      pending
    simp [tags_succ hs, tags_succ hs', kind, Tags.enter, Tags.taken, taken]
  block := by simp [block_succ hs, block_succ hs', kind]
  lines recorded := by
    have other : s.kind ≠ recorded.keyword := by cases recorded <;> simp [kind, Recorded.keyword]
    have reset : resets s = true := by simp [resets, kind]
    rw [lines_succ hs, lines_succ hs', if_neg other, if_neg other, if_pos reset, if_pos reset]

theorem eligible (alike : Alike script script' (index + 1) (index' + 1)) (label : Label) :
    eligible script label index = Layout.eligible script' label index' := by
  rw [Layout.eligible, alike.tags, Layout.eligible]

end Alike

end Layout

/-! ## What a round asks for -/

namespace Cursor

variable {c d : Cursor} {s : Statement} {script script' : List Statement}

theorem execute_congr (block : c.block = d.block) (rows : c.rows = d.rows) (s : Statement) :
    c.execute s = d.execute s := by
  have fill : c.fill = d.fill := by
    funext text
    simp only [Cursor.fill, rows]
  simp only [execute, attempt, block, fill]

/-- A line that is executed is written, and it may be attempted. -/
theorem acting_execute (c : Cursor) (s : Statement) :
    (c.execute s).filter Cue.isActing = c.execute s := by
  have written {α : Type} (entry : α → Transcript.Entry) (lines : List α) :
      ∀ cue ∈ lines.map fun line => Cue.write (entry line), cue.isActing = true := by
    intro cue hcue
    obtain ⟨line, -, rfl⟩ := List.mem_map.mp hcue
    rfl
  rw [List.filter_eq_self, execute]
  split
  · rw [List.forall_mem_append, List.forall_mem_cons, List.forall_mem_singleton]
    exact ⟨⟨rfl, written _ _⟩, rfl⟩
  · rw [List.forall_mem_cons]
    exact ⟨rfl, written _ _⟩

/-- What a recital of these lines asks for. -/
def recital (c : Cursor) (lines : List Statement) : List Cue :=
  lines.flatMap fun s => if s.kind.isExecutable then c.execute s else []

theorem recital_congr (block : c.block = d.block) (rows : c.rows = d.rows)
    (lines : List Statement) : c.recital lines = d.recital lines := by
  simp only [recital, execute_congr block rows]

theorem acting_recite (c : Cursor) (script : List Statement) (recorded : Recorded) (bound : Nat) :
    (c.recite script (Layout.indices script recorded bound)).filter Cue.isActing =
      c.recital (Layout.lines script recorded bound) := by
  rw [recital, ← Layout.flatMap_indices, recite, List.filter_flatMap]
  congr 1
  funext index
  rw [List.filter_cons_of_neg Bool.false_ne_true]
  cases script[index]? with
  | none => rfl
  | some s =>
      by_cases executable : s.kind.isExecutable = true
      · simp [executable, acting_execute]
      · simp [executable]

/-- What reading a line asks for depends on the block, on the row in turn, and where something is
replayed on whether there are lines to be replayed. -/
theorem read_congr (block : c.block = d.block) (rows : c.rows = d.rows)
    (lengths : s.kind = .scenario ∨ s.kind = .examples →
      ∀ recorded, (c.range recorded).length = (d.range recorded).length) :
    (c.read s).1 = (d.read s).1 := by
  cases kind : s.kind <;> simp only [read, kind]
  case scenario =>
    have background : c.background.length = d.background.length := lengths (.inl kind) .background
    rw [readScenario, readScenario, background]
    split <;> rfl
  case examples =>
    have outline : c.outline.length = d.outline.length := lengths (.inr kind) .outline
    rw [readExamples, readExamples, outline]
    dsimp only
    split
    · rfl
    split
    · rfl
    split <;> rfl
  case step | ask => exact execute_congr block rows s
  case unknown | tag => rw [tone, tone, block]

end Cursor

namespace Walk

open Cursor

variable {script script' : List Statement} {index index' : Nat} {s : Statement} {label : Label}

/-- What a recital asks for in the scope of a header that replays a recorded block. -/
theorem acting_recite_entered (hs : script[index]? = some s)
    (kind : s.kind = .scenario ∨ s.kind = .examples) (recorded : Recorded) (c : Cursor) :
    (c.recite script ((entered script index s).range recorded).indices).filter Cue.isActing =
      c.recital (Layout.lines script recorded index) := by
  rw [(entered_of_replaying hs kind).2, Layout.indices_range, acting_recite]

/-- What the replays of a line ask for. -/
theorem acting_replays (hs : script[index]? = some s) :
    ((entered script index s).replays script s).filter Cue.isActing =
      match s.kind with
      | .scenario => (entered script index s).recital (Layout.lines script .background index)
      | .examples =>
          if Layout.lines script .outline index = [] then []
          else
            match Rows.ofExamples s with
            | [] => []
            | first :: later =>
                { entered script index s with rows := some first }.recital
                    (Layout.lines script .outline index) ++
                  later.flatMap fun rows =>
                    (announce rows).filter Cue.isActing ++
                      { entered script index s with rows := some rows }.recital
                        (Layout.lines script .outline index)
      | _ => [] := by
  cases kind : s.kind <;> simp only [replays, kind, List.filter_nil]
  case scenario => exact acting_recite_entered hs (.inl kind) .background _
  case examples =>
    have turn := acting_recite_entered hs (.inr kind) .outline
    have length : (entered script index s).outline.length = _ :=
      length_range_entered hs (.inr kind) .outline
    rw [length]
    by_cases outline : Layout.lines script .outline index = []
    · rw [if_pos outline, if_pos (List.length_eq_zero_iff.mpr outline), List.filter_nil]
    · rw [if_neg outline, if_neg (mt List.length_eq_zero_iff.mp outline)]
      cases Rows.ofExamples s with
      | nil => rfl
      | cons first later =>
          simp only [List.filter_append, List.filter_flatMap]
          congr 1
          · exact turn _
          · congr 1
            funext rows
            exact congrArg _ (turn _)

/-- **What the round of a line asks for** depends on the line and on what the layout says there. -/
theorem acting_round_of_alike (hs : script[index]? = some s) (hs' : script'[index']? = some s)
    (below : Layout.blockBelow script index = Layout.blockBelow script' index')
    (alike : Layout.Alike script script' index index') (label : Label) :
    (round label script index).filter Cue.isActing =
      (round label script' index').filter Cue.isActing := by
  have block : (entered script index s).block = (entered script' index' s).block := by
    rw [entered, entered, scope_block, scope_block, closeBefore_block, closeBefore_block,
      standing_block (index_le hs), standing_block (index_le hs'), alike.block]
  have rows : (entered script index s).rows = (entered script' index' s).rows := by
    rw [entered_rows hs, entered_rows hs']
  have read : ((entered script index s).read s).1 = ((entered script' index' s).read s).1 := by
    apply read_congr block rows
    intro kind recorded
    rw [length_range_entered hs kind, length_range_entered hs' kind, alike.lines]
  have replays : ((entered script index s).replays script s).filter Cue.isActing =
      ((entered script' index' s).replays script' s).filter Cue.isActing := by
    have turn (rows : Rows) : { entered script index s with rows := some rows }.recital =
        { entered script' index' s with rows := some rows }.recital := by
      funext lines
      apply recital_congr
      · exact block
      · rfl
    have own : (entered script index s).recital = (entered script' index' s).recital := by
      funext lines
      exact recital_congr block rows lines
    rw [acting_replays hs, acting_replays hs']
    simp only [alike.lines, turn, own]
  rw [acting_round label hs, acting_round label hs', (alike.succ hs hs' below).eligible,
    List.filter_append, List.filter_append, read, replays]

end Walk

/-! ## One script in front of another one -/

/-- Whether a script begins with a feature: with the header of one, below nothing but its tags. -/
def Layout.BeginsFeature (script : List Statement) : Prop :=
  ∃ tags header rest, script = tags ++ header :: rest ∧ (∀ s ∈ tags, s.kind = .tag) ∧
    header.kind = .feature

/-- Whether each line of tags has a header below it. -/
def Layout.TagsTaken (script : List Statement) : Prop :=
  ∀ (tag : Nat) (t : Statement), script[tag]? = some t → t.kind = .tag →
    ∃ (header : Nat) (s : Statement), tag < header ∧ script[header]? = some s ∧ s.isHeader = true

namespace Layout

variable {first second : List Statement} {index : Nat}

theorem tagsAbove_of_tagsTaken (taken : TagsTaken first) : tagsAbove first first.length = [] := by
  rw [List.eq_nil_iff_forall_not_mem]
  intro body found
  obtain ⟨tag, ⟨t, ht, kind, -⟩, -, no_header⟩ := mem_tagsAbove.mp found
  obtain ⟨header, s, below, hs, isHeader⟩ := taken tag t ht kind
  have inside := (List.getElem?_eq_some_iff.mp hs).1
  rw [no_header header s below inside hs] at isHeader
  cases isHeader

theorem BeginsFeature.endsBlock (feature : BeginsFeature second) {s : Statement}
    (hs : second.head? = some s) : endsBlock s = true := by
  obtain ⟨tags, header, rest, rfl, all_tags, kind⟩ := feature
  cases tags with
  | nil =>
      obtain rfl : header = s := Option.some.inj hs
      have isHeader : header.isHeader = header.kind.isHeader := rfl
      rw [Layout.endsBlock, isHeader, kind]
      rfl
  | cons tag tags =>
      obtain rfl : tag = s := Option.some.inj hs
      rw [Layout.endsBlock, all_tags tag List.mem_cons_self]
      simp

/-- A block of the first script ends where the second one begins. -/
theorem blockBelow_append_left (feature : BeginsFeature second) (inside : index < first.length) :
    blockBelow (first ++ second) index = blockBelow first index := by
  have none_below : second.takeWhile (fun s => !endsBlock s) = [] := by
    cases second with
    | nil => rfl
    | cons s second => rw [List.takeWhile_cons, feature.endsBlock rfl]; rfl
  rw [blockBelow, blockBelow, List.drop_append_of_le_length inside, List.takeWhile_append,
    none_below]
  split
  · rename_i whole
    rw [List.append_nil]
    exact ((List.takeWhile_prefix _).eq_of_length whole).symm
  · rfl

theorem blockBelow_append_right (first second : List Statement) (index : Nat) :
    blockBelow (first ++ second) (first.length + index) = blockBelow second index := by
  rw [blockBelow, blockBelow, Nat.add_assoc, List.drop_append,
    List.drop_of_length_le (Nat.le_add_right _ _), Nat.add_sub_cancel_left, List.nil_append]

theorem getElem?_append_length (first second : List Statement) (index : Nat) :
    (first ++ second)[first.length + index]? = second[index]? := by
  rw [List.getElem?_append_right (Nat.le_add_right _ _), Nat.add_sub_cancel_left]

/-- The lines of the first script are where they were. -/
theorem alike_append_left (feature : BeginsFeature second) (inside : index ≤ first.length) :
    Alike (first ++ second) first index index := by
  induction index with
  | zero => exact ⟨rfl, rfl, fun recorded => by cases recorded <;> rfl⟩
  | succ index ih =>
      have hs : first[index]? = some first[index] := List.getElem?_eq_getElem inside
      have hs' : (first ++ second)[index]? = some first[index] := by
        rw [List.getElem?_append_left inside, hs]
      exact (ih (Nat.le_of_lt inside)).succ hs' hs (blockBelow_append_left feature inside)

theorem tagsAbove_append_left (second : List Statement) (inside : index ≤ first.length) :
    tagsAbove (first ++ second) index = tagsAbove first index := by
  induction index with
  | zero => rfl
  | succ index ih =>
      rw [tagsAbove, tagsAbove, List.getElem?_append_left inside, ih (Nat.le_of_lt inside)]

theorem tagsAbove_append_right (taken : TagsTaken first) (second : List Statement) (bound : Nat) :
    tagsAbove (first ++ second) (first.length + bound) = tagsAbove second bound := by
  induction bound with
  | zero =>
      exact (tagsAbove_append_left second (Nat.le_refl _)).trans (tagsAbove_of_tagsTaken taken)
  | succ bound ih => rw [← Nat.add_assoc, tagsAbove, tagsAbove, getElem?_append_length, ih]

/-- Behind the header of its feature the second script is as it was. -/
theorem alike_append_right {tags rest : List Statement} {header : Statement}
    (taken : TagsTaken first) (split : second = tags ++ header :: rest)
    (kind : header.kind = .feature) (n : Nat) (inside : tags.length + 1 + n ≤ second.length) :
    Alike (first ++ second) second (first.length + (tags.length + 1 + n))
      (tags.length + 1 + n) := by
  induction n with
  | zero =>
      have hs : second[tags.length]? = some header := by
        rw [split, List.getElem?_append_right (Nat.le_refl _), Nat.sub_self]
        rfl
      have hs' := (getElem?_append_length first second tags.length).trans hs
      exact .of_feature hs' hs kind (tagsAbove_append_right taken second tags.length)
  | succ n ih =>
      have hs : second[tags.length + 1 + n]? = some second[tags.length + 1 + n] :=
        List.getElem?_eq_getElem inside
      have hs' := (getElem?_append_length first second (tags.length + 1 + n)).trans hs
      exact (ih (Nat.le_of_lt inside)).succ hs' hs (blockBelow_append_right first second _)

end Layout

namespace Walk

variable {script first second : List Statement} {label : Label} {index : Nat} {s : Statement}

/-- The header of a feature asks for nothing but to be written, if it is let through. -/
theorem acting_round_of_feature (hs : script[index]? = some s) (kind : s.kind = .feature) :
    (round label script index).filter Cue.isActing =
      if Layout.eligible script label index then [.write (.header s.toLine)] else [] := by
  have no_tag : s.kind ≠ .tag := by rw [kind]; decide
  rw [acting_round label hs, if_neg no_tag]
  simp only [Cursor.read, Cursor.replays, kind]
  rfl

/-- What a walk asks for, round by round. -/
theorem acting_cues (label : Label) (script : List Statement) :
    (cues label script).filter Cue.isActing =
      (List.range script.length).flatMap fun index =>
        (round label script index).filter Cue.isActing := by
  rw [cues_eq_rounds, List.filter_append, acting_close, List.append_nil, List.filter_flatMap]

theorem acting_round_append_left (feature : Layout.BeginsFeature second)
    (inside : index < first.length) (label : Label) :
    (round label (first ++ second) index).filter Cue.isActing =
      (round label first index).filter Cue.isActing := by
  have hs : first[index]? = some first[index] := List.getElem?_eq_getElem inside
  have hs' : (first ++ second)[index]? = some first[index] := by
    rw [List.getElem?_append_left inside, hs]
  exact acting_round_of_alike hs' hs (Layout.blockBelow_append_left feature inside)
    (Layout.alike_append_left feature (Nat.le_of_lt inside)) label

theorem acting_round_append_right (feature : Layout.BeginsFeature second)
    (taken : Layout.TagsTaken first) (inside : index < second.length) (label : Label) :
    (round label (first ++ second) (first.length + index)).filter Cue.isActing =
      (round label second index).filter Cue.isActing := by
  obtain ⟨tags, header, rest, split, all_tags, kind⟩ := feature
  have hs : second[index]? = some second[index] := List.getElem?_eq_getElem inside
  have hs' := (Layout.getElem?_append_length first second index).trans hs
  have below := Layout.blockBelow_append_right first second index
  rcases Nat.lt_trichotomy index tags.length with above | here | behind
  · -- A line of tags above the header.
    have tag : second[index].kind = .tag := by
      apply all_tags
      simp only [split, List.getElem_append_left above]
      exact List.getElem_mem above
    rw [acting_round label hs', acting_round label hs, if_pos tag, if_pos tag]
  · -- The header itself.
    subst here
    have feature : second[tags.length].kind = .feature := by
      simp only [split, List.getElem_append_right (Nat.le_refl _), Nat.sub_self]
      exact kind
    have alike : Layout.Alike (first ++ second) second (first.length + tags.length + 1)
        (tags.length + 1) := Layout.alike_append_right taken split kind 0 inside
    rw [acting_round_of_feature hs' feature, acting_round_of_feature hs feature,
      alike.eligible]
  · obtain ⟨n, rfl⟩ := Nat.exists_eq_add_of_lt behind
    have alike := Layout.alike_append_right taken split kind n
      (by rw [Nat.add_right_comm]; exact Nat.le_of_lt inside)
    rw [Nat.add_right_comm] at alike
    exact acting_round_of_alike hs' hs below alike label

/-- The walk through a script and then another one that begins with a feature asks for what the
two walks ask for. -/
theorem acting_cues_append (feature : Layout.BeginsFeature second) (taken : Layout.TagsTaken first)
    (label : Label) :
    (cues label (first ++ second)).filter Cue.isActing =
      (cues label first).filter Cue.isActing ++ (cues label second).filter Cue.isActing := by
  rw [acting_cues, acting_cues, acting_cues, List.length_append, List.range_add,
    List.flatMap_append, List.flatMap_map]
  congr 1
  · apply List.flatMap_congr
    intro index inside
    exact acting_round_append_left feature (List.mem_range.mp inside) label
  · apply List.flatMap_congr
    intro index inside
    exact acting_round_append_right feature taken (List.mem_range.mp inside) label

end Walk

end Storyline

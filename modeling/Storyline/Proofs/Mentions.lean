import Mathlib.Data.List.Infix
import Storyline.Proofs.Marks
import Storyline.Proofs.Reached
import Storyline.Proofs.Restriction

/-!
# Which tags decide about a line

A line of tags belongs to the first header below it (`Layout.IsTagOf`). Some headers above a line
*count* for it: the feature and the rule that it stands below, the header of its block, and for
examples the outline that they replay (`Layout.Counts`). A label lets the line through if one of
the tag lines of these headers mentions it. For a label without a space nothing else does
(`Layout.eligible_iff_mentioned`): tags are put together with spaces, and such a label occurs in
none of the seams.

A visit in a replay is decided by the header that has started the replay, so the check at a visit
is what the layout says of that header or of the visited line (`Cursor.check_eq_eligible`).
-/

namespace Storyline

open scoped List

namespace Text

/-- What holds no separator lies on one side of it. -/
theorem infix_append_cons_iff {part first second : List Char} {c : Char} (nonempty : part ≠ [])
    (inseparable : c ∉ part) :
    part <:+: first ++ c :: second ↔ part <:+: first ∨ part <:+: second := by
  constructor
  · intro found
    rcases List.infix_append_iff.mp found with left | right | ⟨tail, head, rfl, ends, begins⟩
    · exact .inl left
    · rcases List.infix_cons_iff.mp right with begins | right
      · cases part with
        | nil => exact absurd rfl nonempty
        | cons d part =>
            obtain rfl := (List.cons_prefix_cons.mp begins).1
            exact absurd List.mem_cons_self inseparable
      · exact .inr right
    · cases head with
      | nil =>
          rw [List.append_nil]
          exact .inl ends.isInfix
      | cons d head =>
          obtain rfl := (List.cons_prefix_cons.mp begins).1
          exact absurd (List.mem_append_right tail List.mem_cons_self) inseparable
  · rintro (left | right)
    · exact left.trans (List.prefix_append _ _).isInfix
    · exact right.trans ((List.suffix_cons c second).trans (List.suffix_append _ _)).isInfix

theorem infix_intercalate_iff {part : List Char} {c : Char} (nonempty : part ≠ [])
    (inseparable : c ∉ part) (texts : List (List Char)) :
    part <:+: [c].intercalate texts ↔ ∃ text ∈ texts, part <:+: text := by
  induction texts with
  | nil => simp [nonempty]
  | cons text texts ih =>
      cases texts with
      | nil => simp
      | cons next texts =>
          rw [List.intercalate_cons_cons, List.append_assoc, List.singleton_append,
            infix_append_cons_iff nonempty inseparable, ih]
          simp

end Text

namespace Label

/-- Whether a label restricts a run and holds no space. -/
structure IsWord (label : Label) : Prop where
  restricts : label.text ≠ ""
  inseparable : ' ' ∉ label.text.toList

variable {label : Label}

theorem IsWord.nonempty (word : label.IsWord) : label.text.toList ≠ [] :=
  fun empty => word.restricts (String.toList_eq_nil_iff.mp empty)

/-- What is put together with spaces mentions a word if one of its parts does. -/
theorem IsWord.infix_intercalate (word : label.IsWord) (bodies : List String) :
    label.text.toList <:+: (String.intercalate " " bodies).toList ↔
      ∃ body ∈ bodies, label.text.toList <:+: body.toList := by
  rw [String.toList_intercalate]
  change _ <:+: [' '].intercalate _ ↔ _
  rw [Text.infix_intercalate_iff word.nonempty word.inseparable]
  simp

theorem IsWord.infix_append (word : label.IsWord) (first second : String) :
    label.text.toList <:+: (first ++ " " ++ second).toList ↔
      label.text.toList <:+: first.toList ∨ label.text.toList <:+: second.toList := by
  rw [String.toList_append, String.toList_append, List.append_assoc]
  exact Text.infix_append_cons_iff word.nonempty word.inseparable

theorem IsWord.not_infix_empty (word : label.IsWord) : ¬label.text.toList <:+: "".toList := by
  intro found
  exact word.nonempty (List.infix_nil.mp found)

end Label

namespace Layout

variable (script : List Statement)

/-- Whether a wanted line is the latest one at or above a line, and no line that ends its reach
stands in between. -/
structure Latest (wanted ends : Statement → Bool) (index header : Nat) : Prop where
  above : header ≤ index
  here : ∃ s, script[header]? = some s ∧ wanted s = true
  between : ∀ k t, header < k → k ≤ index → script[k]? = some t →
    wanted t = false ∧ ends t = false

/-- Whether the tags of a header count for a line. -/
inductive Counts (index : Nat) : Nat → Prop
  /-- The latest feature. -/
  | feature {header : Nat}
      (latest : Latest script (·.kind = .feature) (fun _ => false) index header) :
      Counts index header
  /-- The latest rule, if no feature follows it. -/
  | rule {header : Nat} (latest : Latest script (·.kind = .rule) (·.kind = .feature) index header) :
      Counts index header
  /-- The latest header, if it is the header of a scenario, of an outline or of examples. -/
  | block {header : Nat} {s : Statement}
      (latest : Latest script (·.isHeader) (fun _ => false) index header)
      (here : script[header]? = some s)
      (kind : s.kind = .scenario ∨ s.kind = .scenarioOutline ∨ s.kind = .examples) :
      Counts index header
  /-- For examples also the latest outline since the last feature or rule. -/
  | outline {examples header : Nat} {s : Statement}
      (latest : Latest script (·.isHeader) (fun _ => false) index examples)
      (here : script[examples]? = some s) (kind : s.kind = .examples)
      (outline : Latest script (·.kind = .scenarioOutline) resets index header) :
      Counts index header

/-- Whether a line is a line of tags with this body, and the header is the first one below it. -/
structure IsTagOf (header tag : Nat) (body : String) : Prop where
  here : ∃ t, script[tag]? = some t ∧ t.kind = .tag ∧ t.body = body
  above : tag < header
  first : ∀ k t, tag < k → k < header → script[k]? = some t → t.isHeader = false

/-- Whether a single line of tags of a header mentions a label. -/
def Mentions (label : Label) (header : Nat) : Prop :=
  ∃ tag body, IsTagOf script header tag body ∧ label.text.toList <:+: body.toList

variable {script}

theorem nearest_eq_some_iff {wanted ends : Statement → Bool} {index header : Nat} :
    nearest script wanted ends (index + 1) = some header ↔
      Latest script wanted ends index header := by
  constructor
  · intro h
    obtain ⟨above, found, between⟩ := nearest_eq_some h
    exact ⟨Nat.le_of_lt_succ above, found, fun k t lt le => between k t lt (Nat.lt_succ_of_le le)⟩
  · rintro ⟨above, ⟨s, hs, wanted_s⟩, between⟩
    obtain ⟨n, rfl⟩ := Nat.exists_eq_add_of_le above
    clear above
    induction n with
    | zero => rw [Nat.add_zero, nearest_succ hs, if_pos wanted_s]
    | succ n ih =>
        have rest := ih fun k t lt le => between k t lt (Nat.le_succ_of_le le)
        rw [← Nat.add_assoc] at between ⊢
        cases ht : script[header + n + 1]? with
        | none =>
            rw [nearest, ht]
            exact rest
        | some t =>
            obtain ⟨unwanted, no_end⟩ := between _ t (by omega) (Nat.le_refl _) ht
            rw [nearest_succ ht, unwanted, no_end]
            exact rest

section Tags

variable {bound tag : Nat} {body : String} {s : Statement}

/-- A header takes the tags above it, so they do not belong to the next one. -/
theorem IsTagOf.isHeader_eq_false (belongs : IsTagOf script (bound + 1) tag body)
    (hs : script[bound]? = some s) : s.isHeader = false := by
  obtain ⟨⟨t, ht, kind, -⟩, above, first⟩ := belongs
  rcases Nat.lt_succ_iff_lt_or_eq.mp above with above | rfl
  · exact first bound s above (Nat.lt_succ_self _) hs
  · obtain rfl : t = s := Option.some.inj (ht.symm.trans hs)
    rw [Line.isHeader, kind]
    rfl

/-- Behind a line that is no header the tags are those above it, and its own if it is one of tags.
-/
theorem isTagOf_succ_iff (no_header : ∀ s, script[bound]? = some s → s.isHeader = false) :
    IsTagOf script (bound + 1) tag body ↔
      IsTagOf script bound tag body ∨
        tag = bound ∧ ∃ s, script[bound]? = some s ∧ s.kind = .tag ∧ s.body = body := by
  constructor
  · rintro ⟨here, above, first⟩
    rcases Nat.lt_succ_iff_lt_or_eq.mp above with above | rfl
    · left
      exact ⟨here, above, fun k t lt le => first k t lt (Nat.lt_succ_of_lt le)⟩
    · exact .inr ⟨rfl, here⟩
  · rintro (⟨here, above, first⟩ | ⟨rfl, here⟩)
    · refine ⟨here, Nat.lt_succ_of_lt above, ?_⟩
      intro k t lt le ht
      rcases Nat.lt_succ_iff_lt_or_eq.mp le with le | rfl
      · exact first k t lt le ht
      · exact no_header t ht
    · refine ⟨here, Nat.lt_succ_self tag, ?_⟩
      intro k t lt le
      omega

theorem mem_tagsAbove : body ∈ tagsAbove script bound ↔ ∃ tag, IsTagOf script bound tag body := by
  induction bound with
  | zero =>
      constructor
      · intro impossible
        cases impossible
      · rintro ⟨tag, -, above, -⟩
        cases above
  | succ bound ih =>
      cases hs : script[bound]? with
      | none =>
          have no_header : ∀ s, script[bound]? = some s → s.isHeader = false := by simp [hs]
          simp [tagsAbove, hs, ih, isTagOf_succ_iff no_header]
      | some s =>
          rw [tagsAbove_succ hs]
          by_cases header : s.isHeader = true
          · rw [if_pos header]
            constructor
            · intro impossible
              cases impossible
            · rintro ⟨tag, belongs⟩
              rw [belongs.isHeader_eq_false hs] at header
              cases header
          · have no_header : ∀ t, script[bound]? = some t → t.isHeader = false := by
              simpa [hs] using header
            rw [if_neg header]
            simp only [isTagOf_succ_iff no_header, hs, exists_or, ← ih]
            by_cases tag : s.kind = .tag <;> simp [tag, @eq_comm _ body]

end Tags

section Eligible

variable {label : Label} {index header : Nat} {s : Statement}

theorem infix_tagsOf (word : label.IsWord) (header? : Option Nat) :
    label.text.toList <:+: (tagsOf script header?).toList ↔
      ∃ header, header? = some header ∧ Mentions script label header := by
  cases header? with
  | none =>
      constructor
      · intro found
        exact absurd found word.not_infix_empty
      · rintro ⟨header, impossible, -⟩
        cases impossible
  | some header =>
      rw [tagsOf, word.infix_intercalate]
      constructor
      · rintro ⟨body, found, mentions⟩
        obtain ⟨tag, belongs⟩ := mem_tagsAbove.mp found
        exact ⟨header, rfl, tag, body, belongs, mentions⟩
      · rintro ⟨_, same, tag, body, belongs, mentions⟩
        cases same
        exact ⟨body, mem_tagsAbove.mpr ⟨tag, belongs⟩, mentions⟩

/-- The tags of a block are those of its header, and for examples those of the outline too. -/
theorem infix_blockTags (word : label.IsWord) (here : script[header]? = some s) :
    label.text.toList <:+: (blockTags script header).toList ↔
      (s.kind = .scenario ∨ s.kind = .scenarioOutline ∨ s.kind = .examples) ∧
          Mentions script label header ∨
        s.kind = .examples ∧
          ∃ outline, inForce? script .outline header = some outline ∧
            Mentions script label outline := by
  have kind : kind? script header = some s.kind := by rw [kind?, here, Option.map_some]
  rw [blockTags, kind]
  cases hk : s.kind <;> dsimp only
  case scenario => simp [infix_tagsOf word]
  case scenarioOutline => simp [infix_tagsOf word]
  case examples =>
    rw [word.infix_append, infix_tagsOf word, infix_tagsOf word]
    simp [or_comm]
  all_goals
    constructor
    · intro found
      exact absurd found word.not_infix_empty
    · simp

/-- Below the header of examples no other outline is in force than at the header. -/
theorem inForce?_outline_of_latest {examples : Nat}
    (latest : Latest script (·.isHeader) (fun _ => false) index examples)
    (here : script[examples]? = some s) (kind : s.kind = .examples) :
    inForce? script .outline (index + 1) = inForce? script .outline examples := by
  obtain ⟨above, -, between⟩ := latest
  obtain ⟨n, rfl⟩ := Nat.exists_eq_add_of_le above
  clear above
  induction n with
  | zero => simp [inForce?_succ here, kind, Recorded.keyword, resets]
  | succ n ih =>
      rw [← ih fun k t lt le => between k t lt (Nat.le_succ_of_le le), ← Nat.add_assoc]
      cases ht : script[examples + n + 1]? with
      | none => rw [inForce?, nearest, ht]; rfl
      | some t =>
          have no_header := (between (examples + n + 1) t (by omega) (Nat.le_refl _) ht).1
          have isHeader : t.isHeader = t.kind.isHeader := rfl
          rw [inForce?_succ ht]
          cases hk : t.kind <;>
            simp_all [Keyword.isHeader, Recorded.keyword, resets]

/-- A label without a space lets a line through if a single line of tags of a header that counts
for the line mentions it. -/
theorem eligible_iff_mentions (word : label.IsWord) :
    eligible script label index = true ↔
      ∃ header, Counts script index header ∧ Mentions script label header := by
  have block : label.text.toList <:+: (tags script (index + 1)).block.toList ↔
      ∃ header, header? script (index + 1) = some header ∧
        label.text.toList <:+: (blockTags script header).toList := by
    cases h : header? script (index + 1) with
    | none => simp [tags, h, word.nonempty]
    | some header => simp [tags, h]
  rw [eligible, Label.admits_eq_true_iff, or_iff_right word.restricts]
  simp only [Tags.inForce, List.mem_cons, List.not_mem_nil, or_false, exists_eq_or_imp,
    exists_eq_left, block]
  simp only [tags, infix_tagsOf word, nearest_eq_some_iff]
  constructor
  · rintro (⟨header, latest, mentions⟩ | ⟨header, latest, mentions⟩ | ⟨header, found, mentions⟩)
    · exact ⟨header, .feature latest, mentions⟩
    · exact ⟨header, .rule latest, mentions⟩
    · have latest := nearest_eq_some_iff.mp found
      obtain ⟨s, here, -⟩ := latest.here
      rcases (infix_blockTags word here).mp mentions with ⟨kind, mentions⟩ | ⟨kind, outline⟩
      · exact ⟨header, .block latest here kind, mentions⟩
      · obtain ⟨outline, in_force, mentions⟩ := outline
        rw [← inForce?_outline_of_latest latest here kind] at in_force
        exact ⟨outline, .outline latest here kind (nearest_eq_some_iff.mp in_force), mentions⟩
  · rintro ⟨header, counts, mentions⟩
    cases counts with
    | feature latest => exact .inl ⟨header, latest, mentions⟩
    | rule latest => exact .inr (.inl ⟨header, latest, mentions⟩)
    | block latest here kind =>
        exact .inr (.inr ⟨header, nearest_eq_some_iff.mpr latest,
          (infix_blockTags word here).mpr (.inl ⟨kind, mentions⟩)⟩)
    | outline latest here kind outline =>
        rename_i examples s
        have in_force : inForce? script .outline (index + 1) = some header :=
          nearest_eq_some_iff.mpr outline
        rw [inForce?_outline_of_latest latest here kind] at in_force
        exact .inr (.inr ⟨examples, nearest_eq_some_iff.mpr latest,
          (infix_blockTags word here).mpr (.inr ⟨kind, header, in_force, mentions⟩)⟩)

end Eligible

end Layout

namespace Cursor

/-- What a label says of a line that is visited: of the tags in force in the scope of the line. -/
def check (c : Cursor) (label : Label) (s : Statement) : Bool :=
  ((c.closeBefore s).2.scope s).admitted label

variable {label : Label} {script : List Statement} {c : Cursor} {s : Statement}

/-- Whoever reads a line asks for something. -/
theorem any_read (c : Cursor) (s : Statement) : (c.read s).1.any Cue.isActing = true := by
  cases kind : s.kind <;> simp only [read, kind]
  case scenario =>
    rw [readScenario]
    split <;> rfl
  case examples =>
    rw [readExamples]
    dsimp only
    split
    · rfl
    split
    · rfl
    split <;> rfl
  case step | ask =>
    rw [execute]
    split <;> rfl
  all_goals rfl

/-- Closing a block asks for nothing. -/
theorem any_closeBefore (c : Cursor) (s : Statement) :
    (c.closeBefore s).1.any Cue.isActing = false := by
  rw [List.any_eq_false]
  intro cue hcue
  have none_acting := List.filter_eq_nil_iff.mp (Walk.acting_closeBefore c s) cue hcue
  exact none_acting

/-- The check decides whether a visit writes, carries out or records anything. In a replay only
executable lines are looked at. -/
theorem any_visit (no_tag : s.kind ≠ .tag) :
    (c.visit label s).1.any Cue.isActing = true ↔
      c.check label s = true ∧ (c.replay.isSome = true → s.kind.isExecutable = true) := by
  have looked : (c.visit label s).1.any Cue.isActing =
      ((c.closeBefore s).2.lookWhere label s).1.any Cue.isActing := by
    rw [visit, List.cons_append, List.any_cons, List.any_append, any_closeBefore]
    rfl
  rw [looked, lookWhere, closeBefore_replay]
  by_cases skipped : (c.replay.isSome && !s.kind.isExecutable) = true
  · rw [if_pos skipped]
    simp_all
  rw [if_neg skipped, look, if_neg no_tag, check]
  by_cases admitted : ((c.closeBefore s).2.scope s).admitted label = true
  · rw [if_pos admitted]
    simp_all [any_read]
  · simp [admitted]

/-- The check at a visit is what the layout says of the line that decides about the visit. -/
theorem check_eq_eligible (reached : Walk.Reached label script c)
    (visited : c.visited? script = some s) :
    c.check label s = Layout.eligible script label c.home := by
  have hs := getElem?_of_visited? visited
  cases reached with
  | outside le =>
      rename_i index
      rw [Walk.standing_line le] at hs
      have home : (Walk.standing script index).home = index := by
        rw [home, Walk.standing_replay le, Walk.standing_line le]
        rfl
      rw [home]
      exact Walk.entered_admitted hs label
  | inside header eligible replays lower upper =>
      rename_i home line t block rows
      have inside : line < (Layout.range script block home).stop := by
        apply Nat.lt_of_le_of_ne upper
        intro stop
        rw [visited?, if_pos (by simp [Walk.replaying, stop])] at visited
        cases visited
      obtain ⟨u, hu, no_end⟩ := Layout.getElem?_of_range lower inside
      obtain rfl : u = s := Option.some.inj (hu.symm.trans hs)
      rw [check, closeBefore_of_not_ends no_end, scope_of_not_ends no_end]
      exact Walk.replaying_admitted header label

end Cursor

namespace Walk

variable {label : Label} {script : List Statement} {c : Cursor} {s : Statement}
  {cues : List Cue}

/-- A replay has been started by a header. -/
theorem header?_of_replay {replay : Replay} (reached : Reached label script c)
    (replaying : c.replay = some replay) :
    Layout.header? script (replay.home + 1) = some replay.home := by
  cases reached with
  | outside le =>
      rw [standing_replay le] at replaying
      cases replaying
  | inside header eligible replays lower upper =>
      rename_i home line t block rows
      cases replaying
      have is_header : t.isHeader = true := by
        have isHeader : t.isHeader = t.kind.isHeader := rfl
        rcases replays.kind with kind | kind <;> rw [isHeader, kind] <;> rfl
      rw [Layout.header?_succ header, if_pos is_header]

/-- **What a label lets through.** Wherever a walk visits a line that is no line of tags, a label
without a space lets the line through if a single line of tags of a header that counts mentions
it. The visit is the next step, and it writes, carries out and records nothing otherwise. The
headers that count are those of the visited line, and in a replay those of the header visited last,
which has started it. -/
theorem check_iff_mentions (word : label.IsWord) (steps : Steps label script {} cues c)
    (visited : c.visited? script = some s) (no_tag : s.kind ≠ .tag) :
    c.next? label script = some (c.visit label s) ∧
      (c.check label s = true ↔
        ∃ header, Layout.Counts script c.home header ∧ Layout.Mentions script label header) ∧
      ((c.visit label s).1.any Cue.isActing = true ↔
        c.check label s = true ∧ (c.replay.isSome = true → s.kind.isExecutable = true)) ∧
      ∀ replay, c.replay = some replay →
        (Cue.headers script cues).getLast? = some replay.home := by
  have reached := (Reached.start label script).steps steps
  refine ⟨Cursor.next?_of_visited? label visited, ?_, Cursor.any_visit no_tag, ?_⟩
  · rw [Cursor.check_eq_eligible reached visited]
    exact Layout.eligible_iff_mentions word
  · intro replay replaying
    have last := (Reached.start label script).headers_steps steps
    have start : Layout.header? script (Cursor.bound {}) = none := rfl
    rw [start, Option.or_none] at last
    rw [last, Cursor.bound, replaying]
    exact header?_of_replay reached replaying

/-- An outline whose examples alone are tagged as slow. -/
def slowExamplesScript : List Statement :=
  Script.parse .english "@fast\nScenario Outline:\nAsk <n>\n@slow @odd\nExamples:\n|n|\n|1|\n"

theorem check_iff_mentions_slow :
    ∃ cues c s, Steps ⟨"@slow"⟩ slowExamplesScript {} cues c ∧
      c.visited? slowExamplesScript = some s ∧ s.kind = .ask ∧ c.home = 4 ∧
      c.check ⟨"@slow"⟩ s = true ∧ ∃ header, Layout.Counts slowExamplesScript 4 header ∧
        Layout.Mentions slowExamplesScript ⟨"@slow"⟩ header := by
  have word : Label.IsWord ⟨"@slow"⟩ := ⟨by decide, by decide⟩
  -- Five steps lead to the outline that is replayed for the only row.
  have there : ((after ⟨"@slow"⟩ slowExamplesScript 5 {}).bind fun walk =>
      (walk.2.visited? slowExamplesScript).map fun s =>
        (walk.2.home, s.kind, walk.2.check ⟨"@slow"⟩ s)) = some (4, .ask, true) := by
    decide +kernel
  obtain ⟨⟨cues, c⟩, walked, there⟩ := Option.bind_eq_some_iff.mp there
  obtain ⟨s, visited, same⟩ := Option.map_eq_some_iff.mp there
  obtain ⟨home, kind, passed⟩ : c.home = 4 ∧ s.kind = .ask ∧ c.check ⟨"@slow"⟩ s = true := by
    simpa using same
  have decided := check_iff_mentions word (steps_of_after walked) visited (by rw [kind]; decide)
  rw [home] at decided
  exact ⟨cues, c, s, steps_of_after walked, visited, kind, home, passed, decided.2.1.mp passed⟩

end Walk

end Storyline
